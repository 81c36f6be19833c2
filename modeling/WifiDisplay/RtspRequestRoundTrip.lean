import WifiDisplay.RtspBodies

/-! Which requests `RtspRequest::Parse` reads back from the text of `Stringify`. -/

namespace WifiDisplay

open TextSplit RtspCommon

/-- The values a request is built from. -/
structure RequestFields where
  method : Text
  url : Text
  cSeq : Int
  userAgent : Text := "KaihongOS".toList
  session : Text := []
  timeout : Int := -1
  tokens : Tokens := []
  body : List Text := []

namespace RequestFields

/-- The calls of the setters. -/
def build (f : RequestFields) : RtspRequestParameter :=
  let r : RtspRequestParameter :=
    { method := f.method, url := f.url, cSeq := f.cSeq, userAgent := f.userAgent
      session := f.session, timeout := f.timeout }
  let r := f.tokens.foldl (fun r t =>
    { r with toRtspRequestObject := r.addCustomHeader (field t.1 t.2 ++ rtspCrlf) }) r
  f.body.foldl RtspRequestParameter.addBodyItem r

/-- Names of the fields that the classes print themselves. -/
def reserved : List Text :=
  [rtspTokenCseq, rtspTokenUa, rtspTokenSession, rtspTokenContentType, rtspTokenContentLength]

/-- The values are well-formed: a URL without blanks, fields that are lines, names
without colons, nothing that begins or ends with a blank, no name twice. -/
structure WellFormed (f : RequestFields) : Prop where
  method : f.method ∈ rtspMethods
  url : ' ' ∉ f.url ∧ LineText f.url
  cSeq : 0 ≤ f.cSeq ∧ f.cSeq < 2 ^ 31
  userAgent : LineText f.userAgent
  session : LineText f.session ∧ Trimmed f.session
  tokens : ∀ t ∈ f.tokens, IsField t ∧ Trimmed t.2 ∧ t.2 ≠ [] ∧ t.1 ∉ reserved
  nodup : (f.tokens.map Prod.fst).Nodup
  body : ∀ l ∈ f.body, LineText l ∧ l ≠ []
  size : (bodyLines f.body).length < 2 ^ 63

/-- The values of a request that was parsed. -/
def ReadsAs (f : RequestFields) (r : RtspRequestObject) : Prop :=
  r.method = f.method ∧ r.url = f.url ∧ r.cSeq = f.cSeq ∧ r.session = f.session ∧
    r.timeout = f.timeout ∧ (∀ t ∈ f.tokens, r.tokens.find? t.1 = some t.2) ∧ r.body = f.body

instance (f : RequestFields) (r : RtspRequestObject) : Decidable (f.ReadsAs r) :=
  inferInstanceAs (Decidable (_ ∧ _))

/-- The text of the request parses, and to the same values. -/
def RoundTrips (f : RequestFields) (text : Text) : Prop :=
  (RtspRequestObject.parse {} text).2.code = .ok ∧ f.ReadsAs (RtspRequestObject.parse {} text).1

instance (f : RequestFields) (text : Text) : Decidable (f.RoundTrips text) :=
  inferInstanceAs (Decidable (_ ∧ _))

/-- What must hold of the values: no timeout is set, a body comes without custom
tokens, there are not too many of these, each challenge is a digest, and the body
is not longer than its length field can say. -/
structure Kept (f : RequestFields) : Prop where
  timeout : f.timeout = -1
  tokens : f.tokens = [] ∨ f.body = []
  count : f.tokens.length + (if f.session = [] then 2 else 3) ≤ rtspMessageMaxLines + 1
  digests : ∀ t ∈ f.tokens, IsKept t
  length : LengthKept (bodyLines f.body).length

/-- The fields behind the method line that every request prints. -/
def commonFields (f : RequestFields) : Tokens :=
  (rtspTokenCseq, decimal f.cSeq) :: (rtspTokenUa, f.userAgent) ::
    if f.session = [] then []
    else [(rtspTokenSession,
      f.session ++ if f.timeout > 0 then ";timeout=".toList ++ decimal f.timeout else [])]

def contentFields (f : RequestFields) : Tokens :=
  [(rtspTokenContentType, "text/parameters".toList),
    (rtspTokenContentLength, decimal (bodyLines f.body).length)]

/-- The fields in the order of their lines. -/
def printed (f : RequestFields) : Tokens :=
  f.commonFields ++ if f.body = [] then f.tokens else f.contentFields

def firstLine (f : RequestFields) : Text := join rtspSp [f.method, f.url, rtspVersionText]

theorem foldl_addCustomHeader (tokens : Tokens) (r : RtspRequestParameter) :
    tokens.foldl (fun r t => ({ r with
        toRtspRequestObject := r.addCustomHeader (field t.1 t.2 ++ rtspCrlf) } :
          RtspRequestParameter)) r =
      { r with customHeaders :=
          r.customHeaders ++ ended rtspCrlf (tokens.map fun t => field t.1 t.2) } := by
  induction tokens generalizing r with
  | nil => simp
  | cons t tokens ih =>
    rw [List.foldl_cons, ih]
    simp [RtspRequestObject.addCustomHeader]

theorem foldl_addBodyItem (body : List Text) (r : RtspRequestParameter) :
    body.foldl RtspRequestParameter.addBodyItem r = { r with body := r.body ++ body } := by
  induction body generalizing r with
  | nil => simp
  | cons l body ih =>
    rw [List.foldl_cons, ih]
    simp [RtspRequestParameter.addBodyItem]

theorem build_eq (f : RequestFields) :
    f.build =
      { method := f.method, url := f.url, cSeq := f.cSeq, userAgent := f.userAgent
        session := f.session, timeout := f.timeout
        customHeaders := ended rtspCrlf (f.tokens.map fun t => field t.1 t.2), body := f.body } := by
  rw [build, foldl_addCustomHeader, foldl_addBodyItem]
  simp

def fieldLines (fields : Tokens) : List Text := fields.map fun t => field t.1 t.2

theorem stringify_object (f : RequestFields) {r : RtspRequestObject} {custom : Tokens}
    (hmethod : r.method = f.method) (hurl : r.url = f.url) (hcseq : r.cSeq = f.cSeq)
    (hua : r.userAgent = f.userAgent) (hsession : r.session = f.session)
    (htimeout : r.timeout = f.timeout)
    (hcustom : r.customHeaders = ended rtspCrlf (fieldLines custom)) :
    r.stringify =
      ended rtspCrlf (f.firstLine :: fieldLines (f.commonFields ++ custom)) ++ rtspCrlf := by
  have hcommon : ended rtspCrlf (fieldLines f.commonFields) =
      (field rtspTokenCseq (decimal f.cSeq) ++ rtspCrlf) ++
        (field rtspTokenUa f.userAgent ++ rtspCrlf) ++
        (if f.session ≠ [] then
          field rtspTokenSession f.session ++
            (if f.timeout > 0 then ";timeout=".toList ++ decimal f.timeout else []) ++ rtspCrlf
        else []) := by
    by_cases hs : f.session = []
    · rw [commonFields, if_pos hs, if_neg (not_not.mpr hs)]
      simp only [fieldLines, List.map_cons, List.map_nil, ended_cons, ended_nil, List.append_assoc]
    · rw [commonFields, if_neg hs, if_pos hs]
      simp only [fieldLines, field, List.map_cons, List.map_nil, ended_cons, ended_nil,
        List.append_assoc, List.append_nil]
  rw [ended_cons, fieldLines, List.map_append, ended_append, ← fieldLines, ← fieldLines, hcommon,
    RtspRequestObject.stringify, hmethod, hurl, hcseq, hua, hsession, htimeout, hcustom, firstLine,
    join_cons_cons, join_cons_cons, join_singleton]
  simp only [List.append_assoc]

theorem stringify_build (f : RequestFields) :
    f.build.stringify =
      ended rtspCrlf (f.firstLine :: fieldLines f.printed) ++ rtspCrlf ++ bodyLines f.body := by
  have hbuild := f.build_eq
  by_cases hb : f.body = []
  · have hnil : bodyLines f.build.body = [] := by rw [hbuild, hb]; rfl
    have hnil' : bodyLines f.body = [] := by rw [hb]; rfl
    rw [RtspRequestParameter.stringify, if_pos hnil, hnil', List.append_nil, printed, if_pos hb]
    apply f.stringify_object <;> rw [hbuild]
    rfl
  · have hbody : f.build.body = f.body := by rw [hbuild]
    have hne : bodyLines f.body ≠ [] := fun h => hb ((ended_eq_nil crlf_ne_nil).mp h)
    rw [RtspRequestParameter.stringify, hbody, if_neg hne, printed, if_neg hb]
    congr 1
    apply f.stringify_object <;>
      rw [hbuild, RtspRequestObject.clearCustomHeader, RtspRequestObject.addCustomHeader]
    simp only [fieldLines, contentFields, List.map_cons, List.map_nil, ended_cons, ended_nil,
      List.append_nil, List.nil_append]

theorem stringify_of_no_body {f : RequestFields} (hb : f.body = []) :
    f.build.toRtspRequestObject.stringify = f.build.stringify := by
  have hbody : bodyLines f.build.body = [] := by rw [build_eq, hb]; rfl
  simp [RtspRequestParameter.stringify, hbody]

theorem WellFormed.firstLine_line {f : RequestFields} (h : f.WellFormed) :
    LineText f.firstLine ∧ f.firstLine ≠ [] := by
  have hmethods : ∀ m ∈ rtspMethods, LineText m := by decide
  have hsp : LineText rtspSp := by decide
  have hversion : LineText rtspVersionText := by decide
  rw [firstLine, join_cons_cons, join_cons_cons, join_singleton]
  refine ⟨?_, by simp [rtspSp]⟩
  exact ((hmethods _ h.method).append hsp).append ((h.url.2.append hsp).append hversion)

theorem WellFormed.split_firstLine {f : RequestFields} (h : f.WellFormed) :
    RtspCommon.split f.firstLine rtspSp = [f.method, f.url, rtspVersionText] := by
  have hmethods : ∀ m ∈ rtspMethods, ' ' ∉ m := by decide
  have hblank : ∀ p ∈ [f.method, f.url, rtspVersionText], ' ' ∉ p := by
    intro p hp
    simp only [List.mem_cons, List.not_mem_nil, or_false] at hp
    rcases hp with rfl | rfl | rfl
    · exact hmethods _ h.method
    · exact h.url.1
    · decide
  have hlast : [f.method, f.url, rtspVersionText].getLast? ≠ some [] := by
    rw [List.getLast?_cons_cons, List.getLast?_cons_cons]
    decide
  exact split_join (x := ' ') (d := []) (by simp) hblank hlast

theorem WellFormed.commonFields_isField {f : RequestFields} (h : f.WellFormed) :
    ∀ t ∈ f.commonFields, IsField t := by
  have htimeout : LineText (if f.timeout > 0 then ";timeout=".toList ++ decimal f.timeout else []) := by
    split
    · exact LineText.append (by decide) (lineText_decimal _)
    · decide
  have hcseq : IsName rtspTokenCseq := by decide
  have hua : IsName rtspTokenUa := by decide
  have hsession : IsName rtspTokenSession := by decide
  intro t ht
  rw [commonFields] at ht
  by_cases hs : f.session = []
  · simp only [hs, if_true, List.mem_cons, List.not_mem_nil, or_false] at ht
    rcases ht with rfl | rfl
    · exact hcseq.isField (lineText_decimal _)
    · exact hua.isField h.userAgent
  · simp only [hs, if_false, List.mem_cons, List.not_mem_nil, or_false] at ht
    rcases ht with rfl | rfl | rfl
    · exact hcseq.isField (lineText_decimal _)
    · exact hua.isField h.userAgent
    · exact hsession.isField (h.session.1.append htimeout)

theorem contentFields_isField (f : RequestFields) : ∀ t ∈ f.contentFields, IsField t := by
  have htype : IsName rtspTokenContentType := by decide
  have hlength : IsName rtspTokenContentLength := by decide
  intro t ht
  simp only [contentFields, List.mem_cons, List.not_mem_nil, or_false] at ht
  rcases ht with rfl | rfl
  · exact htype.isField (by decide)
  · exact hlength.isField (lineText_decimal _)

theorem WellFormed.printed_isField {f : RequestFields} (h : f.WellFormed) : ∀ t ∈ f.printed, IsField t := by
  intro t ht
  rw [printed, List.mem_append] at ht
  rcases ht with ht | ht
  · exact h.commonFields_isField t ht
  · split at ht
    · exact (h.tokens t ht).1
    · exact f.contentFields_isField t ht

theorem commonFields_names (f : RequestFields) :
    f.commonFields.map Prod.fst = [rtspTokenCseq, rtspTokenUa] ∨
      f.commonFields.map Prod.fst = [rtspTokenCseq, rtspTokenUa, rtspTokenSession] := by
  rw [commonFields]
  split
  · exact Or.inl rfl
  · exact Or.inr rfl

theorem commonFields_reserved (f : RequestFields) :
    ∀ name ∈ f.commonFields.map Prod.fst, name ∈ reserved := by
  have htwo : ∀ name ∈ [rtspTokenCseq, rtspTokenUa], name ∈ reserved := by decide
  have hthree : ∀ name ∈ [rtspTokenCseq, rtspTokenUa, rtspTokenSession], name ∈ reserved := by decide
  rcases f.commonFields_names with he | he
  · exact he ▸ htwo
  · exact he ▸ hthree

theorem WellFormed.printed_nodup {f : RequestFields} (h : f.WellFormed) :
    (f.printed.map Prod.fst).Nodup := by
  rw [printed, List.map_append, List.nodup_append]
  refine ⟨?_, ?_, ?_⟩
  · rcases f.commonFields_names with he | he <;> rw [he] <;> decide
  · split
    · exact h.nodup
    · have hnames : f.contentFields.map Prod.fst = [rtspTokenContentType, rtspTokenContentLength] := rfl
      rw [hnames]
      decide
  · intro name hn name' hn'
    rintro rfl
    split at hn'
    · obtain ⟨t, ht, rfl⟩ := List.mem_map.mp hn'
      exact (h.tokens t ht).2.2.2 (f.commonFields_reserved _ hn)
    · have hnames : f.contentFields.map Prod.fst = [rtspTokenContentType, rtspTokenContentLength] := rfl
      rw [hnames] at hn'
      simp only [List.mem_cons, List.not_mem_nil, or_false] at hn'
      rcases f.commonFields_names with he | he <;> rw [he] at hn <;> rcases hn' with rfl | rfl <;>
        exact absurd hn (by decide)

theorem commonFields_length (f : RequestFields) :
    f.commonFields.length = if f.session = [] then 2 else 3 := by
  rw [commonFields]
  split <;> rfl

theorem take_commonFields (f : RequestFields) (rest : Tokens) :
    (f.commonFields ++ rest).take (rtspMessageMaxLines + 1) =
      f.commonFields ++ rest.take (rtspMessageMaxLines + 1 - f.commonFields.length) := by
  have hlen : f.commonFields.length ≤ rtspMessageMaxLines + 1 := by
    rw [commonFields_length]
    split <;> decide
  rw [List.take_append, List.take_of_length_le hlen]

theorem mem_printed_common {f : RequestFields} {t : Text × Text} (ht : t ∈ f.commonFields) :
    t ∈ fieldsRead f.printed := by
  apply mem_fieldsRead_of_mem_take
  rw [printed, take_commonFields]
  exact List.mem_append_left _ ht

theorem commonFields_isKept {f : RequestFields} {t : Text × Text} (ht : t ∈ f.commonFields) :
    IsKept t := by
  refine isKept_of_name fun heq => ?_
  have hm := List.mem_map_of_mem (f := Prod.fst) ht
  rw [heq] at hm
  rcases f.commonFields_names with he | he <;> rw [he] at hm <;> exact absurd hm (by decide)

theorem WellFormed.find?_common {f : RequestFields} (h : f.WellFormed) {t : Text × Text}
    (ht : t ∈ f.commonFields) (htrim : Trimmed t.2) (hne : t.2 ≠ []) :
    (readFields f.printed).find? t.1 = some t.2 := by
  rw [find?_readFields h.printed_nodup (List.mem_append_left _ ht) htrim hne]
  exact ⟨mem_printed_common ht, commonFields_isKept ht⟩

theorem WellFormed.find?_cSeq {f : RequestFields} (h : f.WellFormed) :
    (readFields f.printed).find? rtspTokenCseq = some (decimal f.cSeq) := by
  apply h.find?_common (t := (rtspTokenCseq, decimal f.cSeq)) _ (trimmed_decimal _) (decimal_ne_nil _)
  rw [commonFields]
  exact List.mem_cons_self

theorem WellFormed.find?_session {f : RequestFields} (h : f.WellFormed) :
    ((readFields f.printed).find? rtspTokenSession).getD [] =
      if f.session = [] then []
      else f.session ++ if f.timeout > 0 then ";timeout=".toList ++ decimal f.timeout else [] := by
  by_cases hs : f.session = []
  · rw [if_pos hs]
    have hnone : rtspTokenSession ∉ f.printed.map Prod.fst := by
      rw [printed, List.map_append, List.mem_append]
      rintro (hm | hm)
      · rw [commonFields, if_pos hs] at hm
        have hnames : rtspTokenSession ∉ [rtspTokenCseq, rtspTokenUa] := by decide
        exact hnames hm
      · split at hm
        · obtain ⟨t, ht, heq⟩ := List.mem_map.mp hm
          have hreserved : rtspTokenSession ∈ reserved := by decide
          exact (h.tokens t ht).2.2.2 (heq ▸ hreserved)
        · have hnames : f.contentFields.map Prod.fst =
            [rtspTokenContentType, rtspTokenContentLength] := rfl
          rw [hnames] at hm
          exact absurd hm (by decide)
    rw [find?_readFields_none hnone]
    rfl
  · rw [if_neg hs]
    have htrim : Trimmed (f.session ++
        if f.timeout > 0 then ";timeout=".toList ++ decimal f.timeout else []) := by
      constructor
      · rw [List.head?_append_of_ne_nil _ hs]
        exact h.session.2.1
      · split
        · rw [← List.append_assoc, List.getLast?_append_of_ne_nil _ (decimal_ne_nil _)]
          exact (trimmed_decimal _).2
        · rw [List.append_nil]
          exact h.session.2.2
    have hm : (rtspTokenSession, f.session ++
        if f.timeout > 0 then ";timeout=".toList ++ decimal f.timeout else []) ∈ f.commonFields := by
      rw [commonFields, if_neg hs]
      exact List.mem_cons_of_mem _ (List.mem_cons_of_mem _ List.mem_cons_self)
    rw [h.find?_common hm htrim (List.append_ne_nil_of_left_ne_nil hs _)]
    rfl

/-- The body that is read. -/
def readBody (f : RequestFields) : List Text :=
  (parseBody (if f.body = [] then [] else [bodyLines f.body]) (readFields f.printed) []).2

theorem WellFormed.readBody {f : RequestFields} (h : f.WellFormed) :
    (parseBody (if f.body = [] then [] else [bodyLines f.body]) (readFields f.printed) []).1 = {} ∧
      (f.readBody = f.body ↔ LengthKept (bodyLines f.body).length) := by
  rw [RequestFields.readBody]
  by_cases hb : f.body = []
  · have hkept : LengthKept (bodyLines f.body).length := by rw [hb]; decide
    rw [if_pos hb, hb]
    simpa [parseBody, hb] using hkept
  · have hcontent {t : Text × Text} (ht : t ∈ f.contentFields) (htrim : Trimmed t.2) (hne : t.2 ≠ [])
        (hname : t.1 ≠ rtspTokenWwwAuthenticate) :
        (readFields f.printed).find? t.1 = some t.2 := by
      have hm : t ∈ f.printed.take (rtspMessageMaxLines + 1) := by
        rw [printed, take_commonFields, if_neg hb, List.take_of_length_le]
        · exact List.mem_append_right _ ht
        · rw [commonFields_length]
          split <;> simp [contentFields, rtspMessageMaxLines]
      rw [find?_readFields h.printed_nodup (List.mem_of_mem_take hm) htrim hne]
      exact ⟨mem_fieldsRead_of_mem_take hm, isKept_of_name hname⟩
    have htype := hcontent (t := (rtspTokenContentType, "text/parameters".toList))
      List.mem_cons_self (by decide) (by decide) (by decide)
    have htrim : Trimmed (decimal (bodyLines f.body).length) := trimmed_decimal _
    have hne : decimal (bodyLines f.body).length ≠ [] := decimal_ne_nil _
    have hname : rtspTokenContentLength ≠ rtspTokenWwwAuthenticate := by decide
    have hlength := hcontent (t := (rtspTokenContentLength, decimal (bodyLines f.body).length))
      (List.mem_cons_of_mem _ List.mem_cons_self) htrim hne hname
    rw [if_neg hb]
    exact parseBody_bodyLines hb h.body h.size htype (Or.inl (by decide)) hlength

theorem WellFormed.parse_build {f : RequestFields} (h : f.WellFormed) :
    RtspRequestObject.parse {} f.build.stringify =
      ({ method := f.method, url := f.url, cSeq := f.cSeq
         userAgent := ((readFields f.printed).find? rtspTokenUa).getD "KaihongOS".toList
         session := ((readFields f.printed).find? rtspTokenSession).getD []
         tokens := readFields f.printed, body := f.readBody }, {}) := by
  have hprinted : f.printed ≠ [] := List.cons_ne_nil _ _
  have hpieces : (if bodyLines f.body = [] then [] else
      TextSplit.split endOfHeader (bodyLines f.body)) =
      if f.body = [] then [] else [bodyLines f.body] := by
    by_cases hb : f.body = []
    · rw [if_pos hb, if_pos (by rw [hb]; rfl)]
    · have hne : bodyLines f.body ≠ [] := fun h0 => hb ((ended_eq_nil crlf_ne_nil).mp h0)
      rw [if_neg hb, if_neg hne, split_endOfHeader_bodyLines hb h.body]
  have hmessage := parseMessage_fields h.firstLine_line.1 h.firstLine_line.2 h.printed_isField
    h.printed_nodup hprinted (bodyLines f.body)
  rw [hpieces, h.split_firstLine, ← fieldLines, ← stringify_build] at hmessage
  have hheader : readFields f.printed ≠ [] := by
    intro h0
    have hfind := h.find?_cSeq
    rw [h0] at hfind
    cases hfind
  have hverify : verifyMethod f.method := by
    rw [verifyMethod, List.contains_iff_mem]
    exact h.method
  have hcode : (parseBody (if f.body = [] then [] else [bodyLines f.body])
      (readFields f.printed) []).1.code = .ok := by rw [h.readBody.1]
  have hparse : RtspRequest.parse {} f.build.stringify = _ := congrArg (RtspRequest.take {}) hmessage
  rw [RtspRequestObject.parse, hparse, RtspRequest.take_request rfl hcode hheader hverify, h.find?_cSeq,
    Option.map_some, atoi_decimal (Int.le_trans (by decide) h.cSeq.1) h.cSeq.2]
  rfl

theorem WellFormed.not_printed {f : RequestFields} (h : f.WellFormed) (hb : f.body ≠ [])
    {t : Text × Text} (ht : t ∈ f.tokens) : t.1 ∉ f.printed.map Prod.fst := by
  have hreserved : ∀ name ∈ f.printed.map Prod.fst, name ∈ reserved := by
    intro name hm
    rw [printed, if_neg hb, List.map_append, List.mem_append] at hm
    rcases hm with hm | hm
    · exact f.commonFields_reserved name hm
    · have hcontent : ∀ n ∈ [rtspTokenContentType, rtspTokenContentLength], n ∈ reserved := by decide
      exact hcontent name hm
  intro hm
  exact (h.tokens t ht).2.2.2 (hreserved _ hm)

/-- The custom tokens of a request without a body are read as long as their lines
come soon enough. -/
theorem WellFormed.tokens_read {f : RequestFields} (h : f.WellFormed) (hb : f.body = []) :
    (∀ t ∈ f.tokens, (readFields f.printed).find? t.1 = some t.2) ↔
      f.tokens.length + (if f.session = [] then 2 else 3) ≤ rtspMessageMaxLines + 1 ∧
        ∀ t ∈ f.tokens, IsKept t := by
  have hprinted : f.printed = f.commonFields ++ f.tokens := by rw [printed, if_pos hb]
  have hfind {t : Text × Text} (ht : t ∈ f.tokens) :
      (readFields f.printed).find? t.1 = some t.2 ↔ t ∈ fieldsRead f.printed ∧ IsKept t :=
    find?_readFields h.printed_nodup (by rw [hprinted]; exact List.mem_append_right _ ht)
      (h.tokens t ht).2.1 (h.tokens t ht).2.2.1
  have hlen := f.commonFields_length
  -- With a challenge that is no digest the request is not read whatever the number of its lines.
  have hsoon (hkept : ∀ t ∈ f.tokens, IsKept t) {t : Text × Text} (ht : t ∈ f.tokens) :
      t ∈ fieldsRead f.printed ↔
        t ∈ f.tokens.take (rtspMessageMaxLines + 1 - f.commonFields.length) := by
    have hall : ∀ t ∈ f.printed, IsKept t := by
      intro t ht
      rw [hprinted, List.mem_append] at ht
      exact ht.elim commonFields_isKept (hkept t)
    rw [fieldsRead_of_isKept hall, hprinted, take_commonFields, List.mem_append]
    constructor
    · rintro (hm | hm)
      · have hname := f.commonFields_reserved t.1 (List.mem_map_of_mem hm)
        exact absurd hname (h.tokens t ht).2.2.2
      · exact hm
    · exact Or.inr
  rw [← hlen]
  constructor
  · intro hall
    have hkept : ∀ t ∈ f.tokens, IsKept t := fun t ht => ((hfind ht).mp (hall t ht)).2
    refine ⟨?_, hkept⟩
    have hsub : f.tokens ⊆ f.tokens.take (rtspMessageMaxLines + 1 - f.commonFields.length) :=
      fun t ht => (hsoon hkept ht).mp ((hfind ht).mp (hall t ht)).1
    have hle := ((List.Nodup.of_map Prod.fst h.nodup).subperm hsub).length_le
    have hsmall : f.commonFields.length ≤ rtspMessageMaxLines + 1 := by
      rw [hlen]
      split <;> decide
    rw [List.length_take] at hle
    omega
  · rintro ⟨hcount, hkept⟩ t ht
    refine (hfind ht).mpr ⟨(hsoon hkept ht).mpr ?_, hkept t ht⟩
    rw [List.take_of_length_le (by omega)]
    exact ht

/-- A request is read back from its text exactly when its values meet the
conditions. -/
theorem requestRoundTrips_iff {f : RequestFields} (h : f.WellFormed) :
    f.RoundTrips f.build.stringify ↔ f.Kept := by
  have hbody := h.readBody.2
  have hsession := h.find?_session
  rw [RoundTrips, h.parse_build, ReadsAs]
  simp only [true_and, hsession]
  constructor
  · rintro ⟨-, htimeout, htokens, hread⟩
    have hnone (hb : f.body ≠ []) : f.tokens = [] := by
      rw [List.eq_nil_iff_forall_not_mem]
      intro t ht
      have hfind := htokens t ht
      rw [find?_readFields_none (h.not_printed hb ht)] at hfind
      cases hfind
    by_cases hb : f.body = []
    · obtain ⟨hcount, hkept⟩ := (h.tokens_read hb).mp htokens
      exact ⟨htimeout.symm, Or.inr hb, hcount, hkept, hbody.mp hread⟩
    · have hempty := hnone hb
      refine ⟨htimeout.symm, Or.inl hempty, ?_, by simp [hempty], hbody.mp hread⟩
      rw [hempty]
      split <;> decide
  · intro hk
    refine ⟨?_, hk.timeout.symm, ?_, hbody.mpr hk.length⟩
    · split
      · rename_i hs
        exact hs.symm
      · rw [hk.timeout, if_neg (by decide), List.append_nil]
    · by_cases hb : f.body = []
      · exact (h.tokens_read hb).mpr ⟨hk.count, hk.digests⟩
      · intro t ht
        rw [hk.tokens.resolve_right hb] at ht
        cases ht

end RequestFields

/-- The request of a keep-alive in a session with a timeout. -/
def timedRequest : RequestFields :=
  { method := "GET_PARAMETER".toList, url := "rtsp://localhost/wfd1.0".toList, cSeq := 7
    session := "6B8B4567".toList, timeout := 30 }

/-- A request with a timeout is read with the timeout in its session id. -/
theorem timedRequest_not_read :
    ¬ ∀ f : RequestFields, f.WellFormed → f.RoundTrips f.build.stringify := by
  intro h
  have hread := h timedRequest
    ⟨by decide, by decide, by decide, by decide, by decide, fun _ ht => absurd ht List.not_mem_nil, by decide,
      by decide, by decide⟩
  exact absurd hread (by decide +kernel)

/-- A setup request with two fields of its own. -/
def setupRequest : RequestFields :=
  { method := "SETUP".toList, url := "rtsp://192.168.1.2/wfd1.0/streamid=0".toList, cSeq := 5
    session := "6B8B4567".toList
    tokens := [("Transport".toList, "RTP/AVP;unicast;client_port=19000".toList),
      ("Accept".toList, "application/sdp".toList)] }

theorem setupRequest_read : setupRequest.RoundTrips setupRequest.build.stringify := by
  have hfields : ∀ t ∈ setupRequest.tokens,
      IsField t ∧ Trimmed t.2 ∧ t.2 ≠ [] ∧ t.1 ∉ RequestFields.reserved := by
    intro t ht
    have hcases : t = ("Transport".toList, "RTP/AVP;unicast;client_port=19000".toList) ∨
        t = ("Accept".toList, "application/sdp".toList) := by simpa [setupRequest] using ht
    rcases hcases with rfl | rfl
    · exact ⟨IsName.isField (by decide) (by decide), by decide, by decide, by decide⟩
    · exact ⟨IsName.isField (by decide) (by decide), by decide, by decide, by decide⟩
  apply (RequestFields.requestRoundTrips_iff _).mpr
  · exact ⟨by decide, Or.inr rfl, by decide, by decide, by decide⟩
  · exact ⟨by decide, by decide, by decide, by decide, by decide, hfields, by decide, by decide,
      by decide⟩

end WifiDisplay
