import WifiDisplay.RtspResponseRoundTrip

/-! Responses are read back from their texts exactly when their values are kept. -/

namespace WifiDisplay

open TextSplit RtspCommon

namespace ResponseFields

/-- The names of the fields of a class, before and after the session. -/
def ownNames : ResponseKind → List Text
  | .options _ => [rtspTokenPublic]
  | .describe url _ =>
    (if url ≠ [] then [rtspTokenContentBase] else []) ++ [rtspTokenContentType, rtspTokenContentLength]
  | .getParameter _ => [rtspTokenContentType, rtspTokenContentLength]
  | .m3 _ => [rtspTokenContentType, rtspTokenContentLength]
  | .setup _ _ _ => [rtspTokenTransport]
  | _ => []

def lastNames : ResponseKind → List Text
  | .m6 _ _ => [rtspTokenTransport]
  | .m7 => ["Range".toList]
  | _ => []

def sessionNames (f : ResponseFields) : List Text :=
  if f.session = [] then [] else [rtspTokenSession]

theorem firstFields_names (f : ResponseFields) (date : Text) :
    (f.firstFields date).map Prod.fst = rtspTokenCseq :: rtspTokenDate :: ownNames f.kind := by
  rw [firstFields, List.map_cons, List.map_cons, ownFields]
  rcases f.kind with _ | items | ⟨url, body⟩ | body | ⟨d, s, calls⟩ | params | ⟨c, p⟩ | _
  case describe =>
    simp only [ownNames, List.map_append]
    split <;> rfl
  all_goals rfl

theorem printed_names (f : ResponseFields) (date : Text) :
    (f.printed date).map Prod.fst =
      rtspTokenCseq :: rtspTokenDate :: ownNames f.kind ++ f.sessionNames ++ lastNames f.kind := by
  rw [printed, List.map_append, List.map_append, firstFields_names]
  congr 1
  · congr 1
    rw [sessionFields, sessionNames]
    split <;> rfl
  · rw [lastFields]
    cases f.kind <;> rfl

theorem printed_distinct (f : ResponseFields) (date : Text) :
    ((f.printed date).map Prod.fst).Nodup ∧
      rtspTokenWwwAuthenticate ∉ (f.printed date).map Prod.fst ∧
      (f.printed date).length ≤ rtspMessageMaxLines + 1 := by
  have hnames := f.printed_names date
  have hlen : (f.printed date).length = ((f.printed date).map Prod.fst).length := by
    rw [List.length_map]
  rw [hlen, hnames, sessionNames]
  rcases f.kind with _ | items | ⟨url, body⟩ | body | ⟨d, s, calls⟩ | params | ⟨c, p⟩ | _
  all_goals simp only [ownNames, lastNames]
  case describe => split <;> split <;> decide
  all_goals split <;> decide

theorem ownFields_isField {f : ResponseFields} (h : f.WellFormed) : ∀ t ∈ f.ownFields, IsField t := by
  have hlength : IsField f.lengthField := by
    have hname : IsName rtspTokenContentLength := by decide
    exact hname.isField (lineText_decimal _)
  have htype : IsName rtspTokenContentType := by decide
  have hkind := h.kind
  intro t ht
  rw [ownFields] at ht
  rcases hk : f.kind with _ | items | ⟨url, body⟩ | body | ⟨d, s, calls⟩ | params | ⟨c, p⟩ | _ <;>
    rw [hk] at ht hkind
  case options =>
    have hname : IsName rtspTokenPublic := by decide
    rw [List.mem_singleton.mp ht]
    exact hname.isField hkind.1
  case describe =>
    have hname : IsName rtspTokenContentBase := by decide
    rcases List.mem_append.mp ht with ht | ht
    · split at ht
      · rw [List.mem_singleton.mp ht]
        exact hname.isField hkind.1
      · cases ht
    · rcases List.mem_cons.mp ht with rfl | ht
      · exact htype.isField (by decide)
      · rw [List.mem_singleton.mp ht]
        exact hlength
  case getParameter =>
    rcases List.mem_cons.mp ht with rfl | ht
    · exact htype.isField (by decide)
    · rw [List.mem_singleton.mp ht]
      exact hlength
  case m3 =>
    rcases List.mem_cons.mp ht with rfl | ht
    · exact htype.isField (by decide)
    · rw [List.mem_singleton.mp ht]
      exact hlength
  case setup =>
    have hname : IsName rtspTokenTransport := by decide
    rw [List.mem_singleton.mp ht]
    have hholds := f.setup_holds d s calls
    have hd' : LineText (f.setup d s calls).destination := by
      rw [hholds.destination]
      exact hkind.1.1
    have hs' : LineText (f.setup d s calls).source := by
      rw [hholds.source]
      exact hkind.2.1.1
    exact hname.isField (RtspResponseSetup.transport_line hd' hs')
  all_goals cases ht

theorem printed_isField {f : ResponseFields} (h : f.WellFormed) {date : Text} (hdate : LineText date) :
    ∀ t ∈ f.printed date, IsField t := by
  have hcseq : IsName rtspTokenCseq := by decide
  have hname : IsName rtspTokenDate := by decide
  have hsession : IsName rtspTokenSession := by decide
  have htimeout : LineText (if f.timeout > 0 then ";timeout=".toList ++ decimal f.timeout else []) := by
    split
    · exact LineText.append (by decide) (lineText_decimal _)
    · decide
  intro t ht
  rw [printed, firstFields, List.mem_append, List.mem_append] at ht
  rcases ht with (ht | ht) | ht
  · rcases List.mem_cons.mp ht with rfl | ht
    · exact hcseq.isField (lineText_decimal _)
    · rcases List.mem_cons.mp ht with rfl | ht
      · exact hname.isField hdate
      · exact ownFields_isField h t ht
  · rw [sessionFields] at ht
    split at ht
    · cases ht
    · rw [List.mem_singleton.mp ht]
      exact hsession.isField (h.session.1.append htimeout)
  · rw [lastFields] at ht
    split at ht
    · have htransport : IsName rtspTokenTransport := by decide
      have hclient : LineText "RTP/AVP/UDP;unicast;client_port=".toList := by decide
      have hserver : LineText ";server_port=".toList := by decide
      rw [List.mem_singleton.mp ht]
      exact htransport.isField (((hclient.append (lineText_decimal _)).append hserver).append
        (lineText_decimal _))
    · have hrange : IsName "Range".toList := by decide
      rw [List.mem_singleton.mp ht]
      exact hrange.isField (by decide)
    · cases ht

theorem firstFields_sublist (f : ResponseFields) (date : Text) :
    (f.firstFields date).Sublist (f.printed date) := by
  rw [printed, List.append_assoc]
  exact List.sublist_append_left _ _

/-- Some of the printed fields, among them the first, and what is read of them. -/
structure SomeFields (f : ResponseFields) (date : Text) (fields : Tokens) : Prop where
  sublist : fields.Sublist (f.printed date)
  cSeq : (rtspTokenCseq, decimal f.cSeq) ∈ fields

namespace SomeFields

variable {f : ResponseFields} {date : Text} {fields : Tokens} (h : f.SomeFields date fields)
include h

theorem nodup : (fields.map Prod.fst).Nodup := (f.printed_distinct date).1.sublist (h.sublist.map _)

theorem length : fields.length ≤ rtspMessageMaxLines + 1 :=
  Nat.le_trans h.sublist.length_le (f.printed_distinct date).2.2

theorem not_challenge {t : Text × Text} (ht : t ∈ fields) : t.1 ≠ rtspTokenWwwAuthenticate := by
  intro heq
  exact (f.printed_distinct date).2.1 (heq ▸ List.mem_map_of_mem (h.sublist.subset ht))

theorem find?_eq {t : Text × Text} (ht : t ∈ fields) :
    (readFields fields).find? t.1 = some (readField t).2 :=
  find?_readFields_of_mem h.nodup h.length ht (isKept_of_name (h.not_challenge ht))

theorem find?_trimmed {t : Text × Text} (ht : t ∈ fields) (htrim : Trimmed t.2) (hne : t.2 ≠ []) :
    (readFields fields).find? t.1 = some t.2 := by
  rw [h.find?_eq ht, readField_of_trimmed htrim hne]

theorem find?_cSeq : (readFields fields).find? rtspTokenCseq = some (decimal f.cSeq) :=
  h.find?_trimmed h.cSeq (trimmed_decimal _) (decimal_ne_nil f.cSeq)

theorem find?_challenge : (readFields fields).find? rtspTokenWwwAuthenticate = none := by
  apply find?_readFields_none
  intro hm
  exact (f.printed_distinct date).2.1 ((h.sublist.map _).subset hm)

end SomeFields

theorem someFields_printed (f : ResponseFields) (date : Text) : f.SomeFields date (f.printed date) :=
  ⟨List.Sublist.refl _, (f.firstFields_sublist date).subset List.mem_cons_self⟩

theorem someFields_first (f : ResponseFields) (date : Text) :
    f.SomeFields date (f.firstFields date) :=
  ⟨f.firstFields_sublist date, List.mem_cons_self⟩

theorem WellFormed.readSession_printed {f : ResponseFields} (h : f.WellFormed) (date : Text) :
    readSession ((readFields (f.printed date)).find? rtspTokenSession) =
      (f.session, if f.session ≠ [] ∧ f.timeout > 0 then f.timeout else -1) := by
  by_cases hs : f.session = []
  · have hnone : rtspTokenSession ∉ (f.printed date).map Prod.fst := by
      rw [printed_names, sessionNames, if_pos hs]
      rcases f.kind with _ | items | ⟨url, body⟩ | body | ⟨d, s, calls⟩ | params | ⟨c, p⟩ | _
      all_goals simp only [ownNames, lastNames]
      case describe => split <;> decide
      all_goals decide
    rw [find?_readFields_none hnone, hs]
    rfl
  · have hm : (rtspTokenSession, f.session ++
        if f.timeout > 0 then ";timeout=".toList ++ decimal f.timeout else []) ∈ f.printed date := by
      rw [printed, sessionFields, if_neg hs]
      exact List.mem_append_left _ (List.mem_append_right _ List.mem_cons_self)
    have htrim : Trimmed (f.session ++
        if f.timeout > 0 then ";timeout=".toList ++ decimal f.timeout else []) := by
      constructor
      · rw [List.head?_append_of_ne_nil _ hs]
        exact h.session.2.1.1
      · split
        · rw [← List.append_assoc, List.getLast?_append_of_ne_nil _ (decimal_ne_nil _)]
          exact (trimmed_decimal _).2
        · rw [List.append_nil]
          exact h.session.2.1.2
    rw [(f.someFields_printed date).find?_trimmed hm htrim (List.append_ne_nil_of_left_ne_nil hs _),
      ResponseFields.readSession_printed h.session.2.2 h.timeout]
    by_cases hpos : f.timeout > 0
    · rw [if_pos hpos, if_pos ⟨hs, hpos⟩]
    · rw [if_neg hpos, if_neg fun hc => hpos hc.2]

theorem WellFormed.readBody {f : ResponseFields} (h : f.WellFormed) (date : Text) :
    ∃ body, parseBody (if bodyLines f.body = [] then [] else
        TextSplit.split endOfHeader (bodyLines f.body)) (readFields (f.printed date)) [] = ({}, body) ∧
      (body = f.body ↔ LengthKept (bodyLines f.body).length) := by
  by_cases hb : f.body = []
  · have hnil : bodyLines f.body = [] := by rw [hb]; rfl
    refine ⟨[], ?_, ?_⟩
    · rw [if_pos hnil]
      simp [parseBody]
    · rw [hnil, hb]
      exact ⟨fun _ => by decide, fun _ => rfl⟩
  · have hlines : ∀ l ∈ f.body, LineText l ∧ l ≠ [] := by
      have hkind := h.kind
      rw [body] at hb ⊢
      rcases hk : f.kind with _ | items | ⟨url, body⟩ | body | ⟨d, s, calls⟩ | params | ⟨c, p⟩ | _ <;>
        rw [hk] at hb hkind
      case describe => exact hkind.2
      case getParameter => exact hkind
      case m3 =>
        intro l hl
        obtain ⟨t, ht, rfl⟩ := List.mem_map.mp hl
        exact ⟨(hkind t ht).1.line, IsField.line_ne_nil t⟩
      all_goals exact absurd rfl hb
    have hfields : ∃ contentType, (rtspTokenContentType, contentType) ∈ f.ownFields ∧
        f.lengthField ∈ f.ownFields ∧
        (contentType = "text/parameters".toList ∨ contentType = "application/sdp".toList) := by
      rw [body] at hb
      rw [ownFields]
      rcases hk : f.kind with _ | items | ⟨url, body⟩ | body | ⟨d, s, calls⟩ | params | ⟨c, p⟩ | _ <;>
        rw [hk] at hb
      case describe =>
        exact ⟨_, List.mem_append_right _ List.mem_cons_self,
          List.mem_append_right _ (List.mem_cons_of_mem _ List.mem_cons_self), Or.inr rfl⟩
      case getParameter =>
        exact ⟨_, List.mem_cons_self, List.mem_cons_of_mem _ List.mem_cons_self, Or.inl rfl⟩
      case m3 =>
        exact ⟨_, List.mem_cons_self, List.mem_cons_of_mem _ List.mem_cons_self, Or.inl rfl⟩
      all_goals exact absurd rfl hb
    obtain ⟨contentType, htype, hlength, hcontent⟩ := hfields
    have hown {t : Text × Text} (ht : t ∈ f.ownFields) : t ∈ f.printed date :=
      (f.firstFields_sublist date).subset (List.mem_cons_of_mem _ (List.mem_cons_of_mem _ ht))
    have htrim : Trimmed contentType ∧ contentType ≠ [] := by
      rcases hcontent with rfl | rfl <;> decide
    have hkind : "text/".toList.isPrefixOf contentType ∨ contentType = "application/sdp".toList := by
      rcases hcontent with rfl | rfl
      · exact Or.inl (by decide)
      · exact Or.inr rfl
    have hfindType := (f.someFields_printed date).find?_trimmed (hown htype) htrim.1 htrim.2
    have hfindLength := (f.someFields_printed date).find?_trimmed (hown hlength)
      (trimmed_decimal (bodyLines f.body).length) (decimal_ne_nil (bodyLines f.body).length)
    have hne : bodyLines f.body ≠ [] := fun h0 => hb ((ended_eq_nil crlf_ne_nil).mp h0)
    have hparse := parseBody_bodyLines hb hlines h.size hfindType hkind hfindLength
    rw [if_neg hne, split_endOfHeader_bodyLines hb hlines]
    exact ⟨_, Prod.ext hparse.1 rfl, hparse.2⟩

theorem splitLine_field {p : Text × Text} (h : IsField p) :
    splitLine (field p.1 p.2) = some (readField p) := by
  have hpos := h.length_pos
  have hlong := h.long
  simp only [splitLine, h.idxOf_colon, length_field, take_field, drop_field,
    trim_of_trimmed h.name_trimmed, readField]
  rw [if_pos hlong, if_neg (by omega), if_pos ⟨hpos, by omega⟩]

theorem splitParameter_fields {params : Tokens} (h : ∀ p ∈ params, IsField p) :
    splitParameter (params.map fun p => field p.1 p.2) = params.map readField := by
  induction params with
  | nil => rfl
  | cons p params ih =>
    have hp := h p (by simp)
    rw [splitParameter, List.map_cons, List.filterMap_cons_some (splitLine_field hp), ← splitParameter,
      ih fun q hq => h q (by simp [hq]), List.map_cons]

theorem map_readField {params : Tokens} (h : ∀ p ∈ params, Trimmed p.2 ∧ p.2 ≠ []) :
    params.map readField = params := by
  induction params with
  | nil => rfl
  | cons p params ih =>
    have hp := h p (by simp)
    rw [List.map_cons, readField_of_trimmed hp.1 hp.2, ih fun q hq => h q (by simp [hq])]

theorem m3_parse {text : Text} (hcode : (RtspResponseObject.parse {} text).2.code = .ok) :
    (WfdRtspM3Response.parse {} text).2.code = .ok ∧
      (WfdRtspM3Response.parse {} text).1.toRtspResponseObject = (RtspResponseObject.parse {} text).1 ∧
      (WfdRtspM3Response.parse {} text).1.params =
        splitParameter (RtspResponseObject.parse {} text).1.body := by
  rw [WfdRtspM3Response.parse]
  simp only [hcode, ne_eq, not_true_eq_false, if_false]
  exact ⟨trivial, trivial, List.nil_append _⟩

theorem WellFormed.kindReadsAs {f : ResponseFields} (h : f.WellFormed) {date text : Text}
    (hkind : ∀ d s calls, f.kind ≠ .setup d s calls)
    (hcode : (RtspResponseObject.parse {} text).2.code = .ok)
    (htokens : (RtspResponseObject.parse {} text).1.tokens = readFields (f.printed date))
    (hbody : (RtspResponseObject.parse {} text).1.body = f.body) :
    KindReadsAs text (RtspResponseObject.parse {} text).1 f.kind ↔ f.kind ≠ .options [] := by
  have hwell := h.kind
  have hprinted := f.someFields_printed date
  rcases hk : f.kind with _ | items | ⟨url, body⟩ | body | ⟨d, s, calls⟩ | params | ⟨c, p⟩ | _ <;>
    rw [hk] at hwell
  case options =>
    have hm : (rtspTokenPublic, items) ∈ f.printed date := by
      rw [printed, firstFields, ownFields, hk]
      exact List.mem_append_left _ (List.mem_append_left _
        (List.mem_cons_of_mem _ (List.mem_cons_of_mem _ List.mem_cons_self)))
    have hget : (RtspResponseObject.parse {} text).1.getToken rtspTokenPublic =
        trim (' ' :: items) := by
      rw [RtspResponseObject.getToken, htokens, hprinted.find?_eq hm, Option.getD_some, readField]
    rw [KindReadsAs, hget]
    by_cases hitems : items = []
    · rw [hitems]
      exact ⟨fun h0 => absurd h0 (by decide), fun h0 => absurd rfl h0⟩
    · rw [trim_blank_cons hwell.2 hitems]
      exact ⟨fun _ h0 => hitems (ResponseKind.options.inj h0), fun _ => rfl⟩
  case setup => exact absurd hk (hkind d s calls)
  case m3 =>
    have hparse := m3_parse hcode
    have hparams : splitParameter (RtspResponseObject.parse {} text).1.body = params := by
      rw [hbody, ResponseFields.body, hk]
      exact (splitParameter_fields fun p hp => (hwell p hp).1).trans
        (map_readField fun p hp => (hwell p hp).2)
    rw [hparams] at hparse
    exact ⟨fun _ h0 => ResponseKind.noConfusion h0, fun _ => hparse⟩
  case m6 =>
    have hm : (rtspTokenTransport, "RTP/AVP/UDP;unicast;client_port=".toList ++ decimal c ++
        ";server_port=".toList ++ decimal p) ∈ f.printed date := by
      rw [printed, lastFields, hk]
      exact List.mem_append_right _ List.mem_cons_self
    have htrim : Trimmed ("RTP/AVP/UDP;unicast;client_port=".toList ++ decimal c ++
        ";server_port=".toList ++ decimal p) := by
      constructor
      · rw [List.append_assoc, List.append_assoc, List.head?_append_of_ne_nil _ (by decide)]
        decide
      · rw [List.getLast?_append_of_ne_nil _ (decimal_ne_nil p)]
        exact (trimmed_decimal p).2
    have htoken := hprinted.find?_trimmed hm htrim
      (List.append_ne_nil_of_right_ne_nil _ (decimal_ne_nil p))
    rw [← htokens, m6Items_join] at htoken
    exact ⟨fun _ h0 => ResponseKind.noConfusion h0, fun _ => m6Items_read htoken hwell.1 hwell.2⟩
  all_goals exact ⟨fun _ h0 => ResponseKind.noConfusion h0, fun _ => trivial⟩

theorem timeout_read {session : Text} {timeout : Int} :
    (if session ≠ [] ∧ timeout > 0 then timeout else -1) = timeout ↔
      timeout = -1 ∨ timeout > 0 ∧ session ≠ [] := by
  split
  · rename_i hc
    exact ⟨fun _ => Or.inr ⟨hc.2, hc.1⟩, fun _ => rfl⟩
  · rename_i hc
    constructor
    · intro h0
      exact Or.inl h0.symm
    · rintro (h0 | h0)
      · exact h0.symm
      · exact absurd ⟨h0.2, h0.1⟩ hc

theorem WellFormed.roundTrips_of_not_setup {f : ResponseFields} (h : f.WellFormed) {date : Text}
    (hdate : LineText date) (hkind : ∀ d s calls, f.kind ≠ .setup d s calls) :
    f.RoundTrips date ↔ f.Kept := by
  obtain ⟨body, hparse, hbody⟩ := h.readBody date
  have hprinted := f.someFields_printed date
  obtain ⟨hcode, hcseq, hstatus, htokens, hread, hsession⟩ :=
    h.parse_lines (printed_isField h hdate) hprinted.nodup (List.ne_nil_of_mem hprinted.cSeq)
      hprinted.find?_cSeq hprinted.find?_challenge (bodyLines f.body) hparse rfl
      (f.text_eq hkind date)
  rw [h.readSession_printed] at hsession
  obtain ⟨hid, htimeout⟩ := Prod.mk.inj hsession
  rw [RoundTrips, ReadsAs, hid, htimeout, hread, timeout_read, hbody]
  constructor
  · rintro ⟨-, -, -, -, ht, hlength, hk⟩
    have hbody' : (RtspResponseObject.parse {} (f.text date)).1.body = f.body :=
      hread.trans (hbody.mpr hlength)
    exact ⟨ht, (h.kindReadsAs hkind hcode htokens hbody').mp hk,
      fun d s calls hs => absurd hs (hkind d s calls), hlength⟩
  · intro hk
    have hbody' : (RtspResponseObject.parse {} (f.text date)).1.body = f.body :=
      hread.trans (hbody.mpr hk.length)
    exact ⟨hcode, hcseq, hstatus, rfl, hk.timeout, hk.length,
      (h.kindReadsAs hkind hcode htokens hbody').mpr hk.publicItems⟩

/-- The given numbers are of type `int` as the arguments are. -/
theorem givenPorts_inInt {calls : List PortCall} (h : ∀ c ∈ calls, CallInInt c) :
    (InInt (GivenPorts.ofCalls calls).client.1 ∧ InInt (GivenPorts.ofCalls calls).client.2) ∧
      (InInt (GivenPorts.ofCalls calls).server.1 ∧ InInt (GivenPorts.ofCalls calls).server.2) ∧
      InInt (GivenPorts.ofCalls calls).lastUpper := by
  have hfold (g : GivenPorts) (hg : (InInt g.client.1 ∧ InInt g.client.2) ∧
      (InInt g.server.1 ∧ InInt g.server.2) ∧ InInt g.lastUpper) :
      (InInt (calls.foldl GivenPorts.call g).client.1 ∧
        InInt (calls.foldl GivenPorts.call g).client.2) ∧
      (InInt (calls.foldl GivenPorts.call g).server.1 ∧
        InInt (calls.foldl GivenPorts.call g).server.2) ∧
      InInt (calls.foldl GivenPorts.call g).lastUpper := by
    induction calls generalizing g with
    | nil => exact hg
    | cons c calls ih =>
      refine ih (fun c hc => h c (List.mem_cons_of_mem _ hc)) _ ?_
      have hc := h c List.mem_cons_self
      cases c with
      | client minPort maxPort =>
        refine ⟨hc, hg.2.1, ?_⟩
        simp only [GivenPorts.call]
        split
        · exact hc.2
        · exact hg.2.2
      | server minPort maxPort =>
        refine ⟨hg.1, hc, ?_⟩
        simp only [GivenPorts.call]
        split
        · exact hc.2
        · exact hg.2.2
  exact hfold {} (by decide)

theorem rangeReadsAs_iff {o : RtspResponseObject} {key : Text} {range : Int × Int} {kept : Int}
    (hl : InInt range.1) (hu : InInt range.2) (hk : InInt kept)
    (hread : transportUpper o key = if range.1 = 0 then 0 else upperEnd (range.1, kept)) :
    RangeReadsAs o key range.1 range ↔ range.1 = 0 ∨ UpperKept range kept := by
  rw [RangeReadsAs, hread, ← upperEnd_kept hl.1 hu.2 hk.2]
  by_cases hzero : range.1 = 0
  · simp [hzero]
  · simp [hzero]

/-- Of a setup response the parser sees no session. -/
theorem WellFormed.roundTrips_of_setup {f : ResponseFields} (h : f.WellFormed) {date : Text}
    (hdate : LineText date) {d s : Text} {calls : List PortCall} (hkind : f.kind = .setup d s calls) :
    f.RoundTrips date ↔ f.Kept := by
  have hfirst := f.someFields_first date
  have hnames := f.firstFields_names date
  rw [hkind, ownNames] at hnames
  have hrest : ended rtspCrlf (fieldLines f.sessionFields) ++ rtspCrlf ≠ [] := by simp [rtspCrlf]
  have htype : rtspTokenContentType ∉ (f.firstFields date).map Prod.fst := by
    rw [hnames]
    decide
  have hno : rtspTokenSession ∉ (f.firstFields date).map Prod.fst := by
    rw [hnames]
    decide
  have hfields : hasBodyFields (readFields (f.firstFields date)) = false := by
    rw [hasBodyFields, find?_readFields_none htype]
    rfl
  have hparse : parseBody (if ended rtspCrlf (fieldLines f.sessionFields) ++ rtspCrlf = [] then [] else
      TextSplit.split endOfHeader (ended rtspCrlf (fieldLines f.sessionFields) ++ rtspCrlf))
      (readFields (f.firstFields date)) [] =
      (⟨.ok, join (rtspCrlf ++ rtspCrlf) (TextSplit.split endOfHeader
        (ended rtspCrlf (fieldLines f.sessionFields) ++ rtspCrlf)) ++ ['$']⟩, []) := by
    rw [if_neg hrest]
    simp only [parseBody, hfields, Bool.false_eq_true, and_false, if_false]
    rw [if_pos (split_ne_nil _ _)]
  obtain ⟨hcode, hcseq, hstatus, htokens, hread, hsession⟩ :=
    h.parse_lines (fun t ht => printed_isField h hdate t (hfirst.sublist.subset ht)) hfirst.nodup
      (List.ne_nil_of_mem hfirst.cSeq) hfirst.find?_cSeq hfirst.find?_challenge _ hparse rfl
      (f.text_setup hkind date)
  rw [find?_readFields_none hno] at hsession
  obtain ⟨hid, htimeout⟩ := Prod.mk.inj hsession
  have hbody : f.body = [] := by rw [body, hkind]
  have hwell := h.kind
  rw [hkind] at hwell
  have hholds := f.setup_holds d s calls
  obtain ⟨hclient, hserver, hlast⟩ := givenPorts_inInt hwell.2.2
  have hm : (rtspTokenTransport, (f.setup d s calls).transport) ∈ f.firstFields date := by
    rw [firstFields, ownFields, hkind]
    exact List.mem_cons_of_mem _ (List.mem_cons_of_mem _ List.mem_cons_self)
  have htoken := hfirst.find?_trimmed hm (RtspResponseSetup.transport_trimmed _)
    (RtspResponseSetup.transport_ne_nil _)
  rw [← htokens] at htoken
  obtain ⟨⟨hgetClient, hgetServer⟩, hupperClient, hupperServer⟩ :=
    RtspResponseSetup.transport_read (by rw [hholds.destination]; exact hwell.1.2)
      (by rw [hholds.source]; exact hwell.2.1.2) htoken (by rw [hholds.minClientPort]; exact hclient.1)
      (by rw [hholds.minServerPort]; exact hserver.1) (by rw [hholds.maxClientPort]; decide)
      (by rw [hholds.maxServerPort]; exact hlast)
  rw [hholds.minClientPort] at hgetClient hupperClient
  rw [hholds.maxClientPort] at hupperClient
  rw [hholds.minServerPort] at hgetServer hupperServer
  rw [hholds.maxServerPort] at hupperServer
  have hports : KindReadsAs (f.text date) (RtspResponseObject.parse {} (f.text date)).1
      (.setup d s calls) ↔ PortsKept (.ofCalls calls) := by
    rw [KindReadsAs, hgetClient, hgetServer, PortsKept]
    exact and_congr (rangeReadsAs_iff hclient.1 hclient.2 (by decide) hupperClient)
      (rangeReadsAs_iff hserver.1 hserver.2 hlast hupperServer)
  rw [RoundTrips, ReadsAs, hid, htimeout, hread, hbody, hkind, hports]
  constructor
  · rintro ⟨-, -, -, hempty, ht, -, hkept⟩
    refine ⟨Or.inl ht.symm, by rw [hkind]; exact ResponseKind.noConfusion, ?_, ?_⟩
    · intro d' s' calls' hsetup
      obtain ⟨-, -, rfl⟩ := ResponseKind.setup.inj (hkind.symm.trans hsetup)
      exact ⟨hempty.symm, hkept⟩
    · rw [hbody]
      decide
  · intro hk
    obtain ⟨hempty, hkept⟩ := hk.setup d s calls hkind
    have ht : f.timeout = -1 := by
      rcases hk.timeout with ht | ht
      · exact ht
      · exact absurd hempty ht.2
    exact ⟨hcode, hcseq, hstatus, hempty.symm, ht.symm, rfl, hkept⟩

/-- A response is read back from its text exactly when its values meet the
conditions, whatever the date. -/
theorem responseRoundTrips_iff {f : ResponseFields} (h : f.WellFormed) {date : Text}
    (hdate : LineText date) : f.RoundTrips date ↔ f.Kept := by
  by_cases hsetup : ∃ d s calls, f.kind = .setup d s calls
  · obtain ⟨d, s, calls, hkind⟩ := hsetup
    exact h.roundTrips_of_setup hdate hkind
  · exact h.roundTrips_of_not_setup hdate fun d s calls hk => hsetup ⟨d, s, calls, hk⟩

end ResponseFields

/-- The answer to a setup request in a session. -/
def setupResponse : ResponseFields :=
  { cSeq := 3, status := 200, session := "6B8B4567".toList
    kind := .setup "192.168.1.3".toList "192.168.1.2".toList
      [.client 19000 19001, .server 6700 6701] }

def someDate : Text := "Tue, Mar 04 2025 10:00:00 GMT".toList

/-- The session of a setup response is not read. -/
theorem setupResponse_not_read :
    ¬ ∀ (f : ResponseFields) (date : Text), f.WellFormed → LineText date → f.RoundTrips date := by
  intro h
  have hsession := (h setupResponse someDate
    ⟨by decide, by decide, by decide, by decide, ⟨by decide, by decide, by decide⟩, by decide⟩
    (by decide)).2.2.2.1
  exact absurd hsession (by decide +kernel)

/-- The M6 response of the source. -/
def m6Response : ResponseFields :=
  { cSeq := 4, status := 200, session := "6B8B4567".toList, timeout := 30, kind := .m6 19000 6700 }

theorem m6Response_read : m6Response.RoundTrips someDate :=
  (ResponseFields.responseRoundTrips_iff (f := m6Response)
    ⟨by decide, by decide, by decide, by decide, ⟨by decide, by decide⟩, by decide⟩ (by decide)).mpr
    ⟨Or.inr (by decide), by decide, fun _ _ _ h => ResponseKind.noConfusion h, by decide⟩

end WifiDisplay
