import WifiDisplay.RtspSegmentation

/-! Which ways of cutting and joining the messages of a connection the sessions
read as if each message came alone. -/

namespace WifiDisplay

open TextSplit RtspCommon

namespace RtspRequest

theorem take_ok {r : RtspRequest} {m : ParsedMessage} (h : (r.take m).2.code = .ok) :
    m.error.code = .ok ∧ m.header ≠ [] ∧
      ∃ method url, m.firstLine = [method, url, rtspVersionText] ∧ verifyMethod method := by
  simp only [take] at h
  split at h
  · rename_i hne
    exact absurd h hne
  · rename_i hcode
    split at h
    · cases h
    · rename_i hfields
      split at h
      · rename_i method url version hfirst
        split at h
        · cases h
        · rename_i hversion
          split at h
          · cases h
          · rename_i hmethod
            refine ⟨not_not.mp hcode, fun h0 => hfields (Or.inr h0), method, url, ?_, not_not.mp hmethod⟩
            rw [hfirst, not_not.mp hversion]
      · cases h

theorem take_incomplete {r : RtspRequest} {m : ParsedMessage}
    (h : (r.take m).2.code = .incompleteMessage) : m.error.code = .incompleteMessage := by
  simp only [take] at h
  split at h
  · exact h
  · repeat' split at h
    all_goals cases h

theorem take_no_header {r : RtspRequest} {m : ParsedMessage} (hr : r.clear = r)
    (hheader : m.header = []) (hbody : m.body = []) (hcode : m.error.code ≠ .incompleteMessage) :
    (r.take m).1 = r ∧ (r.take m).2.code ≠ .ok ∧ (r.take m).2.code ≠ .incompleteMessage := by
  have hclear : RtspRequest.clear { r with tokens := m.header, body := m.body } = r := by
    rw [clear] at hr ⊢
    exact hr
  simp only [take]
  split
  · rename_i hne
    refine ⟨?_, hne, hcode⟩
    rw [hheader, hbody]
    exact hr
  · rw [if_pos (Or.inr hheader)]
    exact ⟨hclear, ⟨by simp [invalidMessageError], by simp [invalidMessageError]⟩⟩

end RtspRequest

namespace RtspResponse

theorem take_ok {r : RtspResponse} {m : ParsedMessage} (h : (r.take m).2.code = .ok) :
    m.error.code = .ok ∧ m.header ≠ [] ∧ ∃ status reason rest,
      m.firstLine = rtspVersionText :: status :: reason :: rest := by
  simp only [take] at h
  split at h
  · cases h
  · rename_i hok
    split at h
    · rename_i version status reason rest hfirst
      split at h
      · cases h
      · rename_i hversion
        refine ⟨by_contra fun hc => hok (Or.inl hc), fun h0 => hok (Or.inr (Or.inr h0)),
          status, reason, rest, ?_⟩
        rw [hfirst, not_not.mp hversion]
    · cases h

theorem take_no_header {r : RtspResponse} {m : ParsedMessage} (hheader : m.header = []) :
    (r.take m).2.code ≠ .ok := by
  simp only [take]
  rw [if_pos (Or.inr (Or.inr hheader))]
  simp [invalidMessageError]

theorem take_plain {r : RtspResponse} {m : ParsedMessage} (h : (r.take m).2.code = .ok)
    (herror : m.error = {}) : (r.take m).2 = {} := by
  obtain ⟨hcode, hheader, status, reason, rest, hfirst⟩ := take_ok h
  have hcount : ¬ (rest.length + 1 + 1 + 1 < 2) := by omega
  simp [take, hfirst, hheader, herror, hcount]

/-- A part that is handed back changes nothing but the answer. -/
theorem take_splicing {r : RtspResponse} {m : ParsedMessage} (h : (r.take m).2.code = .ok)
    {info : Text} (hlong : info.length > 2) (hlast : info.getLast? = some '$') :
    r.take { m with error := ⟨.ok, info⟩ } = ((r.take m).1, ⟨.ok, info⟩) := by
  obtain ⟨hcode, hheader, status, reason, rest, hfirst⟩ := take_ok h
  have hcount : ¬ (rest.length + 1 + 1 + 1 < 2) := by omega
  simp [take, hcode, hfirst, hheader, hlong, hlast, hcount]
  split <;> rfl

end RtspResponse

theorem not_response_of_request {text : Text} (h : (RtspRequest.parse {} text).2.code = .ok) :
    (RtspResponse.parse {} text).2.code ≠ .ok := by
  intro hr
  obtain ⟨-, -, method, url, hfirst, hmethod⟩ := RtspRequest.take_ok h
  obtain ⟨-, -, status, reason, rest, hfirst'⟩ := RtspResponse.take_ok hr
  have hmethod' : method = rtspVersionText := by
    rw [show RtspRequest.body {} = RtspResponse.body {} from rfl,
      show RtspRequest.tokens {} = RtspResponse.tokens {} from rfl, hfirst'] at hfirst
    exact (List.cons.inj hfirst).1.symm
  rw [hmethod'] at hmethod
  exact absurd hmethod (by decide)

theorem not_response_of_incomplete {text : Text}
    (h : (RtspRequest.parse {} text).2.code = .incompleteMessage) :
    (RtspResponse.parse {} text).2.code ≠ .ok := by
  intro hr
  obtain ⟨hcode, -⟩ := RtspResponse.take_ok hr
  have hincomplete := RtspRequest.take_incomplete h
  rw [show RtspRequest.body {} = RtspResponse.body {} from rfl,
    show RtspRequest.tokens {} = RtspResponse.tokens {} from rfl, hcode] at hincomplete
  cases hincomplete

/-- Read alone the text leaves a request object empty and is no start of a message. -/
def Rejected (text : Text) : Prop :=
  (RtspResponse.parse {} text).2.code ≠ .ok ∧ (RtspRequest.parse {} text).1 = {} ∧
    (RtspRequest.parse {} text).2.code ≠ .ok ∧ (RtspRequest.parse {} text).2.code ≠ .incompleteMessage

instance (text : Text) : Decidable (Rejected text) := inferInstanceAs (Decidable (_ ∧ _))

theorem rejected_of_no_colon {text : Text} (h : ':' ∉ text) : Rejected text := by
  obtain ⟨hheader, hbody, hcode⟩ := parseMessage_no_colon h
  exact ⟨RtspResponse.take_no_header hheader, RtspRequest.take_no_header rfl hheader hbody hcode⟩

namespace RtspSession

variable {σ : Type} (H : RtspHandlers σ) (s : RtspSession σ)

/-- The read changes nothing once no message is saved. -/
theorem readData_rejected {text : Text} (hs : s.lastMessage = []) (h : Rejected text) :
    s.readData H text = s := by
  obtain ⟨hresponse, hobject, hok, hincomplete⟩ := h
  simp only [readData, if_neg hresponse, readRequest, if_neg hok, if_neg hincomplete, hs,
    List.nil_append, hobject]
  rw [← hs]

theorem readAll_rejected {reads : List Text} (hs : s.lastMessage = [])
    (h : ∀ text ∈ reads, Rejected text) : s.readAll H reads = s := by
  induction reads with
  | nil => rfl
  | cons text reads ih =>
    rw [readAll, List.foldl_cons, readData_rejected H s hs (h text (by simp))]
    exact ih fun t ht => h t (by simp [ht])

/-- The message is a request or a response that a handler waits for. -/
def Expected (text : Text) : Prop :=
  (RtspRequest.parse {} text).2.code = .ok ∨
    (RtspResponse.parse {} text).2.code = .ok ∧
      H.handles s.app (RtspResponse.parse {} text).1.cSeq

theorem readData_request {text : Text} (h : (RtspRequest.parse {} text).2.code = .ok) :
    s.readData H text = s.handleRequest H (RtspRequest.parse {} text).1 text := by
  simp only [readData, if_neg (not_response_of_request h), readRequest, if_pos h]

theorem readData_response {text : Text} (h : (RtspResponse.parse {} text).2.code = .ok)
    (hh : H.handles s.app (RtspResponse.parse {} text).1.cSeq) :
    s.readData H text = (s.handleResponse H (RtspResponse.parse {} text).1 text).readSplicing H
      (RtspResponse.parse {} text).2.info := by
  simp only [readData, if_pos h, if_pos hh]

theorem readSplicing_lastMessage {info : Text} (hs : s.lastMessage = []) :
    (s.readSplicing H info).lastMessage = [] := by
  simp only [readSplicing]
  repeat' split
  all_goals first | rfl | exact hs

theorem readData_lastMessage {text : Text} (h : Expected H s text) :
    (s.readData H text).lastMessage = [] := by
  rcases h with h | ⟨h, hh⟩
  · rw [readData_request H s h]
    rfl
  · rw [readData_response H s h hh]
    exact readSplicing_lastMessage H _ rfl

theorem handleRequest_congr {text text' : Text}
    (h : RtspRequest.parse {} text' = RtspRequest.parse {} text) (r : RtspRequest) :
    s.handleRequest H r text' = s.handleRequest H r text := by
  rw [handleRequest, handleRequest, H.onRequest_congr _ _ h]

theorem handleRequest_textless {r : RtspRequest} (h : H.readsText r = false) (text text' : Text) :
    s.handleRequest H r text = s.handleRequest H r text' := by
  rw [handleRequest, handleRequest, H.onRequest_textless _ h text text']

theorem handleResponse_congr {text text' : Text}
    (h : (RtspResponse.parse {} text').1 = (RtspResponse.parse {} text).1)
    (hcode : (RtspResponse.parse {} text').2.code = (RtspResponse.parse {} text).2.code)
    (r : RtspResponse) : s.handleResponse H r text' = s.handleResponse H r text := by
  rw [handleResponse, handleResponse, H.onResponse_congr _ _ h hcode]

theorem readData_congr {text text' : Text} (h : Expected H s text)
    (hparse : parseMessage text' [] [] = parseMessage text [] []) :
    s.readData H text' = s.readData H text := by
  have hrequest : RtspRequest.parse {} text' = RtspRequest.parse {} text :=
    congrArg (RtspRequest.take {}) hparse
  have hresponse : RtspResponse.parse {} text' = RtspResponse.parse {} text :=
    congrArg (RtspResponse.take {}) hparse
  rcases h with h | ⟨h, hh⟩
  · rw [readData_request H s h, readData_request H s (hrequest ▸ h), hrequest,
      handleRequest_congr H s hrequest]
  · have hhandled : s.handleResponse H (RtspResponse.parse {} text).1 text' =
        s.handleResponse H (RtspResponse.parse {} text).1 text :=
      handleResponse_congr H s (by rw [hresponse]) (by rw [hresponse]) _
    rw [readData_response H s h hh, readData_response H s (hresponse ▸ h) (hresponse ▸ hh), hresponse,
      hhandled]

/-! The ways that work: a message alone in a read, or all of it but the end of
its empty line; a response without a body that has one request behind it in the
read, whose handler can do without its text; a request whose body is cut once. -/

/-- The first read holds the header without a part of the empty line behind it,
the other reads hold that part. -/
structure CutEnd (head t : Text) (rest : List Text) : Prop where
  headed : Headed head
  mem : t ∈ cutEnds
  flatten : t ++ rest.flatten = endOfHeader

/-- How a request behind a response lies in the reads: all of it in the first one,
or all but a part of its empty line. -/
inductive Behind (head body : Text) : Text → List Text → Prop where
  | whole : Behind head body (head ++ endOfHeader ++ body) []
  | cut {t : Text} {rest : List Text} (hbody : body = []) (h : CutEnd head t rest) :
      Behind head body (head ++ t) rest

/-- Messages and reads of the same bytes. -/
inductive Piece : List Text → List Text → Prop where
  | alone (message : Text) : Piece [message] [message]
  | cutEnd {head t : Text} {rest : List Text} (h : CutEnd head t rest)
      (hexpected : Expected H s (head ++ endOfHeader)) :
      Piece [head ++ endOfHeader] ((head ++ t) :: rest)
  | joined {head head' body a : Text} {rest : List Text} (h : Headed head) (h' : Headed head')
      (hresponse : (RtspResponse.parse {} (head ++ endOfHeader)).2.code = .ok)
      (hhandles : H.handles s.app (RtspResponse.parse {} (head ++ endOfHeader)).1.cSeq)
      (hrequest : (RtspRequest.parse {} (head' ++ endOfHeader ++ body)).2.code = .ok)
      (htextless : H.readsText (RtspRequest.parse {} (head' ++ endOfHeader ++ body)).1 = false)
      (hbody : breakOn endOfHeader body = none) (hbehind : Behind head' body a rest)
      (hfields : hasBodyFields (parseHeader (RtspCommon.split head rtspCrlf) []) = false ∨ body ≠ []) :
      Piece [head ++ endOfHeader, head' ++ endOfHeader ++ body]
        ((head ++ endOfHeader ++ a) :: rest)
  | cutBody {a b : Text} (ha : (RtspRequest.parse {} a).2.code = .incompleteMessage)
      (hb : Rejected b) (hrequest : (RtspRequest.parse {} (a ++ b)).2.code = .ok) :
      Piece [a ++ b] [a, b]

theorem CutEnd.rejected {head t : Text} {rest : List Text} (h : CutEnd head t rest) :
    ∀ text ∈ rest, Rejected text := by
  intro text htext
  apply rejected_of_no_colon
  intro hc
  have hmem : ':' ∈ endOfHeader := by
    rw [← h.flatten]
    exact List.mem_append_right _ (List.mem_flatten.mpr ⟨text, htext, hc⟩)
  exact absurd hmem (by decide)

theorem Expected.lined {head : Text} (hh : Headed head)
    (h : Expected H s (head ++ endOfHeader)) : Lined head := by
  have hs := hh.split_whole
  rcases h with h | ⟨h, -⟩
  · exact lined_of_ok hs (RtspRequest.take_ok h).1
  · exact lined_of_ok hs (RtspResponse.take_ok h).1

theorem readAll_cutEnd {head t : Text} {rest : List Text} (h : CutEnd head t rest)
    (hexpected : Expected H s (head ++ endOfHeader)) :
    s.readAll H ((head ++ t) :: rest) = s.readData H (head ++ endOfHeader) := by
  have hparse := h.headed.parseMessage_cut (hexpected.lined H s h.headed) h.mem [] []
  rw [readAll, List.foldl_cons, readData_congr H s hexpected hparse]
  exact readAll_rejected H _ (readData_lastMessage H s hexpected) h.rejected

/-- What a response hands back is parsed as the request behind it. -/
theorem Behind.parse {head body a : Text} {rest : List Text} (hh : Headed head)
    (hl : Lined head) (hbody : breakOn endOfHeader body = none) (h : Behind head body a rest) :
    parseMessage (join endOfHeader (TextSplit.split endOfHeader a)) [] [] =
      parseMessage (head ++ endOfHeader ++ body) [] [] := by
  have hnil : [] ∈ cutEnds := by decide
  cases h with
  | whole =>
    by_cases hb : body = []
    · subst hb
      rw [List.append_nil, hh.split_whole, join_singleton]
      simpa using hh.parseMessage_cut hl hnil [] []
    · rw [hh.split_behind hb, split_of_none hbody]
      simp [join]
  | cut hb hcut =>
    subst hb
    rw [hh.split_cut hcut.mem, join_singleton, List.append_nil]
    exact hh.parseMessage_cut hl hcut.mem [] []

theorem Behind.join_length {head body a : Text} {rest : List Text} (hh : Headed head)
    (hbody : breakOn endOfHeader body = none) (h : Behind head body a rest) :
    head.length ≤ (join endOfHeader (TextSplit.split endOfHeader a)).length := by
  cases h with
  | whole =>
    by_cases hb : body = []
    · subst hb
      rw [List.append_nil, hh.split_whole, join_singleton]
    · rw [hh.split_behind hb, split_of_none hbody]
      simp [join]
  | cut hb hcut =>
    rw [hh.split_cut hcut.mem, join_singleton, List.length_append]
    omega

theorem Behind.rejected {head body a : Text} {rest : List Text} (h : Behind head body a rest) :
    ∀ text ∈ rest, Rejected text := by
  cases h with
  | whole => simp
  | cut hb hcut => exact hcut.rejected

/-- The bytes behind the response do not pass for its body. -/
theorem Behind.not_body {head head' body a : Text} {rest : List Text} (hh : Headed head')
    (hbody : breakOn endOfHeader body = none) (h : Behind head' body a rest)
    (hfields : hasBodyFields (parseHeader (RtspCommon.split head rtspCrlf) []) = false ∨
      body ≠ []) :
    hasBodyFields (parseHeader (RtspCommon.split head rtspCrlf) []) = false ∨
      (TextSplit.split endOfHeader a).length ≠ 1 := by
  rcases hfields with hf | hb
  · exact Or.inl hf
  · right
    cases h with
    | whole =>
      rw [hh.split_behind hb, split_of_none hbody]
      simp
    | cut hb' => exact absurd hb' hb

theorem readAll_joined {head head' body a : Text} {rest : List Text} (h : Headed head)
    (h' : Headed head')
    (hresponse : (RtspResponse.parse {} (head ++ endOfHeader)).2.code = .ok)
    (hhandles : H.handles s.app (RtspResponse.parse {} (head ++ endOfHeader)).1.cSeq)
    (hrequest : (RtspRequest.parse {} (head' ++ endOfHeader ++ body)).2.code = .ok)
    (htextless : H.readsText (RtspRequest.parse {} (head' ++ endOfHeader ++ body)).1 = false)
    (hbody : breakOn endOfHeader body = none) (hbehind : Behind head' body a rest)
    (hfields : hasBodyFields (parseHeader (RtspCommon.split head rtspCrlf) []) = false ∨
      body ≠ []) :
    s.readAll H ((head ++ endOfHeader ++ a) :: rest) =
      (s.readData H (head ++ endOfHeader)).readData H (head' ++ endOfHeader ++ body) := by
  have hl : Lined head := lined_of_ok h.split_whole (RtspResponse.take_ok hresponse).1
  have hl' : Lined head' :=
    lined_of_ok (split_of_some endOfHeader_ne_nil (h'.behind body)) (RtspRequest.take_ok hrequest).1
  have hlen := Nat.le_trans hl'.length (hbehind.join_length h' hbody)
  generalize hj : join endOfHeader (TextSplit.split endOfHeader a) = j at hlen
  have hane : a ≠ [] := by
    rintro rfl
    have hnil : j = [] := by rw [← hj]; rfl
    simp [hnil] at hlen
  have hinfo : (j ++ ['$']).length > 2 ∧ (j ++ ['$']).getLast? = some '$' := by
    simp
    omega
  -- the response of the joined text is that of the first message, with the rest handed back
  have hjoined : RtspResponse.parse {} (head ++ endOfHeader ++ a) =
      ((RtspResponse.parse {} (head ++ endOfHeader)).1, ⟨.ok, j ++ ['$']⟩) := by
    have hm := h.parseMessage_behind hl hane (hbehind.not_body h' hbody hfields)
    rw [hj] at hm
    exact (congrArg (RtspResponse.take {}) hm).trans
      (RtspResponse.take_splicing hresponse hinfo.1 hinfo.2)
  have hplain : (RtspResponse.parse {} (head ++ endOfHeader)).2 = {} :=
    RtspResponse.take_plain hresponse (h.error_whole hl)
  have hparse : RtspRequest.parse {} j = RtspRequest.parse {} (head' ++ endOfHeader ++ body) :=
    congrArg (RtspRequest.take {}) (hj ▸ hbehind.parse h' hl' hbody)
  have hhandled : s.handleResponse H (RtspResponse.parse {} (head ++ endOfHeader)).1
      (head ++ endOfHeader ++ a) =
      s.handleResponse H (RtspResponse.parse {} (head ++ endOfHeader)).1 (head ++ endOfHeader) :=
    handleResponse_congr H s (by rw [hjoined]) (by rw [hjoined, hresponse]) _
  have hread : s.readData H (head ++ endOfHeader ++ a) =
      (s.handleResponse H (RtspResponse.parse {} (head ++ endOfHeader)).1
        (head ++ endOfHeader)).handleRequest H
          (RtspRequest.parse {} (head' ++ endOfHeader ++ body)).1 (head' ++ endOfHeader ++ body) := by
    rw [readData_response H s (by rw [hjoined]) (by rw [hjoined]; exact hhandles), hjoined, hhandled,
      readSplicing, if_pos hinfo, List.dropLast_concat, hparse]
    simp only [hrequest, if_true]
    exact handleRequest_textless H _ htextless _ _
  have hfirst : s.readData H (head ++ endOfHeader) =
      s.handleResponse H (RtspResponse.parse {} (head ++ endOfHeader)).1 (head ++ endOfHeader) := by
    rw [readData_response H s hresponse hhandles, hplain, readSplicing, if_neg (by decide)]
  rw [readAll, List.foldl_cons, hread, hfirst, readData_request H _ hrequest]
  exact readAll_rejected H _ rfl hbehind.rejected

theorem readAll_cutBody {a b : Text} (ha : (RtspRequest.parse {} a).2.code = .incompleteMessage)
    (hb : Rejected b) (hrequest : (RtspRequest.parse {} (a ++ b)).2.code = .ok) :
    s.readAll H [a, b] = s.readData H (a ++ b) := by
  have hsaved : s.readData H a = { s with lastMessage := a } := by
    have hno : (RtspRequest.parse {} a).2.code ≠ .ok := by rw [ha]; decide
    simp only [readData, if_neg (not_response_of_incomplete ha), readRequest, if_neg hno, if_pos ha]
  obtain ⟨hresponse, hobject, hok, hincomplete⟩ := hb
  have hspliced : RtspSession.readData H { s with lastMessage := a } b =
      s.handleRequest H (RtspRequest.parse {} (a ++ b)).1 (a ++ b) := by
    simp only [readData, if_neg hresponse, readRequest, if_neg hok, if_neg hincomplete, hobject,
      if_pos hrequest]
    rfl
  rw [readData_request H s hrequest, readAll, List.foldl_cons, List.foldl_cons, List.foldl_nil,
    hsaved, hspliced]

theorem Piece.readAll {messages reads : List Text} (h : Piece H s messages reads) :
    s.readAll H reads = s.readAll H messages := by
  cases h with
  | alone => rfl
  | cutEnd h hexpected => exact readAll_cutEnd H s h hexpected
  | joined h h' hresponse hhandles hrequest htextless hbody hbehind hfields =>
    exact readAll_joined H s h h' hresponse hhandles hrequest htextless hbody hbehind hfields
  | cutBody ha hb hrequest => exact readAll_cutBody H s ha hb hrequest

/-! Runs of reads on both sessions. -/

/-- A run in which each group of reads is a piece for the session it meets. -/
inductive Pieces : RtspSession σ → List Text → List Text → Prop where
  | nil (s : RtspSession σ) : Pieces s [] []
  | cons {s : RtspSession σ} {messages messages' reads reads' : List Text}
      (h : Piece H s messages reads) (hrest : Pieces (s.readAll H messages) messages' reads') :
      Pieces s (messages ++ messages') (reads ++ reads')

theorem Behind.flatten {head body a : Text} {rest : List Text} (h : Behind head body a rest) :
    a ++ rest.flatten = head ++ endOfHeader ++ body := by
  cases h with
  | whole => simp
  | cut hb hcut => rw [hb, List.append_nil, List.append_assoc, hcut.flatten]

theorem Piece.flatten {messages reads : List Text} (h : Piece H s messages reads) :
    reads.flatten = messages.flatten := by
  cases h with
  | alone => rfl
  | cutEnd h => simp [← h.flatten]
  | joined _ _ _ _ _ _ _ hbehind => simp [hbehind.flatten]
  | cutBody => simp

/-- The reads hold the bytes of the messages. -/
theorem Pieces.flatten {messages reads : List Text} (h : Pieces H s messages reads) :
    reads.flatten = messages.flatten := by
  induction h with
  | nil => rfl
  | cons h _ ih => rw [List.flatten_append, List.flatten_append, Piece.flatten H _ h, ih]

theorem readAll_append (reads reads' : List Text) :
    s.readAll H (reads ++ reads') = (s.readAll H reads).readAll H reads' := List.foldl_append

theorem Pieces.readAll {messages reads : List Text} (h : Pieces H s messages reads) :
    s.readAll H reads = s.readAll H messages := by
  induction h with
  | nil => rfl
  | cons h _ ih =>
    rw [readAll_append, readAll_append, Piece.readAll H _ h, ih]

end RtspSession

theorem WfdSinkSession.foldl_onClientReadData {σ : Type} (H : RtspHandlers σ)
    (s : WfdSinkSession σ) (reads : List Text) :
    reads.foldl (onClientReadData H) s =
      if s.interrupting then s else { s with toRtspSession := s.readAll H reads } := by
  induction reads generalizing s with
  | nil => simp [RtspSession.readAll]
  | cons text reads ih =>
    rw [List.foldl_cons, ih, onClientReadData]
    by_cases hi : s.interrupting <;> simp [hi, RtspSession.readAll]

theorem WfdSourceSession.foldl_onServerReadData {σ : Type} (H : SourceHandlers σ)
    (s : WfdSourceSession σ) (fd : Int) (reads : List Text) :
    reads.foldl (fun s => onServerReadData H s fd) s =
      if s.rtspServerFd ≠ fd then s else { s with toRtspSession := s.readAll H.all reads } := by
  induction reads generalizing s with
  | nil => simp [RtspSession.readAll]
  | cons text reads ih =>
    rw [List.foldl_cons, ih, onServerReadData]
    by_cases hi : s.rtspServerFd = fd <;> simp [hi, RtspSession.readAll]

/-- Both sessions read a run of such pieces, which is of the same bytes, as if every message came
alone, from any state and with any handlers. -/
theorem sessions_read_pieces {σ τ : Type} (H : RtspHandlers σ) (K : SourceHandlers τ) :
    (∀ (s : WfdSinkSession σ) (messages reads : List Text),
      RtspSession.Pieces H s.toRtspSession messages reads →
        reads.flatten = messages.flatten ∧
        reads.foldl (WfdSinkSession.onClientReadData H) s =
          messages.foldl (WfdSinkSession.onClientReadData H) s) ∧
    (∀ (s : WfdSourceSession τ) (fd : Int) (messages reads : List Text),
      RtspSession.Pieces K.all s.toRtspSession messages reads →
        reads.flatten = messages.flatten ∧
        reads.foldl (fun s => WfdSourceSession.onServerReadData K s fd) s =
          messages.foldl (fun s => WfdSourceSession.onServerReadData K s fd) s) := by
  constructor
  · intro s messages reads h
    rw [WfdSinkSession.foldl_onClientReadData, WfdSinkSession.foldl_onClientReadData,
      RtspSession.Pieces.readAll H _ h]
    exact ⟨RtspSession.Pieces.flatten H _ h, rfl⟩
  · intro s fd messages reads h
    rw [WfdSourceSession.foldl_onServerReadData, WfdSourceSession.foldl_onServerReadData,
      RtspSession.Pieces.readAll K.all _ h]
    exact ⟨RtspSession.Pieces.flatten K.all _ h, rfl⟩

/-- Handlers that wait for every response and do nothing. -/
def idleHandlers : SourceHandlers Unit where
  onResponse _ _ _ := ()
  onRequest _ _ := ()
  onResponse_congr _ _ _ _ _ _ := rfl

def m1Header : Text := "OPTIONS * RTSP/1.0\r\nCSeq: 1\r\nRequire: org.wfa.wfd1.0".toList

def m1Reply : Text := "RTSP/1.0 200 OK\r\nCSeq: 1\r\nPublic: org.wfa.wfd1.0".toList

def keepAlive : Text := "GET_PARAMETER rtsp://localhost/wfd1.0 RTSP/1.0\r\nCSeq: 2".toList

def triggerHeader : Text :=
  "SET_PARAMETER * RTSP/1.0\r\nContent-Type: text/parameters\r\nContent-Length: 27".toList

def triggerBody : Text := "wfd_trigger_method: SETUP\r\n".toList

/-- One of the two message parsers accepts the text. -/
def WellFormed (text : Text) : Prop :=
  (RtspRequest.parse {} text).2.code = .ok ∨ (RtspResponse.parse {} text).2.code = .ok

instance (text : Text) : Decidable (WellFormed text) := inferInstanceAs (Decidable (_ ∨ _))

/-- The second of two requests that come in one read is never dispatched. -/
theorem joined_requests_lost :
    ¬ ∀ messages reads : List Text, (∀ m ∈ messages, WellFormed m) →
      reads.flatten = messages.flatten →
        (reads.foldl (WfdSinkSession.onClientReadData idleHandlers.all) { app := () }).dispatched =
          (messages.foldl (WfdSinkSession.onClientReadData idleHandlers.all)
            { app := () }).dispatched := by
  intro h
  have hlost := h [m1Header ++ endOfHeader, keepAlive ++ endOfHeader]
    [m1Header ++ endOfHeader ++ (keepAlive ++ endOfHeader)] (by decide +kernel) rfl
  exact absurd hlost (by decide +kernel)

theorem pieces_reply_keepAlive_trigger :
    RtspSession.Pieces idleHandlers.all { app := () }
      ([m1Reply ++ endOfHeader, m1Header ++ endOfHeader ++ []] ++
        ([keepAlive ++ endOfHeader] ++ ([triggerHeader ++ endOfHeader ++ triggerBody.take 4 ++
          triggerBody.drop 4] ++ [])))
      ([m1Reply ++ endOfHeader ++ (m1Header ++ endOfHeader ++ [])] ++
        ([keepAlive ++ rtspCrlf, rtspCrlf] ++
          ([triggerHeader ++ endOfHeader ++ triggerBody.take 4, triggerBody.drop 4] ++ []))) := by
  apply RtspSession.Pieces.cons
  · exact RtspSession.Piece.joined (by decide +kernel) (by decide +kernel) (by decide +kernel) rfl
      (by decide +kernel) rfl rfl RtspSession.Behind.whole (Or.inl (by decide +kernel))
  apply RtspSession.Pieces.cons
  · apply RtspSession.Piece.cutEnd ⟨by decide +kernel, by decide, by decide⟩
    left
    decide +kernel
  apply RtspSession.Pieces.cons
  · exact RtspSession.Piece.cutBody (by decide +kernel) (by decide +kernel) (by decide +kernel)
  · exact RtspSession.Pieces.nil _

theorem sessions_read_reply_keepAlive_trigger :
    [m1Reply ++ endOfHeader ++ (m1Header ++ endOfHeader), keepAlive ++ rtspCrlf, rtspCrlf,
        triggerHeader ++ endOfHeader ++ triggerBody.take 4, triggerBody.drop 4].foldl
        (WfdSinkSession.onClientReadData idleHandlers.all) { app := () } =
      [m1Reply ++ endOfHeader, m1Header ++ endOfHeader, keepAlive ++ endOfHeader,
        triggerHeader ++ endOfHeader ++ triggerBody].foldl
        (WfdSinkSession.onClientReadData idleHandlers.all) { app := () } ∧
    [m1Reply ++ endOfHeader ++ (m1Header ++ endOfHeader), keepAlive ++ rtspCrlf, rtspCrlf,
        triggerHeader ++ endOfHeader ++ triggerBody.take 4, triggerBody.drop 4].foldl
        (fun s => WfdSourceSession.onServerReadData idleHandlers s 5)
        { app := (), rtspServerFd := 5 } =
      [m1Reply ++ endOfHeader, m1Header ++ endOfHeader, keepAlive ++ endOfHeader,
        triggerHeader ++ endOfHeader ++ triggerBody].foldl
        (fun s => WfdSourceSession.onServerReadData idleHandlers s 5)
        { app := (), rtspServerFd := 5 } := by
  have hread := sessions_read_pieces idleHandlers.all idleHandlers
  exact ⟨(hread.1 { app := () } _ _ pieces_reply_keepAlive_trigger).2,
    (hread.2 { app := (), rtspServerFd := 5 } 5 _ _ pieces_reply_keepAlive_trigger).2⟩

end WifiDisplay
