import WifiDisplay.RtspSession

/-! What the parsers see of a message that is cut at its end or has another one
behind it. -/

namespace WifiDisplay

open TextSplit

namespace RtspCommon

/-- The empty line that ends a header. -/
def endOfHeader : Text := rtspCrlf ++ rtspCrlf

/-- The first empty line of the message stands behind `head`. -/
def Headed (head : Text) : Prop := breakOn endOfHeader (head ++ endOfHeader) = some (head, [])

instance (head : Text) : Decidable (Headed head) := inferInstanceAs (Decidable (_ = _))

/-- What may be left of the empty line at the end of a read. A lone CR would
become part of the last field. -/
def cutEnds : List Text := [[], rtspCrlf, rtspCrlf ++ ['\r']]

theorem endOfHeader_ne_nil : endOfHeader ≠ [] := by decide

theorem crlf_ne_nil : rtspCrlf ≠ [] := by decide

theorem Headed.behind {head : Text} (h : Headed head) (r : Text) :
    breakOn endOfHeader (head ++ endOfHeader ++ r) = some (head, r) := by
  simpa using breakOn_append h r

theorem Headed.split_whole {head : Text} (h : Headed head) :
    TextSplit.split endOfHeader (head ++ endOfHeader) = [head] := by
  rw [split_of_some endOfHeader_ne_nil h, if_pos rfl]

theorem Headed.split_behind {head r : Text} (h : Headed head) (hr : r ≠ []) :
    TextSplit.split endOfHeader (head ++ endOfHeader ++ r) =
      head :: TextSplit.split endOfHeader r := by
  rw [split_of_some endOfHeader_ne_nil (h.behind r), if_neg hr]

theorem Headed.split_cut {head t : Text} (h : Headed head) (ht : t ∈ cutEnds) :
    TextSplit.split endOfHeader (head ++ t) = [head ++ t] := by
  obtain ⟨u, hu, htu⟩ : ∃ u, u ≠ [] ∧ t ++ u = endOfHeader := by
    simp only [cutEnds, List.mem_cons, List.not_mem_nil, or_false] at ht
    rcases ht with rfl | rfl | rfl
    · exact ⟨endOfHeader, by decide, rfl⟩
    · exact ⟨rtspCrlf, by decide, rfl⟩
    · exact ⟨['\n'], by decide, rfl⟩
  apply split_of_none
  apply breakOn_eq_none_of_append hu (p := head)
  rw [List.append_assoc, htu]
  exact h

theorem Headed.not_suffix {head : Text} (h : Headed head) : ¬ rtspCrlf <:+ head := by
  rintro ⟨p, rfl⟩
  have hnone : breakOn endOfHeader (p ++ endOfHeader) = none := by
    apply breakOn_eq_none_of_append (t := rtspCrlf) (p := p ++ rtspCrlf) (by decide)
    have h' : breakOn endOfHeader (p ++ rtspCrlf ++ endOfHeader) = some (p ++ rtspCrlf, []) := h
    simpa [endOfHeader] using h'
  have hsome := breakOn_infix endOfHeader_ne_nil p []
  rw [List.append_nil] at hsome
  exact hsome hnone

/-- The lines of a header whose end is cut; a CR of its own is a line. -/
theorem Headed.lines_cut {head t : Text} (h : Headed head) (hne : head ≠ []) (ht : t ∈ cutEnds) :
    split (head ++ t) rtspCrlf = split head rtspCrlf ∨
      split (head ++ t) rtspCrlf = split head rtspCrlf ++ [['\r']] := by
  have hlines (r : Text) : split (head ++ rtspCrlf ++ r) rtspCrlf =
      split head rtspCrlf ++ if r = [] then [] else split r rtspCrlf :=
    split_append (by decide) hne h.not_suffix r
  simp only [cutEnds, List.mem_cons, List.not_mem_nil, or_false] at ht
  rcases ht with rfl | rfl | rfl
  · exact Or.inl (by rw [List.append_nil])
  · exact Or.inl (by simpa using hlines [])
  · right
    have hcr : split ['\r'] rtspCrlf = [['\r']] := by decide
    simpa [hcr] using hlines ['\r']

theorem lineField_short {line : Text} (h : line.length ≤ 3) : lineField line = none := by
  simp [lineField, Nat.not_lt.mpr h]

/-- A line that is no field leaves the header alone, whichever branch of the loop it takes. -/
theorem addLine_of_none {line : Text} (h : lineField line = none) (header : Tokens) :
    addLine header line = header := by rw [addLine, h]

theorem isForeignChallenge_of_none {line : Text} (h : lineField line = none) :
    isForeignChallenge line = false := by rw [isForeignChallenge, h]

theorem parseLines_append_none {line : Text} (h : lineField line = none) (lines : List Text) (i : Nat)
    (header : Tokens) : parseLines i header (lines ++ [line]) = parseLines i header lines := by
  induction lines generalizing i header with
  | nil => simp [parseLines, isForeignChallenge_of_none h, addLine_of_none h]
  | cons l lines ih => simp only [List.cons_append, parseLines, ih]

theorem parseHeader_append_short {line : Text} (h : line.length ≤ 3) {lines : List Text}
    (hl : lines ≠ []) (header : Tokens) :
    parseHeader (lines ++ [line]) header = parseHeader lines header := by
  obtain ⟨first, lines, rfl⟩ := List.exists_cons_of_ne_nil hl
  exact parseLines_append_none (lineField_short h) lines 1 header

theorem parseMessage_eq {message head : Text} {pieces : List Text}
    (hsplit : TextSplit.split endOfHeader message = head :: pieces) (header : Tokens)
    (body : List Text) :
    parseMessage message header body =
      if (split head rtspCrlf).length < 2 then { error := invalidMessageError, header, body }
      else
        let header := parseHeader (split head rtspCrlf) header
        let (error, body) := parseBody pieces header body
        { error, firstLine := split ((split head rtspCrlf).headD []) rtspSp, header, body } := by
  have hs : split message (rtspCrlf ++ rtspCrlf) = head :: pieces := hsplit
  rw [parseMessage, hs]
  rfl

/-- Two lines at least: the first line and a field. -/
def Lined (head : Text) : Prop := 2 ≤ (split head rtspCrlf).length

theorem Lined.ne_nil {head : Text} (h : Lined head) : head ≠ [] := by
  rintro rfl
  have hshort : ¬ 2 ≤ (split [] rtspCrlf).length := by decide
  exact hshort h

theorem lined_of_ok {text head : Text} {pieces : List Text} {header : Tokens} {body : List Text}
    (hs : TextSplit.split endOfHeader text = head :: pieces)
    (h : (parseMessage text header body).error.code = .ok) : Lined head := by
  rw [parseMessage_eq hs] at h
  by_contra hl
  rw [if_pos (Nat.lt_of_not_le hl)] at h
  cases h

theorem Lined.length {head : Text} (h : Lined head) : 2 ≤ head.length := by
  cases hb : breakOn rtspCrlf head with
  | none =>
    have hone : split head rtspCrlf = [head] := split_of_none hb
    rw [Lined, hone] at h
    simp at h
  | some q =>
    have hlen := congrArg List.length (breakOn_eq_some hb)
    simp only [List.length_append, rtspCrlf, List.length_cons, List.length_nil] at hlen
    omega

theorem Headed.error_whole {head : Text} (h : Headed head) (hl : Lined head) :
    (parseMessage (head ++ endOfHeader) [] []).error = {} := by
  rw [parseMessage_eq h.split_whole, if_neg (Nat.not_lt.mpr hl)]
  simp [parseBody]

theorem Headed.parseMessage_cut {head t : Text} (h : Headed head) (hl : Lined head)
    (ht : t ∈ cutEnds) (header : Tokens) (body : List Text) :
    parseMessage (head ++ t) header body = parseMessage (head ++ endOfHeader) header body := by
  have hlines : ¬ (split head rtspCrlf).length < 2 := Nat.not_lt.mpr hl
  have hne : split head rtspCrlf ≠ [] := fun h0 => by simp [h0] at hlines
  rw [parseMessage_eq (h.split_cut ht), parseMessage_eq h.split_whole]
  rcases h.lines_cut hl.ne_nil ht with he | he
  · rw [he]
  · have hlong : ¬ (split head rtspCrlf ++ [['\r']]).length < 2 := by
      rw [List.length_append]
      omega
    have hfirst : (split head rtspCrlf ++ [['\r']]).headD [] = (split head rtspCrlf).headD [] := by
      obtain ⟨first, rest, hfr⟩ := List.exists_cons_of_ne_nil hne
      rw [hfr]
      rfl
    rw [he, if_neg hlong, if_neg hlines, parseHeader_append_short (by decide) hne, hfirst]

/-- Behind a header that announces no body, the rest of the read is handed back. -/
theorem Headed.parseMessage_behind {head rest : Text} (h : Headed head) (hl : Lined head)
    (hrest : rest ≠ [])
    (hbody : hasBodyFields (parseHeader (split head rtspCrlf) []) = false ∨
      (TextSplit.split endOfHeader rest).length ≠ 1) :
    parseMessage (head ++ endOfHeader ++ rest) [] [] =
      { parseMessage (head ++ endOfHeader) [] [] with
        error := ⟨.ok, join endOfHeader (TextSplit.split endOfHeader rest) ++ ['$']⟩ } := by
  have hlines : ¬ (split head rtspCrlf).length < 2 := Nat.not_lt.mpr hl
  have hpieces := split_ne_nil endOfHeader rest
  rw [parseMessage_eq (h.split_behind hrest), parseMessage_eq h.split_whole, if_neg hlines,
    if_neg hlines]
  have hparse : parseBody (TextSplit.split endOfHeader rest)
      (parseHeader (split head rtspCrlf) []) [] =
      (⟨.ok, join endOfHeader (TextSplit.split endOfHeader rest) ++ ['$']⟩, []) := by
    have hno : ¬ ((TextSplit.split endOfHeader rest).length = 1 ∧
        hasBodyFields (parseHeader (split head rtspCrlf) []) = true) := by
      rintro ⟨hone, hfields⟩
      rcases hbody with hb | hb
      · simp [hb] at hfields
      · exact hb hone
    rw [parseBody, if_neg hno, if_pos hpieces]
    rfl
  have hnone : parseBody [] (parseHeader (split head rtspCrlf) []) [] = ({}, []) := by
    simp [parseBody]
  simp only [hparse, hnone]

theorem lineField_no_colon {line : Text} (h : ':' ∉ line) : lineField line = none := by
  have hidx : line.idxOf ':' = line.length := List.idxOf_eq_length h
  simp [lineField, hidx]

theorem parseLines_of_none {lines : List Text} (h : ∀ line ∈ lines, lineField line = none) (i : Nat)
    (header : Tokens) : parseLines i header lines = header := by
  induction lines generalizing i with
  | nil => rfl
  | cons line lines ih =>
    have hline := h line (by simp)
    rw [parseLines, isForeignChallenge_of_none hline, addLine_of_none hline,
      ih fun l hl => h l (by simp [hl])]
    simp

theorem parseHeader_no_colon {lines : List Text} (h : ∀ line ∈ lines, ':' ∉ line)
    (header : Tokens) : parseHeader lines header = header :=
  parseLines_of_none (fun line hm => lineField_no_colon (h line (List.mem_of_mem_drop hm))) 1 header

/-- A text without a colon has no fields; it is never incomplete. -/
theorem parseMessage_no_colon {message : Text} (h : ':' ∉ message) :
    (parseMessage message [] []).header = [] ∧ (parseMessage message [] []).body = [] ∧
      (parseMessage message [] []).error.code ≠ .incompleteMessage := by
  obtain ⟨head, pieces, hs⟩ := List.exists_cons_of_ne_nil (split_ne_nil endOfHeader message)
  rw [parseMessage_eq hs]
  split
  · exact ⟨rfl, rfl, by decide⟩
  · have hhead : ':' ∉ head := fun hc =>
      h (split_subset (d := endOfHeader) (p := head) (by simp [hs]) hc)
    have hheader : parseHeader (split head rtspCrlf) [] = [] :=
      parseHeader_no_colon (fun line hm hc => hhead (split_subset hm hc)) []
    have hfields : hasBodyFields [] = false := by decide
    rw [hheader]
    by_cases hp : pieces = [] <;> simp [parseBody, hfields, hp]

end RtspCommon

end WifiDisplay
