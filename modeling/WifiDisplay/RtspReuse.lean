import WifiDisplay.RtspResponseRoundTrip

/-! Objects that parse more than one message. What is held from before comes first in the
header map, stays in front of the body, and stands where a message has no field. -/

namespace WifiDisplay

/-- Two maps with the same entries. -/
def Tokens.Same (s t : Tokens) : Prop := ∀ key, s.find? key = t.find? key

namespace RtspCommon

def headerLines (message : Text) : List Text :=
  split ((split message (rtspCrlf ++ rtspCrlf)).headD []) rtspCrlf

def behindHeader (message : Text) : List Text := (split message (rtspCrlf ++ rtspCrlf)).drop 1

def firstWords (message : Text) : List Text := split ((headerLines message).headD []) rtspSp

/-- The fields of the message itself. -/
def ownFields (message : Text) : Tokens := parseHeader (headerLines message) []

/-- The body that `ParseMessage` gives up on: the two fields ask for more than there is, or for
a type that it does not take. -/
def RefusesBody (pieces : List Text) (contentType contentLength : Option Text) : Prop :=
  ∃ text type length, pieces = [text] ∧ contentType = some type ∧ contentLength = some length ∧
    atoi length ≠ 0 ∧
    (atoi length > text.length ∨
      ¬ "text/".toList.isPrefixOf type ∧ type ≠ "application/sdp".toList)

/-- The body is refused by what the object and the message say together. -/
def RefusesTogether (held : Tokens) (text : Text) : Prop :=
  RefusesBody (behindHeader text)
    ((held.find? rtspTokenContentType).or ((ownFields text).find? rtspTokenContentType))
    ((held.find? rtspTokenContentLength).or ((ownFields text).find? rtspTokenContentLength))

/-- What an object holds adds nothing to a message that is accepted. -/
def AddsNothing (tokens : Tokens) (body : List Text) (cSeq : Int) (text : Text) : Prop :=
  (∀ key value, tokens.find? key = some value → (ownFields text).find? key = some value) ∧
    body = [] ∧ ((ownFields text).find? rtspTokenCseq = none → cSeq = 0)

end RtspCommon

open RtspCommon

namespace RtspRequest

/-- The parse comes out as on a new object. -/
structure ParsesAfresh (r : RtspRequest) (text : Text) : Prop where
  result : (r.parse text).2 = (({} : RtspRequest).parse text).2
  method : (r.parse text).1.method = (({} : RtspRequest).parse text).1.method
  cSeq : (r.parse text).1.cSeq = (({} : RtspRequest).parse text).1.cSeq
  tokens : (r.parse text).1.tokens.Same (({} : RtspRequest).parse text).1.tokens
  body : (r.parse text).1.body = (({} : RtspRequest).parse text).1.body
  cleared : (r.parse text).2.code ≠ .ok →
    (r.parse text).1.tokens = [] ∧ (r.parse text).1.body = []

def IsFirstLine (words : List Text) : Prop := ∃ method url, words = [method, url, rtspVersionText]

def Accepted (text : Text) : Prop :=
  ownFields text ≠ [] ∧ IsFirstLine (firstWords text) ∧ verifyMethod ((firstWords text).headD [])

/-- The object takes nothing over from before into the parse of this text. -/
def ReadyFor (r : RtspRequest) (text : Text) : Prop :=
  if (headerLines text).length < 2 then
    r.method = [] ∧ r.cSeq = 0 ∧ r.tokens = [] ∧ r.body = []
  else
    ¬ RefusesTogether [] text ∧
    (Accepted text → AddsNothing r.tokens r.body r.cSeq text) ∧
    (¬ Accepted text → r.method = [] ∧ r.cSeq = 0 ∧ ¬ RefusesTogether r.tokens text ∧
      (ownFields text = [] → r.tokens = [] ∨ ¬ IsFirstLine (firstWords text)))

end RtspRequest

namespace RtspResponse

structure ParsesAfresh (r : RtspResponse) (text : Text) : Prop where
  result : (r.parse text).2 = (({} : RtspResponse).parse text).2
  status : (r.parse text).1.status = (({} : RtspResponse).parse text).1.status
  cSeq : (r.parse text).1.cSeq = (({} : RtspResponse).parse text).1.cSeq
  tokens : (r.parse text).1.tokens.Same (({} : RtspResponse).parse text).1.tokens
  body : (r.parse text).1.body = (({} : RtspResponse).parse text).1.body
  cleared : (r.parse text).2.code ≠ .ok →
    (r.parse text).1.tokens = [] ∧ (r.parse text).1.body = []

def IsFirstLine (words : List Text) : Prop :=
  ∃ status reason rest, words = rtspVersionText :: status :: reason :: rest

/-- What an object with these fields refuses. -/
def Refuses (tokens : Tokens) (text : Text) : Prop :=
  (headerLines text).length < 2 ∨ RefusesTogether tokens text ∨
    (tokens = [] ∧ ownFields text = []) ∨ ¬ IsFirstLine (firstWords text)

/-- The object takes nothing over from before into the parse of this text. -/
def ReadyFor (r : RtspResponse) (text : Text) : Prop :=
  (Refuses [] text → Refuses r.tokens text ∧ r.status = 200 ∧ r.cSeq = 0) ∧
    (¬ Refuses [] text → AddsNothing r.tokens r.body r.cSeq text)

end RtspResponse

namespace Tokens

theorem find?_append_single (t : Tokens) (k v key : Text) :
    find? (t ++ [(k, v)]) key = (t.find? key).or (if key = k then some v else none) := by
  rw [find?, find?, List.lookup_append]
  congr 1
  by_cases h : key = k
  · simp [h]
  · have hne : (key == k) = false := by simp [h]
    simp [List.lookup_cons, hne, h]

theorem find?_emplace (t : Tokens) (k v key : Text) :
    (t.emplace k v).find? key = (t.find? key).or (if key = k then some v else none) := by
  rw [emplace]
  split
  next hsome =>
    by_cases h : key = k
    · obtain ⟨w, hw⟩ := Option.isSome_iff_exists.mp hsome
      rw [h, hw]
      rfl
    · simp [h]
  next => exact find?_append_single t k v key

theorem eq_nil_iff {t : Tokens} : t = [] ↔ ∀ key, t.find? key = none := by
  cases t with
  | nil => simp [find?]
  | cons f t =>
    constructor
    · intro h
      cases h
    · intro h
      have := h f.1
      simp [find?] at this

end Tokens

namespace RtspCommon

theorem find?_addLine {s t u : Tokens} (h : ∀ key, s.find? key = (t.find? key).or (u.find? key))
    (line key : Text) :
    (addLine s line).find? key = (t.find? key).or ((addLine u line).find? key) := by
  simp only [addLine]
  split
  · exact h key
  · rw [Tokens.find?_emplace, Tokens.find?_emplace, h key, Option.or_assoc]

theorem find?_parseLines (lines : List Text) (i : Nat) {s t u : Tokens}
    (h : ∀ key, s.find? key = (t.find? key).or (u.find? key)) (key : Text) :
    (parseLines i s lines).find? key = (t.find? key).or ((parseLines i u lines).find? key) := by
  induction lines generalizing i s u with
  | nil => exact h key
  | cons line lines ih =>
    simp only [parseLines]
    split
    · exact ih _ h
    · split
      · exact find?_addLine h line key
      · exact ih _ (find?_addLine h line)

/-- What is held comes before what the message says. -/
theorem find?_parseHeader (lines : List Text) (held : Tokens) (key : Text) :
    (parseHeader lines held).find? key =
      (held.find? key).or ((parseHeader lines []).find? key) :=
  find?_parseLines _ 1 (fun key => by simp [Tokens.find?]) key

theorem parseHeader_eq_nil {lines : List Text} {held : Tokens} :
    parseHeader lines held = [] ↔ held = [] ∧ parseHeader lines [] = [] := by
  simp only [Tokens.eq_nil_iff, find?_parseHeader lines held, Option.or_eq_none_iff, forall_and]

theorem same_parseHeader {lines : List Text} {held : Tokens} :
    Tokens.Same (parseHeader lines held) (parseHeader lines []) ↔
      ∀ key value, held.find? key = some value → (parseHeader lines []).find? key = some value := by
  simp only [Tokens.Same, find?_parseHeader lines held]
  refine forall_congr' fun key => ?_
  cases held.find? key with
  | none => simp
  | some v => simp [eq_comm]

variable {pieces : List Text} {header header' : Tokens} {body : List Text}

theorem parseBody_fields {text type length : Text}
    (htype : header.find? rtspTokenContentType = some type)
    (hlength : header.find? rtspTokenContentLength = some length) :
    parseBody [text] header body =
      if atoi length = 0 then ({}, body)
      else if atoi length > text.length then
        (⟨.incompleteMessage, "body length < Content-Length".toList⟩, body)
      else if ¬ "text/".toList.isPrefixOf type ∧ type ≠ "application/sdp".toList then
        (⟨.invalidMessage, "unsupported content".toList⟩, body)
      else ({}, body ++ (split (bodyText text (atoi length)) rtspCrlf).filter (· ≠ [])) := by
  have hfields : [text].length = 1 ∧ hasBodyFields header = true :=
    ⟨rfl, by rw [hasBodyFields, htype, hlength]; rfl⟩
  rw [parseBody, if_pos hfields, htype, hlength]
  rfl

theorem parseBody_code : (parseBody pieces header body).1.code ≠ .ok ↔
    RefusesBody pieces (header.find? rtspTokenContentType)
      (header.find? rtspTokenContentLength) := by
  constructor
  · intro h
    by_cases hfields : pieces.length = 1 ∧ hasBodyFields header
    · obtain ⟨hone, hfields⟩ := hfields
      obtain ⟨text, rfl⟩ := List.length_eq_one_iff.mp hone
      rw [hasBodyFields, Bool.and_eq_true, Option.isSome_iff_exists, Option.isSome_iff_exists]
        at hfields
      obtain ⟨⟨type, htype⟩, length, hlength⟩ := hfields
      rw [parseBody_fields htype hlength] at h
      refine ⟨text, type, length, rfl, htype, hlength, ?_⟩
      by_cases hzero : atoi length = 0
      · rw [if_pos hzero] at h
        exact absurd rfl h
      · refine ⟨hzero, by_contra fun hor => ?_⟩
        obtain ⟨hfits, hsupported⟩ := not_or.mp hor
        rw [if_neg hzero, if_neg hfits, if_neg hsupported] at h
        exact h rfl
    · rw [parseBody, if_neg hfields] at h
      split at h <;> exact absurd rfl h
  · rintro ⟨text, type, length, rfl, htype, hlength, hzero, hrefused⟩
    rw [parseBody_fields htype hlength, if_neg hzero]
    by_cases hlong : atoi length > text.length
    · rw [if_pos hlong]
      exact fun h => by cases h
    · rw [if_neg hlong, if_pos (hrefused.resolve_left hlong)]
      exact fun h => by cases h

theorem parseBody_append : parseBody pieces header body =
    ((parseBody pieces header []).1, body ++ (parseBody pieces header []).2) := by
  simp only [parseBody]
  split
  · split
    · simp
    · split
      · simp
      · split
        · simp
        · simp
  · split
    · simp
    · simp

theorem parseBody_congr
    (htype : header.find? rtspTokenContentType = header'.find? rtspTokenContentType)
    (hlength : header.find? rtspTokenContentLength = header'.find? rtspTokenContentLength) :
    parseBody pieces header body = parseBody pieces header' body := by
  have hfields : hasBodyFields header = hasBodyFields header' := by
    rw [hasBodyFields, hasBodyFields, htype, hlength]
  rw [parseBody, parseBody, htype, hlength, hfields]

theorem parseMessage_short {text : Text} (h : (headerLines text).length < 2) (held : Tokens)
    (body : List Text) :
    parseMessage text held body = { error := invalidMessageError, header := held, body } := by
  rw [parseMessage]
  exact if_pos h

theorem parseMessage_long {text : Text} (h : ¬ (headerLines text).length < 2) (held : Tokens)
    (body : List Text) :
    parseMessage text held body =
      { error := (parseBody (behindHeader text) (parseHeader (headerLines text) held) body).1
        firstLine := firstWords text
        header := parseHeader (headerLines text) held
        body := (parseBody (behindHeader text) (parseHeader (headerLines text) held) body).2 } := by
  rw [parseMessage]
  exact if_neg h

end RtspCommon

namespace RtspCommon

/-- The header map behind `ParseMessage`. -/
def allFields (held : Tokens) (text : Text) : Tokens := parseHeader (headerLines text) held

theorem find?_allFields (held : Tokens) (text key : Text) :
    (allFields held text).find? key = (held.find? key).or ((ownFields text).find? key) :=
  find?_parseHeader _ held key

theorem refusesTogether_iff {held : Tokens} {text : Text} {body : List Text} :
    (parseBody (behindHeader text) (allFields held text) body).1.code ≠ .ok ↔
      RefusesTogether held text := by
  rw [parseBody_code, find?_allFields, find?_allFields, RefusesTogether]

theorem RefusesTogether.allFields_ne_nil {held : Tokens} {text : Text}
    (h : RefusesTogether held text) : allFields held text ≠ [] := by
  obtain ⟨_, type, _, -, htype, -⟩ := h
  intro hnil
  rw [← find?_allFields, hnil] at htype
  cases htype

theorem refusesTogether_congr {held : Tokens} {text : Text}
    (h : Tokens.Same (allFields held text) (ownFields text)) :
    RefusesTogether held text ↔ RefusesTogether [] text := by
  rw [RefusesTogether, ← find?_allFields, ← find?_allFields, h, h]
  rfl

theorem allFields_eq_nil {held : Tokens} {text : Text} :
    allFields held text = [] ↔ held = [] ∧ ownFields text = [] := parseHeader_eq_nil

theorem addsNothing_iff {tokens : Tokens} {body : List Text} {cSeq : Int} {text : Text} :
    AddsNothing tokens body cSeq text ↔
      Tokens.Same (allFields tokens text) (ownFields text) ∧
        body ++ (parseBody (behindHeader text) (allFields tokens text) []).2 =
          (parseBody (behindHeader text) (ownFields text) []).2 ∧
        ((Tokens.find? (allFields tokens text) rtspTokenCseq).map atoi).getD cSeq =
          ((Tokens.find? (ownFields text) rtspTokenCseq).map atoi).getD 0 := by
  rw [AddsNothing, allFields, ownFields, ← same_parseHeader]
  refine and_congr_right fun hsame => ?_
  rw [hsame rtspTokenCseq, parseBody_congr (hsame rtspTokenContentType)
    (hsame rtspTokenContentLength), List.append_left_eq_self]
  refine and_congr_right fun _ => ?_
  cases (parseHeader (headerLines text) []).find? rtspTokenCseq with
  | none => simp
  | some value => simp

def parsedBehind (held : Tokens) (body : List Text) (text : Text) : ParsedMessage :=
  { error := (parseBody (behindHeader text) (allFields held text) []).1
    firstLine := firstWords text
    header := allFields held text
    body := body ++ (parseBody (behindHeader text) (allFields held text) []).2 }

theorem parseMessage_eq_parsedBehind {text : Text} (h : ¬ (headerLines text).length < 2)
    (held : Tokens) (body : List Text) :
    parseMessage text held body = parsedBehind held body text := by
  rw [parseMessage_long h, parseBody_append]
  rfl

end RtspCommon

namespace RtspRequest

variable {r : RtspRequest} {text : Text}

theorem parse_short (h : (headerLines text).length < 2) : r.parse text = (r, invalidMessageError) := by
  rw [parse, parseMessage_short h, take]
  rfl

theorem parse_long (hlong : ¬ (headerLines text).length < 2) :
    r.parse text = r.take (parsedBehind r.tokens r.body text) := by
  rw [parse, parseMessage_eq_parsedBehind hlong]

theorem take_refused {result : ParsedMessage} (h : result.error.code ≠ .ok) :
    (r.take result).2 = result.error ∧ (r.take result).1.tokens = result.header := by
  rw [take, if_pos h]
  exact ⟨rfl, rfl⟩

theorem ParsesAfresh.not_refused (h : r.ParsesAfresh text) (hlong : ¬ (headerLines text).length < 2) :
    ¬ RefusesTogether r.tokens text := by
  intro hrefused
  have hcode : (parsedBehind r.tokens r.body text).error.code ≠ .ok :=
    refusesTogether_iff.mpr hrefused
  obtain ⟨herror, htokens⟩ := take_refused (r := r) hcode
  rw [← parse_long hlong] at herror htokens
  have hnil := (h.cleared (by rw [herror]; exact hcode)).1
  rw [htokens] at hnil
  exact hrefused.allFields_ne_nil hnil

theorem take_unreadable {result : ParsedMessage} (hcode : result.error.code = .ok)
    (h : ¬ IsFirstLine result.firstLine ∨ result.header = []) :
    r.take result = (r.clear, invalidMessageError) := by
  rw [take, if_neg (not_not.mpr hcode)]
  by_cases htwo : result.firstLine.length < 2 ∨ result.header = []
  · rw [if_pos htwo]
    rfl
  · rw [if_neg htwo]
    split
    next method url version hwords =>
      have hversion : version ≠ rtspVersionText := by
        rintro rfl
        exact h.elim (fun hnot => hnot ⟨method, url, hwords⟩) fun hnil => htwo (.inr hnil)
      rw [if_pos hversion]
      rfl
    next => rfl

theorem take_firstLine {result : ParsedMessage} (hcode : result.error.code = .ok)
    {method url : Text} (hwords : result.firstLine = [method, url, rtspVersionText])
    (hne : result.header ≠ []) :
    r.take result =
      if ¬ verifyMethod method then (r.clear, ⟨.invalidMethod, "invalid method".toList⟩)
      else
        ({ r with
            tokens := result.header, body := result.body, method, url
            cSeq := ((Tokens.find? result.header rtspTokenCseq).map atoi).getD r.cSeq
            userAgent := (Tokens.find? result.header rtspTokenUa).getD r.userAgent
            session := (Tokens.find? result.header rtspTokenSession).getD r.session }, {}) := by
  have htwo : ¬ (result.firstLine.length < 2 ∨ result.header = []) := by
    rw [hwords]
    simp [hne]
  rw [take, if_neg (not_not.mpr hcode), if_neg htwo, hwords]
  simp only [ne_eq, not_true, if_false]
  rfl

theorem parse_clean (hlong : ¬ (headerLines text).length < 2)
    (hown : ¬ RefusesTogether [] text) (haccepted : Accepted text) :
    r.ParsesAfresh text ↔ AddsNothing r.tokens r.body r.cSeq text := by
  obtain ⟨hne, ⟨method, url, hwords⟩, hmethod⟩ := haccepted
  rw [hwords, List.headD_cons] at hmethod
  have hfresh : (({} : RtspRequest).parse text) = _ := parse_long hlong
  rw [take_firstLine (not_not.mp (refusesTogether_iff.not.mpr hown)) hwords hne,
    if_neg (not_not.mpr hmethod)] at hfresh
  have hall : allFields r.tokens text ≠ [] := fun hnil => hne (allFields_eq_nil.mp hnil).2
  have hr : ¬ RefusesTogether r.tokens text → r.parse text = _ := fun hok => by
    rw [parse_long hlong, take_firstLine (not_not.mp (refusesTogether_iff.not.mpr hok)) hwords hall,
      if_neg (not_not.mpr hmethod)]
  rw [addsNothing_iff]
  constructor
  · intro h
    have hok := h.not_refused hlong
    have htokens := h.tokens
    have hbody := h.body
    have hcSeq := h.cSeq
    rw [hr hok, hfresh] at htokens hbody hcSeq
    exact ⟨htokens, hbody, hcSeq⟩
  · rintro ⟨htokens, hbody, hcSeq⟩
    have hok := (refusesTogether_congr htokens).not.mpr hown
    refine ⟨?_, ?_, ?_, ?_, ?_, fun hcode => ?_⟩
    · rw [hr hok, hfresh]
    · rw [hr hok, hfresh]
    · rw [hr hok, hfresh]
      exact hcSeq
    · rw [hr hok, hfresh]
      exact htokens
    · rw [hr hok, hfresh]
      exact hbody
    · rw [hr hok] at hcode
      exact absurd rfl hcode

theorem parse_outcome (hlong : ¬ (headerLines text).length < 2)
    (hok : ¬ RefusesTogether r.tokens text) :
    (¬ IsFirstLine (firstWords text) ∨ allFields r.tokens text = []) ∧
        r.parse text = (r.clear, invalidMessageError) ∨
      IsFirstLine (firstWords text) ∧ allFields r.tokens text ≠ [] ∧
        (¬ verifyMethod ((firstWords text).headD []) ∧
            r.parse text = (r.clear, ⟨.invalidMethod, "invalid method".toList⟩) ∨
          verifyMethod ((firstWords text).headD []) ∧ (r.parse text).2 = {}) := by
  have hcode : (parsedBehind r.tokens r.body text).error.code = .ok :=
    not_not.mp (refusesTogether_iff.not.mpr hok)
  rw [parse_long hlong]
  by_cases hbad : ¬ IsFirstLine (firstWords text) ∨ allFields r.tokens text = []
  · exact .inl ⟨hbad, take_unreadable hcode hbad⟩
  · obtain ⟨hfirst, hne⟩ := not_or.mp hbad
    obtain ⟨method, url, hwords⟩ := not_not.mp hfirst
    refine .inr ⟨not_not.mp hfirst, hne, ?_⟩
    rw [take_firstLine hcode hwords hne, hwords, List.headD_cons]
    by_cases hmethod : verifyMethod method
    · exact .inr ⟨hmethod, by rw [if_neg (not_not.mpr hmethod)]⟩
    · exact .inl ⟨hmethod, if_pos hmethod⟩

theorem parsesAfresh_of_clear {e : RtspError} (hr : r.parse text = (r.clear, e))
    (hfresh : ({} : RtspRequest).parse text = (({} : RtspRequest).clear, e))
    (hmethod : r.method = []) (hcSeq : r.cSeq = 0) : r.ParsesAfresh text := by
  refine ⟨?_, ?_, ?_, ?_, ?_, fun _ => ?_⟩
  · rw [hr, hfresh]
  · rw [hr, hfresh]
    exact hmethod
  · rw [hr, hfresh]
    exact hcSeq
  · rw [hr, hfresh]
    exact fun _ => rfl
  · rw [hr, hfresh]
    rfl
  · rw [hr]
    exact ⟨rfl, rfl⟩

theorem parse_failing (hlong : ¬ (headerLines text).length < 2)
    (hown : ¬ RefusesTogether [] text) (hrejected : ¬ Accepted text) :
    r.ParsesAfresh text ↔ r.method = [] ∧ r.cSeq = 0 ∧ ¬ RefusesTogether r.tokens text ∧
      (ownFields text = [] → r.tokens = [] ∨ ¬ IsFirstLine (firstWords text)) := by
  have hfresh := parse_outcome (r := {}) hlong hown
  constructor
  · intro h
    have hok := h.not_refused hlong
    have hresult := h.result
    have hmethod := h.method
    have hcSeq := h.cSeq
    rcases parse_outcome hlong hok with ⟨hbad, hr⟩ | ⟨hfirst, hne, ⟨-, hr⟩ | ⟨-, hr⟩⟩
    · have hempty : ownFields text = [] → r.tokens = [] ∨ ¬ IsFirstLine (firstWords text) :=
        fun _ => hbad.symm.imp_left fun hnil => (allFields_eq_nil.mp hnil).1
      rcases hfresh with ⟨-, hfresh⟩ | ⟨hfirst, hne, ⟨-, hfresh⟩ | ⟨hverify, -⟩⟩
      · rw [hr, hfresh] at hmethod hcSeq
        exact ⟨hmethod, hcSeq, hok, hempty⟩
      · rw [hr, hfresh] at hmethod hcSeq
        exact ⟨hmethod, hcSeq, hok, hempty⟩
      · exact absurd ⟨hne, hfirst, hverify⟩ hrejected
    · rcases hfresh with ⟨-, hfresh⟩ | ⟨-, hown, ⟨-, hfresh⟩ | ⟨hverify, -⟩⟩
      · rw [hr, hfresh] at hresult
        cases hresult
      · rw [hr, hfresh] at hmethod hcSeq
        exact ⟨hmethod, hcSeq, hok, fun hnil => absurd hnil hown⟩
      · exact absurd ⟨hown, hfirst, hverify⟩ hrejected
    · rcases hfresh with ⟨-, hfresh⟩ | ⟨-, hown, ⟨-, hfresh⟩ | ⟨hverify, -⟩⟩
      · rw [hr, hfresh] at hresult
        cases hresult
      · rw [hr, hfresh] at hresult
        cases hresult
      · exact absurd ⟨hown, hfirst, hverify⟩ hrejected
  · rintro ⟨hmethod, hcSeq, hok, hempty⟩
    rcases hfresh with ⟨hbad, hfresh⟩ | ⟨hfirst, hown, ⟨hno, hfresh⟩ | ⟨hverify, -⟩⟩
    · rcases parse_outcome hlong hok with ⟨-, hr⟩ | ⟨hfirst, hne, -⟩
      · exact parsesAfresh_of_clear hr hfresh hmethod hcSeq
      · have hnil := hbad.resolve_left (not_not.mpr hfirst)
        have htokens := (hempty hnil).resolve_right (not_not.mpr hfirst)
        exact absurd (allFields_eq_nil.mpr ⟨htokens, hnil⟩) hne
    · rcases parse_outcome hlong hok with ⟨hbad, -⟩ | ⟨-, -, ⟨-, hr⟩ | ⟨hverify, -⟩⟩
      · have hnil := hbad.resolve_left (not_not.mpr hfirst)
        exact absurd (allFields_eq_nil.mp hnil).2 hown
      · exact parsesAfresh_of_clear hr hfresh hmethod hcSeq
      · exact absurd hverify hno
    · exact absurd ⟨hown, hfirst, hverify⟩ hrejected

theorem parsesAfresh_iff (r : RtspRequest) (text : Text) : r.ParsesAfresh text ↔ r.ReadyFor text := by
  by_cases hshort : (headerLines text).length < 2
  · rw [ReadyFor, if_pos hshort]
    have hr := parse_short (r := r) hshort
    have hfresh := parse_short (r := {}) hshort
    constructor
    · intro h
      have hmethod := h.method
      have hcSeq := h.cSeq
      have hcleared := h.cleared (by rw [hr]; exact fun h => by cases h)
      rw [hr, hfresh] at hmethod hcSeq
      rw [hr] at hcleared
      exact ⟨hmethod, hcSeq, hcleared⟩
    · rintro ⟨hmethod, hcSeq, htokens, hbody⟩
      refine ⟨?_, ?_, ?_, ?_, ?_, fun _ => ?_⟩
      · rw [hr, hfresh]
      · rw [hr, hfresh, hmethod]
      · rw [hr, hfresh, hcSeq]
      · rw [hr, hfresh, htokens]
        exact fun _ => rfl
      · rw [hr, hfresh, hbody]
      · rw [hr]
        exact ⟨htokens, hbody⟩
  · rw [ReadyFor, if_neg hshort]
    by_cases hown : RefusesTogether [] text
    · refine iff_of_false (fun h => ?_) fun h => h.1 hown
      -- the new object itself keeps the fields of the refused message
      have hcode : (parsedBehind [] [] text).error.code ≠ .ok := refusesTogether_iff.mpr hown
      obtain ⟨herror, htokens⟩ := take_refused (r := {}) hcode
      rw [← parse_long (r := {}) hshort] at herror htokens
      have hnil := (h.cleared (by rw [h.result, herror]; exact hcode)).1
      have hsame := h.tokens
      rw [hnil, htokens] at hsame
      exact hown.allFields_ne_nil (Tokens.eq_nil_iff.mpr fun key => (hsame key).symm)
    · by_cases haccepted : Accepted text
      · rw [parse_clean hshort hown haccepted]
        exact ⟨fun h => ⟨hown, fun _ => h, fun h' => absurd haccepted h'⟩,
          fun h => h.2.1 haccepted⟩
      · rw [parse_failing hshort hown haccepted]
        exact ⟨fun h => ⟨hown, fun h' => absurd h' haccepted, fun _ => h⟩,
          fun h => h.2.2 haccepted⟩

end RtspRequest

namespace RtspResponse

variable {r : RtspResponse} {text : Text}

theorem setAuthenticate_projections (r : RtspResponse) (item : Text) :
    (r.setAuthenticate item).cSeq = r.cSeq ∧ (r.setAuthenticate item).status = r.status ∧
      (r.setAuthenticate item).tokens = r.tokens ∧ (r.setAuthenticate item).body = r.body := by
  simp only [setAuthenticate]
  repeat' split
  all_goals exact ⟨rfl, rfl, rfl, rfl⟩

theorem foldl_setAuthenticate (items : List Text) (r : RtspResponse) :
    (items.foldl setAuthenticate r).cSeq = r.cSeq ∧
      (items.foldl setAuthenticate r).status = r.status ∧
      (items.foldl setAuthenticate r).tokens = r.tokens ∧
      (items.foldl setAuthenticate r).body = r.body := by
  induction items generalizing r with
  | nil => exact ⟨rfl, rfl, rfl, rfl⟩
  | cons item items ih =>
    obtain ⟨hcSeq, hstatus, htokens, hbody⟩ := ih (r.setAuthenticate item)
    obtain ⟨hcSeq', hstatus', htokens', hbody'⟩ := setAuthenticate_projections r item
    exact ⟨hcSeq.trans hcSeq', hstatus.trans hstatus', htokens.trans htokens', hbody.trans hbody'⟩

/-- What `SetTokens` does with the session field. -/
def takeSession (r : RtspResponse) : RtspResponse :=
  match Tokens.find? r.tokens rtspTokenSession with
  | none => r
  | some value => r.setSession value

/-- What `SetTokens` does with the field for the authentication. -/
def takeAuthenticate (r : RtspResponse) : RtspResponse :=
  match Tokens.find? r.tokens rtspTokenWwwAuthenticate with
  | none => r
  | some value => (split value ", ".toList).foldl setAuthenticate r

theorem takeSession_projections (r : RtspResponse) : r.takeSession.cSeq = r.cSeq ∧
    r.takeSession.status = r.status ∧ r.takeSession.tokens = r.tokens ∧ r.takeSession.body = r.body := by
  rw [takeSession]
  cases Tokens.find? r.tokens rtspTokenSession with
  | none => exact ⟨rfl, rfl, rfl, rfl⟩
  | some value => exact ResponseFields.setSession_projections r value

theorem takeAuthenticate_projections (r : RtspResponse) : r.takeAuthenticate.cSeq = r.cSeq ∧
    r.takeAuthenticate.status = r.status ∧ r.takeAuthenticate.tokens = r.tokens ∧
      r.takeAuthenticate.body = r.body := by
  rw [takeAuthenticate]
  cases Tokens.find? r.tokens rtspTokenWwwAuthenticate with
  | none => exact ⟨rfl, rfl, rfl, rfl⟩
  | some value => exact foldl_setAuthenticate (split value ", ".toList) r

theorem setTokens_projections (r : RtspResponse) :
    r.setTokens.cSeq = ((Tokens.find? r.tokens rtspTokenCseq).map atoi).getD r.cSeq ∧
      r.setTokens.status = r.status ∧ r.setTokens.tokens = r.tokens ∧ r.setTokens.body = r.body := by
  set r₁ : RtspResponse := { r with
    cSeq := ((Tokens.find? r.tokens rtspTokenCseq).map atoi).getD r.cSeq
    date := (Tokens.find? r.tokens rtspTokenDate).getD r.date
    server := (Tokens.find? r.tokens rtspTokenServer).getD r.server }
  have hset : r.setTokens = r₁.takeSession.takeAuthenticate := rfl
  obtain ⟨hcSeq, hstatus, htokens, hbody⟩ := r₁.takeSession.takeAuthenticate_projections
  obtain ⟨hcSeq₁, hstatus₁, htokens₁, hbody₁⟩ := r₁.takeSession_projections
  rw [hset]
  exact ⟨hcSeq.trans hcSeq₁, hstatus.trans hstatus₁, htokens.trans htokens₁, hbody.trans hbody₁⟩

theorem parse_long (hlong : ¬ (headerLines text).length < 2) :
    r.parse text = r.take (parsedBehind r.tokens r.body text) := by
  rw [parse, parseMessage_eq_parsedBehind hlong]

theorem parse_refused (h : Refuses r.tokens text) :
    r.parse text = (r.clear, invalidMessageError) := by
  by_cases hshort : (headerLines text).length < 2
  · rw [parse, parseMessage_short hshort, take, if_pos (.inl fun h => by cases h)]
  · rw [parse_long hshort, take]
    rcases h with h | h | h | h
    · exact absurd h hshort
    · rw [if_pos (.inl (refusesTogether_iff.mpr h))]
      rfl
    · rw [if_pos (.inr (.inr (allFields_eq_nil.mpr h)))]
      rfl
    · split
      · rfl
      · split
        next version status reason rest hwords =>
          have hversion : version ≠ rtspVersionText := by
            rintro rfl
            exact h ⟨status, reason, rest, hwords⟩
          rw [if_pos hversion]
          rfl
        next => rfl

/-- The result of a parse that is accepted: what stands behind the header, if it is not read. -/
def resultOf (error : RtspError) : RtspError :=
  if error.info.length > 2 ∧ error.info.getLast? = some '$' then error else {}

theorem resultOf_code {error : RtspError} (h : error.code = .ok) : (resultOf error).code = .ok := by
  rw [resultOf]
  split
  · exact h
  · rfl

theorem parse_accepted (h : ¬ Refuses r.tokens text) {status reason : Text} {rest : List Text}
    (hwords : firstWords text = rtspVersionText :: status :: reason :: rest) :
    (r.parse text).2 = resultOf (parsedBehind r.tokens r.body text).error ∧
      (r.parse text).1.cSeq =
        ((Tokens.find? (allFields r.tokens text) rtspTokenCseq).map atoi).getD r.cSeq ∧
      (r.parse text).1.status = atoi status ∧
      (r.parse text).1.tokens = allFields r.tokens text ∧
      (r.parse text).1.body =
        r.body ++ (parseBody (behindHeader text) (allFields r.tokens text) []).2 := by
  obtain ⟨hshort, h⟩ := not_or.mp h
  obtain ⟨hok, h⟩ := not_or.mp h
  obtain ⟨hne, -⟩ := not_or.mp h
  have hcode : ¬ (parsedBehind r.tokens r.body text).error.code ≠ .ok :=
    refusesTogether_iff.not.mpr hok
  have hgood : ¬ ((parsedBehind r.tokens r.body text).error.code ≠ .ok ∨
      (parsedBehind r.tokens r.body text).firstLine.length < 2 ∨
      (parsedBehind r.tokens r.body text).header = []) := by
    rintro (hcode' | htwo | hnil)
    · exact hcode hcode'
    · rw [parsedBehind, hwords] at htwo
      simp only [List.length_cons] at htwo
      omega
    · exact hne (allFields_eq_nil.mp hnil)
  have hfirst : (parsedBehind r.tokens r.body text).firstLine =
      rtspVersionText :: status :: reason :: rest := hwords
  have hset := setTokens_projections { r with
    status := atoi status, tokens := allFields r.tokens text
    body := r.body ++ (parseBody (behindHeader text) (allFields r.tokens text) []).2 }
  rw [parse_long hshort, take, if_neg hgood, hfirst]
  simp only [ne_eq, not_true, if_false]
  by_cases hinfo : (parsedBehind r.tokens r.body text).error.info.length > 2 ∧
      (parsedBehind r.tokens r.body text).error.info.getLast? = some '$'
  · rw [if_pos hinfo, resultOf, if_pos hinfo]
    exact ⟨rfl, hset⟩
  · rw [if_neg hinfo, resultOf, if_neg hinfo]
    exact ⟨rfl, hset⟩

theorem refuses_congr {tokens : Tokens} (h : Tokens.Same (allFields tokens text) (ownFields text))
    (hown : ¬ Refuses [] text) : ¬ Refuses tokens text := by
  rintro (hshort | hbody | ⟨-, hnil⟩ | hfirst)
  · exact hown (.inl hshort)
  · exact hown (.inr (.inl ((refusesTogether_congr h).mp hbody)))
  · exact hown (.inr (.inr (.inl ⟨rfl, hnil⟩)))
  · exact hown (.inr (.inr (.inr hfirst)))

theorem parsesAfresh_refused (hown : Refuses [] text) :
    r.ParsesAfresh text ↔ Refuses r.tokens text ∧ r.status = 200 ∧ r.cSeq = 0 := by
  have hfresh := parse_refused (r := {}) hown
  constructor
  · intro h
    have hrefuses : Refuses r.tokens text := by
      by_contra hnot
      obtain ⟨status, reason, rest, hwords⟩ : IsFirstLine (firstWords text) :=
        by_contra fun hno => hnot (.inr (.inr (.inr hno)))
      have hcode : (parsedBehind r.tokens r.body text).error.code = .ok :=
        not_not.mp (refusesTogether_iff.not.mpr fun h => hnot (.inr (.inl h)))
      have hresult := h.result
      rw [(parse_accepted hnot hwords).1, hfresh] at hresult
      have hok := resultOf_code hcode
      rw [hresult] at hok
      cases hok
    have hstatus := h.status
    have hcSeq := h.cSeq
    rw [parse_refused hrefuses, hfresh] at hstatus hcSeq
    exact ⟨hrefuses, hstatus, hcSeq⟩
  · rintro ⟨hrefuses, hstatus, hcSeq⟩
    have hr := parse_refused hrefuses
    refine ⟨?_, ?_, ?_, ?_, ?_, fun _ => ?_⟩
    · rw [hr, hfresh]
    · rw [hr, hfresh]
      exact hstatus
    · rw [hr, hfresh]
      exact hcSeq
    · rw [hr, hfresh]
      exact fun _ => rfl
    · rw [hr, hfresh]
      rfl
    · rw [hr]
      exact ⟨rfl, rfl⟩

theorem parsesAfresh_accepted (hown : ¬ Refuses [] text) :
    r.ParsesAfresh text ↔ AddsNothing r.tokens r.body r.cSeq text := by
  obtain ⟨status, reason, rest, hwords⟩ : IsFirstLine (firstWords text) :=
    by_contra fun hno => hown (.inr (.inr (.inr hno)))
  obtain ⟨hresult, hcSeq, hstatus, htokens, hbody⟩ := parse_accepted (r := {}) hown hwords
  have hcode : (parsedBehind [] [] text).error.code = .ok :=
    not_not.mp (refusesTogether_iff.not.mpr fun h => hown (.inr (.inl h)))
  rw [addsNothing_iff]
  constructor
  · intro h
    have haccepts : ¬ Refuses r.tokens text := by
      intro hrefuses
      have hsame := h.result
      rw [parse_refused hrefuses, hresult] at hsame
      have hok := resultOf_code hcode
      rw [← hsame] at hok
      cases hok
    obtain ⟨-, hcSeq', -, htokens', hbody'⟩ := parse_accepted haccepts hwords
    have hsame := h.tokens
    have hbodies := h.body
    have hcSeqs := h.cSeq
    rw [htokens', htokens] at hsame
    rw [hbody', hbody] at hbodies
    rw [hcSeq', hcSeq] at hcSeqs
    exact ⟨hsame, hbodies, hcSeqs⟩
  · rintro ⟨hsame, hbodies, hcSeqs⟩
    obtain ⟨hresult', hcSeq', hstatus', htokens', hbody'⟩ :=
      parse_accepted (refuses_congr hsame hown) hwords
    have herror : (parsedBehind r.tokens r.body text).error = (parsedBehind [] [] text).error :=
      congrArg Prod.fst (parseBody_congr (hsame _) (hsame _))
    have hok := resultOf_code hcode
    refine ⟨?_, ?_, ?_, ?_, ?_, fun hfail => ?_⟩
    · rw [hresult', hresult, herror]
    · rw [hstatus', hstatus]
    · rw [hcSeq', hcSeq]
      exact hcSeqs
    · rw [htokens', htokens]
      exact hsame
    · rw [hbody', hbody]
      exact hbodies
    · rw [hresult', herror] at hfail
      exact absurd hok hfail

theorem parsesAfresh_iff (r : RtspResponse) (text : Text) :
    r.ParsesAfresh text ↔ r.ReadyFor text := by
  by_cases hown : Refuses [] text
  · rw [parsesAfresh_refused hown]
    exact ⟨fun h => ⟨fun _ => h, fun h' => absurd hown h'⟩, fun h => h.1 hown⟩
  · rw [parsesAfresh_accepted hown]
    exact ⟨fun h => ⟨fun h' => absurd h' hown, fun _ => h⟩, fun h => h.2 hown⟩

end RtspResponse

/-- Which objects parse a text as a new object does. -/
theorem parse_afresh_iff (request : RtspRequest) (response : RtspResponse) (text : Text) :
    (request.ParsesAfresh text ↔ request.ReadyFor text) ∧
      (response.ParsesAfresh text ↔ response.ReadyFor text) :=
  ⟨request.parsesAfresh_iff text, response.parsesAfresh_iff text⟩

/-- A second request gets the sequence number of the first. -/
theorem secondRequest_not_afresh :
    ¬ ((∀ (r : RtspRequest) text, r.ParsesAfresh text) ∧
      ∀ (r : RtspResponse) text, r.ParsesAfresh text) := by
  rintro ⟨h, -⟩
  have hcSeq := (h (({} : RtspRequest).parse
    "OPTIONS * RTSP/1.0\r\nCSeq: 1\r\n\r\n".toList).1
    "OPTIONS * RTSP/1.0\r\nCSeq: 2\r\n\r\n".toList).cSeq
  revert hcSeq
  decide +kernel

end WifiDisplay
