import WifiDisplay.Base64
import WifiDisplay.MediaDescription
import WifiDisplay.RtspCommon
import WifiDisplay.TextSplit

/-! `MediaDescription`: the parameter sets in an attribute, which a call parses when it does not
have what it is asked for. -/

namespace WifiDisplay

/-- The attributes as their bytes. -/
structure MediaDescription where
  mediaType : Text := []
  attributes : List (List Byte) := []
  sps : List Byte := []
  pps : List Byte := []

inductive VideoCall where
  | getVideoSps
  | getVideoPps
  | getVideoSize
  deriving DecidableEq, Repr

inductive VideoAnswer where
  | bytes (bytes : List Byte)
  | size (size : Except SpsFault (Int × Int))

namespace MediaDescription

open TextSplit (breakOn)
open Base64 (decode)

def ascii (s : String) : List Byte := s.toList.map fun c => BitVec.ofNat 8 c.toNat

def spropKey : List Byte := ascii "sprop-parameter-sets="

def maxAttributeLength : Nat := 2000

def comma : Byte := 0x2C

def semicolon : Byte := 0x3B

/-- A round of `ParseSpsPps`. What is found is appended, and the PPS is all that follows the
comma. -/
def parseAttribute (signed : Bool) (m : MediaDescription) (a : List Byte) :
    Except Fault MediaDescription :=
  if maxAttributeLength < a.length then .ok m
  else match breakOn spropKey a with
    | none => .ok m
    | some (_, spsPps) =>
      match breakOn [comma] spsPps with
      | none => .ok m
      | some (spsBase64, ppsBase64) => do
        let sps ← decode signed spsBase64
        let pps ← decode signed ppsBase64
        return { m with sps := m.sps ++ sps, pps := m.pps ++ pps }

def parseSpsPps (signed : Bool) (m : MediaDescription) : Except Fault MediaDescription :=
  m.attributes.foldlM (parseAttribute signed) m

def getVideoSps (signed : Bool) (m : MediaDescription) :
    Except Fault (List Byte × MediaDescription) := do
  if m.mediaType ≠ "video".toList then
    return ([], m)
  let m ← if m.sps = [] then parseSpsPps signed m else pure m
  return (m.sps, m)

def getVideoPps (signed : Bool) (m : MediaDescription) :
    Except Fault (List Byte × MediaDescription) := do
  if m.mediaType ≠ "video".toList then
    return ([], m)
  let m ← if m.pps = [] then parseSpsPps signed m else pure m
  return (m.pps, m)

def answer (signed : Bool) (m : MediaDescription) :
    VideoCall → Except Fault (VideoAnswer × MediaDescription)
  | .getVideoSps => do
    let (sps, m) ← getVideoSps signed m
    return (.bytes sps, m)
  | .getVideoPps => do
    let (pps, m) ← getVideoPps signed m
    return (.bytes pps, m)
  | .getVideoSize => do
    let (sps, m) ← getVideoSps signed m
    return (.size (getVideoSize sps), m)

/-- What calls return, one after the other. -/
def answers (signed : Bool) : MediaDescription → List VideoCall → Except Fault (List VideoAnswer)
  | _, [] => .ok []
  | m, call :: calls => do
    let (first, m) ← answer signed m call
    return first :: (← answers signed m calls)

/-- An attribute with the parameter among others. Only the parameter itself contains its name,
and behind it stands nothing or a semicolon. -/
structure SpropLine where
  front : List Byte
  sps : List Byte
  pps : List Byte
  behind : List Byte
  front_other : breakOn spropKey (front ++ spropKey) = some (front, [])
  behind_other : behind = [] ∨ behind.head? = some semicolon

namespace SpropLine

def text (line : SpropLine) : List Byte :=
  line.front ++ spropKey ++
    (Base64Format.encode line.sps ++ [comma] ++ (Base64Format.encode line.pps ++ line.behind))

/-- The attributes of a video, of which no other one has the parameter. -/
def description (line : SpropLine) (before after : List (List Byte)) : MediaDescription where
  mediaType := "video".toList
  attributes := before ++ line.text :: after

def right (line : SpropLine) : VideoCall → VideoAnswer
  | .getVideoSps => .bytes line.sps
  | .getVideoPps => .bytes line.pps
  | .getVideoSize => .size (getVideoSize line.sps)

/-- What is behind the parameter does not change the PPS. It leaves the length a multiple of four,
and the padding of the PPS or two characters that are no letters end the decoding. -/
def BehindHarmless (line : SpropLine) : Prop :=
  if line.behind.length % 4 ≠ 0 then line.pps = []
  else line.behind = [] ∨ line.pps.length % 3 ≠ 0 ∨
    (∀ c ∈ line.behind.take 4, c.msb = false) ∧ ∀ c ∈ line.behind.take 2, c ∉ Base64Format.alphabet

/-- The attribute is not skipped and the PPS ends with it, and no call parses it again. -/
def Kept (line : SpropLine) : Prop :=
  if maxAttributeLength < line.text.length then line.sps = [] ∧ line.pps = []
  else (line.sps = [] ↔ line.pps = []) ∧ line.BehindHarmless

end SpropLine

theorem SpropLine.Kept.nil_iff {line : SpropLine} (hkept : line.Kept) :
    line.sps = [] ↔ line.pps = [] := by
  rw [SpropLine.Kept] at hkept
  split at hkept
  · exact iff_of_true hkept.1 hkept.2
  · exact hkept.1

theorem answers_cons {signed : Bool} {m m' : MediaDescription} {call : VideoCall} {first : VideoAnswer}
    (hanswer : answer signed m call = .ok (first, m')) (calls : List VideoCall) :
    answers signed m (call :: calls) = (answers signed m' calls).map (first :: ·) := by
  rw [answers, hanswer]
  rfl

section Parse

variable {signed : Bool} {line : SpropLine} {before after : List (List Byte)}

theorem decode_behind_iff (line : SpropLine) :
    decode signed (Base64Format.encode line.pps ++ line.behind) = .ok line.pps ↔
      line.BehindHarmless := by
  have hlength := Base64Format.length_encode line.pps
  rw [decode, SpropLine.BehindHarmless, List.length_append, hlength]
  by_cases hfour : line.behind.length % 4 ≠ 0
  · rw [if_pos (by omega), if_pos hfour, Except.ok.injEq, eq_comm]
  rw [if_neg (by omega), if_neg hfour, Base64.decodeLoop_encode_append]
  by_cases hthree : line.pps.length % 3 = 0
  · have hmap : (Base64.decodeLoop signed line.behind).map (line.pps ++ ·) = .ok line.pps ↔
        Base64.decodeLoop signed line.behind = .ok [] := by
      cases Base64.decodeLoop signed line.behind <;> simp [Except.map]
    rw [if_pos hthree, hmap, or_iff_right (not_not.mpr hthree)]
    by_cases hnil : line.behind = []
    · rw [hnil]
      exact iff_of_true (by rw [Base64.decodeLoop]; rintro _ _ _ _ _ ⟨⟩) (.inl rfl)
    · have hpos := List.length_pos_iff.mpr hnil
      rw [or_iff_right hnil, Base64.decodeLoop_eq_nil_iff (by omega)]
  · rw [if_neg hthree]
    exact iff_of_true rfl (.inr (.inl hthree))

theorem parseAttribute_other {a : List Byte} (ha : breakOn spropKey a = none) (m : MediaDescription) :
    parseAttribute signed m a = .ok m := by
  rw [parseAttribute, ha]
  exact ite_self _

theorem foldlM_other {l : List (List Byte)} (hl : ∀ a ∈ l, breakOn spropKey a = none)
    (m : MediaDescription) : l.foldlM (parseAttribute signed) m = .ok m := by
  induction l with
  | nil => rfl
  | cons a l ih =>
    rw [List.foldlM_cons, parseAttribute_other (hl a List.mem_cons_self)]
    exact ih fun a ha => hl a (List.mem_cons_of_mem _ ha)

theorem breakOn_text (line : SpropLine) : breakOn spropKey line.text =
    some (line.front, Base64Format.encode line.sps ++ [comma] ++
      (Base64Format.encode line.pps ++ line.behind)) := by
  have hfirst := TextSplit.breakOn_append line.front_other (Base64Format.encode line.sps ++ [comma] ++
    (Base64Format.encode line.pps ++ line.behind))
  rw [List.nil_append] at hfirst
  exact hfirst

theorem comma_not_mem_encode (bytes : List Byte) : comma ∉ Base64Format.encode bytes := by
  intro h
  rcases Base64Format.mem_encode h with h | h
  · exact absurd h (by decide +kernel)
  · exact absurd h (by decide)

theorem parseAttribute_text (m : MediaDescription) : parseAttribute signed m line.text =
    if maxAttributeLength < line.text.length then .ok m
    else (decode signed (Base64Format.encode line.pps ++ line.behind)).map fun pps =>
      { m with sps := m.sps ++ line.sps, pps := m.pps ++ pps } := by
  rw [parseAttribute, breakOn_text]
  dsimp only
  rw [TextSplit.breakOn_piece (comma_not_mem_encode _)]
  dsimp only
  rw [Base64.decode_encode]
  cases decode signed (Base64Format.encode line.pps ++ line.behind) <;> rfl

/-- What the object holds besides its attributes. -/
def SpropLine.state (line : SpropLine) (before after : List (List Byte)) (sps pps : List Byte) :
    MediaDescription :=
  { line.description before after with sps := sps, pps := pps }

theorem getVideoSps_state (sps pps : List Byte) :
    getVideoSps signed (line.state before after sps pps) =
      if sps = [] then (parseSpsPps signed (line.state before after sps pps)).map fun m => (m.sps, m)
      else .ok (sps, line.state before after sps pps) := by
  have hvideo : ¬ (line.state before after sps pps).mediaType ≠ "video".toList := not_not.mpr rfl
  rw [getVideoSps, if_neg hvideo]
  show (if sps = [] then _ else _) = _
  split
  · cases parseSpsPps signed (line.state before after sps pps) <;> rfl
  · rfl

theorem getVideoPps_state (sps pps : List Byte) :
    getVideoPps signed (line.state before after sps pps) =
      if pps = [] then (parseSpsPps signed (line.state before after sps pps)).map fun m => (m.pps, m)
      else .ok (pps, line.state before after sps pps) := by
  have hvideo : ¬ (line.state before after sps pps).mediaType ≠ "video".toList := not_not.mpr rfl
  rw [getVideoPps, if_neg hvideo]
  show (if pps = [] then _ else _) = _
  split
  · cases parseSpsPps signed (line.state before after sps pps) <;> rfl
  · rfl

variable (hbefore : ∀ a ∈ before, breakOn spropKey a = none)
  (hafter : ∀ a ∈ after, breakOn spropKey a = none)

include hbefore hafter

theorem parseSpsPps_state (sps pps : List Byte) :
    parseSpsPps signed (line.state before after sps pps) =
      if maxAttributeLength < line.text.length then .ok (line.state before after sps pps)
      else (decode signed (Base64Format.encode line.pps ++ line.behind)).map fun parsed =>
        line.state before after (sps ++ line.sps) (pps ++ parsed) := by
  rw [parseSpsPps]
  show (before ++ line.text :: after).foldlM (parseAttribute signed) _ = _
  rw [List.foldlM_append, foldlM_other hbefore]
  show (line.text :: after).foldlM (parseAttribute signed) _ = _
  rw [List.foldlM_cons, parseAttribute_text]
  split
  · exact foldlM_other hafter _
  · cases decode signed (Base64Format.encode line.pps ++ line.behind) with
    | error fault => rfl
    | ok parsed => exact foldlM_other hafter _

/-- A parse of the attributes from the start gets both. -/
theorem parseSpsPps_kept (hkept : line.Kept) :
    parseSpsPps signed (line.state before after [] []) =
      .ok (line.state before after line.sps line.pps) := by
  rw [SpropLine.Kept] at hkept
  rw [parseSpsPps_state hbefore hafter]
  split
  · rename_i hlong
    rw [if_pos hlong] at hkept
    rw [hkept.1, hkept.2]
  · rename_i hshort
    rw [if_neg hshort, ← decode_behind_iff] at hkept
    rw [hkept.2]
    rfl

theorem getVideoSps_kept (hkept : line.Kept) {sps pps : List Byte}
    (hstate : sps = [] ∧ pps = [] ∨ sps = line.sps ∧ pps = line.pps) :
    getVideoSps signed (line.state before after sps pps) =
      .ok (line.sps, line.state before after line.sps line.pps) := by
  have hparse := @parseSpsPps_kept signed line before after hbefore hafter hkept
  have hempty := hkept.nil_iff
  rw [getVideoSps_state]
  by_cases hsps : sps = []
  · have hfresh : sps = [] ∧ pps = [] := by
      rcases hstate with hfresh | ⟨rfl, rfl⟩
      · exact hfresh
      · exact ⟨hsps, hempty.mp hsps⟩
    obtain ⟨rfl, rfl⟩ := hfresh
    rw [if_pos rfl, hparse]
    rfl
  · obtain ⟨rfl, rfl⟩ := hstate.resolve_left fun h => hsps h.1
    rw [if_neg hsps]

theorem getVideoPps_kept (hkept : line.Kept) {sps pps : List Byte}
    (hstate : sps = [] ∧ pps = [] ∨ sps = line.sps ∧ pps = line.pps) :
    getVideoPps signed (line.state before after sps pps) =
      .ok (line.pps, line.state before after line.sps line.pps) := by
  have hparse := @parseSpsPps_kept signed line before after hbefore hafter hkept
  have hempty := hkept.nil_iff
  rw [getVideoPps_state]
  by_cases hpps : pps = []
  · have hfresh : sps = [] ∧ pps = [] := by
      rcases hstate with hfresh | ⟨rfl, rfl⟩
      · exact hfresh
      · exact ⟨hempty.mpr hpps, hpps⟩
    obtain ⟨rfl, rfl⟩ := hfresh
    rw [if_pos rfl, hparse]
    rfl
  · obtain ⟨rfl, rfl⟩ := hstate.resolve_left fun h => hpps h.2
    rw [if_neg hpps]

/-- The first call fills the object, and no later one changes it. -/
theorem answer_kept (hkept : line.Kept) {sps pps : List Byte}
    (hstate : sps = [] ∧ pps = [] ∨ sps = line.sps ∧ pps = line.pps) (call : VideoCall) :
    answer signed (line.state before after sps pps) call =
      .ok (line.right call, line.state before after line.sps line.pps) := by
  cases call with
  | getVideoSps =>
    rw [answer, getVideoSps_kept hbefore hafter hkept hstate]
    rfl
  | getVideoPps =>
    rw [answer, getVideoPps_kept hbefore hafter hkept hstate]
    rfl
  | getVideoSize =>
    rw [answer, getVideoSps_kept hbefore hafter hkept hstate]
    rfl

theorem answers_kept (hkept : line.Kept) {sps pps : List Byte}
    (hstate : sps = [] ∧ pps = [] ∨ sps = line.sps ∧ pps = line.pps) (calls : List VideoCall) :
    answers signed (line.state before after sps pps) calls = .ok (calls.map line.right) := by
  induction calls generalizing sps pps with
  | nil => rfl
  | cons call calls ih =>
    rw [answers_cons (answer_kept hbefore hafter hkept hstate call), ih (.inr ⟨rfl, rfl⟩)]
    rfl

theorem behindHarmless_of_answers (hshort : ¬ maxAttributeLength < line.text.length)
    (hright : answers signed (line.description before after) [.getVideoPps] =
      .ok [line.right .getVideoPps]) : line.BehindHarmless := by
  have hparse := @parseSpsPps_state signed line before after hbefore hafter [] []
  rw [if_neg hshort] at hparse
  rw [← @decode_behind_iff signed]
  rw [show line.description before after = line.state before after [] [] from rfl, answers, answer,
    getVideoPps_state, if_pos rfl, hparse] at hright
  cases hdecode : decode signed (Base64Format.encode line.pps ++ line.behind) with
  | error fault =>
    rw [hdecode] at hright
    cases hright
  | ok pps =>
    rw [hdecode] at hright
    have hpps : [VideoAnswer.bytes pps] = [line.right .getVideoPps] := Except.ok.inj hright
    cases hpps
    rfl

/-- Parsing once more appends once more. -/
theorem nil_iff_of_answers (hshort : ¬ maxAttributeLength < line.text.length)
    (hharmless : line.BehindHarmless)
    (hright : ∀ calls, answers signed (line.description before after) calls =
      .ok (calls.map line.right)) : line.sps = [] ↔ line.pps = [] := by
  have hparse : ∀ sps pps, parseSpsPps signed (line.state before after sps pps) =
      .ok (line.state before after (sps ++ line.sps) (pps ++ line.pps)) := by
    intro sps pps
    rw [parseSpsPps_state hbefore hafter, if_neg hshort, (decode_behind_iff line).mpr hharmless]
    rfl
  rw [show line.description before after = line.state before after [] [] from rfl] at hright
  constructor
  · intro hsps
    have hagain : ∀ pps, answer signed (line.state before after [] pps) .getVideoSps =
        .ok (.bytes [], line.state before after [] (pps ++ line.pps)) := by
      intro pps
      rw [answer, getVideoSps_state, if_pos rfl, hparse, hsps]
      rfl
    by_contra hpps
    have hlast : answer signed (line.state before after [] (line.pps ++ line.pps)) .getVideoPps =
        .ok (.bytes (line.pps ++ line.pps), line.state before after [] (line.pps ++ line.pps)) := by
      rw [answer, getVideoPps_state, if_neg (by simpa using hpps)]
      rfl
    have htwice := hright [.getVideoSps, .getVideoSps, .getVideoPps]
    rw [answers_cons (hagain []), answers_cons (hagain _), List.nil_append, answers_cons hlast] at htwice
    simp [answers, Except.map, SpropLine.right, hpps] at htwice
  · intro hpps
    have hagain : ∀ sps, answer signed (line.state before after sps []) .getVideoPps =
        .ok (.bytes [], line.state before after (sps ++ line.sps) []) := by
      intro sps
      rw [answer, getVideoPps_state, if_pos rfl, hparse, hpps]
      rfl
    by_contra hsps
    have hlast : answer signed (line.state before after (line.sps ++ line.sps) []) .getVideoSps =
        .ok (.bytes (line.sps ++ line.sps), line.state before after (line.sps ++ line.sps) []) := by
      rw [answer, getVideoSps_state, if_neg (by simpa using hsps)]
      rfl
    have htwice := hright [.getVideoPps, .getVideoPps, .getVideoSps]
    rw [answers_cons (hagain []), answers_cons (hagain _), List.nil_append, answers_cons hlast] at htwice
    simp [answers, Except.map, SpropLine.right, hsps] at htwice

/-- A skipped attribute gives nothing. -/
theorem nil_of_answers (hlong : maxAttributeLength < line.text.length)
    (hright : ∀ calls, answers signed (line.description before after) calls =
      .ok (calls.map line.right)) : line.sps = [] ∧ line.pps = [] := by
  have hparse := @parseSpsPps_state signed line before after hbefore hafter [] []
  rw [if_pos hlong] at hparse
  have hsps : answer signed (line.state before after [] []) .getVideoSps =
      .ok (.bytes [], line.state before after [] []) := by
    rw [answer, getVideoSps_state, if_pos rfl, hparse]
    rfl
  have hpps : answer signed (line.state before after [] []) .getVideoPps =
      .ok (.bytes [], line.state before after [] []) := by
    rw [answer, getVideoPps_state, if_pos rfl, hparse]
    rfl
  have hboth := hright [.getVideoSps, .getVideoPps]
  rw [show line.description before after = line.state before after [] [] from rfl, answers_cons hsps,
    answers_cons hpps] at hboth
  simp only [answers, Except.map, Except.ok.injEq, List.map_cons, List.cons.injEq, SpropLine.right,
    VideoAnswer.bytes.injEq] at hboth
  exact ⟨hboth.1.symm, hboth.2.1.symm⟩

/-- The calls return what the parameter has exactly if the attribute is not skipped, the PPS ends
where the parameter does and there is something of both or of neither. -/
theorem answers_right_iff :
    (∀ calls, answers signed (line.description before after) calls = .ok (calls.map line.right)) ↔
      line.Kept := by
  constructor
  · intro hright
    rw [SpropLine.Kept]
    split
    · exact nil_of_answers hbefore hafter ‹_› hright
    · have hharmless := behindHarmless_of_answers hbefore hafter ‹_› (hright [.getVideoPps])
      exact ⟨nil_iff_of_answers hbefore hafter ‹_› hharmless hright, hharmless⟩
  · intro hkept calls
    exact answers_kept hbefore hafter hkept (.inl ⟨rfl, rfl⟩) calls

end Parse

/-- The line of the unit tests, with something else behind the parameter. -/
def testLine (behind : List Byte) (hbehind : behind = [] ∨ behind.head? = some semicolon) :
    SpropLine where
  front := ascii "fmtp:96 profile-level-id=4D4015;"
  sps := [0x67, 0x4D, 0x40, 0x15, 0x96, 0x56, 0x0B, 0x04, 0x9B, 0x08, 0x48, 0x80, 0x00, 0x01, 0xF4, 0x00,
    0x00, 0x30, 0xD4, 0x30, 0x60, 0x00, 0x73, 0xF6, 0x00, 0xE8, 0x35, 0x70, 0x00, 0x50]
  pps := [0x68, 0xEF, 0x3C, 0x80]
  behind := behind
  front_other := by decide +kernel
  behind_other := hbehind

theorem answers_right_testLine :
    answers false ((testLine [] (.inl rfl)).description [] []) [.getVideoPps, .getVideoSps] =
      .ok ([VideoCall.getVideoPps, .getVideoSps].map (testLine [] (.inl rfl)).right) := by
  have hkept : (testLine [] (.inl rfl)).Kept := by
    rw [SpropLine.Kept, if_neg (by decide +kernel)]
    refine ⟨by decide +kernel, ?_⟩
    rw [SpropLine.BehindHarmless, if_neg (by decide +kernel)]
    exact .inl rfl
  exact (@answers_right_iff false (testLine [] (.inl rfl)) [] [] (by simp) (by simp)).mpr hkept _

/-- The parameter behind the parameter sets leaves the length of the text no multiple of four. -/
theorem testLine_pps_lost :
    ¬ ∀ (line : SpropLine) (before after : List (List Byte)),
      (∀ a ∈ before, breakOn spropKey a = none) → (∀ a ∈ after, breakOn spropKey a = none) →
      ∀ signed calls,
        answers signed (line.description before after) calls = .ok (calls.map line.right) := by
  intro hall
  have hright := hall (testLine (ascii ";packetization-mode=1") (.inr rfl)) [] [] (by simp) (by simp)
    false [.getVideoPps]
  have hharmless := @behindHarmless_of_answers false _ [] [] (by simp) (by simp) (by decide +kernel) hright
  rw [SpropLine.BehindHarmless, if_pos (by decide +kernel)] at hharmless
  exact absurd hharmless (by decide +kernel)

end MediaDescription

end WifiDisplay
