import WifiDisplay.DataBufferContents
import WifiDisplay.GuardedRuns

/-! Runs of calls on many `DataBuffer` objects beside runs on lists of bytes. -/

namespace WifiDisplay

namespace BufferCall

/-- The object that the call is made on. -/
def object : BufferCall → Nat
  | construct i _ | copyConstruct i _ | moveConstruct i _ | assign i _ | moveAssign i _ | resize i _
  | setCapacity i _ | pushData i _ | replaceData i _ | updateSize i _ | setSize i _ | clear i => i

/-- The object that a move empties. -/
def movedFrom : BufferCall → Option Nat
  | moveConstruct _ j | moveAssign _ j => some j
  | _ => none

end BufferCall

namespace Buffers

open Function (update)
open DataBuffer (Valid Kept Follows maxCapacity given PushNeeds ReplaceNeeds)

variable {s s' : Buffers} {memory : Memory} {call : BufferCall} {i j : Nat} {b' : DataBuffer}

/-- What a list of bytes holds after the call. Each function says no more to it than which bytes it
is to hold; a size that grows inside the capacity shows bytes that nobody has written. -/
def Holds (s : Buffers) : BufferCall → List Byte → Prop
  | .construct _ _, bytes | .clear _, bytes => bytes = []
  | .copyConstruct _ j, bytes | .moveConstruct _ j, bytes | .assign _ j, bytes
  | .moveAssign _ j, bytes => bytes = (s j).contents
  | .resize i size, bytes =>
    bytes = if 0 < size.toInt ∧ size.toInt ≤ maxCapacity then
      (s i).contents.take size.toInt.toNat else (s i).contents
  | .setCapacity i capacity, bytes => bytes = if 0 < capacity.toInt then [] else (s i).contents
  | .pushData i src, bytes => bytes = (s i).contents ++ given src
  | .replaceData i src, bytes => bytes = (s i).replaced src
  | .updateSize i size, bytes | .setSize i size, bytes =>
    if 0 ≤ size.toInt ∧ size.toInt ≤ (s i).capacity then
      bytes.length = size.toInt.toNat ∧
        bytes.take (s i).contents.length = (s i).contents.take bytes.length
    else bytes = (s i).contents

/-- A call that asks for memory. -/
def Allocates (s : Buffers) : BufferCall → Prop
  | .construct _ size => 0 < size.toInt ∧ size.toInt ≤ maxCapacity
  | .copyConstruct _ j => (s j).size ≠ 0
  | .assign i j => i ≠ j ∧ (s j).size ≠ 0
  | .resize i size => 0 < size.toInt ∧ size.toInt ≤ maxCapacity ∧ size.toInt ≠ (s i).capacity
  | .setCapacity _ capacity => 0 < capacity.toInt
  | .pushData i src => (s i).PushNeeds src
  | .replaceData i src => (s i).ReplaceNeeds src
  | _ => False

/-- The object that a call starts from; a constructor starts from an empty one. -/
def before (s : Buffers) : BufferCall → DataBuffer
  | .construct _ _ | .copyConstruct _ _ | .moveConstruct _ _ => {}
  | call => s call.object

/-- After the call every object is well formed; the object of the call holds what a list of bytes
would, or is as it was where there was no memory, and the others are left alone. -/
structure Refines (s : Buffers) (memory : Memory) (call : BufferCall) (s' : Buffers) : Prop where
  valid : ∀ k, (s' k).Valid
  kept : memory = none → s.Allocates call → Kept (s.before call) (s' call.object)
  holds : ¬ (memory = none ∧ s.Allocates call) → s.Holds call (s' call.object).contents
  others : ∀ k, k ≠ call.object → s' k = if call.movedFrom = some k then {} else s k

/-- The condition on a call: it does not come to one of the places where an object loses bytes or
takes a size that its block does not have. -/
def Safe (s : Buffers) (memory : Memory) : BufferCall → Prop
  | .copyConstruct _ j => (s j).size < 2 ^ 31 - 1 ∨ memory = none
  | .assign i j => i = j ∨ (s i).contents = (s j).contents ∨
      (s j).size ≠ 0 ∧ ((s j).size < 2 ^ 31 - 1 ∨ memory = none)
  | .resize i size => 0 < size.toInt → size.toInt ≤ maxCapacity → size.toInt < (s i).capacity →
      memory ≠ none ∧ (s i).contents = []
  | .setCapacity i capacity => 0 < capacity.toInt → memory ≠ none ∨ (s i).capacity = 0
  | .pushData i src => DataBuffer.PushFits memory (s i) src
  | .replaceData i src => DataBuffer.ReplaceFits memory (s i) src
  | .updateSize _ size => 0 ≤ size.toInt
  | _ => True

theorem refines_update_iff (hs : ∀ k, (s k).Valid) (hmoved : call.movedFrom = none) :
    s.Refines memory call (update s call.object b') ↔
      Follows (memory = none ∧ s.Allocates call) (s.before call) (s.Holds call) b' := by
  constructor
  · rintro ⟨hvalid, hkept, hholds, -⟩
    have hb' := hvalid call.object
    simp only [Function.update_self] at hb' hkept hholds
    exact ⟨hb', fun h => hkept h.1 h.2, hholds⟩
  · rintro ⟨hb', hkept, hholds⟩
    refine ⟨fun k => ?_, fun hmemory h => ?_, fun h => ?_, fun k hk => ?_⟩
    · by_cases hk : k = call.object
      · subst hk
        rwa [Function.update_self]
      · rw [Function.update_of_ne hk]
        exact hs k
    · rw [Function.update_self]
      exact hkept ⟨hmemory, h⟩
    · rw [Function.update_self]
      exact hholds h
    · rw [Function.update_of_ne hk, hmoved, if_neg (by simp)]

theorem refines_move (hs : ∀ k, (s k).Valid) (hobject : call.object = i)
    (hmoved : call.movedFrom = some j) (hholds : s.Holds call (s j).contents)
    (hallocates : ¬ s.Allocates call) :
    s.Refines memory call (update (update s j {}) i (s j)) := by
  subst hobject
  refine ⟨fun k => ?_, fun _ h => absurd h hallocates, fun _ => ?_, fun k hk => ?_⟩
  · by_cases hk : k = call.object
    · subst hk
      rw [Function.update_self]
      exact hs j
    · rw [Function.update_of_ne hk]
      by_cases hj : k = j
      · subst hj
        rw [Function.update_self]
        exact DataBuffer.valid_empty
      · rw [Function.update_of_ne hj]
        exact hs k
  · rwa [Function.update_self]
  · rw [Function.update_of_ne hk, hmoved]
    by_cases hj : k = j
    · subst hj
      rw [Function.update_self, if_pos rfl]
    · rw [Function.update_of_ne hj, if_neg (by simpa using Ne.symm hj)]

/-- A size inside the capacity. -/
theorem holds_size (hb : (s i).Valid) {n : Int} (hn : 0 ≤ n) (hle : n ≤ (s i).capacity) :
    { s i with size := n }.contents.length = n.toNat ∧
      { s i with size := n }.contents.take (s i).contents.length =
        (s i).contents.take { s i with size := n }.contents.length := by
  have hvalid : DataBuffer.Valid { s i with size := n } := ⟨hn, hle, hb.capacity_le, hb.capacity_lt⟩
  have hsize := hb.contents_length_toNat
  have hsize' := hvalid.contents_length_toNat
  refine ⟨hsize', ?_⟩
  rw [hsize, hsize', DataBuffer.contents, DataBuffer.contents, List.take_take, List.take_take,
    min_comm]

theorem step_refines_iff (hs : ∀ k, (s k).Valid) (memory : Memory) (call : BufferCall) :
    ∃ s', s.step memory call = .ok s' ∧ (s.Refines memory call s' ↔ s.Safe memory call) := by
  cases call with
  | construct i size =>
    obtain ⟨b', hb', hfollows⟩ := DataBuffer.construct_follows memory (Int32.toInt_lt size)
    refine ⟨update s i b', by rw [step, hb']; rfl, ?_⟩
    exact iff_of_true ((refines_update_iff hs rfl).mpr hfollows) trivial
  | copyConstruct i j =>
    obtain ⟨b', hb', hiff⟩ := @DataBuffer.copyConstruct_follows_iff (s j) memory (hs j)
    exact ⟨update s i b', by rw [step, hb']; rfl, (refines_update_iff hs rfl).trans hiff⟩
  | moveConstruct i j =>
    exact ⟨_, rfl, iff_of_true (refines_move hs rfl rfl rfl id) trivial⟩
  | moveAssign i j =>
    exact ⟨_, rfl, iff_of_true (refines_move hs rfl rfl rfl id) trivial⟩
  | assign i j =>
    by_cases hij : i = j
    · subst hij
      refine ⟨s, by rw [step, if_pos rfl], iff_of_true ?_ (.inl rfl)⟩
      have hfollows : Follows (memory = none ∧ s.Allocates (.assign i i)) (s i)
          (s.Holds (.assign i i)) (s i) := ⟨hs i, fun _ => Kept.refl _, fun _ => rfl⟩
      have hrefines := (@refines_update_iff s memory (.assign i i) (s i) hs rfl).mpr hfollows
      rwa [show BufferCall.object (.assign i i) = i from rfl, Function.update_eq_self] at hrefines
    · obtain ⟨b', hb', hiff⟩ := @DataBuffer.assign_follows_iff (s i) (s j) memory (hs i) (hs j)
      refine ⟨update s i b', by rw [step, if_neg hij, hb']; rfl, (refines_update_iff hs rfl).trans ?_⟩
      simp only [Allocates, Safe, hij, ne_eq, not_false_eq_true, true_and, false_or]
      exact hiff
  | resize i size =>
    obtain ⟨b', hb', hiff⟩ := @DataBuffer.resize_follows_iff (s i) memory size.toInt (hs i) (Int32.toInt_lt size)
    exact ⟨update s i b', by rw [step, hb']; rfl, (refines_update_iff hs rfl).trans hiff⟩
  | setCapacity i capacity =>
    exact ⟨_, rfl, (refines_update_iff hs rfl).trans
      (DataBuffer.setCapacity_follows_iff (hs i) (Int32.toInt_lt capacity))⟩
  | pushData i src =>
    obtain ⟨b', hb', hiff⟩ := @DataBuffer.pushData_follows_iff (s i) memory (hs i) src
    exact ⟨update s i b', by rw [step, hb']; rfl, (refines_update_iff hs rfl).trans hiff⟩
  | replaceData i src =>
    obtain ⟨b', hb', hiff⟩ := @DataBuffer.replaceData_follows_iff (s i) memory (hs i) src
    exact ⟨update s i b', by rw [step, hb']; rfl, (refines_update_iff hs rfl).trans hiff⟩
  | updateSize i size =>
    refine ⟨_, rfl, (refines_update_iff hs rfl).trans ?_⟩
    have hsize := (hs i).size_nonneg
    have hle := (hs i).size_le
    constructor
    · rintro ⟨hvalid, -⟩
      have := (DataBuffer.updateSize_valid_iff (hs i)).mp hvalid
      rw [Safe]
      omega
    · intro hnonneg
      refine ⟨(DataBuffer.updateSize_valid_iff (hs i)).mpr (.inl hnonneg), fun h => h.2.elim, fun _ => ?_⟩
      rw [Holds, DataBuffer.updateSize]
      by_cases hfits : size.toInt ≤ (s i).capacity
      · rw [if_pos hfits, if_pos ⟨hnonneg, hfits⟩]
        exact holds_size (hs i) hnonneg hfits
      · rw [if_neg hfits, if_neg fun h => hfits h.2]
  | setSize i size =>
    refine ⟨_, rfl, iff_of_true ((refines_update_iff hs rfl).mpr
      ⟨DataBuffer.setSize_valid (hs i), fun h => h.2.elim, fun _ => ?_⟩) trivial⟩
    rw [Holds, DataBuffer.setSize]
    by_cases hfits : 0 ≤ size.toInt ∧ size.toInt ≤ (s i).capacity
    · rw [if_pos hfits, if_neg (by omega)]
      exact holds_size (hs i) hfits.1 hfits.2
    · rw [if_neg hfits, if_pos (by omega)]
  | clear i =>
    exact ⟨_, rfl, iff_of_true ((refines_update_iff hs rfl).mpr
      ⟨DataBuffer.valid_empty, fun h => h.2.elim, fun _ => rfl⟩) trivial⟩

/-- One call of a run, with what the allocator has for it. -/
def made (s : Except Fault Buffers) (call : Memory × BufferCall) : Except Fault Buffers :=
  s >>= fun s => s.step call.1 call.2

def CallRefines (s : Except Fault Buffers) (call : Memory × BufferCall) : Prop :=
  ∃ before after, s = .ok before ∧ before.step call.1 call.2 = .ok after ∧
    before.Refines call.1 call.2 after

def CallSafe (s : Except Fault Buffers) (call : Memory × BufferCall) : Prop :=
  ∃ before, s = .ok before ∧ before.Safe call.1 call.2

def init : Except Fault Buffers := .ok fun _ => {}

end Buffers

end WifiDisplay
