import WifiDisplay.GuardedRuns
import WifiDisplay.PartialMaps

/-! `EventDescriptorListener` and `EventHandlerManager`: the handlers that listen on descriptors, and
the one handler that the manager remembers for each descriptor. -/

namespace WifiDisplay

/-- `handlerMap` is that of `EventHandlerManager`. Its entries are weak pointers, so an entry outlives
its handler. `listening` is what the handlers keep themselves. -/
structure FdListeners where
  alive : Nat → Bool := fun _ => true
  listening : Nat → Int → Bool := fun _ _ => false
  handlerMap : Int → Option Nat := fun _ => none

/-- `ok` is what `AddFileDescriptorListener` comes to. When a descriptor is closed, so that its number
may be used again, nothing listens on it any more. -/
inductive FdMove where
  | addFdListener (fd : Int) (handler : Option Nat) (ok : Bool)
  | removeFdListener (fd : Int) (handler : Option Nat)
  | destroy (handler : Nat)
  | close (fd : Int)

namespace FdListeners

variable (s : FdListeners)

def getEventHandler (fd : Int) : Option Nat := (s.handlerMap fd).filter s.alive

/-- `insert` leaves the entry of a destroyed handler as it is. -/
def addEventHandler (fd : Int) (handler : Nat) : FdListeners :=
  if (s.getEventHandler fd).isSome then s
  else
    match s.handlerMap fd with
    | some _ => s
    | none => { s with handlerMap := Function.update s.handlerMap fd (some handler) }

def delEventHandler (fd : Int) : FdListeners :=
  { s with handlerMap := Function.update s.handlerMap fd none }

def setListening (handler : Nat) (fd : Int) (listens : Bool) : FdListeners :=
  { s with
    listening := Function.update s.listening handler (Function.update (s.listening handler) fd listens) }

def addFileDescriptorListener (handler : Nat) (fd : Int) (ok : Bool) : FdListeners × Bool :=
  if ok then (s.setListening handler fd true, true) else (s, false)

def removeFileDescriptorListener (handler : Nat) (fd : Int) : FdListeners :=
  s.setListening handler fd false

def addFdListener (fd : Int) (handler : Option Nat) (ok : Bool) : FdListeners × Bool :=
  match handler, s.getEventHandler fd with
  | none, none => (s, false)
  | none, some eventHandler => s.addFileDescriptorListener eventHandler fd ok
  | some eventHandler, _ =>
    (s.addEventHandler fd eventHandler).addFileDescriptorListener eventHandler fd ok

def removeFdListener (fd : Int) (handler : Option Nat) : FdListeners :=
  match handler.or (s.getEventHandler fd) with
  | none => s
  | some eventHandler => (s.removeFileDescriptorListener eventHandler fd).delEventHandler fd

/-- A handler that is given to a call is alive. -/
def step (s : FdListeners) : FdMove → FdListeners
  | .addFdListener fd handler ok =>
    if handler.all s.alive then (s.addFdListener fd handler ok).1 else s
  | .removeFdListener fd handler => if handler.all s.alive then s.removeFdListener fd handler else s
  | .destroy handler => { s with alive := Function.update s.alive handler false }
  | .close fd => { s with listening := fun handler => Function.update (s.listening handler) fd false }

/-- Whenever `RemoveFdListener` is called, with whichever descriptor, no live handler listens on it
any more. -/
def Right : Prop :=
  ∀ fd handler, s.alive handler = true → (s.removeFdListener fd none).listening handler fd = false

/-- A listener goes to a handler only if the manager has no entry for the descriptor, or that very
handler, and another handler is named for its removal only if the remembered one does not listen. -/
def Safe : FdMove → Prop
  | .addFdListener fd (some handler) ok => s.alive handler = true → ok = true →
    s.handlerMap fd = none ∨ s.handlerMap fd = some handler
  | .removeFdListener fd (some handler) => s.alive handler = true →
    ∀ other ∈ s.getEventHandler fd, other ≠ handler → s.listening other fd = false
  | _ => True

/-! What the manager has to remember for a removal to be right. -/

variable {s : FdListeners} {fd : Int} {handler : Nat} {ok : Bool}

def Remembered (s : FdListeners) : Prop :=
  ∀ fd handler, s.alive handler = true → s.listening handler fd = true → s.handlerMap fd = some handler

theorem getEventHandler_eq_some :
    s.getEventHandler fd = some handler ↔ s.handlerMap fd = some handler ∧ s.alive handler = true := by
  rw [getEventHandler, Option.filter_eq_some_iff]

theorem setListening_self (listens : Bool) :
    (s.setListening handler fd listens).listening handler fd = listens := by
  simp [setListening]

theorem setListening_of_ne {handler' : Nat} {fd' : Int} (h : handler' ≠ handler ∨ fd' ≠ fd) (listens : Bool) :
    (s.setListening handler fd listens).listening handler' fd' = s.listening handler' fd' := by
  by_cases hhandler : handler' = handler
  · have hfd := h.resolve_left (not_not_intro hhandler)
    simp [setListening, hhandler, hfd]
  · simp [setListening, hhandler]

theorem right_iff_remembered (s : FdListeners) : s.Right ↔ s.Remembered := by
  refine forall_congr' fun fd => forall_congr' fun handler => imp_congr_right fun halive => ?_
  rw [removeFdListener, Option.none_or]
  cases hget : s.getEventHandler fd with
  | none =>
    have hne : s.handlerMap fd ≠ some handler := by
      intro hmap
      rw [getEventHandler_eq_some.mpr ⟨hmap, halive⟩] at hget
      cases hget
    simp [hne]
  | some eventHandler =>
    obtain ⟨hmap, -⟩ := getEventHandler_eq_some.mp hget
    show (s.setListening eventHandler fd false).listening handler fd = false ↔ _
    by_cases heq : handler = eventHandler
    · simp [heq, hmap, setListening_self]
    · rw [setListening_of_ne (.inl heq), hmap, Option.some.injEq]
      simp [Ne.symm heq]

theorem addEventHandler_eq (s : FdListeners) (fd : Int) (handler : Nat) : s.addEventHandler fd handler =
    { s with handlerMap := Function.update s.handlerMap fd (some ((s.handlerMap fd).getD handler)) } := by
  have hentry {other : Nat} (hmap : s.handlerMap fd = some other) : s =
      { s with handlerMap := Function.update s.handlerMap fd (some ((s.handlerMap fd).getD handler)) } := by
    rw [hmap, Option.getD_some, ← hmap, Function.update_eq_self]
  rw [addEventHandler]
  split
  · rename_i hsome
    obtain ⟨other, hother⟩ := Option.isSome_iff_exists.mp hsome
    exact hentry (getEventHandler_eq_some.mp hother).1
  · split
    · exact hentry ‹_›
    · rename_i hmap
      rw [hmap, Option.getD_none]

theorem addFdListener_some (s : FdListeners) (fd : Int) (handler : Nat) (ok : Bool) :
    s.addFdListener fd (some handler) ok =
      (s.addEventHandler fd handler).addFileDescriptorListener handler fd ok := by
  rw [addFdListener]

/-- An entry more, for a descriptor without one. -/
theorem Remembered.addEventHandler (h : s.Remembered) (fd : Int) (handler : Nat) :
    (s.addEventHandler fd handler).Remembered := by
  rw [addEventHandler_eq]
  intro fd' handler' halive hlistens
  have hmap := h fd' handler' halive hlistens
  by_cases heq : fd' = fd
  · subst heq
    simp [hmap]
  · simpa [Function.update_of_ne heq] using hmap

/-- A listener more, on the handler that the manager remembers for it. -/
theorem Remembered.setListening_iff (h : s.Remembered) (halive : s.alive handler = true) :
    (s.setListening handler fd true).Remembered ↔ s.handlerMap fd = some handler := by
  constructor
  · intro hafter
    exact hafter fd handler halive (setListening_self true)
  · intro hmap fd' handler' halive' hlistens
    show s.handlerMap fd' = some handler'
    by_cases heq : handler' = handler ∧ fd' = fd
    · rw [heq.1, heq.2, hmap]
    · rw [setListening_of_ne (not_and_or.mp heq)] at hlistens
      exact h fd' handler' halive' hlistens

theorem Remembered.addFdListener_iff (h : s.Remembered) (halive : s.alive handler = true) (ok : Bool) :
    (s.addFdListener fd (some handler) ok).1.Remembered ↔
      (ok = true → s.handlerMap fd = none ∨ s.handlerMap fd = some handler) := by
  have hadded := h.addEventHandler fd handler
  have hmap : (s.addEventHandler fd handler).handlerMap fd = some ((s.handlerMap fd).getD handler) := by
    simp [addEventHandler_eq]
  have halive' : (s.addEventHandler fd handler).alive handler = true := by
    rwa [addEventHandler_eq]
  rw [addFdListener_some, addFileDescriptorListener]
  cases ok with
  | false => simpa using hadded
  | true =>
    rw [if_pos rfl, hadded.setListening_iff halive', hmap]
    cases s.handlerMap fd <;> simp

/-- A removal that names a handler leaves the others, and forgets the one it should have named. -/
theorem Remembered.removeFdListener_iff (h : s.Remembered) (handler : Nat) :
    (s.removeFdListener fd (some handler)).Remembered ↔
      ∀ other ∈ s.getEventHandler fd, other ≠ handler → s.listening other fd = false := by
  have hkept {other : Nat} {fd' : Int} (hne : other ≠ handler ∨ fd' ≠ fd) :
      (s.removeFdListener fd (some handler)).listening other fd' = s.listening other fd' :=
    setListening_of_ne hne false
  constructor
  · intro hafter other hother hne
    obtain ⟨-, halive⟩ := getEventHandler_eq_some.mp hother
    by_contra hlistens
    rw [Bool.not_eq_false, ← hkept (.inl hne)] at hlistens
    have hmap : Function.update s.handlerMap fd none fd = some other := hafter fd other halive hlistens
    simp at hmap
  · intro hothers fd' handler' halive hlistens
    show Function.update s.handlerMap fd none fd' = some handler'
    by_cases hfd : fd' = fd
    · subst hfd
      by_cases hhandler : handler' = handler
      · rw [hhandler, show (s.removeFdListener fd' (some handler)).listening handler fd' = false from
          setListening_self false] at hlistens
        cases hlistens
      · rw [hkept (.inl hhandler)] at hlistens
        have hget := getEventHandler_eq_some.mpr ⟨h fd' handler' halive hlistens, halive⟩
        rw [hothers handler' hget hhandler] at hlistens
        cases hlistens
    · rw [hkept (.inr hfd)] at hlistens
      rw [Function.update_of_ne hfd]
      exact h fd' handler' halive hlistens

theorem Remembered.removeFdListener (h : s.Remembered) : (s.removeFdListener fd none).Remembered := by
  cases hget : s.getEventHandler fd with
  | none => simpa [FdListeners.removeFdListener, hget] using h
  | some eventHandler =>
    have hsame : s.removeFdListener fd none = s.removeFdListener fd (some eventHandler) := by
      simp [FdListeners.removeFdListener, hget]
    rw [hsame, h.removeFdListener_iff eventHandler, hget]
    intro other hother hne
    exact absurd (Option.some.inj hother).symm hne

theorem Remembered.step_iff (h : s.Remembered) (move : FdMove) : (s.step move).Remembered ↔ s.Safe move := by
  cases move with
  | addFdListener fd handler ok =>
    cases handler with
    | none =>
      refine iff_of_true ?_ trivial
      show (s.addFdListener fd none ok).1.Remembered
      cases hget : s.getEventHandler fd with
      | none => simpa [addFdListener, hget] using h
      | some eventHandler =>
        obtain ⟨hmap, halive⟩ := getEventHandler_eq_some.mp hget
        cases ok with
        | false => simpa [addFdListener, hget, addFileDescriptorListener] using h
        | true =>
          simpa [addFdListener, hget, addFileDescriptorListener] using (h.setListening_iff halive).mpr hmap
    | some handler =>
      cases halive : s.alive handler with
      | false => simpa [step, Safe, halive] using h
      | true => simpa [step, Safe, halive] using h.addFdListener_iff halive ok
  | removeFdListener fd handler =>
    cases handler with
    | none => exact iff_of_true h.removeFdListener trivial
    | some handler =>
      cases halive : s.alive handler with
      | false => simpa [step, Safe, halive] using h
      | true => simpa [step, Safe, halive] using h.removeFdListener_iff handler
  | destroy handler =>
    refine iff_of_true ?_ trivial
    intro fd handler' halive hlistens
    refine h fd handler' ?_ hlistens
    by_cases heq : handler' = handler
    · simp [step, heq] at halive
    · simpa [step, Function.update_of_ne heq] using halive
  | close fd =>
    refine iff_of_true ?_ trivial
    intro fd' handler halive hlistens
    refine h fd' handler halive ?_
    by_cases heq : fd' = fd
    · simp [step, heq] at hlistens
    · simpa [step, Function.update_of_ne heq] using hlistens

/-- In a run every removal is right, at every time and for every descriptor, exactly if each listener
goes to the handler that the manager remembers for it. -/
theorem removal_right_iff_safe (moves : List FdMove) :
    AllMeet step (fun s move => (s.step move).Right) {} moves ↔ AllMeet step Safe {} moves := by
  refine AllMeet.congr (I := Remembered) (fun s move hs _ => ?_) (fun _ _ _ h => absurd h Bool.false_ne_true)
    (AllMeet.of_forall fun _ _ => trivial : AllMeet step (fun _ _ => True) {} moves)
  rw [right_iff_remembered]
  exact ⟨hs.step_iff move, id⟩

/-- The entry of a destroyed handler stays, and hides the one that listens on the number when it is
used again. -/
theorem destroyed_handler_hides : ¬ ∀ moves : List FdMove,
    AllMeet step (fun s move => (s.step move).Right) {} moves := by
  intro hall
  have hrun := hall [.addFdListener 5 (some 0) true, .close 5, .destroy 0, .addFdListener 5 (some 1) true]
  obtain ⟨-, -, -, hright, -⟩ := hrun
  exact absurd (hright 5 1 rfl) (by decide)

end FdListeners

end WifiDisplay
