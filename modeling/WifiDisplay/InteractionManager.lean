import Mathlib.Data.UInt
import WifiDisplay.GuardedRuns
import WifiDisplay.PartialMaps

/-! `InteractionManager`, and `GetSubSystemAbility` of `InterIpcServiceStub`, by which a client gets an
interaction under a key. -/

namespace WifiDisplay

/-- The interactions are numbered as they are constructed, and `rpcKey` and `scene` are fields of
theirs. `identifier` is the last number that `Identifier` has made. `latest` has, for each key, the
interaction that was last created for it successfully and its id, until it is removed. -/
structure InteractionManager where
  identifier : UInt32 := 0
  interactions : UInt32 → Option Nat := fun _ => none
  interactionKeys : String → Option UInt32 := fun _ => none
  constructed : Nat := 0
  rpcKey : Nat → String := fun _ => ""
  scene : Nat → Bool := fun _ => false
  latest : String → Option (Nat × UInt32) := fun _ => none

/-- `instantiated` is what `Class2Instance` comes to and `allocated` the stub. `destroyed` says that a
`DestroyInteraction` comes before the call looks for the scene. The other users of `Identifier` take
numbers too. -/
inductive InteractionMove where
  | getSubSystemAbility (key className : String) (instantiated destroyed allocated : Bool)
  | destroyInteraction (interactionId : UInt32)
  | removeInteraction (interactionId : UInt32)
  | makeIdentifier

namespace InteractionManager

variable (s : InteractionManager)

def makeIdentifier : InteractionManager := { s with identifier := s.identifier + 1 }

/-- The constructor of `Interaction`. -/
def construct : InteractionManager := { s.makeIdentifier with constructed := s.constructed + 1 }

def createScene (interaction : Nat) (className : String) (instantiated : Bool) :
    InteractionManager × Bool :=
  if className ≠ "WfdSourceScene" ∧ className ≠ "WfdSinkScene" then (s, false)
  else ({ s with scene := Function.update s.scene interaction instantiated }, instantiated)

/-- The new interaction and its id. `emplace` leaves an entry under the id as it is. -/
def createInteraction (className : String) (instantiated : Bool) :
    InteractionManager × Option (Nat × UInt32) :=
  let interaction := s.constructed
  let interactionId := s.identifier + 1
  let (s, success) := s.construct.createScene interaction className instantiated
  if success then
    ({ s with
        interactions := Function.update s.interactions interactionId
          ((s.interactions interactionId).or (some interaction)) }, some (interaction, interactionId))
  else (s, none)

def destroyInteraction (interactionId : UInt32) : InteractionManager :=
  match s.interactions interactionId with
  | none => s
  | some interaction => { s with scene := Function.update s.scene interaction false }

def removeInteraction (interactionId : UInt32) : InteractionManager :=
  match s.interactions interactionId with
  | none => s
  | some interaction =>
    { s with
      interactionKeys := Function.update s.interactionKeys (s.rpcKey interaction) none
      interactions := Function.update s.interactions interactionId none
      latest := fun key => (s.latest key).filter (·.2 ≠ interactionId) }

def setRpcKey (interaction : Nat) (key : String) : InteractionManager :=
  { s with rpcKey := Function.update s.rpcKey interaction key }

def delInteractionKey (key : String) : InteractionManager :=
  { s with interactionKeys := Function.update s.interactionKeys key none }

def addInteractionKey (key : String) (interactionId : UInt32) : InteractionManager :=
  let s := s.delInteractionKey key
  { s with interactionKeys := Function.update s.interactionKeys key (some interactionId) }

def getInteraction (key : String) : Option Nat := (s.interactionKeys key).bind s.interactions

/-- Whether the call returns an ability. -/
def getSubSystemAbility (key className : String) (instantiated destroyed allocated : Bool) :
    InteractionManager × Bool :=
  match s.createInteraction className instantiated with
  | (s, none) => (s, false)
  | (s, some (interaction, interactionId)) =>
    let s := if destroyed then s.destroyInteraction interactionId else s
    if !s.scene interaction then (s, false)
    else if !allocated then (s, false)
    else
      let s := (s.setRpcKey interaction key).addInteractionKey key interactionId
      ({ s with latest := Function.update s.latest key (some (interaction, interactionId)) }, true)

def step (s : InteractionManager) : InteractionMove → InteractionManager
  | .getSubSystemAbility key className instantiated destroyed allocated =>
    (s.getSubSystemAbility key className instantiated destroyed allocated).1
  | .destroyInteraction interactionId => s.destroyInteraction interactionId
  | .removeInteraction interactionId => s.removeInteraction interactionId
  | .makeIdentifier => s.makeIdentifier

/-- The call returns null. -/
def Fails : InteractionMove → Prop
  | .getSubSystemAbility key className instantiated destroyed allocated =>
    (s.getSubSystemAbility key className instantiated destroyed allocated).2 = false
  | _ => False

/-- After the move each key has the interaction that was last created for it and is not removed, and
a call that returned null has not touched the registry. -/
structure Right (move : InteractionMove) : Prop where
  found : ∀ key interaction interactionId, (s.step move).latest key = some (interaction, interactionId) →
    (s.step move).getInteraction key = some interaction
  untouched : s.Fails move → (s.step move).interactions = s.interactions ∧
    (s.step move).interactionKeys = s.interactionKeys

/-- No step fails after the interaction is registered, under an id that no other one has, and the key
of a removed interaction has not gone over to another one. -/
def Safe : InteractionMove → Prop
  | .getSubSystemAbility _ className instantiated destroyed allocated =>
    (className = "WfdSourceScene" ∨ className = "WfdSinkScene") → instantiated = true →
      if s.interactions (s.identifier + 1) = none then destroyed = false ∧ allocated = true
      else allocated = false
  | .removeInteraction interactionId => ∀ interaction ∈ s.interactions interactionId,
    ∀ other ∈ s.interactionKeys (s.rpcKey interaction), other = interactionId
  | _ => True

end InteractionManager

end WifiDisplay

/-! The runs of `InteractionManager` in which every key leads to its latest interaction. -/

namespace WifiDisplay

namespace InteractionManager

variable {s t : InteractionManager} {key className : String} {interaction : Nat} {interactionId : UInt32}
  {instantiated destroyed allocated : Bool}

structure Sound (s : InteractionManager) : Prop where
  found : ∀ key interaction interactionId, s.latest key = some (interaction, interactionId) →
    s.interactionKeys key = some interactionId ∧ s.interactions interactionId = some interaction ∧
      s.rpcKey interaction = key
  bound : ∀ key interactionId, s.interactionKeys key = some interactionId →
    ∃ interaction, s.latest key = some (interaction, interactionId)
  fresh : ∀ interactionId interaction, s.interactions interactionId = some interaction →
    interaction < s.constructed

theorem sound_init : Sound {} where
  found _ _ _ h := by cases h
  bound _ _ h := by cases h
  fresh _ _ h := by cases h

theorem Sound.getInteraction (hs : s.Sound) (h : s.latest key = some (interaction, interactionId)) :
    s.getInteraction key = some interaction := by
  obtain ⟨hkey, hentry, -⟩ := hs.found key interaction interactionId h
  rw [InteractionManager.getInteraction, hkey]
  exact hentry

/-- A move that leaves the registry. -/
theorem Sound.frame (hs : s.Sound) (hinteractions : t.interactions = s.interactions)
    (hkeys : t.interactionKeys = s.interactionKeys) (hrpc : t.rpcKey = s.rpcKey)
    (hlatest : t.latest = s.latest) (hconstructed : s.constructed ≤ t.constructed) : t.Sound where
  found := by simpa only [hinteractions, hkeys, hrpc, hlatest] using hs.found
  bound := by simpa only [hkeys, hlatest] using hs.bound
  fresh interactionId interaction h := by
    rw [hinteractions] at h
    exact (hs.fresh interactionId interaction h).trans_le hconstructed

theorem destroyInteraction_eq (s : InteractionManager) (interactionId : UInt32) :
    ∃ scene, s.destroyInteraction interactionId = { s with scene } := by
  rw [destroyInteraction]
  split
  · exact ⟨s.scene, rfl⟩
  · exact ⟨_, rfl⟩

/-- The scene can be created. -/
def Valid (className : String) (instantiated : Bool) : Prop :=
  (className = "WfdSourceScene" ∨ className = "WfdSinkScene") ∧ instantiated = true

theorem createInteraction_invalid (h : ¬ Valid className instantiated) :
    ∃ scene, s.createInteraction className instantiated =
      ({ s with identifier := s.identifier + 1, constructed := s.constructed + 1, scene }, none) := by
  rw [createInteraction, createScene]
  by_cases hname : className ≠ "WfdSourceScene" ∧ className ≠ "WfdSinkScene"
  · rw [if_pos hname]
    exact ⟨s.scene, rfl⟩
  · rw [if_neg hname]
    have hname' : className = "WfdSourceScene" ∨ className = "WfdSinkScene" := by tauto
    obtain rfl : instantiated = false := by
      by_contra hne
      exact h ⟨hname', by simpa using hne⟩
    exact ⟨_, rfl⟩

/-- The state in which the new interaction is registered. -/
def registered (s : InteractionManager) : InteractionManager :=
  { s with
    identifier := s.identifier + 1
    constructed := s.constructed + 1
    scene := Function.update s.scene s.constructed true
    interactions := Function.update s.interactions (s.identifier + 1)
      ((s.interactions (s.identifier + 1)).or (some s.constructed)) }

theorem createInteraction_valid (h : Valid className instantiated) :
    s.createInteraction className instantiated =
      (s.registered, some (s.constructed, s.identifier + 1)) := by
  obtain ⟨hname, rfl⟩ := h
  rw [createInteraction, createScene, if_neg (by tauto)]
  rfl

/-- A `DestroyInteraction` in between takes away the scene, unless the id leads to an older interaction. -/
theorem Sound.scene_registered (hs : s.Sound) (destroyed : Bool) :
    ∃ scene, (if destroyed then s.registered.destroyInteraction (s.identifier + 1) else s.registered) =
        { s.registered with scene } ∧
      scene s.constructed = !(destroyed && (s.interactions (s.identifier + 1)).isNone) := by
  cases destroyed with
  | false => exact ⟨s.registered.scene, rfl, Function.update_self _ _ _⟩
  | true =>
    cases hentry : s.interactions (s.identifier + 1) with
    | none =>
      refine ⟨Function.update s.registered.scene s.constructed false, ?_, by simp⟩
      simp [destroyInteraction, registered, hentry]
    | some old =>
      have hlt := hs.fresh _ _ hentry
      refine ⟨Function.update s.registered.scene old false, ?_, ?_⟩
      · simp [destroyInteraction, registered, hentry]
      · rw [Function.update_of_ne (Nat.ne_of_gt hlt)]
        simp [registered]

/-- The call has come to its end. -/
def completed (s : InteractionManager) (key : String) (scene : Nat → Bool) : InteractionManager :=
  { s.registered with
    scene
    rpcKey := Function.update s.rpcKey s.constructed key
    interactionKeys := Function.update s.interactionKeys key (some (s.identifier + 1))
    latest := Function.update s.latest key (some (s.constructed, s.identifier + 1)) }

theorem Sound.getSubSystemAbility_eq (hs : s.Sound) (hvalid : Valid className instantiated) :
    ∃ scene, s.getSubSystemAbility key className instantiated destroyed allocated =
      if (destroyed && (s.interactions (s.identifier + 1)).isNone) || !allocated then
        ({ s.registered with scene }, false)
      else (s.completed key scene, true) := by
  obtain ⟨scene, hregistered, hscene⟩ := hs.scene_registered destroyed
  refine ⟨scene, ?_⟩
  rw [getSubSystemAbility, createInteraction_valid hvalid]
  simp only [hregistered, hscene]
  cases destroyed && (s.interactions (s.identifier + 1)).isNone
  · cases allocated
    · rfl
    · simp [completed, setRpcKey, addInteractionKey, delInteractionKey, registered]
  · rfl

/-- A new interaction under an id of its own. -/
theorem Sound.completed (hs : s.Sound) (hfresh : s.interactions (s.identifier + 1) = none) (key : String)
    (scene : Nat → Bool) : (s.completed key scene).Sound where
  found key' interaction interactionId h := by
    rcases PartialMap.eq_some_of_insert h with ⟨rfl, hnew⟩ | ⟨hne, hold⟩
    · obtain ⟨rfl, rfl⟩ := Prod.mk.inj hnew
      simp [InteractionManager.completed, registered, hfresh]
    · obtain ⟨hkey, hentry, hrpc⟩ := hs.found key' interaction interactionId hold
      have hid : interactionId ≠ s.identifier + 1 := by
        rintro rfl
        rw [hfresh] at hentry
        cases hentry
      have hlt := hs.fresh _ _ hentry
      exact ⟨(Function.update_of_ne hne _ _).trans hkey, (Function.update_of_ne hid _ _).trans hentry,
        (Function.update_of_ne (Nat.ne_of_lt hlt) _ _).trans hrpc⟩
  bound key' interactionId h := by
    rcases PartialMap.eq_some_of_insert h with ⟨rfl, rfl⟩ | ⟨hne, hold⟩
    · exact ⟨s.constructed, Function.update_self _ _ _⟩
    · obtain ⟨interaction, hlatest⟩ := hs.bound key' interactionId hold
      exact ⟨interaction, (Function.update_of_ne hne _ _).trans hlatest⟩
  fresh interactionId interaction h := by
    rcases PartialMap.eq_some_of_update h with ⟨rfl, hnew⟩ | ⟨-, hold⟩
    · rw [hfresh, Option.none_or] at hnew
      obtain rfl := Option.some.inj hnew
      exact Nat.lt_succ_self _
    · exact (hs.fresh interactionId interaction hold).trans (Nat.lt_succ_self _)

/-- Whether the registered interaction is the new one. -/
theorem registered_interactions_eq_iff (s : InteractionManager) :
    s.registered.interactions = s.interactions ↔ s.interactions (s.identifier + 1) ≠ none := by
  rw [registered, Function.update_eq_self_iff]
  cases s.interactions (s.identifier + 1) <;> simp

variable {scene : Nat → Bool}

theorem Sound.right_failed (hs : s.Sound)
    (h : s.getSubSystemAbility key className instantiated destroyed allocated =
      ({ s.registered with scene }, false)) :
    (s.Right (.getSubSystemAbility key className instantiated destroyed allocated) ↔
      s.interactions (s.identifier + 1) ≠ none) ∧
    (s.interactions (s.identifier + 1) ≠ none → Sound { s.registered with scene }) := by
  have hsound (hentry : s.interactions (s.identifier + 1) ≠ none) : Sound { s.registered with scene } :=
    hs.frame ((registered_interactions_eq_iff s).mpr hentry) rfl rfl rfl (Nat.le_succ _)
  refine ⟨⟨fun hright => ?_, fun hentry => ⟨fun key' interaction interactionId hlatest => ?_, fun _ => ?_⟩⟩,
    hsound⟩
  · have hsame := (hright.untouched (by rw [Fails, h])).1
    rw [step, h] at hsame
    exact (registered_interactions_eq_iff s).mp hsame
  · rw [step, h] at hlatest ⊢
    exact (hsound hentry).getInteraction hlatest
  · rw [step, h]
    exact ⟨(registered_interactions_eq_iff s).mpr hentry, rfl⟩

theorem Sound.right_completed (hs : s.Sound)
    (h : s.getSubSystemAbility key className instantiated destroyed allocated =
      (s.completed key scene, true)) :
    (s.Right (.getSubSystemAbility key className instantiated destroyed allocated) ↔
      s.interactions (s.identifier + 1) = none) ∧
    (s.interactions (s.identifier + 1) = none → (s.completed key scene).Sound) := by
  refine ⟨⟨fun hright => ?_, fun hentry => ⟨fun key' interaction interactionId hlatest => ?_, fun hfails => ?_⟩⟩,
    fun hentry => hs.completed hentry key scene⟩
  · have hfound := hright.found key s.constructed (s.identifier + 1)
      (by rw [step, h]; exact Function.update_self _ _ _)
    have hget : (s.completed key scene).getInteraction key =
        (s.interactions (s.identifier + 1)).or (some s.constructed) := by
      simp [InteractionManager.getInteraction, InteractionManager.completed, registered]
    rw [step, h, hget] at hfound
    cases hentry : s.interactions (s.identifier + 1) with
    | none => rfl
    | some old =>
      rw [hentry, Option.some_or, Option.some.injEq] at hfound
      exact absurd hfound (Nat.ne_of_lt (hs.fresh _ _ hentry))
  · rw [step, h] at hlatest ⊢
    exact (hs.completed hentry key scene).getInteraction hlatest
  · rw [Fails, h] at hfails
    cases hfails

theorem Sound.getSubSystemAbility (hs : s.Sound) (key className : String)
    (instantiated destroyed allocated : Bool) :
    (s.Right (.getSubSystemAbility key className instantiated destroyed allocated) ↔
      s.Safe (.getSubSystemAbility key className instantiated destroyed allocated)) ∧
    (s.Right (.getSubSystemAbility key className instantiated destroyed allocated) →
      (s.getSubSystemAbility key className instantiated destroyed allocated).1.Sound) := by
  by_cases hvalid : Valid className instantiated
  · obtain ⟨scene, heq⟩ := @Sound.getSubSystemAbility_eq s key className instantiated destroyed allocated
      hs hvalid
    have hsafe : s.Safe (.getSubSystemAbility key className instantiated destroyed allocated) ↔
        if s.interactions (s.identifier + 1) = none then destroyed = false ∧ allocated = true
        else allocated = false :=
      ⟨fun h => h hvalid.1 hvalid.2, fun h _ _ => h⟩
    by_cases hfails : (destroyed && (s.interactions (s.identifier + 1)).isNone || !allocated) = true
    · rw [if_pos hfails] at heq
      obtain ⟨hiff, hsound⟩ := hs.right_failed heq
      rw [heq, hiff, hsafe]
      refine ⟨?_, hsound⟩
      cases hentry : s.interactions (s.identifier + 1) <;> cases destroyed <;> simp_all
    · rw [if_neg hfails] at heq
      obtain ⟨hiff, hsound⟩ := hs.right_completed heq
      rw [heq, hiff, hsafe]
      refine ⟨?_, hsound⟩
      cases hentry : s.interactions (s.identifier + 1) <;> cases destroyed <;> simp_all
  · obtain ⟨scene, heq⟩ := @createInteraction_invalid s className instantiated hvalid
    have heq' : s.getSubSystemAbility key className instantiated destroyed allocated =
        ({ s with identifier := s.identifier + 1, constructed := s.constructed + 1, scene }, false) := by
      rw [InteractionManager.getSubSystemAbility, heq]
    have hsound : Sound { s with
      identifier := s.identifier + 1, constructed := s.constructed + 1, scene } :=
      hs.frame rfl rfl rfl rfl (Nat.le_succ _)
    refine ⟨iff_of_true ⟨fun key' interaction interactionId hlatest => ?_, fun _ => ?_⟩
      fun hname hinstantiated => absurd ⟨hname, hinstantiated⟩ hvalid, fun _ => ?_⟩
    · rw [step, heq'] at hlatest ⊢
      exact hsound.getInteraction hlatest
    · rw [step, heq']
      exact ⟨rfl, rfl⟩
    · rwa [heq']

theorem Sound.right_sound {move : InteractionMove} (hs : (s.step move).Sound) (h : ¬ s.Fails move) :
    s.Right move :=
  ⟨fun _ _ _ hlatest => hs.getInteraction hlatest, fun hfails => absurd hfails h⟩

/-- A removal takes away the key of the interaction, whoever has it by then. -/
theorem Sound.removeInteraction (hs : s.Sound)
    (hsafe : ∀ interaction ∈ s.interactions interactionId,
      ∀ other ∈ s.interactionKeys (s.rpcKey interaction), other = interactionId) :
    (s.removeInteraction interactionId).Sound := by
  rw [InteractionManager.removeInteraction]
  cases hentry : s.interactions interactionId with
  | none => exact hs
  | some interaction =>
    refine ⟨fun key other otherId h => ?_, fun key otherId h => ?_, fun otherId other h => ?_⟩
    · obtain ⟨hlatest, hne⟩ := Option.filter_eq_some_iff.mp h
      obtain ⟨hkey, hother, hrpc⟩ := hs.found key other otherId hlatest
      have hid : otherId ≠ interactionId := by simpa using hne
      have hkeyne : key ≠ s.rpcKey interaction := by
        rintro rfl
        exact hid (hsafe interaction hentry otherId hkey)
      exact ⟨(Function.update_of_ne hkeyne _ _).trans hkey, (Function.update_of_ne hid _ _).trans hother, hrpc⟩
    · obtain ⟨hkeyne, hkey⟩ := PartialMap.eq_some_of_erase h
      obtain ⟨other, hlatest⟩ := hs.bound key otherId hkey
      have hid : otherId ≠ interactionId := by
        rintro rfl
        obtain ⟨-, hother, hrpc⟩ := hs.found key other otherId hlatest
        rw [hentry] at hother
        obtain rfl := Option.some.inj hother
        exact hkeyne hrpc.symm
      exact ⟨other, Option.filter_eq_some_iff.mpr ⟨hlatest, by simpa using hid⟩⟩
    · exact hs.fresh otherId other (PartialMap.eq_some_of_erase h).2

theorem Sound.step (hs : s.Sound) (move : InteractionMove) :
    (s.Right move ↔ s.Safe move) ∧ (s.Right move → (s.step move).Sound) := by
  cases move with
  | getSubSystemAbility key className instantiated destroyed allocated =>
    exact hs.getSubSystemAbility key className instantiated destroyed allocated
  | destroyInteraction interactionId =>
    obtain ⟨scene, heq⟩ := destroyInteraction_eq s interactionId
    have hsound : (s.step (.destroyInteraction interactionId)).Sound := by
      rw [InteractionManager.step, heq]
      exact hs.frame rfl rfl rfl rfl le_rfl
    exact ⟨iff_of_true (Sound.right_sound hsound id) trivial, fun _ => hsound⟩
  | removeInteraction interactionId =>
    have hiff : s.Right (.removeInteraction interactionId) ↔ s.Safe (.removeInteraction interactionId) := by
      constructor
      · intro hright interaction hentry other hkey
        by_contra hne
        obtain ⟨newer, hlatest⟩ := hs.bound _ _ hkey
        have hremoved : s.step (.removeInteraction interactionId) = { s with
            interactionKeys := Function.update s.interactionKeys (s.rpcKey interaction) none
            interactions := Function.update s.interactions interactionId none
            latest := fun key => (s.latest key).filter (·.2 ≠ interactionId) } := by
          rw [InteractionManager.step, InteractionManager.removeInteraction, hentry]
        have hfound := hright.found (s.rpcKey interaction) newer other (by
          rw [hremoved]
          exact Option.filter_eq_some_iff.mpr ⟨hlatest, by simpa using hne⟩)
        rw [hremoved] at hfound
        simp [InteractionManager.getInteraction] at hfound
      · intro hsafe
        exact Sound.right_sound (hs.removeInteraction hsafe) id
    exact ⟨hiff, fun hright => hs.removeInteraction (hiff.mp hright)⟩
  | makeIdentifier =>
    have hsound : (s.step .makeIdentifier).Sound := hs.frame rfl rfl rfl rfl le_rfl
    exact ⟨iff_of_true (Sound.right_sound hsound id) trivial, fun _ => hsound⟩

/-- Every key leads to its latest interaction, and no failed call leaves a trace, exactly if no call
fails once it has registered its interaction under an id of its own, and no interaction is removed
whose key another one has taken over. -/
theorem latest_found_iff_safe (moves : List InteractionMove) :
    AllMeet step Right {} moves ↔ AllMeet step Safe {} moves :=
  AllMeet.congr (I := Sound) (fun _ move hs _ => hs.step move) sound_init
    (AllMeet.of_forall fun _ _ => trivial : AllMeet step (fun _ _ => True) {} moves)

/-- The client connects twice; the removal of the first interaction takes the key of the second. -/
theorem reconnected_key_lost : ¬ ∀ moves : List InteractionMove, AllMeet step Right {} moves := by
  intro hall
  obtain ⟨-, -, hright, -⟩ := hall [.getSubSystemAbility "client" "WfdSinkScene" true false true,
    .getSubSystemAbility "client" "WfdSinkScene" true false true, .removeInteraction 1]
  have hfound := hright.found "client" 1 2 (by decide)
  exact absurd hfound (by decide)

end InteractionManager

end WifiDisplay
