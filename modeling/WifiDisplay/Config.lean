import Mathlib.Logic.Function.Basic
import WifiDisplay.GuardedRuns

/-! `Config`: settings by module, tag and key. The groups of a module and of a tag are objects behind
shared pointers, which `SetConfig` takes over from its caller. -/

namespace WifiDisplay

inductive SharingValue where
  | int32 (data : Int32)
  | bool (data : Bool)
  | string (data : String)
  | vector (data : List Int32)
  deriving DecidableEq

inductive ConfigureError where
  | CONFIGURE_ERROR_NONE
  | CONFIGURE_ERROR_NOT_FIND
  deriving DecidableEq

/-- The members of a `SharingDataGroupByTag`. A null pointer is read as if there were no value. -/
abbrev SharingDataGroupByTag := String → Option SharingValue

/-- The members of a `SharingDataGroupByModule`: pointers to groups, some of them null. -/
abbrev SharingDataGroupByModule := String → Option (Option Nat)

inductive ConfigFault where
  | nullPointer
  deriving DecidableEq

/-- `datass` is the map of `datas_`. The objects are numbered as they are made, by `Config` or by its
callers. -/
structure Config where
  tagGroups : Nat → SharingDataGroupByTag := fun _ _ => none
  tagGroupsMade : Nat := 0
  moduleGroups : Nat → SharingDataGroupByModule := fun _ _ => none
  moduleGroupsMade : Nat := 0
  datass : String → Option (Option Nat) := fun _ => none

/-- A caller makes the groups that it passes on. -/
inductive ConfigCall where
  | newTagGroup (datas : SharingDataGroupByTag)
  | newModuleGroup (datass : SharingDataGroupByModule)
  | setModule (module : String) (values : Option Nat)
  | setTag (module tag : String) (values : Option Nat)
  | setKey (module tag key : String) (value : Option SharingValue)

namespace Config

variable (s : Config)

def newTagGroup (datas : SharingDataGroupByTag) : Config :=
  { s with
    tagGroups := Function.update s.tagGroups s.tagGroupsMade datas
    tagGroupsMade := s.tagGroupsMade + 1 }

def newModuleGroup (datass : SharingDataGroupByModule) : Config :=
  { s with
    moduleGroups := Function.update s.moduleGroups s.moduleGroupsMade datass
    moduleGroupsMade := s.moduleGroupsMade + 1 }

/-- `GetConfig` of a module and a tag. The module's own `GetConfig` only looks whether it is there. -/
def getTag (module tag : String) : Except ConfigFault (Option (Option Nat)) :=
  match s.datass module with
  | none => .ok none
  | some none => .error .nullPointer
  | some (some group) => .ok (s.moduleGroups group tag)

def getSharingValue (key module tag : String) : Except ConfigFault (Option SharingValue) :=
  match s.datass module with
  | none => .ok none
  | some none => .error .nullPointer
  | some (some group) =>
    match s.moduleGroups group tag with
    | none => .ok none
    | some none => .error .nullPointer
    | some (some tagGroup) => .ok (s.tagGroups tagGroup key)

/-- No value is `CONFIGURE_ERROR_NOT_FIND`. -/
def getConfig (module tag key : String) : Except ConfigFault (Option SharingValue) := do
  match ← s.getTag module tag with
  | none => pure none
  | some _ => s.getSharingValue key module tag

def setModule (module : String) (values : Option Nat) : Config × ConfigureError :=
  ({ s with datass := Function.update s.datass module (some values) }, .CONFIGURE_ERROR_NONE)

/-- `PutSharingValues` of a group. -/
def putGroup (group : Nat) (tag : String) (values : Option Nat) : Config :=
  { s with
    moduleGroups :=
      Function.update s.moduleGroups group (Function.update (s.moduleGroups group) tag (some values)) }

/-- The group that is made for a missing module goes nowhere. -/
def setTag (module tag : String) (values : Option Nat) : Config × ConfigureError :=
  match s.datass module with
  | none => ((s.newModuleGroup fun _ => none).putGroup s.moduleGroupsMade tag values, .CONFIGURE_ERROR_NONE)
  | some none => (s, .CONFIGURE_ERROR_NOT_FIND)
  | some (some group) => (s.putGroup group tag values, .CONFIGURE_ERROR_NONE)

/-- `PutSharingValue` of a tag's group. -/
def putValue (tagGroup : Nat) (key : String) (value : Option SharingValue) : Config :=
  { s with
    tagGroups := Function.update s.tagGroups tagGroup (Function.update (s.tagGroups tagGroup) key value) }

/-- The new group of a tag with one value. -/
def newTagGroupWith (key : String) (value : Option SharingValue) : Config :=
  (s.newTagGroup fun _ => none).putValue s.tagGroupsMade key value

def setKey (module tag key : String) (value : Option SharingValue) :
    Except ConfigFault (Config × ConfigureError) :=
  match s.datass module with
  | none =>
    let s' := ((s.newModuleGroup fun _ => none).newTagGroupWith key value).putGroup s.moduleGroupsMade tag
      (some s.tagGroupsMade)
    .ok (s'.setModule module (some s.moduleGroupsMade))
  | some none => .error .nullPointer
  | some (some group) =>
    match s.moduleGroups group tag with
    | none => .ok ((s.newTagGroupWith key value).setTag module tag (some s.tagGroupsMade))
    | some none => .error .nullPointer
    | some (some tagGroup) => .ok (s.putValue tagGroup key value, .CONFIGURE_ERROR_NONE)

def run (s : Config) : ConfigCall → Except ConfigFault (Config × ConfigureError)
  | .newTagGroup datas => .ok (s.newTagGroup datas, .CONFIGURE_ERROR_NONE)
  | .newModuleGroup datass => .ok (s.newModuleGroup datass, .CONFIGURE_ERROR_NONE)
  | .setModule module values => .ok (s.setModule module values)
  | .setTag module tag values => .ok (s.setTag module tag values)
  | .setKey module tag key value => s.setKey module tag key value

/-- A call that faults ends the process; nothing is said of what comes after it. -/
def step (s : Config) (call : ConfigCall) : Config :=
  match s.run call with
  | .ok (s', _) => s'
  | .error _ => s

/-! The settings as such. -/

/-- What the group behind a pointer has under a key. -/
def tagContent (values : Option Nat) (key : String) : Option SharingValue :=
  values.bind fun tagGroup => s.tagGroups tagGroup key

def moduleContent (values : Option Nat) (tag key : String) : Option SharingValue :=
  s.tagContent (values.bind fun group => (s.moduleGroups group tag).join) key

/-- The value that a setting has after a call, from what it had before. -/
def expected (before : Option SharingValue) (module tag key : String) : ConfigCall → Option SharingValue
  | .newTagGroup _ | .newModuleGroup _ => before
  | .setModule module' values => if module = module' then s.moduleContent values tag key else before
  | .setTag module' tag' values =>
    if module = module' ∧ tag = tag' then s.tagContent values key else before
  | .setKey module' tag' key' value =>
    if module = module' ∧ tag = tag' ∧ key = key' then value else before

/-- A call that reports success has set what it was to set, dropped the rest of the group that it has
replaced, and left all other settings. -/
def Right (call : ConfigCall) : Prop :=
  ∃ s' error, s.run call = .ok (s', error) ∧
    (error = .CONFIGURE_ERROR_NONE → ∀ module tag key, ∃ before,
      s.getConfig module tag key = .ok before ∧
        s'.getConfig module tag key = .ok (s.expected before module tag key call))

/-- The number of the group that a setting's tag has. -/
def path (module tag : String) : Option Nat :=
  (s.datass module).join.bind fun group => (s.moduleGroups group tag).join

/-- Pointers lead to groups that have been made. What is passed is no null pointer and has none in it;
a tag is set in a module that is there and whose group no other module has; and a value in a tag
whose group is not anywhere else. -/
def Safe : ConfigCall → Prop
  | .newTagGroup _ => True
  | .newModuleGroup datass => ∀ tag values, datass tag = some values →
    ∃ tagGroup < s.tagGroupsMade, values = some tagGroup
  | .setModule _ values => ∃ group < s.moduleGroupsMade, values = some group
  | .setTag module _ values => (∃ tagGroup < s.tagGroupsMade, values = some tagGroup) ∧
    s.datass module ≠ none ∧ ∀ other ≠ module, s.datass other ≠ s.datass module
  | .setKey module tag _ _ => s.datass module ≠ none →
    if (s.path module tag).isNone then ∀ other ≠ module, s.datass other ≠ s.datass module
    else ∀ module' tag', s.path module' tag' = s.path module tag → module' = module ∧ tag' = tag

end Config

end WifiDisplay
