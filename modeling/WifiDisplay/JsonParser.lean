import WifiDisplay.Config
import WifiDisplay.LastWrites

/-! `JsonParser`: the configuration as it is read from a JSON document and written into one. -/

namespace WifiDisplay

/-- A JSON document, as jsoncpp parses one. A number with a fraction or an exponent is a `real`. The
members of an object have names of their own. -/
inductive Json where
  | null
  | int (value : Int)
  | real (value : Rat)
  | bool (value : Bool)
  | string (value : String)
  | array (elements : List Json)
  | object (members : List (String × Json))

/-- What ends the process: an exception that jsoncpp throws, or a null pointer that is followed. -/
inductive JsonFault where
  | logicError
  | nullPointer
  deriving DecidableEq

namespace Json

/-- What a `for` goes through. -/
def children : Json → List Json
  | .array elements => elements
  | .object members => members.map Prod.snd
  | _ => []

def members : Json → List (String × Json)
  | .object members => members
  | _ => []

/-- `operator[]`. A null document is turned into an object without members. -/
def member (name : String) : Json → Except JsonFault Json
  | .null => .ok .null
  | .object members => .ok (((members.find? (·.1 = name)).map Prod.snd).getD .null)
  | _ => .error .logicError

def InIntRange (value : Rat) : Prop :=
  (Int32.minValue.toInt : Rat) ≤ value ∧ value ≤ (Int32.maxValue.toInt : Rat)

instance (value : Rat) : Decidable (InIntRange value) := inferInstanceAs (Decidable (_ ∧ _))

def isInt : Json → Bool
  | .int value => InIntRange value
  | .real value => InIntRange value ∧ value.isInt
  | _ => false

/-- The digits behind the point are dropped. -/
def asInt : Json → Except JsonFault Int32
  | .null => .ok 0
  | .int value => if InIntRange value then .ok (Int32.ofInt value) else .error .logicError
  | .real value =>
    if InIntRange value then .ok (Int32.ofInt (value.num.tdiv value.den)) else .error .logicError
  | .bool value => .ok (if value then 1 else 0)
  | _ => .error .logicError

/-- `tagObject[key] = value`. -/
def setMember (members : List (String × Json)) (key : String) (value : Json) : List (String × Json) :=
  members.filter (·.1 ≠ key) ++ [(key, value)]

end Json

namespace JsonParser

/-! The members of the groups, `datas_` and `datass_`, with their entries in the order in which they are
gone through. The pointers in them may be null. -/

abbrev TagDatas := AList fun _ : String => Option SharingValue

abbrev ModuleDatas := AList fun _ : String => Option TagDatas

abbrev SharingData := AList fun _ : String => Option ModuleDatas

open LastWrites

/-- A value of another type leaves the pointer null. -/
def readValue (value : Json) : Except JsonFault (Option SharingValue) :=
  match value with
  | .string data => .ok (some (.string data))
  | .bool data => .ok (some (.bool data))
  | .array elements => (elements.mapM Json.asInt).map fun data => some (.vector data)
  | _ => if value.isInt then value.asInt.map fun data => some (.int32 data) else .ok none

def readKey (item : String × Json) : Except JsonFault (Option (String × Option SharingValue)) :=
  if item.1 = "tag" then .ok none else (readValue item.2).map fun value => some (item.1, value)

/-- An item whose `tag` is no string is passed over. -/
def readTag (item : Json) : Except JsonFault (Option (String × Option TagDatas)) :=
  (item.member "tag").bind fun tag =>
    match tag with
    | .string tag => (insertAll readKey item.members ∅).map fun tagValue => some (tag, some tagValue)
    | _ => .ok none

def readModule (module : String × Json) : Except JsonFault (Option (String × Option ModuleDatas)) :=
  (insertAll readTag module.2.children ∅).map fun moduleValue => some (module.1, some moduleValue)

/-- The caller does not look at the result of "this module invalid". -/
def readModuleConfig (value : SharingData) (modules : Json) : Except JsonFault SharingData :=
  match modules with
  | .object members => insertAll readModule members value
  | _ => .ok value

/-- The loop of `GetConfig`. -/
def getConfig (root : Json) (value : SharingData) : Except JsonFault SharingData :=
  root.children.foldlM readModuleConfig value

def saveKey (tagObject : List (String × Json)) (key : String) :
    Option SharingValue → Except JsonFault (List (String × Json))
  | none => .error .nullPointer
  | some (.bool data) => .ok (Json.setMember tagObject key (.bool data))
  | some (.int32 data) => .ok (Json.setMember tagObject key (.int data.toInt))
  | some (.string data) => .ok (Json.setMember tagObject key (.string data))
  | some (.vector data) =>
    .ok (Json.setMember tagObject key (.array (data.map fun item => .int item.toInt)))

def saveTag (tagName : String) : Option TagDatas → Except JsonFault Json
  | none => .error .nullPointer
  | some tagValue =>
    (tagValue.entries.foldlM (fun tagObject e => saveKey tagObject e.1 e.2) [("tag", .string tagName)]).map
      Json.object

def saveModuleConfig : Option ModuleDatas → Except JsonFault (List Json)
  | none => .ok []
  | some moduleValue =>
    moduleValue.entries.foldlM (fun module e => (saveTag e.1 e.2).map fun tag => module ++ [tag]) []

def saveConfig (value : SharingData) : Except JsonFault Json :=
  (value.entries.foldlM (fun root e => (saveModuleConfig e.2).map fun module =>
    Json.setMember root e.1 (.array module)) []).map Json.object

/-! What the data, and what a document, have for a setting. -/

/-- The modules, tags, keys and values as such. -/
def content (value : SharingData) (module : String) :
    Option (Option (String → Option (Option (String → Option (Option SharingValue))))) :=
  (value.lookup module).map (·.map fun moduleValue tag =>
    (moduleValue.lookup tag).map (·.map fun tagValue key => tagValue.lookup key))

def setting (value : SharingData) (module tag key : String) : Option (Option SharingValue) :=
  (value.lookup module).join.bind fun moduleValue =>
    (moduleValue.lookup tag).join.bind fun tagValue => tagValue.lookup key

def NonNull (value : SharingData) : Prop :=
  ∀ module tag key, setting value module tag key ≠ some none

def keyOf (item : String × Json) : Option String :=
  if item.1 = "tag" then none else some item.1

def tagOf (item : Json) : Option String :=
  match item.member "tag" with
  | .ok (.string tag) => some tag
  | _ => none

/-- The value that a document has for a setting. Where modules, tags or keys are repeated, the last is
the one that counts. -/
def documented (root : Json) (module tag key : String) : Option Json :=
  (lastFor (fun m => some m.1) module (root.children.flatMap Json.members)).bind fun moduleMember =>
    (lastFor tagOf tag moduleMember.2.children).bind fun item =>
      (lastFor keyOf key item.members).map Prod.snd

/-- The types of values that there are in `SharingData`. -/
def Supported : Json → Prop
  | .string _ | .bool _ | .array _ => True
  | value => value.isInt

end JsonParser

end WifiDisplay
