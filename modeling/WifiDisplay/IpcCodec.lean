import Mathlib.Data.UInt
import Mathlib.Tactic.Common
import WifiDisplay.Parcel
import WifiDisplay.RtspCommon

/-! `IpcEncodeBindAttr`, `IpcDecodeBindAttr` and `IPC_BIND_ATTR`: how the attributes of a message are put into
a `MessageParcel`, and what comes out of it again. -/

namespace WifiDisplay

/-- The kinds of values that a `MessageParcel` has methods for. -/
inductive ParcelKind where
  | bool
  | int8
  | int16
  | int32
  | int64
  | uint8
  | uint16
  | uint32
  | uint64
  | float
  | double
  | string
  | object
  deriving DecidableEq, Repr

/-- `Obj` are the remote objects, and `none` a null pointer. A `float` and a `double` are kept as their
bits. -/
def ParcelKind.Value (Obj : Type) : ParcelKind → Type
  | bool => Bool
  | int8 => Int8
  | int16 => Int16
  | int32 => Int32
  | int64 => Int64
  | uint8 => UInt8
  | uint16 => UInt16
  | uint32 => UInt32
  | uint64 => UInt64
  | float => BitVec 32
  | double => BitVec 64
  | string => Text
  | object => Option Obj

abbrev MessageParcel (Obj : Type) : Type 1 := Parcel (ParcelKind.Value Obj)

abbrev ParcelItem (Obj : Type) : Type := Sigma (ParcelKind.Value Obj)

/-- `refused` is the result -1 of `IpcSerialize` and `IpcDeserialize`. The others end the process:
`resize` to a negative size, and a size that no read has set. -/
inductive IpcFailure where
  | refused
  | lengthError
  | uninitialized
  deriving DecidableEq, Repr

abbrev IpcAccess {Obj : Type} (P : MessageParcel Obj) (α : Type) : Type := P.Access IpcFailure α

/-- The overloads for one type. -/
class IpcAttr {Obj : Type} (P : MessageParcel Obj) (α : Type) where
  ipcEncodeBindAttr : α → IpcAccess P Unit
  ipcDecodeBindAttr : IpcAccess P α

export IpcAttr (ipcEncodeBindAttr ipcDecodeBindAttr)

/-- `IPC_BIND_ATTR`: the attributes of a message in their order. -/
class IpcBindAttr (M : Type) (A : outParam Type) where
  attrs : M → A
  ofAttrs : A → M
  ofAttrs_attrs (m : M) : ofAttrs (attrs m) = m

/-- What a parcel holds of a value, and which values are read as they were written. -/
class IpcItems (Obj α : Type) where
  items : α → List (ParcelItem Obj)
  Sound : α → Prop

section Overloads

variable {Obj α β M A : Type} {P : MessageParcel Obj}

@[reducible] def scalarAttr (P : MessageParcel Obj) (k : ParcelKind) : IpcAttr P (k.Value Obj) where
  ipcEncodeBindAttr := .write .refused k
  ipcDecodeBindAttr := .read .refused k

instance : IpcAttr P Bool := scalarAttr P .bool

instance : IpcAttr P Int8 := scalarAttr P .int8

instance : IpcAttr P Int16 := scalarAttr P .int16

instance : IpcAttr P Int32 := scalarAttr P .int32

instance : IpcAttr P Int64 := scalarAttr P .int64

instance : IpcAttr P UInt8 := scalarAttr P .uint8

instance : IpcAttr P UInt16 := scalarAttr P .uint16

instance : IpcAttr P UInt32 := scalarAttr P .uint32

instance : IpcAttr P UInt64 := scalarAttr P .uint64

instance : IpcAttr P (BitVec 32) := scalarAttr P .float

instance : IpcAttr P (BitVec 64) := scalarAttr P .double

instance : IpcAttr P Text := scalarAttr P .string

/-- `ReadRemoteObject` gives a null pointer where it finds nothing. -/
instance : IpcAttr P (Option Obj) where
  ipcEncodeBindAttr attr := .write .refused .object attr
  ipcDecodeBindAttr := do
    match ← Parcel.Access.readD (P := P) .object none with
    | none => throw .refused
    | some attr => pure (some attr)

/-- The size is read without a look at the result, into a variable that nothing has set before. -/
instance [IpcAttr P α] : IpcAttr P (List α) where
  ipcEncodeBindAttr vec := do
    tryCatch (ipcEncodeBindAttr (Int32.ofNat vec.length)) fun _ => pure ()
    vec.forM ipcEncodeBindAttr
  ipcDecodeBindAttr := do
    let size ← tryCatch (ipcDecodeBindAttr : IpcAccess P Int32) fun _ => throw .uninitialized
    if size < 0 then throw .lengthError
    else .many size.toInt.toNat ipcDecodeBindAttr

/-- `IPC_BIND_ATTR0`. -/
instance : IpcAttr P Unit := ⟨fun _ => pure (), pure ()⟩

/-- `first` and `last` of the templates that `IPC_BIND_ATTR` makes. -/
instance [IpcAttr P α] [IpcAttr P β] : IpcAttr P (α × β) where
  ipcEncodeBindAttr attrs := do
    ipcEncodeBindAttr attrs.1
    ipcEncodeBindAttr attrs.2
  ipcDecodeBindAttr := do
    let first ← ipcDecodeBindAttr
    let last ← ipcDecodeBindAttr
    pure (first, last)

/-- `IpcSerialize` and `IpcDeserialize`, and the overloads that call them. -/
instance [IpcBindAttr M A] [IpcAttr P A] : IpcAttr P M where
  ipcEncodeBindAttr m := ipcEncodeBindAttr (IpcBindAttr.attrs m)
  ipcDecodeBindAttr := do
    let attrs ← ipcDecodeBindAttr
    pure (IpcBindAttr.ofAttrs attrs)

@[reducible] def scalarItems (Obj : Type) (k : ParcelKind) : IpcItems Obj (k.Value Obj) where
  items v := [⟨k, v⟩]
  Sound _ := True

instance : IpcItems Obj Bool := scalarItems Obj .bool

instance : IpcItems Obj Int8 := scalarItems Obj .int8

instance : IpcItems Obj Int16 := scalarItems Obj .int16

instance : IpcItems Obj Int32 := scalarItems Obj .int32

instance : IpcItems Obj Int64 := scalarItems Obj .int64

instance : IpcItems Obj UInt8 := scalarItems Obj .uint8

instance : IpcItems Obj UInt16 := scalarItems Obj .uint16

instance : IpcItems Obj UInt32 := scalarItems Obj .uint32

instance : IpcItems Obj UInt64 := scalarItems Obj .uint64

instance : IpcItems Obj (BitVec 32) := scalarItems Obj .float

instance : IpcItems Obj (BitVec 64) := scalarItems Obj .double

instance : IpcItems Obj Text := scalarItems Obj .string

instance : IpcItems Obj (Option Obj) where
  items attr := [⟨.object, attr⟩]
  Sound attr := attr.isSome

instance [IpcItems Obj α] : IpcItems Obj (List α) where
  items vec := ⟨.int32, Int32.ofNat vec.length⟩ :: vec.flatMap IpcItems.items
  Sound vec := vec.length < 2 ^ 31 ∧ ∀ item ∈ vec, IpcItems.Sound Obj item

instance : IpcItems Obj Unit := ⟨fun _ => [], fun _ => True⟩

instance [IpcItems Obj α] [IpcItems Obj β] : IpcItems Obj (α × β) where
  items attrs := IpcItems.items attrs.1 ++ IpcItems.items attrs.2
  Sound attrs := IpcItems.Sound Obj attrs.1 ∧ IpcItems.Sound Obj attrs.2

instance [IpcBindAttr M A] [IpcItems Obj A] : IpcItems Obj M where
  items m := IpcItems.items (IpcBindAttr.attrs m)
  Sound m := IpcItems.Sound Obj (IpcBindAttr.attrs m)

end Overloads

/-- The overloads for a type keep to the parcel's image of its values. -/
class LawfulIpcAttr {Obj : Type} (P : MessageParcel Obj) (α : Type) [IpcAttr P α] [IpcItems Obj α] :
    Prop where
  writes : ∀ {fits : List (ParcelItem Obj) → Prop} {contents : P.Data → List (ParcelItem Obj)},
    P.Lawful fits contents → ∀ a : α,
      (ipcEncodeBindAttr a : IpcAccess P Unit).Writes fits contents (IpcItems.items a)
  reads : ∀ {fits : List (ParcelItem Obj) → Prop} {contents : P.Data → List (ParcelItem Obj)},
    P.Lawful fits contents → ∀ a : α, IpcItems.Sound Obj a →
      (ipcDecodeBindAttr : IpcAccess P α).Reads contents (IpcItems.items a) a

namespace LawfulIpcAttr

open Parcel Access

variable {Obj α β M A : Type} {P : MessageParcel Obj}

theorem scalar (k : ParcelKind) : @LawfulIpcAttr Obj P _ (scalarAttr P k) (scalarItems Obj k) :=
  @LawfulIpcAttr.mk Obj P _ (scalarAttr P k) (scalarItems Obj k)
    (fun hP a => writes_write hP IpcFailure.refused k a) (fun hP a _ => reads_read hP IpcFailure.refused k a)

instance : LawfulIpcAttr P Bool := scalar .bool

instance : LawfulIpcAttr P Int8 := scalar .int8

instance : LawfulIpcAttr P Int16 := scalar .int16

instance : LawfulIpcAttr P Int32 := scalar .int32

instance : LawfulIpcAttr P Int64 := scalar .int64

instance : LawfulIpcAttr P UInt8 := scalar .uint8

instance : LawfulIpcAttr P UInt16 := scalar .uint16

instance : LawfulIpcAttr P UInt32 := scalar .uint32

instance : LawfulIpcAttr P UInt64 := scalar .uint64

instance : LawfulIpcAttr P (BitVec 32) := scalar .float

instance : LawfulIpcAttr P (BitVec 64) := scalar .double

instance : LawfulIpcAttr P Text := scalar .string

instance : LawfulIpcAttr P (Option Obj) where
  writes hP attr := writes_write hP IpcFailure.refused ParcelKind.object attr
  reads hP attr hsound := by
    obtain ⟨obj, rfl⟩ := Option.isSome_iff_exists.mp hsound
    have h := reads_readD (ε := IpcFailure) hP .object none (some obj)
    have hbind := h.bind (f := fun attr => match attr with
      | none => throw .refused
      | some attr => pure (some attr)) (reads_pure (some obj))
    exact hbind

instance [IpcAttr P α] [IpcItems Obj α] [LawfulIpcAttr P α] : LawfulIpcAttr P (List α) where
  writes hP vec := by
    have hsize := (writes hP (Int32.ofNat vec.length)).tryCatch fun _ => pure ()
    exact hsize.seq hP (Writes.forM hP fun item _ => writes hP item)
  reads hP vec hsound := by
    obtain ⟨hlength, hitems⟩ := hsound
    have hsize := (reads hP (Int32.ofNat vec.length) trivial).tryCatch fun _ => throw .uninitialized
    have hcount : (Int32.ofNat vec.length).toInt = vec.length := Int32.toInt_ofNat_of_lt hlength
    have hmany := Reads.many fun item hitem => reads hP item (hitems item hitem)
    have hsign : ¬ Int32.ofNat vec.length < 0 := by
      rw [Int32.lt_iff_toInt_lt, hcount]
      simp
    refine hsize.bind ?_
    change Reads _ _ (vec.flatMap IpcItems.items) vec
    simpa only [hsign, if_false, hcount, Int.toNat_natCast] using hmany

instance : LawfulIpcAttr P Unit where
  writes _ _ := writes_pure
  reads _ _ _ := reads_pure ()

instance [IpcAttr P α] [IpcItems Obj α] [LawfulIpcAttr P α] [IpcAttr P β] [IpcItems Obj β]
    [LawfulIpcAttr P β] : LawfulIpcAttr P (α × β) where
  writes hP attrs := (writes hP attrs.1).seq hP (writes hP attrs.2)
  reads hP attrs hsound :=
    (reads hP attrs.1 hsound.1).bind ((reads hP attrs.2 hsound.2).map fun last => (attrs.1, last))

instance [IpcBindAttr M A] [IpcAttr P A] [IpcItems Obj A] [LawfulIpcAttr P A] : LawfulIpcAttr P M where
  writes hP m := writes hP (IpcBindAttr.attrs m)
  reads hP m hsound := by
    have h := (reads hP (IpcBindAttr.attrs m) hsound).map (β := M) IpcBindAttr.ofAttrs
    rwa [IpcBindAttr.ofAttrs_attrs] at h

end LawfulIpcAttr

end WifiDisplay
