import Mathlib.Logic.Function.Basic
import WifiDisplay.Basic
import WifiDisplay.ByteBlock
import WifiDisplay.RtspNumbers

/-! `DataBuffer`: a block of bytes with a capacity and a size, and what its functions do to it
when memory runs out. -/

namespace WifiDisplay

/-- `data` is the block that `data_` points to. -/
structure DataBuffer where
  size : Int := 0
  capacity : Int := 0
  data : Option ByteBlock := none
  deriving DecidableEq

/-- A pointer with a length, of which so many bytes can be read. -/
structure Source where
  bytes : List Byte
  dataLen : Int32
  fits : dataLen.toInt ≤ bytes.length

/-- What the allocator has for a call: nothing, or what stands in the block that it gives. -/
abbrev Memory := Option (List Byte)

namespace DataBuffer

def maxCapacity : Int := 1000 * 1000 * 1000

/-- `new (std::nothrow) uint8_t[n]`. -/
def allocate (memory : Memory) (n : Int) : Option ByteBlock :=
  if n < 0 then none else memory.map fun bytes => (List.range n.toNat).map (bytes.getD · 0)

/-- `memcpy_s` to `dest + offset`, and whether it succeeds. A count behind `destMax`, or one that
is negative and so as large as a `size_t`, clears the destination. -/
def memcpyS (dest : Option ByteBlock) (offset destMax : Int) (src : Option (List Byte)) (count : Int) :
    Except Fault (Option ByteBlock × Bool) :=
  match dest, src with
  | some block, some src =>
    if destMax ≤ 0 then .ok (dest, false)
    else if count < 0 ∨ destMax < count then
      match block.store offset.toNat (List.replicate destMax.toNat 0) with
      | none => .error .outOfBounds
      | some block => .ok (some block, false)
    else
      match ByteBlock.load src 0 count.toNat with
      | none => .error .outOfBounds
      | some bytes =>
        match block.store offset.toNat bytes with
        | none => .error .outOfBounds
        | some block => .ok (some block, true)
  | _, _ => .ok (dest, false)

/-- The constructor with a size, which puts a zero behind the capacity. -/
def construct (memory : Memory) (size : Int) : Except Fault DataBuffer :=
  if size ≤ 0 ∨ maxCapacity < size then .ok {}
  else match allocate memory (size + 1) with
    | none => .ok {}
    | some block =>
      match block.store size.toNat [0] with
      | none => .error .outOfBounds
      | some block => .ok { size := 0, capacity := size, data := some block }

def copyConstruct (memory : Memory) (other : DataBuffer) : Except Fault DataBuffer :=
  if other.data.isSome ∧ other.size ≠ 0 then
    match allocate memory (int32 (other.size + 1)) with
    | none => .ok {}
    | some block => do
      let (data, copied) ← memcpyS (some block) 0 (int32 (other.size + 1)) other.data other.size
      if !copied then return {}
      return { size := other.size, capacity := other.size, data := data }
  else .ok {}

/-- The assignment to another object; an empty one is not copied. -/
def assign (memory : Memory) (b other : DataBuffer) : Except Fault DataBuffer :=
  if other.data.isSome ∧ other.size ≠ 0 then
    match allocate memory (int32 (other.size + 1)) with
    | none => .ok b
    | some block => do
      let (data, copied) ← memcpyS (some block) 0 (int32 (other.size + 1)) other.data other.size
      if !copied then return b
      return { size := other.size, capacity := other.size, data := data }
  else .ok b

def resize (memory : Memory) (b : DataBuffer) (size : Int) : Except Fault DataBuffer :=
  if size ≤ 0 ∨ maxCapacity < size then .ok b
  else if b.capacity < size then
    match allocate memory size with
    | none => .ok b
    | some data2 =>
      if b.data.isSome ∧ 0 < b.size then do
        let (data, copied) ← memcpyS (some data2) 0 size b.data b.size
        if !copied then return b
        return { b with capacity := size, data := data }
      else .ok { b with capacity := size, data := some data2 }
  else if size < b.capacity then
    match allocate memory size with
    | none => .ok { b with capacity := 0, data := none }
    | some block => .ok { size := 0, capacity := size, data := some block }
  else .ok b

/-- `capacity_` is set before the allocation is checked. -/
def pushData (memory : Memory) (b : DataBuffer) : Option Source → Except Fault DataBuffer
  | none => .ok b
  | some src =>
    let dataLen := src.dataLen.toInt
    if dataLen ≤ 0 ∨ b.size < 0 ∨ b.capacity < 0 then .ok b
    else if int32 (dataLen + b.size) ≤ b.capacity then do
      let (data, copied) ← memcpyS b.data b.size (b.capacity - b.size) (some src.bytes) dataLen
      if !copied then return { b with data := data }
      return { b with size := b.size + dataLen, data := data }
    else
      let capacity := int32 (b.size + dataLen)
      match allocate memory capacity with
      | none => .ok { b with capacity := capacity }
      | some newBuffer => do
        let mut newData := some newBuffer
        if b.data.isSome then
          let (data, copied) ← memcpyS newData 0 capacity b.data b.size
          if !copied then return { b with capacity := capacity }
          newData := data
        let (data, copied) ← memcpyS newData b.size (capacity - b.size) (some src.bytes) dataLen
        if !copied then return { b with capacity := capacity }
        return { size := capacity, capacity := capacity, data := data }

def replaceData (memory : Memory) (b : DataBuffer) : Option Source → Except Fault DataBuffer
  | none => .ok b
  | some src => do
    let dataLen := src.dataLen.toInt
    let mut b := b
    if b.capacity < dataLen then
      match allocate memory dataLen with
      | none => return { b with capacity := 0, data := none }
      | some block => b := { b with capacity := dataLen, data := some block }
    let (data, copied) ← memcpyS b.data 0 b.capacity (some src.bytes) dataLen
    if !copied then return { b with data := data }
    return { b with size := dataLen, data := data }

def setCapacity (memory : Memory) (b : DataBuffer) (capacity : Int) : DataBuffer :=
  if capacity ≤ 0 then b
  else match allocate memory capacity with
    | none => {}
    | some block => { size := 0, capacity := capacity, data := some block }

def updateSize (b : DataBuffer) (size : Int) : DataBuffer :=
  if size ≤ b.capacity then { b with size := size } else b

def setSize (b : DataBuffer) (size : Int) : DataBuffer :=
  if size < 0 ∨ b.capacity < size then b else { b with size := size }

end DataBuffer

/-- A call on the object `i`, also with another one. Before a construction the object that had the
place is gone. -/
inductive BufferCall where
  | construct (i : Nat) (size : Int32)
  | copyConstruct (i j : Nat)
  | moveConstruct (i j : Nat)
  | assign (i j : Nat)
  | moveAssign (i j : Nat)
  | resize (i : Nat) (size : Int32)
  | setCapacity (i : Nat) (capacity : Int32)
  | pushData (i : Nat) (src : Option Source)
  | replaceData (i : Nat) (src : Option Source)
  | updateSize (i : Nat) (size : Int32)
  | setSize (i : Nat) (size : Int32)
  | clear (i : Nat)

abbrev Buffers := Nat → DataBuffer

namespace Buffers

open Function (update)

def step (s : Buffers) (memory : Memory) : BufferCall → Except Fault Buffers
  | .construct i size => do return update s i (← DataBuffer.construct memory size.toInt)
  | .copyConstruct i j => do return update s i (← (s j).copyConstruct memory)
  | .moveConstruct i j | .moveAssign i j => .ok (update (update s j {}) i (s j))
  | .assign i j => if i = j then .ok s else do return update s i (← (s i).assign memory (s j))
  | .resize i size => do return update s i (← (s i).resize memory size.toInt)
  | .setCapacity i capacity => .ok (update s i ((s i).setCapacity memory capacity.toInt))
  | .pushData i src => do return update s i (← (s i).pushData memory src)
  | .replaceData i src => do return update s i (← (s i).replaceData memory src)
  | .updateSize i size => .ok (update s i ((s i).updateSize size.toInt))
  | .setSize i size => .ok (update s i ((s i).setSize size.toInt))
  | .clear i => .ok (update s i {})

end Buffers

end WifiDisplay
