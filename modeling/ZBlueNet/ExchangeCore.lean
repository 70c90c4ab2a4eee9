import Mathlib.Data.Int.Basic
import ZBlueNet.Lib.Bytes

/-!
The macros of `exchange/macro.h`, and the `encode` and `decode` functions that apply them
to the fields of a message. An access outside the buffer, a `left_bytes` below zero and an
exception are outcomes of their own, so that nothing goes on after any.
-/

namespace ZBlueNet.Exchange

open Bytes

/-! Integer variables. -/

inductive Width where
  | int8
  | int16
  | int32
  | int64
deriving DecidableEq, Repr

def Width.bytes : Width → Nat
  | .int8 => 1
  | .int16 => 2
  | .int32 => 4
  | .int64 => 8

def Width.modulus (width : Width) : Nat := 256 ^ width.bytes

theorem Width.modulus_even (width : Width) : width.modulus = 2 * (width.modulus / 2) := by
  cases width <;> decide

theorem Width.modulus_positive (width : Width) : 0 < width.modulus := by
  cases width <;> decide

structure IntType where
  width : Width
  signed : Bool
deriving DecidableEq, Repr

namespace IntType

def low (type : IntType) : Int := if type.signed then -(type.width.modulus / 2 : Nat) else 0

def high (type : IntType) : Int :=
  if type.signed then (type.width.modulus / 2 : Nat) else type.width.modulus

def wrap (type : IntType) (x : Int) : Int :=
  if type.signed then x.bmod type.width.modulus else x % type.width.modulus

@[ext]
structure Value (type : IntType) where
  val : Int
  least : type.low ≤ val
  most : val < type.high
deriving DecidableEq, Repr

theorem wrap_bounds (type : IntType) (x : Int) :
    type.low ≤ type.wrap x ∧ type.wrap x < type.high := by
  obtain ⟨width, signed⟩ := type
  have even := width.modulus_even
  have positive := width.modulus_positive
  unfold low high wrap
  cases signed with
  | true =>
      have least : -(width.modulus / 2 : Int) ≤ x.bmod width.modulus := Int.le_bmod positive
      have most : x.bmod width.modulus < (width.modulus + 1) / 2 := Int.bmod_lt positive
      simp only [if_true]
      omega
  | false =>
      have least := Int.emod_nonneg x (Int.natCast_ne_zero.mpr positive.ne')
      have most := Int.emod_lt_of_pos x (Int.natCast_pos.mpr positive)
      exact ⟨least, most⟩

def cast (type : IntType) (x : Int) : type.Value :=
  ⟨type.wrap x, (type.wrap_bounds x).1, (type.wrap_bounds x).2⟩

end IntType

def uint16 : IntType := ⟨.int16, false⟩

def int32 : IntType := ⟨.int32, true⟩

def uint32 : IntType := ⟨.int32, false⟩

def uint64 : IntType := ⟨.int64, false⟩

def sizeT : IntType := ⟨.int64, false⟩

/-- `(uint8_t)(x >> 8 * k)` for each `k` below the count, the highest first. -/
def shiftedBytes : Nat → Int → List UInt8
  | 0, _ => []
  | count + 1, x => UInt8.ofInt (x >>> (8 * count)) :: shiftedBytes count x

/-! What the macros do to `p` and `left_bytes`. -/

inductive Outcome (α : Type) where
  /-- a byte outside the buffer was read or written -/
  | overrun
  /-- `left_bytes` went below zero, or `p` back -/
  | wrapped
  /-- `reserve` gets no memory -/
  | thrown
  /-- `return -1` -/
  | failed
  | ok (value : α)
deriving DecidableEq, Repr

namespace Outcome

variable {α β : Type}

protected def bind : Outcome α → (α → Outcome β) → Outcome β
  | overrun, _ => overrun
  | wrapped, _ => wrapped
  | thrown, _ => thrown
  | failed, _ => failed
  | ok value, next => next value

instance : Monad Outcome where
  pure := ok
  bind := Outcome.bind

@[simp] theorem bind_thrown (next : α → Outcome β) : thrown.bind next = thrown := rfl

@[simp] theorem bind_failed (next : α → Outcome β) : failed.bind next = failed := rfl

@[simp] theorem bind_ok (value : α) (next : α → Outcome β) : (ok value).bind next = next value :=
  rfl

end Outcome

structure Cursor where
  p : Nat
  leftBytes : Nat
deriving DecidableEq, Repr

def Cursor.advance (cursor : Cursor) (count : Int) : Outcome Cursor :=
  if 0 ≤ count ∧ count ≤ cursor.leftBytes then
    .ok { p := cursor.p + count.toNat, leftBytes := cursor.leftBytes - count.toNat }
  else .wrapped

def returned (size leftBytes : Nat) : Int := int32.wrap (size - leftBytes)

/-! Reading. -/

abbrev Read := ReaderT (List UInt8) (StateT Cursor Outcome)

/-- A function that is given `p` and a size, and returns an `int`. The caller of one that returns
`-1` returns it too, which is what `bind` does. -/
abbrev Decode (α : Type) := List UInt8 → Nat → Nat → Outcome (Int × α)

namespace Read

variable {α β : Type}

theorem bind_apply (read : Read α) (next : α → Read β) (memory : List UInt8) (cursor : Cursor) :
    (read >>= next) memory cursor =
      (read memory cursor).bind fun step => next step.1 memory step.2 :=
  rfl

def ensure (count : Nat) : Read Unit := fun _ cursor =>
  if cursor.leftBytes < count then .failed else .ok ((), cursor)

def load (count : Nat) : Read (List UInt8) := fun memory cursor =>
  if cursor.p + count ≤ memory.length then
    .ok ((memory.drop cursor.p).take count, cursor)
  else .overrun

def skip (count : Int) : Read Unit := fun _ cursor =>
  (cursor.advance count).bind fun moved => .ok ((), moved)

/-- `_var.reserve(count)`, where there is memory for `room` elements. -/
def reserve (room count : Nat) : Read Unit := fun _ cursor =>
  if room < count then .thrown else .ok ((), cursor)

end Read

section Readers

open Read

variable {α : Type}

def readInt (count : Nat) (type : IntType) : Read type.Value := do
  ensure count
  let bytes ← load count
  skip count
  return type.cast (assemble bytes)

def readInt8 : (type : IntType) → Read type.Value := readInt 1

def readInt16 : (type : IntType) → Read type.Value := readInt 2

def readInt32 : (type : IntType) → Read type.Value := readInt 4

def readInt64 : (type : IntType) → Read type.Value := readInt 8

def readInt16V (type : IntType) : Read type.Value := do
  let var ← readInt8 type
  if uint16.wrap var.val < 255 then
    return var
  else
    readInt16 type

def readInt32V (type : IntType) : Read type.Value := do
  let var ← readInt8 type
  if uint32.wrap var.val < 254 then
    return var
  else if uint32.wrap var.val = 254 then
    readInt16 type
  else
    readInt32 type

def readInt64V (type : IntType) : Read type.Value := do
  let var ← readInt8 type
  if uint64.wrap var.val < 253 then
    return var
  else if uint64.wrap var.val = 253 then
    readInt16 type
  else if uint64.wrap var.val = 254 then
    readInt32 type
  else
    readInt64 type

/-- The variable is named apart from the `v` that the macro declares. -/
def readEnum (underlying : IntType) : Read underlying.Value := do
  let v ← readInt32V int32
  return underlying.cast v.val

def readLength : Read sizeT.Value := do
  let length ← readInt8 sizeT
  if length.val < 254 then
    return length
  else if length.val = 254 then
    readInt16 sizeT
  else
    readInt32 sizeT

def readString : Read (List UInt8) := do
  let length ← readLength
  ensure length.val.toNat
  let bytes ← load length.val.toNat
  skip length.val
  return bytes

def readStruct (decode : Decode α) : Read α := fun memory cursor =>
  (decode memory cursor.p cursor.leftBytes).bind fun (structSize, var) =>
    if structSize = -1 then .failed
    else (cursor.advance structSize).bind fun moved => .ok (var, moved)

def readElements (readFunc : Read α) : Nat → Read (List α)
  | 0 => return []
  | count + 1 => do
      let v ← readFunc
      return v :: (← readElements readFunc count)

def readList (room : Nat) (readFunc : Read α) : Read (List α) := do
  let length ← readLength
  reserve room length.val.toNat
  readElements readFunc length.val.toNat

/-- `declared` holds the values of the variables that are declared and not assigned. -/
def readEnumElements (underlying : IntType) (declared : Nat → underlying.Value) :
    Nat → Nat → Read (List underlying.Value)
  | _, 0 => return []
  | i, count + 1 => do
      let v := declared i
      -- read into the `v` of the macro, which hides this one
      let _ ← readEnum underlying
      return v :: (← readEnumElements underlying declared (i + 1) count)

def readEnumList (room : Nat) (underlying : IntType) (declared : Nat → underlying.Value) :
    Read (List underlying.Value) := do
  let length ← readLength
  reserve room length.val.toNat
  readEnumElements underlying declared 0 length.val.toNat

def decodeWith (fields : Read α) : Decode α := fun memory p size =>
  (fields memory { p := p, leftBytes := size }).bind fun (value, cursor) =>
    .ok (returned size cursor.leftBytes, value)

end Readers

/-! Writing. -/

structure Output where
  memory : List UInt8
  cursor : Cursor
deriving DecidableEq, Repr

abbrev Write := StateT Output Outcome Unit

abbrev Encode := List UInt8 → Nat → Nat → Outcome (Int × List UInt8)

namespace Write

theorem bind_apply (first second : Write) (output : Output) :
    (first >>= fun _ => second) output = (first output).bind fun step => second step.2 :=
  rfl

def ensure (count : Nat) : Write := fun output =>
  if output.cursor.leftBytes < count then .failed else .ok ((), output)

def store (bytes : List UInt8) : Write := fun output =>
  if output.cursor.p + bytes.length ≤ output.memory.length then
    .ok ((), { output with memory := overwrite output.memory output.cursor.p bytes })
  else .overrun

def skip (count : Int) : Write := fun output =>
  (output.cursor.advance count).bind fun moved => .ok ((), { output with cursor := moved })

end Write

section Writers

open Write

variable {α : Type}

def writeInt (count : Nat) (var : Int) : Write := do
  ensure count
  store (shiftedBytes count var)
  skip count

def writeInt8 : Int → Write := writeInt 1

def writeInt16 : Int → Write := writeInt 2

def writeInt32 : Int → Write := writeInt 4

def writeInt64 : Int → Write := writeInt 8

def writeInt16V (var : Int) : Write := do
  if uint16.wrap var < 255 then
    writeInt8 var
  else
    writeInt8 255
    writeInt16 var

def writeInt32V (var : Int) : Write := do
  if uint32.wrap var < 254 then
    writeInt8 var
  else if uint32.wrap var ≤ 0xffff then
    writeInt8 254
    writeInt16 var
  else
    writeInt8 255
    writeInt32 var

def writeInt64V (var : Int) : Write := do
  if uint64.wrap var < 253 then
    writeInt8 var
  else if uint64.wrap var ≤ 0xffff then
    writeInt8 253
    writeInt16 var
  else if uint64.wrap var ≤ 0xffffffff then
    writeInt8 254
    writeInt32 var
  else
    writeInt8 255
    writeInt64 var

def writeEnum (var : Int) : Write := writeInt32V var

def writeLength (length : Nat) : Write := do
  if length < 254 then
    writeInt8 length
  else if length ≤ 0xffff then
    writeInt8 254
    writeInt16 length
  else if length ≤ 0xffffffff then
    writeInt8 255
    writeInt32 length
  else fun _ => .failed

def writeString (var : List UInt8) : Write := do
  writeLength var.length
  ensure var.length
  store var
  skip var.length

def writeStruct (encode : Encode) : Write := fun output =>
  (encode output.memory output.cursor.p output.cursor.leftBytes).bind fun (structSize, memory) =>
    if structSize = -1 then .failed
    else
      (output.cursor.advance structSize).bind fun moved =>
        .ok ((), { memory := memory, cursor := moved })

def writeElements (writeFunc : α → Write) : List α → Write
  | [] => return ()
  | v :: rest => do
      writeFunc v
      writeElements writeFunc rest

def writeList (var : List α) (writeFunc : α → Write) : Write := do
  writeLength var.length
  writeElements writeFunc var

def encodeWith (fields : Write) : Encode := fun memory p size =>
  (fields { memory := memory, cursor := { p := p, leftBytes := size } }).bind fun ((), output) =>
    .ok (returned size output.cursor.leftBytes, output.memory)

end Writers

/-! Message schemas. -/

/-- The macros for one value of a built-in type. `signed` is the sign of the variable, whose
width is the macro's. -/
inductive Scalar where
  | int8 (signed : Bool)
  | int16 (signed : Bool)
  | int32 (signed : Bool)
  | int64 (signed : Bool)
  | int16V (signed : Bool)
  | int32V (signed : Bool)
  | int64V (signed : Bool)
  | string

mutual

/-- What a macro writes that is given nothing but its variable. `WRITE_LIST` passes only
that, so a list holds items: `WRITE_LIST` itself asks for more. -/
inductive Item where
  | scalar (type : Scalar)
  | enum (underlying : IntType)
  | struct (fields : Fields)

inductive Kind where
  | item (item : Item)
  | list (element : Item)

inductive Fields where
  | nil
  | cons (first : Kind) (rest : Fields)

end

def Scalar.Value : Scalar → Type
  | int8 signed => IntType.Value ⟨.int8, signed⟩
  | int16 signed | int16V signed => IntType.Value ⟨.int16, signed⟩
  | int32 signed | int32V signed => IntType.Value ⟨.int32, signed⟩
  | int64 signed | int64V signed => IntType.Value ⟨.int64, signed⟩
  | string => List UInt8

def Scalar.read : (type : Scalar) → Read type.Value
  | int8 signed => readInt8 ⟨.int8, signed⟩
  | int16 signed => readInt16 ⟨.int16, signed⟩
  | int32 signed => readInt32 ⟨.int32, signed⟩
  | int64 signed => readInt64 ⟨.int64, signed⟩
  | int16V signed => readInt16V ⟨.int16, signed⟩
  | int32V signed => readInt32V ⟨.int32, signed⟩
  | int64V signed => readInt64V ⟨.int64, signed⟩
  | string => readString

def Scalar.write : (type : Scalar) → type.Value → Write
  | int8 _, var => writeInt8 var.val
  | int16 _, var => writeInt16 var.val
  | int32 _, var => writeInt32 var.val
  | int64 _, var => writeInt64 var.val
  | int16V _, var => writeInt16V var.val
  | int32V _, var => writeInt32V var.val
  | int64V _, var => writeInt64V var.val
  | string, var => writeString var

def Scalar.Fits : (type : Scalar) → type.Value → Prop
  | string, var => var.length < 2 ^ 32
  | _, _ => True

mutual

def Item.Value : Item → Type
  | .scalar type => type.Value
  | .enum underlying => underlying.Value
  | .struct fields => fields.Value

def Kind.Value : Kind → Type
  | .item item => item.Value
  | .list element => List element.Value

def Fields.Value : Fields → Type
  | .nil => Unit
  | .cons first rest => first.Value × rest.Value

end

/-- What a result depends on besides the bytes: for how many elements of a type `reserve` gets
memory, and what each turn of `READ_ENUM_LIST` finds in its variable. -/
structure Machine where
  room : Item → Nat
  declared : (underlying : IntType) → Nat → underlying.Value

/-- `READ_ENUM` asks for the type too, so `READ_LIST` cannot call it. -/
def readItems (machine : Machine) :
    (element : Item) → Read element.Value → Read (List element.Value)
  | .enum underlying, _ =>
      readEnumList (machine.room (.enum underlying)) underlying (machine.declared underlying)
  | .scalar type, readFunc => readList (machine.room (.scalar type)) readFunc
  | .struct fields, readFunc => readList (machine.room (.struct fields)) readFunc

mutual

def Item.read (machine : Machine) : (item : Item) → Read item.Value
  | .scalar type => type.read
  | .enum underlying => readEnum underlying
  | .struct fields => readStruct (decodeWith (fields.read machine))

def Kind.read (machine : Machine) : (kind : Kind) → Read kind.Value
  | .item item => item.read machine
  | .list element => readItems machine element (element.read machine)

def Fields.read (machine : Machine) : (fields : Fields) → Read fields.Value
  | .nil => pure ()
  | .cons first rest => do
      let var ← first.read machine
      return (var, ← rest.read machine)

end

mutual

def Item.write : (item : Item) → item.Value → Write
  | .scalar type, var => type.write var
  | .enum _, var => writeEnum var.val
  | .struct fields, var => writeStruct (encodeWith (fields.write var))

def Kind.write : (kind : Kind) → kind.Value → Write
  | .item item, var => item.write var
  | .list element, var => writeList var element.write

def Fields.write : (fields : Fields) → fields.Value → Write
  | .nil, _ => pure ()
  | .cons first rest, (var, later) => do
      first.write var
      rest.write later

end

mutual

/-- Every string and every list in the value is shorter than `2^32`. -/
def Item.Fits : (item : Item) → item.Value → Prop
  | .scalar type, var => type.Fits var
  | .enum _, _ => True
  | .struct fields, var => fields.Fits var

def Kind.Fits : (kind : Kind) → kind.Value → Prop
  | .item item, var => item.Fits var
  | .list element, (var : List element.Value) =>
      var.length < 2 ^ 32 ∧ ∀ v ∈ var, element.Fits v

def Fields.Fits : (fields : Fields) → fields.Value → Prop
  | .nil, _ => True
  | .cons first rest, (var, later) => first.Fits var ∧ rest.Fits later

end

mutual

/-- `READ_LIST` reads every list: none holds enumerations. -/
def Item.NoEnumList : Item → Prop
  | .scalar _ | .enum _ => True
  | .struct fields => fields.NoEnumList

def Kind.NoEnumList : Kind → Prop
  | .item item => item.NoEnumList
  | .list element => (∀ underlying, element ≠ .enum underlying) ∧ element.NoEnumList

def Fields.NoEnumList : Fields → Prop
  | .nil => True
  | .cons first rest => first.NoEnumList ∧ rest.NoEnumList

end

namespace Fields

def decode (machine : Machine) (fields : Fields) (buffer : List UInt8) :
    Outcome (Int × fields.Value) :=
  decodeWith (fields.read machine) buffer 0 buffer.length

def encode (fields : Fields) (var : fields.Value) (buffer : List UInt8) :
    Outcome (Int × List UInt8) :=
  encodeWith (fields.write var) buffer 0 buffer.length

end Fields

end ZBlueNet.Exchange
