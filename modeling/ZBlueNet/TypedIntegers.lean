import ZBlueNet.ByteQueue

/-!
The typed integers of `dynamic_buffer.cc`, body by body: four widths, two byte orders, and the
overloads that widen what they read. All of them are the byte queue's integers; only the guard of
a peek wraps around for offsets near the end of `size_t`.
-/

namespace ZBlueNet.DynamicBuffer

open Bytes Runs

/-- A peek returns false, or true with a value. `astray` is true with a load outside the vector. -/
inductive Peek (α : Type)
  | refused
  | loaded (value : α)
  | astray
deriving DecidableEq, Repr

namespace Peek

variable {α β : Type}

def ofLoads : Option α → Peek α
  | some value => .loaded value
  | none => .astray

def map (change : α → β) : Peek α → Peek β
  | .refused => .refused
  | .loaded value => .loaded (change value)
  | .astray => .astray

def returned : Peek α → Bool
  | .refused => false
  | _ => true

end Peek

/-- The index in the vector of `readBegin() + offset + position`. -/
def loadIndex (b : DynamicBuffer) (offset position : Nat) : Nat :=
  sizeAdd (sizeAdd b.readIndex offset) position

def loadByte (b : DynamicBuffer) (offset position : Nat) : Option UInt8 :=
  b.buffer[b.loadIndex offset position]?

namespace Typed

def peekAt {α : Type} (b : DynamicBuffer) (offset count : Nat) (loads : Option α) : Peek α :=
  if b.readableBytes < sizeAdd offset count then .refused else .ofLoads loads

def peekInt8 (b : DynamicBuffer) (offset : Nat := 0) : Peek UInt8 :=
  peekAt b offset 1 (b.loadByte offset 0)

def peekInt16 (b : DynamicBuffer) (offset : Nat := 0) (littleEndian : Bool := false) :
    Peek UInt16 :=
  let p := b.loadByte offset
  peekAt b offset 2 <|
    if littleEndian then do
      return (← p 0).toUInt16 ||| (← p 1).toUInt16 <<< 8
    else do
      return (← p 1).toUInt16 ||| (← p 0).toUInt16 <<< 8

def peekInt32 (b : DynamicBuffer) (offset : Nat := 0) (littleEndian : Bool := false) :
    Peek UInt32 :=
  let p := b.loadByte offset
  peekAt b offset 4 <|
    if littleEndian then do
      return (← p 0).toUInt32 ||| (← p 1).toUInt32 <<< 8 ||| (← p 2).toUInt32 <<< 16 |||
        (← p 3).toUInt32 <<< 24
    else do
      return (← p 3).toUInt32 ||| (← p 2).toUInt32 <<< 8 ||| (← p 1).toUInt32 <<< 16 |||
        (← p 0).toUInt32 <<< 24

def peekInt64 (b : DynamicBuffer) (offset : Nat := 0) (littleEndian : Bool := false) :
    Peek UInt64 :=
  let p := b.loadByte offset
  peekAt b offset 8 <|
    if littleEndian then do
      return (← p 0).toUInt64 ||| (← p 1).toUInt64 <<< 8 ||| (← p 2).toUInt64 <<< 16 |||
        (← p 3).toUInt64 <<< 24 ||| (← p 4).toUInt64 <<< 32 ||| (← p 5).toUInt64 <<< 40 |||
        (← p 6).toUInt64 <<< 48 ||| (← p 7).toUInt64 <<< 56
    else do
      return (← p 7).toUInt64 ||| (← p 6).toUInt64 <<< 8 ||| (← p 5).toUInt64 <<< 16 |||
        (← p 4).toUInt64 <<< 24 ||| (← p 3).toUInt64 <<< 32 ||| (← p 2).toUInt64 <<< 40 |||
        (← p 1).toUInt64 <<< 48 ||| (← p 0).toUInt64 <<< 56

/-! The overloads for wider targets call the narrow peek and assign its value. -/

def peekInt8U16 (b : DynamicBuffer) (offset : Nat := 0) : Peek UInt16 :=
  (peekInt8 b offset).map UInt8.toUInt16

def peekInt8U32 (b : DynamicBuffer) (offset : Nat := 0) : Peek UInt32 :=
  (peekInt8 b offset).map UInt8.toUInt32

def peekInt8U64 (b : DynamicBuffer) (offset : Nat := 0) : Peek UInt64 :=
  (peekInt8 b offset).map UInt8.toUInt64

def peekInt16U32 (b : DynamicBuffer) (offset : Nat := 0) (littleEndian : Bool := false) :
    Peek UInt32 :=
  (peekInt16 b offset littleEndian).map UInt16.toUInt32

def peekInt16U64 (b : DynamicBuffer) (offset : Nat := 0) (littleEndian : Bool := false) :
    Peek UInt64 :=
  (peekInt16 b offset littleEndian).map UInt16.toUInt64

def peekInt32U64 (b : DynamicBuffer) (offset : Nat := 0) (littleEndian : Bool := false) :
    Peek UInt64 :=
  (peekInt32 b offset littleEndian).map UInt32.toUInt64

def readAfter {α : Type} (b : DynamicBuffer) (peeked : Peek α) (size : Nat) :
    Peek α × DynamicBuffer :=
  if peeked.returned = false then (peeked, b) else (peeked, b.read size)

def readInt8 (b : DynamicBuffer) : Peek UInt8 × DynamicBuffer :=
  readAfter b (peekInt8 b) 1

def readInt8U16 (b : DynamicBuffer) : Peek UInt16 × DynamicBuffer :=
  readAfter b (peekInt8U16 b) 1

def readInt8U32 (b : DynamicBuffer) : Peek UInt32 × DynamicBuffer :=
  readAfter b (peekInt8U32 b) 1

def readInt8U64 (b : DynamicBuffer) : Peek UInt64 × DynamicBuffer :=
  readAfter b (peekInt8U64 b) 1

def readInt16 (b : DynamicBuffer) (littleEndian : Bool := false) : Peek UInt16 × DynamicBuffer :=
  readAfter b (peekInt16 b 0 littleEndian) 2

def readInt16U32 (b : DynamicBuffer) (littleEndian : Bool := false) :
    Peek UInt32 × DynamicBuffer :=
  readAfter b (peekInt16U32 b 0 littleEndian) 2

def readInt16U64 (b : DynamicBuffer) (littleEndian : Bool := false) :
    Peek UInt64 × DynamicBuffer :=
  readAfter b (peekInt16U64 b 0 littleEndian) 2

def readInt32 (b : DynamicBuffer) (littleEndian : Bool := false) : Peek UInt32 × DynamicBuffer :=
  readAfter b (peekInt32 b 0 littleEndian) 4

def readInt32U64 (b : DynamicBuffer) (littleEndian : Bool := false) :
    Peek UInt64 × DynamicBuffer :=
  readAfter b (peekInt32U64 b 0 littleEndian) 4

def readInt64 (b : DynamicBuffer) (littleEndian : Bool := false) : Peek UInt64 × DynamicBuffer :=
  readAfter b (peekInt64 b 0 littleEndian) 8

def writeInt8 (b : DynamicBuffer) (v : UInt8) : DynamicBuffer :=
  ((b.reserveWritableBytes 1).store 0 [v]).write 1

def writeInt16 (b : DynamicBuffer) (v : UInt16) (littleEndian : Bool := false) : DynamicBuffer :=
  let p := b.reserveWritableBytes 2
  let stored :=
    if littleEndian then
      (p.store 1 [(v >>> 8).toUInt8]).store 0 [v.toUInt8]
    else
      (p.store 0 [(v >>> 8).toUInt8]).store 1 [v.toUInt8]
  stored.write 2

def writeInt32 (b : DynamicBuffer) (v : UInt32) (littleEndian : Bool := false) : DynamicBuffer :=
  let p := b.reserveWritableBytes 4
  let stored :=
    if littleEndian then
      (((p.store 3 [(v >>> 24).toUInt8]).store 2 [(v >>> 16).toUInt8]).store 1
        [(v >>> 8).toUInt8]).store 0 [v.toUInt8]
    else
      (((p.store 0 [(v >>> 24).toUInt8]).store 1 [(v >>> 16).toUInt8]).store 2
        [(v >>> 8).toUInt8]).store 3 [v.toUInt8]
  stored.write 4

def writeInt64 (b : DynamicBuffer) (v : UInt64) (littleEndian : Bool := false) : DynamicBuffer :=
  let p := b.reserveWritableBytes 8
  let stored :=
    if littleEndian then
      (((((((p.store 7 [(v >>> 56).toUInt8]).store 6 [(v >>> 48).toUInt8]).store 5
        [(v >>> 40).toUInt8]).store 4 [(v >>> 32).toUInt8]).store 3 [(v >>> 24).toUInt8]).store 2
        [(v >>> 16).toUInt8]).store 1 [(v >>> 8).toUInt8]).store 0 [v.toUInt8]
    else
      (((((((p.store 0 [(v >>> 56).toUInt8]).store 1 [(v >>> 48).toUInt8]).store 2
        [(v >>> 40).toUInt8]).store 3 [(v >>> 32).toUInt8]).store 4 [(v >>> 24).toUInt8]).store 5
        [(v >>> 16).toUInt8]).store 6 [(v >>> 8).toUInt8]).store 7 [v.toUInt8]
  stored.write 8

end Typed

/-! What the bodies load and store. -/

namespace Peek

variable {α β γ : Type}

@[simp] theorem map_map (peeked : Peek α) (first : α → β) (second : β → γ) :
    (peeked.map first).map second = peeked.map fun value => second (first value) := by
  cases peeked <;> rfl

@[simp] theorem returned_map (peeked : Peek α) (change : α → β) :
    (peeked.map change).returned = peeked.returned := by
  cases peeked <;> rfl

@[simp] theorem returned_ofLoads (loads : Option α) : (ofLoads loads).returned = true := by
  cases loads <;> rfl

end Peek

theorem toNat_or16 (x0 x1 : UInt8) :
    (x0.toUInt16 ||| x1.toUInt16 <<< 8).toNat = assemble [x1, x0] := by
  simp only [UInt16.toNat_or, UInt16.toNat_shiftLeft, UInt8.toNat_toUInt16, UInt16.reduceToNat,
    Nat.reduceMod]
  simp (disch := decide) only [shiftLeft_mod]
  simp only [← or_assemble, List.length]
  simp [assemble]

theorem toNat_or32 (x0 x1 x2 x3 : UInt8) :
    (x0.toUInt32 ||| x1.toUInt32 <<< 8 ||| x2.toUInt32 <<< 16 ||| x3.toUInt32 <<< 24).toNat =
      assemble [x3, x2, x1, x0] := by
  simp only [UInt32.toNat_or, UInt32.toNat_shiftLeft, UInt8.toNat_toUInt32, UInt32.reduceToNat,
    Nat.reduceMod]
  simp (disch := decide) only [shiftLeft_mod]
  simp only [← or_assemble, List.length]
  simp [assemble]

theorem toNat_or64 (x0 x1 x2 x3 x4 x5 x6 x7 : UInt8) :
    (x0.toUInt64 ||| x1.toUInt64 <<< 8 ||| x2.toUInt64 <<< 16 ||| x3.toUInt64 <<< 24 |||
      x4.toUInt64 <<< 32 ||| x5.toUInt64 <<< 40 ||| x6.toUInt64 <<< 48 |||
      x7.toUInt64 <<< 56).toNat = assemble [x7, x6, x5, x4, x3, x2, x1, x0] := by
  simp only [UInt64.toNat_or, UInt64.toNat_shiftLeft, UInt8.toNat_toUInt64, UInt64.reduceToNat,
    Nat.reduceMod]
  simp (disch := decide) only [shiftLeft_mod]
  simp only [← or_assemble, List.length]
  simp [assemble]

def region (b : DynamicBuffer) (offset count : Nat) : List UInt8 :=
  (b.content.drop offset).take count

structure Indexed (b : DynamicBuffer) : Prop where
  readBound : b.readIndex ≤ b.writeIndex
  writeBound : b.writeIndex ≤ b.buffer.length
  sizeBound : b.buffer.length < sizeModulus

variable {b : DynamicBuffer}

theorem Valid.indexed (valid : b.Valid) : b.Indexed :=
  ⟨valid.readBound, valid.writeBound, valid.sizeBound⟩

theorem Indexed.loadIndex_eq (indexed : b.Indexed) {offset position : Nat}
    (within : offset + position < b.readableBytes) :
    b.loadIndex offset position = b.readIndex + offset + position := by
  have writeBound := indexed.writeBound
  have sizeBound := indexed.sizeBound
  simp only [readableBytes] at within
  simp only [loadIndex, sizeAdd, Nat.mod_add_mod]
  exact Nat.mod_eq_of_lt (by omega)

theorem Indexed.region_length (indexed : b.Indexed) {offset count : Nat}
    (within : offset + count ≤ b.readableBytes) : (b.region offset count).length = count := by
  have writeBound := indexed.writeBound
  simp only [readableBytes] at within
  simp only [region, content, List.length_take, List.length_drop]
  omega

theorem Indexed.loadByte_eq (indexed : b.Indexed) {offset count : Nat}
    (within : offset + count ≤ b.readableBytes) (position : Nat) (below : position < count) :
    b.loadByte offset position = (b.region offset count)[position]? := by
  have unread : offset + position < b.readableBytes := by omega
  have inside := indexed.loadIndex_eq unread
  simp only [readableBytes] at within
  rw [loadByte, inside, region, content, List.getElem?_take_of_lt below, List.drop_drop,
    List.getElem?_drop, List.getElem?_take_of_lt (by omega)]

namespace Typed

theorem returned_peekAt {α : Type} (b : DynamicBuffer) (offset count : Nat) (loads : Option α) :
    (peekAt b offset count loads).returned = false ↔ b.readableBytes < sizeAdd offset count := by
  rw [peekAt]
  split
  · rename_i refused
    exact iff_of_true rfl refused
  · rename_i admitted
    rw [Peek.returned_ofLoads]
    exact iff_of_false Bool.true_eq_false_eq_False admitted

theorem peekAt_of_within {α : Type} (indexed : b.Indexed) {offset count : Nat}
    (within : offset + count ≤ b.readableBytes) (loads : Option α) :
    peekAt b offset count loads = .ofLoads loads := by
  have writeBound := indexed.writeBound
  have sizeBound := indexed.sizeBound
  simp only [readableBytes] at within
  rw [peekAt, sizeAdd, Nat.mod_eq_of_lt (by omega), readableBytes, if_neg (by omega)]

theorem peekInt8_region (indexed : b.Indexed) {offset : Nat} (littleEndian : Bool)
    (within : offset + 1 ≤ b.readableBytes) :
    (peekInt8 b offset).map UInt8.toNat =
      .loaded (ByteQueue.intValue (b.region offset 1) littleEndian) := by
  have loads := indexed.loadByte_eq within
  have length := indexed.region_length within
  generalize b.region offset 1 = bytes at loads length
  obtain ⟨x0, rfl⟩ := List.length_eq_one_iff.mp length
  rw [peekInt8, peekAt_of_within indexed within, loads 0 (by decide)]
  cases littleEndian <;> simp [ByteQueue.intValue, assemble, Peek.ofLoads, Peek.map]

theorem peekInt16_region (indexed : b.Indexed) {offset : Nat} (littleEndian : Bool)
    (within : offset + 2 ≤ b.readableBytes) :
    (peekInt16 b offset littleEndian).map UInt16.toNat =
      .loaded (ByteQueue.intValue (b.region offset 2) littleEndian) := by
  have loads := indexed.loadByte_eq within
  have length := indexed.region_length within
  generalize b.region offset 2 = bytes at loads length
  obtain ⟨x0, x1, rfl⟩ := List.length_eq_two.mp length
  rw [peekInt16, peekAt_of_within indexed within, loads 0 (by decide), loads 1 (by decide)]
  cases littleEndian <;> exact congrArg Peek.loaded (toNat_or16 _ _)

theorem eq_of_length_four {bytes : List UInt8} (length : bytes.length = 4) :
    ∃ x0 x1 x2 x3, bytes = [x0, x1, x2, x3] :=
  match bytes, length with
  | [x0, x1, x2, x3], _ => ⟨x0, x1, x2, x3, rfl⟩

theorem eq_of_length_eight {bytes : List UInt8} (length : bytes.length = 8) :
    ∃ x0 x1 x2 x3 x4 x5 x6 x7, bytes = [x0, x1, x2, x3, x4, x5, x6, x7] :=
  match bytes, length with
  | [x0, x1, x2, x3, x4, x5, x6, x7], _ => ⟨x0, x1, x2, x3, x4, x5, x6, x7, rfl⟩

theorem peekInt32_region (indexed : b.Indexed) {offset : Nat} (littleEndian : Bool)
    (within : offset + 4 ≤ b.readableBytes) :
    (peekInt32 b offset littleEndian).map UInt32.toNat =
      .loaded (ByteQueue.intValue (b.region offset 4) littleEndian) := by
  have loads := indexed.loadByte_eq within
  have length := indexed.region_length within
  generalize b.region offset 4 = bytes at loads length
  obtain ⟨x0, x1, x2, x3, rfl⟩ := eq_of_length_four length
  rw [peekInt32, peekAt_of_within indexed within, loads 0 (by decide), loads 1 (by decide),
    loads 2 (by decide), loads 3 (by decide)]
  cases littleEndian <;> exact congrArg Peek.loaded (toNat_or32 _ _ _ _)

theorem peekInt64_region (indexed : b.Indexed) {offset : Nat} (littleEndian : Bool)
    (within : offset + 8 ≤ b.readableBytes) :
    (peekInt64 b offset littleEndian).map UInt64.toNat =
      .loaded (ByteQueue.intValue (b.region offset 8) littleEndian) := by
  have loads := indexed.loadByte_eq within
  have length := indexed.region_length within
  generalize b.region offset 8 = bytes at loads length
  obtain ⟨x0, x1, x2, x3, x4, x5, x6, x7, rfl⟩ := eq_of_length_eight length
  rw [peekInt64, peekAt_of_within indexed within, loads 0 (by decide), loads 1 (by decide),
    loads 2 (by decide), loads 3 (by decide), loads 4 (by decide), loads 5 (by decide),
    loads 6 (by decide), loads 7 (by decide)]
  cases littleEndian <;> exact congrArg Peek.loaded (toNat_or64 _ _ _ _ _ _ _ _)

end Typed

/-- The `peekIntN` and `readIntN` of the source: the bits read, and those of the target. -/
inductive Overload
  | int8
  | int8U16
  | int8U32
  | int8U64
  | int16
  | int16U32
  | int16U64
  | int32
  | int32U64
  | int64
deriving DecidableEq, Repr

namespace Overload

def kind : Overload → IntKind
  | .int8 | .int8U16 | .int8U32 | .int8U64 => .int8
  | .int16 | .int16U32 | .int16U64 => .int16
  | .int32 | .int32U64 => .int32
  | .int64 => .int64

def peek (b : DynamicBuffer) (offset : Nat) (littleEndian : Bool) : Overload → Peek Nat
  | .int8 => (Typed.peekInt8 b offset).map UInt8.toNat
  | .int8U16 => (Typed.peekInt8U16 b offset).map UInt16.toNat
  | .int8U32 => (Typed.peekInt8U32 b offset).map UInt32.toNat
  | .int8U64 => (Typed.peekInt8U64 b offset).map UInt64.toNat
  | .int16 => (Typed.peekInt16 b offset littleEndian).map UInt16.toNat
  | .int16U32 => (Typed.peekInt16U32 b offset littleEndian).map UInt32.toNat
  | .int16U64 => (Typed.peekInt16U64 b offset littleEndian).map UInt64.toNat
  | .int32 => (Typed.peekInt32 b offset littleEndian).map UInt32.toNat
  | .int32U64 => (Typed.peekInt32U64 b offset littleEndian).map UInt64.toNat
  | .int64 => (Typed.peekInt64 b offset littleEndian).map UInt64.toNat

def read (b : DynamicBuffer) (littleEndian : Bool) : Overload → Peek Nat × DynamicBuffer
  | .int8 => (Typed.readInt8 b).map (Peek.map UInt8.toNat) id
  | .int8U16 => (Typed.readInt8U16 b).map (Peek.map UInt16.toNat) id
  | .int8U32 => (Typed.readInt8U32 b).map (Peek.map UInt32.toNat) id
  | .int8U64 => (Typed.readInt8U64 b).map (Peek.map UInt64.toNat) id
  | .int16 => (Typed.readInt16 b littleEndian).map (Peek.map UInt16.toNat) id
  | .int16U32 => (Typed.readInt16U32 b littleEndian).map (Peek.map UInt32.toNat) id
  | .int16U64 => (Typed.readInt16U64 b littleEndian).map (Peek.map UInt64.toNat) id
  | .int32 => (Typed.readInt32 b littleEndian).map (Peek.map UInt32.toNat) id
  | .int32U64 => (Typed.readInt32U64 b littleEndian).map (Peek.map UInt64.toNat) id
  | .int64 => (Typed.readInt64 b littleEndian).map (Peek.map UInt64.toNat) id

theorem peek_returned (overload : Overload) (b : DynamicBuffer) (offset : Nat)
    (littleEndian : Bool) :
    (overload.peek b offset littleEndian).returned = false ↔
      b.readableBytes < sizeAdd offset overload.kind.bytes := by
  cases overload <;>
    simp only [peek, Typed.peekInt8U16, Typed.peekInt8U32, Typed.peekInt8U64, Typed.peekInt16U32,
      Typed.peekInt16U64, Typed.peekInt32U64, Peek.returned_map] <;>
    exact Typed.returned_peekAt ..

theorem peek_region (overload : Overload) (indexed : b.Indexed) {offset : Nat}
    (littleEndian : Bool) (within : offset + overload.kind.bytes ≤ b.readableBytes) :
    overload.peek b offset littleEndian =
      .loaded (ByteQueue.intValue (b.region offset overload.kind.bytes) littleEndian) := by
  cases overload <;>
    simp only [peek, Typed.peekInt8U16, Typed.peekInt8U32, Typed.peekInt8U64, Typed.peekInt16U32,
      Typed.peekInt16U64, Typed.peekInt32U64, Peek.map_map, UInt8.toNat_toUInt16,
      UInt8.toNat_toUInt32, UInt8.toNat_toUInt64, UInt16.toNat_toUInt32, UInt16.toNat_toUInt64,
      UInt32.toNat_toUInt64]
  case int8 | int8U16 | int8U32 | int8U64 => exact Typed.peekInt8_region indexed _ within
  case int16 | int16U32 | int16U64 => exact Typed.peekInt16_region indexed _ within
  case int32 | int32U64 => exact Typed.peekInt32_region indexed _ within
  case int64 => exact Typed.peekInt64_region indexed _ within

theorem read_eq (overload : Overload) (b : DynamicBuffer) (littleEndian : Bool) :
    overload.read b littleEndian =
      Typed.readAfter b (overload.peek b 0 littleEndian) overload.kind.bytes := by
  have mapped {α : Type} (peeked : Peek α) (change : α → Nat) (size : Nat) :
      (Typed.readAfter b peeked size).map (Peek.map change) id =
        Typed.readAfter b (peeked.map change) size := by
    simp only [Typed.readAfter, Peek.returned_map]
    split <;> rfl
  cases overload <;> exact mapped ..

/-- True is returned exactly where the bytes are unread ones, and then the value is theirs and no
other byte is loaded. -/
def KeepsToRegion (overload : Overload) (b : DynamicBuffer) (offset : Nat) (littleEndian : Bool) :
    Prop :=
  ((overload.peek b offset littleEndian).returned = true ↔
      offset + overload.kind.bytes ≤ b.readableBytes) ∧
    ((overload.peek b offset littleEndian).returned = true →
      overload.peek b offset littleEndian =
          .loaded (ByteQueue.intValue (b.region offset overload.kind.bytes) littleEndian) ∧
        ∀ position < overload.kind.bytes,
          b.readIndex ≤ b.loadIndex offset position ∧ b.loadIndex offset position < b.writeIndex)

theorem peek_within (overload : Overload) (indexed : b.Indexed) {offset : Nat}
    (littleEndian : Bool) (within : offset + overload.kind.bytes ≤ b.readableBytes) :
    overload.peek b offset littleEndian =
        .loaded (ByteQueue.intValue (b.region offset overload.kind.bytes) littleEndian) ∧
      ∀ position < overload.kind.bytes,
        b.readIndex ≤ b.loadIndex offset position ∧ b.loadIndex offset position < b.writeIndex := by
  refine ⟨overload.peek_region indexed littleEndian within, ?_⟩
  intro position below
  rw [indexed.loadIndex_eq (by omega)]
  simp only [readableBytes] at within
  omega

/-- A peek keeps to the unread bytes unless the end of what it asks for wraps around to a place
among them. -/
theorem keepsToRegion_iff (indexed : b.Indexed) {offset : Nat} (measured : offset < sizeModulus)
    (overload : Overload) (littleEndian : Bool) :
    KeepsToRegion overload b offset littleEndian ↔
      offset + overload.kind.bytes < sizeModulus ∨
        b.readableBytes + sizeModulus < offset + overload.kind.bytes := by
  have refuses := overload.peek_returned b offset littleEndian
  have small : overload.kind.bytes < sizeModulus := by
    cases overload <;> decide
  have representable : b.readableBytes < sizeModulus :=
    ((Nat.sub_le _ _).trans indexed.writeBound).trans_lt indexed.sizeBound
  rw [KeepsToRegion, ← Bool.not_eq_false, refuses, Nat.not_lt]
  by_cases inside : offset + overload.kind.bytes < sizeModulus
  · -- the guard compares without a wrap
    rw [sizeAdd, Nat.mod_eq_of_lt inside]
    exact iff_of_true ⟨Iff.rfl, overload.peek_within indexed littleEndian⟩ (Or.inl inside)
  · have wrapped : sizeAdd offset overload.kind.bytes =
        offset + overload.kind.bytes - sizeModulus := by
      rw [sizeAdd, Nat.mod_eq_sub_mod (by omega), Nat.mod_eq_of_lt (by omega)]
    rw [wrapped]
    constructor
    · rintro ⟨exact', -⟩
      right
      omega
    · intro beyond
      refine ⟨by omega, ?_⟩
      intro admitted
      omega

def halfRead : DynamicBuffer := ((create 2 1).append [7, 9]).read 1

theorem halfRead_keepsToRegion :
    KeepsToRegion .int8 halfRead 0 false ↔
      0 + IntKind.int8.bytes < sizeModulus ∨
        halfRead.readableBytes + sizeModulus < 0 + IntKind.int8.bytes :=
  keepsToRegion_iff ⟨by decide, by decide, by decide⟩ (by decide) .int8 false

theorem halfRead_loads_before :
    halfRead.Indexed ∧ Overload.int8.peek halfRead (2 ^ 64 - 1) false = .loaded 7 ∧
      ¬ KeepsToRegion .int8 halfRead (2 ^ 64 - 1) false := by
  refine ⟨⟨by decide, by decide, by decide⟩, by decide, ?_⟩
  rintro ⟨exact', -⟩
  exact absurd (exact'.mp (by decide)) (by decide)

end Overload

/-! Stores byte by byte, upwards or downwards, are one store. -/

theorem store_above (first : List UInt8) (byte : UInt8) {offset : Nat}
    (next : first.length = offset) (room : offset + 1 ≤ b.writableBytes) :
    (b.store 0 first).store offset [byte] = b.store 0 (first ++ [byte]) := by
  simp only [writableBytes] at room
  have joined := overwrite_overwrite b.buffer b.writeIndex first [byte]
    (by rw [List.length_singleton]; omega)
  rw [next] at joined
  simp only [store, Nat.add_zero, joined]

theorem store_below (byte : UInt8) (rest : List UInt8) {offset : Nat}
    (room : offset + 1 + rest.length ≤ b.writableBytes) :
    (b.store (offset + 1) rest).store offset [byte] = b.store offset (byte :: rest) := by
  simp only [writableBytes] at room
  have joined := overwrite_below b.buffer (b.writeIndex + offset) [byte] rest
    (by rw [List.length_singleton]; omega)
  rw [List.length_singleton, Nat.add_assoc] at joined
  simp only [store, joined, List.singleton_append]

/-- Byte after byte, upwards from the offset. -/
def storeUp (b : DynamicBuffer) : Nat → List UInt8 → DynamicBuffer
  | _, [] => b
  | offset, byte :: rest => (b.store offset [byte]).storeUp (offset + 1) rest

/-- Byte after byte, down to the start, so that the first byte comes last. -/
def storeDown (b : DynamicBuffer) : List UInt8 → DynamicBuffer
  | [] => b
  | byte :: rest => (b.store rest.length [byte]).storeDown rest

theorem storeUp_eq (first bytes : List UInt8)
    (room : first.length + bytes.length ≤ b.writableBytes) :
    (b.store 0 first).storeUp first.length bytes = b.store 0 (first ++ bytes) := by
  induction bytes generalizing first with
  | nil => rw [storeUp, List.append_nil]
  | cons byte rest ih =>
      rw [List.length_cons] at room
      have next : first.length + 1 = (first ++ [byte]).length := by simp
      rw [storeUp, store_above first byte rfl (by omega), next, ih _ (by omega),
        List.append_assoc, List.singleton_append]

theorem storeDown_eq (stored bytes : List UInt8)
    (room : stored.length + bytes.length ≤ b.writableBytes) :
    (b.store bytes.length stored).storeDown bytes = b.store 0 (bytes.reverse ++ stored) := by
  induction bytes generalizing stored with
  | nil => rfl
  | cons byte rest ih =>
      rw [List.length_cons] at room
      rw [List.length_cons, storeDown, store_below byte stored (by omega),
        ih _ (by rw [List.length_cons]; omega), List.reverse_cons, List.append_assoc,
        List.singleton_append]

theorem storeEach_eq {bytes : List UInt8} (positive : 0 < bytes.length)
    (room : bytes.length ≤ b.writableBytes) (littleEndian : Bool) :
    (if littleEndian then b.storeDown bytes else b.storeUp 0 bytes) =
      b.store 0 (if littleEndian then bytes.reverse else bytes) := by
  cases bytes with
  | nil => cases positive
  | cons byte rest =>
      have whole : [byte].length + rest.length ≤ b.writableBytes := by
        rw [List.length_cons] at room
        rw [List.length_singleton]
        omega
      cases littleEndian with
      | false => exact storeUp_eq [byte] rest whole
      | true =>
          have down := storeDown_eq [byte] rest whole
          rw [← List.reverse_cons] at down
          exact down

theorem intBytes_length (kind : IntKind) (value : Nat) (littleEndian : Bool) :
    (ByteQueue.intBytes kind value littleEndian).length = kind.bytes := by
  cases littleEndian <;> simp [ByteQueue.intBytes]

namespace Typed

theorem integerBytes_toNat16 (v : UInt16) :
    integerBytes 2 v.toNat = [(v >>> 8).toUInt8, v.toUInt8] := by
  simp [integerBytes, ← UInt8.toNat_inj, Nat.shiftRight_eq_div_pow]

theorem integerBytes_toNat32 (v : UInt32) :
    integerBytes 4 v.toNat =
      [(v >>> 24).toUInt8, (v >>> 16).toUInt8, (v >>> 8).toUInt8, v.toUInt8] := by
  simp [integerBytes, ← UInt8.toNat_inj, Nat.shiftRight_eq_div_pow]

theorem integerBytes_toNat64 (v : UInt64) :
    integerBytes 8 v.toNat =
      [(v >>> 56).toUInt8, (v >>> 48).toUInt8, (v >>> 40).toUInt8, (v >>> 32).toUInt8,
        (v >>> 24).toUInt8, (v >>> 16).toUInt8, (v >>> 8).toUInt8, v.toUInt8] := by
  simp [integerBytes, ← UInt8.toNat_inj, Nat.shiftRight_eq_div_pow]

theorem writeInt8_eq (b : DynamicBuffer) (v : UInt8) : writeInt8 b v = b.append [v] := rfl

theorem storeInt_eq (valid : b.Valid) (kind : IntKind) (grows : b.Grows kind.bytes) (value : Nat)
    (littleEndian : Bool) :
    (if littleEndian then
        (b.reserveWritableBytes kind.bytes).storeDown (integerBytes kind.bytes value)
      else (b.reserveWritableBytes kind.bytes).storeUp 0 (integerBytes kind.bytes value)).write
        kind.bytes = b.append (ByteQueue.intBytes kind value littleEndian) := by
  have room := valid.reserveWritableBytes_room kind.bytes grows
  rw [storeEach_eq (by rw [integerBytes_length]; cases kind <;> decide)
    (by rwa [integerBytes_length]), DynamicBuffer.append, intBytes_length]
  rfl

theorem writeInt16_eq (valid : b.Valid) (grows : b.Grows 2) (v : UInt16) (littleEndian : Bool) :
    writeInt16 b v littleEndian = b.append (ByteQueue.intBytes .int16 v.toNat littleEndian) := by
  rw [← storeInt_eq valid .int16 grows, IntKind.bytes, integerBytes_toNat16]
  rfl

theorem writeInt32_eq (valid : b.Valid) (grows : b.Grows 4) (v : UInt32) (littleEndian : Bool) :
    writeInt32 b v littleEndian = b.append (ByteQueue.intBytes .int32 v.toNat littleEndian) := by
  rw [← storeInt_eq valid .int32 grows, IntKind.bytes, integerBytes_toNat32]
  rfl

theorem writeInt64_eq (valid : b.Valid) (grows : b.Grows 8) (v : UInt64) (littleEndian : Bool) :
    writeInt64 b v littleEndian = b.append (ByteQueue.intBytes .int64 v.toNat littleEndian) := by
  rw [← storeInt_eq valid .int64 grows, IntKind.bytes, integerBytes_toNat64]
  rfl

end Typed

inductive TypedItem
  | int8 (v : UInt8)
  | int16 (v : UInt16) (littleEndian : Bool)
  | int32 (v : UInt32) (littleEndian : Bool)
  | int64 (v : UInt64) (littleEndian : Bool)
deriving DecidableEq, Repr

namespace TypedItem

def kind : TypedItem → IntKind
  | .int8 _ => .int8
  | .int16 _ _ => .int16
  | .int32 _ _ => .int32
  | .int64 _ _ => .int64

def littleEndian : TypedItem → Bool
  | .int8 _ => false
  | .int16 _ littleEndian | .int32 _ littleEndian | .int64 _ littleEndian => littleEndian

def value : TypedItem → Nat
  | .int8 v => v.toNat
  | .int16 v _ => v.toNat
  | .int32 v _ => v.toNat
  | .int64 v _ => v.toNat

def write (b : DynamicBuffer) : TypedItem → DynamicBuffer
  | .int8 v => Typed.writeInt8 b v
  | .int16 v littleEndian => Typed.writeInt16 b v littleEndian
  | .int32 v littleEndian => Typed.writeInt32 b v littleEndian
  | .int64 v littleEndian => Typed.writeInt64 b v littleEndian

def bytes (item : TypedItem) : List UInt8 :=
  ByteQueue.intBytes item.kind item.value item.littleEndian

def Fit (b : DynamicBuffer) : List TypedItem → Prop
  | [] => True
  | item :: items => b.Grows item.kind.bytes ∧ Fit (item.write b) items

def writeAll (b : DynamicBuffer) (items : List TypedItem) : DynamicBuffer :=
  items.foldl write b

theorem write_eq (item : TypedItem) (valid : b.Valid) (grows : b.Grows item.kind.bytes) :
    item.write b = b.append item.bytes := by
  cases item with
  | int8 v =>
      have same : integerBytes 1 v.toNat = [v] := by
        simp [integerBytes]
      rw [bytes, ByteQueue.intBytes]
      simp only [kind, value, littleEndian, IntKind.bytes, same]
      exact Typed.writeInt8_eq b v
  | int16 v littleEndian => exact Typed.writeInt16_eq valid grows v littleEndian
  | int32 v littleEndian => exact Typed.writeInt32_eq valid grows v littleEndian
  | int64 v littleEndian => exact Typed.writeInt64_eq valid grows v littleEndian

theorem bytes_length (item : TypedItem) : item.bytes.length = item.kind.bytes :=
  intBytes_length ..

theorem intValue_bytes (item : TypedItem) :
    ByteQueue.intValue item.bytes item.littleEndian = item.value := by
  have small : item.value < 256 ^ item.kind.bytes := by
    cases item with
    | int8 v => exact v.toNat_lt
    | int16 v _ => exact v.toNat_lt
    | int32 v _ => exact v.toNat_lt
    | int64 v _ => exact v.toNat_lt
  have same : ByteQueue.intValue item.bytes item.littleEndian =
      assemble (integerBytes item.kind.bytes item.value) := by
    rw [bytes, ByteQueue.intValue, ByteQueue.intBytes]
    cases item.littleEndian <;> simp
  rw [same, assemble_integerBytes, Nat.mod_eq_of_lt small]

theorem writeAll_content (items : List TypedItem) {b : DynamicBuffer} (valid : b.Valid)
    (fit : Fit b items) :
    (writeAll b items).Valid ∧
      (writeAll b items).content = b.content ++ items.flatMap bytes := by
  induction items generalizing b with
  | nil => exact ⟨valid, (List.append_nil _).symm⟩
  | cons item items ih =>
      obtain ⟨grows, rest⟩ := fit
      have sized : b.Grows item.bytes.length := by
        rw [bytes_length]
        exact grows
      have written := item.write_eq valid grows
      rw [written] at rest
      obtain ⟨still, content⟩ := ih (valid.append _ sized) rest
      rw [writeAll, List.foldl_cons, written]
      refine ⟨still, content.trans ?_⟩
      rw [valid.append_content _ sized, List.flatMap_cons, List.append_assoc]

end TypedItem

namespace Overload

theorem peek_start (overload : Overload) (b : DynamicBuffer) (littleEndian : Bool) :
    (overload.peek b 0 littleEndian).returned = false ↔ b.readableBytes < overload.kind.bytes := by
  have small : overload.kind.bytes < sizeModulus := by
    cases overload <;> decide
  rw [peek_returned, sizeAdd, Nat.zero_add, Nat.mod_eq_of_lt small]

theorem read_short (overload : Overload) (b : DynamicBuffer) (littleEndian : Bool) :
    (overload.read b littleEndian).1.returned = false ↔
      b.readableBytes < overload.kind.bytes := by
  rw [← overload.peek_start b littleEndian, read_eq, Typed.readAfter]
  split <;> exact Iff.rfl

theorem read_valid (overload : Overload) (valid : b.Valid) (littleEndian : Bool) :
    (overload.read b littleEndian).2.Valid := by
  rw [read_eq, Typed.readAfter]
  split
  · exact valid
  · exact valid.read _

theorem read_item (overload : Overload) (valid : b.Valid) {item : TypedItem}
    {rest : List UInt8} (same : overload.kind = item.kind)
    (front : b.content = item.bytes ++ rest) :
    (overload.read b item.littleEndian).1 = .loaded item.value ∧
      (overload.read b item.littleEndian).2.content = rest := by
  have length : item.bytes.length = overload.kind.bytes := by
    rw [item.bytes_length, same]
  have enough : 0 + overload.kind.bytes ≤ b.readableBytes := by
    rw [← valid.content_length, front, List.length_append, length]
    omega
  have loaded := overload.peek_region valid.indexed item.littleEndian enough
  rw [region, List.drop_zero, front, List.take_left' length, item.intValue_bytes] at loaded
  rw [read_eq, loaded]
  refine ⟨rfl, ?_⟩
  exact (valid.read_content _).trans (by rw [front, List.drop_left' length])

end Overload

structure TypedTrip where
  item : TypedItem
  overload : Overload
  same : overload.kind = item.kind

namespace TypedTrip

def items (trips : List TypedTrip) : List TypedItem := trips.map item

def readAll (b : DynamicBuffer) : List TypedTrip → List (Peek Nat) × DynamicBuffer
  | [] => ([], b)
  | trip :: trips =>
      let first := trip.overload.read b trip.item.littleEndian
      let rest := readAll first.2 trips
      (first.1 :: rest.1, rest.2)

theorem readAll_eq (trips : List TypedTrip) {b : DynamicBuffer} (valid : b.Valid)
    (content : b.content = (items trips).flatMap TypedItem.bytes) :
    (readAll b trips).1 = trips.map (fun trip => .loaded trip.item.value) ∧
      (readAll b trips).2.Valid ∧ (readAll b trips).2.content = [] := by
  induction trips generalizing b with
  | nil => exact ⟨rfl, valid, content⟩
  | cons trip trips ih =>
      rw [items, List.map_cons, List.flatMap_cons] at content
      obtain ⟨value, rest⟩ := trip.overload.read_item valid trip.same content
      obtain ⟨values, still, emptied⟩ := ih (trip.overload.read_valid valid _) rest
      refine ⟨?_, still, emptied⟩
      rw [readAll, List.map_cons, value, values]

/-- The written values come back, behind what was in the buffer before, and at any time a read fails
exactly when it asks for more bytes than there are. -/
theorem read_written {b : DynamicBuffer} (valid : b.Valid) (trips : List TypedTrip)
    (fit : TypedItem.Fit b (items trips)) :
    let written := TypedItem.writeAll b (items trips)
    let prior := written.readBytes b.readableBytes
    written.Valid ∧ prior.1 = b.content ∧ prior.2.Valid ∧
      (readAll prior.2 trips).1 = trips.map (fun trip => .loaded trip.item.value) ∧
      (readAll prior.2 trips).2.readableBytes = 0 ∧
      ∀ c : DynamicBuffer, c.Valid → ∀ (overload : Overload) (littleEndian : Bool),
        (overload.read c littleEndian).2.Valid ∧
          ((overload.read c littleEndian).1.returned = false ↔
            c.readableBytes < overload.kind.bytes) := by
  intro written prior
  obtain ⟨writtenValid, content⟩ := TypedItem.writeAll_content (items trips) valid fit
  have length := valid.content_length
  have first : prior.1 = b.content := by
    rw [writtenValid.readBytes_fst, content, List.take_left' length]
  have behind : prior.2.content = (items trips).flatMap TypedItem.bytes := by
    rw [readBytes_snd, writtenValid.read_content, content, List.drop_left' length]
  have priorValid : prior.2.Valid := writtenValid.read _
  obtain ⟨values, finalValid, emptied⟩ := readAll_eq trips priorValid behind
  refine ⟨writtenValid, first, priorValid, values, finalValid.content_eq_nil.mp emptied, ?_⟩
  intro c cValid overload littleEndian
  exact ⟨overload.read_valid cValid littleEndian, overload.read_short c littleEndian⟩

def mixedTrips : List TypedTrip :=
  [⟨.int16 258 true, .int16U64, rfl⟩, ⟨.int8 9, .int8U16, rfl⟩,
    ⟨.int64 9223372036854775813 false, .int64, rfl⟩, ⟨.int32 70000 true, .int32, rfl⟩]

theorem read_written_mixedTrips :
    let b := (create 1 1).append [7]
    let written := TypedItem.writeAll b (items mixedTrips)
    let prior := written.readBytes b.readableBytes
    written.Valid ∧ prior.1 = b.content ∧ prior.2.Valid ∧
      (readAll prior.2 mixedTrips).1 = mixedTrips.map (fun trip => .loaded trip.item.value) ∧
      (readAll prior.2 mixedTrips).2.readableBytes = 0 ∧
      ∀ c : DynamicBuffer, c.Valid → ∀ (overload : Overload) (littleEndian : Bool),
        (overload.read c littleEndian).2.Valid ∧
          ((overload.read c littleEndian).1.returned = false ↔
            c.readableBytes < overload.kind.bytes) :=
  read_written ⟨by decide, by decide, by decide, by decide⟩ mixedTrips
    ⟨by unfold Grows; decide, by unfold Grows; decide, by unfold Grows; decide,
      by unfold Grows; decide, trivial⟩

theorem hugeExpansion_forgets :
    (create 1 (2 ^ 64 - 1)).Valid ∧
      (readAll (((TypedItem.int16 258 false).write (create 1 (2 ^ 64 - 1))).readBytes 0).2
        [⟨.int16 258 false, .int16, rfl⟩]).1 = [.refused] :=
  ⟨⟨by decide, by decide, by decide, by decide⟩, by decide⟩

end TypedTrip

end ZBlueNet.DynamicBuffer
