import ZBlueNet.DynamicBufferCore
import Mathlib.Tactic.Linarith

/-!
The dynamic buffer is a byte queue: its unread bytes are a list to which writers
append and from which readers drop a prefix. Growing never loses a byte, also
where the subtraction in `reserveWritableBytes` wraps around.
-/

namespace ZBlueNet.DynamicBuffer

open Bytes

variable {b : DynamicBuffer}

theorem create_valid (initSize expandSize : Nat) (bound : initSize < sizeModulus)
    (positive : 0 < expandSize) : (create initSize expandSize).Valid :=
  ⟨Nat.le_refl _, by simp [create], by simpa [create] using bound, positive⟩

@[simp] theorem create_content (initSize expandSize : Nat) :
    (create initSize expandSize).content = [] := by
  simp [create, content]

@[simp] theorem clear_content : b.clear.content = [] := by
  simp [clear, content]

theorem Valid.clear (valid : b.Valid) : b.clear.Valid :=
  ⟨Nat.le_refl _, Nat.zero_le _, valid.sizeBound, valid.expandPositive⟩

theorem Valid.content_length (valid : b.Valid) : b.content.length = b.readableBytes := by
  have writeBound := valid.writeBound
  simp only [content, readableBytes, List.length_drop, List.length_take]
  omega

theorem Valid.content_eq_nil (valid : b.Valid) : b.content = [] ↔ b.readableBytes = 0 := by
  rw [← valid.content_length, List.length_eq_zero_iff]

theorem Valid.read (valid : b.Valid) (size : Nat) : (b.read size).Valid := by
  have readBound := valid.readBound
  simp only [DynamicBuffer.read]
  split
  · exact ⟨Nat.le_refl _, Nat.zero_le _, valid.sizeBound, valid.expandPositive⟩
  · refine ⟨?_, valid.writeBound, valid.sizeBound, valid.expandPositive⟩
    simp only [readableBytes]
    omega

@[simp] theorem read_expandSize (size : Nat) : (b.read size).expandSize = b.expandSize := by
  simp only [DynamicBuffer.read]
  split <;> rfl

theorem Valid.read_content (valid : b.Valid) (size : Nat) :
    (b.read size).content = b.content.drop size := by
  have lengthEq := valid.content_length
  simp only [DynamicBuffer.read]
  split
  · rename_i emptied
    simp only [readableBytes] at emptied lengthEq
    rw [clear_content, List.drop_of_length_le (by omega)]
  · rename_i remaining
    simp only [readableBytes] at remaining
    have readBound := valid.readBound
    simp only [content, List.drop_drop, readableBytes]
    rw [Nat.min_eq_left (by omega)]

theorem Valid.write (valid : b.Valid) (size : Nat) : (b.write size).Valid := by
  have readBound := valid.readBound
  have writeBound := valid.writeBound
  refine ⟨?_, ?_, valid.sizeBound, valid.expandPositive⟩ <;>
    simp only [DynamicBuffer.write, writableBytes] <;> omega

theorem Valid.store (valid : b.Valid) (offset : Nat) (bytes : List UInt8)
    (room : offset ≤ b.writableBytes) : (b.store offset bytes).Valid := by
  have writeBound := valid.writeBound
  have lengthEq : (overwrite b.buffer (b.writeIndex + offset) bytes).length = b.buffer.length := by
    apply overwrite_length
    simp only [writableBytes] at room
    omega
  exact ⟨valid.readBound, by simpa [DynamicBuffer.store, lengthEq] using writeBound,
    by simpa [DynamicBuffer.store, lengthEq] using valid.sizeBound, valid.expandPositive⟩

/-- Dividing the wrapped difference and multiplying back rounds the shortage up to the next
multiple of `expand`, because the product wraps back. -/
theorem wrapped_growth (capacity free size expand : Nat) (positive : 0 < expand)
    (freeBound : free ≤ capacity) (capacityBound : capacity < sizeModulus)
    (short : free < size → capacity + expand * ((size - free) / expand + 1) < sizeModulus)
    (ample : size ≤ free → expand ≤ free - size) :
    ∃ extra, 1 ≤ extra ∧ extra ≤ expand ∧
      sizeAdd capacity (sizeMul expand (sizeSub size free / expand + 1)) =
        capacity - free + size + extra := by
  have product (value : Nat) : ∃ extra, 1 ≤ extra ∧ extra ≤ expand ∧
      expand * (value / expand + 1) = value + extra := by
    have split := Nat.div_add_mod value expand
    have small := Nat.mod_lt value positive
    refine ⟨expand - value % expand, by omega, by omega, ?_⟩
    rw [Nat.mul_add, Nat.mul_one]
    omega
  obtain ⟨extra, lower, upper, grown⟩ := product (sizeSub size free)
  refine ⟨extra, lower, upper, ?_⟩
  rw [sizeAdd, sizeMul, grown, Nat.add_mod_mod, sizeSub]
  by_cases enough : free < size
  · have fits := short enough
    have bound : size - free < sizeModulus := by
      obtain ⟨more, -, -, exact'⟩ := product (size - free)
      rw [exact'] at fits
      omega
    have difference : (size + sizeModulus - free) % sizeModulus = size - free := by
      rw [show size + sizeModulus - free = size - free + sizeModulus by omega, Nat.add_mod_right,
        Nat.mod_eq_of_lt bound]
    rw [sizeSub, difference] at grown
    rw [grown] at fits
    rw [difference, Nat.mod_eq_of_lt (by omega)]
    omega
  · have far := ample (by omega)
    have difference : (size + sizeModulus - free) % sizeModulus = size + sizeModulus - free :=
      Nat.mod_eq_of_lt (by omega)
    rw [difference, show capacity + (size + sizeModulus - free + extra) =
      capacity - free + size + extra + sizeModulus by omega, Nat.add_mod_right,
      Nat.mod_eq_of_lt (by omega)]

theorem Valid.grownSize_room (valid : b.Valid) {size : Nat} (full : b.writableBytes < size)
    (grows : b.Grows size) :
    b.readableBytes + size < b.grownSize size ∧
      b.grownSize size < b.readableBytes + size + 2 * b.expandSize ∧
      b.grownSize size < sizeModulus := by
  have readBound := valid.readBound
  have writeBound := valid.writeBound
  have sizeBound := valid.sizeBound
  have positive := valid.expandPositive
  have free : b.discardableBytes + b.writableBytes =
      b.readIndex + (b.buffer.length - b.writeIndex) := rfl
  rw [Grows, neededSize, if_neg full.not_ge] at grows
  simp only [free, capacity] at grows
  simp only [grownSize, free, readableBytes, capacity]
  split
  · rename_i near
    rw [if_neg (by omega), if_pos near.2] at grows
    rw [sizeAdd, Nat.mod_eq_of_lt grows]
    omega
  · rename_i distant
    obtain ⟨extra, lower, upper, grown⟩ := wrapped_growth b.buffer.length
      (b.readIndex + (b.buffer.length - b.writeIndex)) size b.expandSize positive (by omega)
      sizeBound (fun short => by rwa [if_pos short] at grows) (fun ample => by omega)
    have below : sizeAdd b.buffer.length (sizeMul b.expandSize (sizeSub size
        (b.readIndex + (b.buffer.length - b.writeIndex)) / b.expandSize + 1)) < sizeModulus :=
      Nat.mod_lt _ (by decide)
    rw [grown] at below ⊢
    omega

theorem Valid.grows (valid : b.Valid) {size : Nat} (fits : b.Fits size) : b.Grows size := by
  have readBound := valid.readBound
  have writeBound := valid.writeBound
  have sizeBound := valid.sizeBound
  simp only [Fits, readableBytes] at fits
  have free : b.discardableBytes + b.writableBytes =
      b.readIndex + (b.buffer.length - b.writeIndex) := rfl
  have quotient := Nat.mul_div_le
    (size - (b.readIndex + (b.buffer.length - b.writeIndex))) b.expandSize
  rw [Grows, neededSize, free, capacity, Nat.mul_add, Nat.mul_one]
  split_ifs <;> omega

theorem Valid.reserveWritableBytes (valid : b.Valid) (size : Nat) (grows : b.Grows size) :
    (b.reserveWritableBytes size).Valid := by
  unfold DynamicBuffer.reserveWritableBytes
  split
  · exact valid
  · rename_i full
    have bounds := valid.grownSize_room (not_le.mp full) grows
    refine ⟨Nat.zero_le _, ?_, ?_, valid.expandPositive⟩ <;>
      simp only [overwrite_length _ _ _ (Nat.zero_le _), List.length_replicate] <;> omega

theorem Valid.reserveWritableBytes_content (valid : b.Valid) (size : Nat) (grows : b.Grows size) :
    (b.reserveWritableBytes size).content = b.content := by
  unfold DynamicBuffer.reserveWritableBytes
  split
  · rfl
  · rename_i full
    have bounds := valid.grownSize_room (not_le.mp full) grows
    have lengthEq := valid.content_length
    have copied := overwrite_take (List.replicate (b.grownSize size) 0) 0 b.content
      (by simp only [List.length_replicate]; omega)
    simp only [List.take_zero, List.nil_append, Nat.zero_add, lengthEq] at copied
    rw [content, List.drop_zero]
    exact copied

theorem Valid.reserveWritableBytes_room (valid : b.Valid) (size : Nat) (grows : b.Grows size) :
    size ≤ (b.reserveWritableBytes size).writableBytes := by
  unfold DynamicBuffer.reserveWritableBytes
  split
  · assumption
  · rename_i full
    have bounds := valid.grownSize_room (not_le.mp full) grows
    simp only [writableBytes, overwrite_length _ _ _ (Nat.zero_le _), List.length_replicate]
    omega

theorem Valid.reserveWritableBytes_capacity (valid : b.Valid) {size : Nat}
    (full : b.writableBytes < size) (grows : b.Grows size) :
    b.readableBytes + size ≤ (b.reserveWritableBytes size).capacity ∧
      (b.reserveWritableBytes size).capacity ≤ b.readableBytes + size + 2 * b.expandSize - 1 := by
  have bounds := valid.grownSize_room full grows
  have resized : (b.reserveWritableBytes size).capacity = b.grownSize size := by
    rw [DynamicBuffer.reserveWritableBytes, if_neg full.not_ge, capacity]
    rw [overwrite_length _ _ _ (Nat.zero_le _), List.length_replicate]
  omega

/-- Modulo `2 ^ 64` as `size_t` computes: there is room, no byte is lost, and a new vector is less
than two expansions larger than what is asked for. -/
theorem Valid.reserveWritableBytes_exact (valid : b.Valid) (size : Nat) (fits : b.Fits size) :
    (b.reserveWritableBytes size).Valid ∧
      size ≤ (b.reserveWritableBytes size).writableBytes ∧
      (b.reserveWritableBytes size).content = b.content ∧
      (size ≤ b.writableBytes → b.reserveWritableBytes size = b) ∧
      (b.writableBytes < size →
        b.readableBytes + size ≤ (b.reserveWritableBytes size).capacity ∧
          (b.reserveWritableBytes size).capacity ≤
            b.readableBytes + size + 2 * b.expandSize - 1) := by
  have grows := valid.grows fits
  refine ⟨valid.reserveWritableBytes size grows, valid.reserveWritableBytes_room size grows,
    valid.reserveWritableBytes_content size grows, ?_, ?_⟩
  · intro room
    rw [DynamicBuffer.reserveWritableBytes, if_pos room]
  · intro full
    exact valid.reserveWritableBytes_capacity full grows

def nearlyFull : DynamicBuffer :=
  { buffer := [0, 0, 0, 0, 0, 0, 7, 9], expandSize := 3, readIndex := 6, writeIndex := 8 }

theorem nearlyFull_reserves_one :
    (nearlyFull.reserveWritableBytes 1).Valid ∧
      1 ≤ (nearlyFull.reserveWritableBytes 1).writableBytes ∧
      (nearlyFull.reserveWritableBytes 1).content = [7, 9] ∧
      (1 ≤ nearlyFull.writableBytes → nearlyFull.reserveWritableBytes 1 = nearlyFull) ∧
      (nearlyFull.writableBytes < 1 →
        nearlyFull.readableBytes + 1 ≤ (nearlyFull.reserveWritableBytes 1).capacity ∧
          (nearlyFull.reserveWritableBytes 1).capacity ≤
            nearlyFull.readableBytes + 1 + 2 * nearlyFull.expandSize - 1) :=
  Valid.reserveWritableBytes_exact (b := nearlyFull)
    ⟨by decide, by decide, by decide, by decide⟩ 1 (by unfold Fits; decide)

@[simp] theorem reserveWritableBytes_expandSize (size : Nat) :
    (b.reserveWritableBytes size).expandSize = b.expandSize := by
  unfold DynamicBuffer.reserveWritableBytes
  split <;> rfl

theorem Valid.store_write_content (valid : b.Valid) (bytes : List UInt8)
    (room : bytes.length ≤ b.writableBytes) :
    ((b.store 0 bytes).write bytes.length).content = b.content ++ bytes := by
  have readBound := valid.readBound
  have writeBound := valid.writeBound
  simp only [writableBytes] at room
  have lengthEq : (overwrite b.buffer b.writeIndex bytes).length = b.buffer.length :=
    overwrite_length _ _ _ writeBound
  have copied := overwrite_take b.buffer b.writeIndex bytes (by omega)
  simp only [content, DynamicBuffer.write, DynamicBuffer.store, writableBytes, Nat.add_zero, lengthEq]
  rw [Nat.min_eq_left room, copied, List.drop_append_of_le_length]
  simp only [List.length_take]
  omega

theorem append_of_room (bytes : List UInt8) (room : bytes.length ≤ b.writableBytes) :
    b.append bytes = (b.store 0 bytes).write bytes.length := by
  rw [DynamicBuffer.append, DynamicBuffer.reserveWritableBytes, if_pos room]

theorem Valid.append (valid : b.Valid) (bytes : List UInt8) (grows : b.Grows bytes.length) :
    (b.append bytes).Valid :=
  ((valid.reserveWritableBytes _ grows).store 0 bytes (Nat.zero_le _)).write _

theorem Valid.append_content (valid : b.Valid) (bytes : List UInt8) (grows : b.Grows bytes.length) :
    (b.append bytes).content = b.content ++ bytes := by
  rw [DynamicBuffer.append, (valid.reserveWritableBytes _ grows).store_write_content bytes
    (valid.reserveWritableBytes_room _ grows), valid.reserveWritableBytes_content _ grows]

@[simp] theorem append_expandSize (bytes : List UInt8) :
    (b.append bytes).expandSize = b.expandSize := by
  simp [DynamicBuffer.append, DynamicBuffer.store, DynamicBuffer.write]

theorem Valid.peekInt_eq (valid : b.Valid) (count offset : Nat) (littleEndian : Bool)
    (representable : offset + count < sizeModulus) :
    peekInt count b offset littleEndian =
      if b.content.length < offset + count then none
      else
        let bytes := (b.content.drop offset).take count
        some (assemble (if littleEndian then bytes.reverse else bytes)) := by
  have readBound := valid.readBound
  rw [peekInt, valid.content_length, sizeAdd, Nat.mod_eq_of_lt representable]
  split
  · rfl
  · rename_i enough
    simp only [readableBytes] at enough
    have same : (b.buffer.drop (b.readIndex + offset)).take count =
        (b.content.drop offset).take count := by
      rw [content, List.drop_drop, List.drop_take, List.take_take, Nat.min_eq_left (by omega)]
    rw [same]

end ZBlueNet.DynamicBuffer
