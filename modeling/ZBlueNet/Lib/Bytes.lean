import Mathlib.Data.List.Basic
import Mathlib.Data.List.Induction
import Mathlib.Data.Nat.Bitwise
import Mathlib.Tactic.Ring

/-!
Byte strings: stores into a fixed piece of memory, and the bytes of unsigned
integers in either order.
-/

namespace Bytes

/-- A `memcpy` into a vector: the bytes that would fall behind its end are not part of it. -/
def overwrite (memory : List UInt8) (offset : Nat) (bytes : List UInt8) : List UInt8 :=
  (memory.take offset ++ bytes ++ memory.drop (offset + bytes.length)).take memory.length

theorem overwrite_length (memory : List UInt8) (offset : Nat) (bytes : List UInt8)
    (bound : offset ≤ memory.length) : (overwrite memory offset bytes).length = memory.length := by
  simp only [overwrite, List.length_take, List.length_append, List.length_drop]
  omega

theorem overwrite_take (memory : List UInt8) (offset : Nat) (bytes : List UInt8)
    (bound : offset + bytes.length ≤ memory.length) :
    (overwrite memory offset bytes).take (offset + bytes.length) =
      memory.take offset ++ bytes := by
  have taken : (memory.take offset ++ bytes).length = offset + bytes.length := by
    simp only [List.length_append, List.length_take]
    omega
  rw [overwrite, List.take_take, Nat.min_eq_left bound, List.take_append_of_le_length (by omega),
    List.take_of_length_le (by omega)]

theorem overwrite_take_before (memory : List UInt8) (offset count : Nat) (bytes : List UInt8)
    (before : count ≤ offset) (bound : offset ≤ memory.length) :
    (overwrite memory offset bytes).take count = memory.take count := by
  have taken : (memory.take offset).length = offset := by
    simp only [List.length_take]
    omega
  rw [overwrite, List.take_take, Nat.min_eq_left (by omega), List.append_assoc,
    List.take_append_of_le_length (by omega), List.take_take, Nat.min_eq_left before]

theorem overwrite_take_beyond (memory : List UInt8) (offset count : Nat) (bytes : List UInt8)
    (beyond : offset + bytes.length ≤ count) (bound : count ≤ memory.length) :
    (overwrite memory offset bytes).take count =
      memory.take offset ++ bytes ++ (memory.take count).drop (offset + bytes.length) := by
  have taken : (memory.take offset ++ bytes).length = offset + bytes.length := by
    simp only [List.length_append, List.length_take]
    omega
  rw [overwrite, List.take_take, Nat.min_eq_left bound, List.take_append, List.drop_take, taken,
    List.take_of_length_le (by omega)]

theorem overwrite_eq (memory : List UInt8) (offset : Nat) (bytes : List UInt8)
    (bound : offset + bytes.length ≤ memory.length) :
    overwrite memory offset bytes =
      memory.take offset ++ bytes ++ memory.drop (offset + bytes.length) := by
  apply List.take_of_length_le
  simp only [List.length_append, List.length_take, List.length_drop]
  omega

theorem overwrite_nil (memory : List UInt8) (offset : Nat) (bound : offset ≤ memory.length) :
    overwrite memory offset [] = memory := by
  rw [overwrite_eq memory offset [] bound, List.append_nil, List.length_nil, Nat.add_zero,
    List.take_append_drop]

theorem overwrite_overwrite (memory : List UInt8) (offset : Nat) (first second : List UInt8)
    (bound : offset + first.length + second.length ≤ memory.length) :
    overwrite (overwrite memory offset first) (offset + first.length) second =
      overwrite memory offset (first ++ second) := by
  have inside : offset + first.length ≤ memory.length := by omega
  have length := overwrite_length memory offset first (by omega)
  have whole : offset + (first ++ second).length ≤ memory.length := by
    rw [List.length_append]
    omega
  have left : (memory.take offset ++ first).length = offset + first.length := by
    rw [List.length_append, List.length_take]
    omega
  have behind : (overwrite memory offset first).drop (offset + first.length + second.length) =
      memory.drop (offset + first.length + second.length) := by
    rw [overwrite_eq memory offset first inside, List.drop_append, left, Nat.add_sub_cancel_left,
      List.drop_of_length_le (by omega), List.nil_append, List.drop_drop]
  rw [overwrite_eq _ _ second (by omega), overwrite_eq memory offset _ whole,
    overwrite_take memory offset first inside, behind, List.length_append, ← Nat.add_assoc,
    List.append_assoc (memory.take offset)]

theorem overwrite_below (memory : List UInt8) (offset : Nat) (first second : List UInt8)
    (bound : offset + first.length + second.length ≤ memory.length) :
    overwrite (overwrite memory (offset + first.length) second) offset first =
      overwrite memory offset (first ++ second) := by
  have whole : offset + (first ++ second).length ≤ memory.length := by
    rw [List.length_append]
    omega
  have length := overwrite_length memory (offset + first.length) second (by omega)
  have before := overwrite_take_before memory (offset + first.length) offset second (by omega)
    (by omega)
  have above : (overwrite memory (offset + first.length) second).drop (offset + first.length) =
      second ++ memory.drop (offset + first.length + second.length) := by
    rw [overwrite_eq memory _ second bound, List.append_assoc, List.drop_left']
    rw [List.length_take]
    omega
  rw [overwrite_eq _ _ first (by omega), overwrite_eq memory offset _ whole, before, above,
    List.length_append, ← Nat.add_assoc]
  simp only [List.append_assoc]

/-! The bytes of an unsigned integer, most significant first. -/

def assemble (bytes : List UInt8) : Nat :=
  bytes.foldl (fun value byte => value <<< 8 ||| byte.toNat) 0

def integerBytes : Nat → Nat → List UInt8
  | 0, _ => []
  | count + 1, value => UInt8.ofNat (value >>> (8 * count)) :: integerBytes count value

@[simp] theorem integerBytes_length (count value : Nat) :
    (integerBytes count value).length = count := by
  induction count with
  | zero => rfl
  | succ count ih => simp [integerBytes, ih]

theorem assemble_append_byte (bytes : List UInt8) (byte : UInt8) :
    assemble (bytes ++ [byte]) = assemble bytes * 256 + byte.toNat := by
  have small : byte.toNat < 2 ^ 8 := byte.toNat_lt
  simp only [assemble, List.foldl_append, List.foldl_cons, List.foldl_nil]
  rw [← Nat.shiftLeft_add_eq_or_of_lt small, Nat.shiftLeft_eq]

theorem assemble_lt (bytes : List UInt8) : assemble bytes < 256 ^ bytes.length := by
  induction bytes using List.reverseRecOn with
  | nil => decide
  | append_singleton bytes byte ih =>
      have small := byte.toNat_lt
      rw [assemble_append_byte, List.length_append, List.length_singleton, pow_succ]
      omega

theorem assemble_cons (byte : UInt8) (bytes : List UInt8) :
    assemble (byte :: bytes) = byte.toNat * 256 ^ bytes.length + assemble bytes := by
  induction bytes using List.reverseRecOn with
  | nil => simp [assemble]
  | append_singleton bytes last ih =>
      rw [← List.cons_append, assemble_append_byte, assemble_append_byte, ih, List.length_append,
        List.length_singleton, pow_succ]
      ring

theorem or_assemble (bytes : List UInt8) (byte : UInt8) :
    assemble bytes ||| byte.toNat <<< (8 * bytes.length) = assemble (byte :: bytes) := by
  have small : assemble bytes < 2 ^ (8 * bytes.length) := by
    rw [Nat.pow_mul]
    exact assemble_lt bytes
  rw [assemble_cons, Nat.or_comm, ← Nat.shiftLeft_add_eq_or_of_lt small, Nat.shiftLeft_eq,
    Nat.pow_mul]

theorem shiftLeft_mod {byte : UInt8} {shift width : Nat} (fits : shift + 8 ≤ width) :
    byte.toNat <<< shift % 2 ^ width = byte.toNat <<< shift := by
  have small : byte.toNat < 2 ^ 8 := byte.toNat_lt
  apply Nat.mod_eq_of_lt
  calc byte.toNat <<< shift < 2 ^ (8 + shift) := by
        rw [Nat.shiftLeft_eq, Nat.pow_add]
        exact Nat.mul_lt_mul_of_pos_right small (Nat.two_pow_pos shift)
    _ ≤ 2 ^ width := Nat.pow_le_pow_right (by decide) (by omega)

theorem integerBytes_append (count value : Nat) :
    integerBytes (count + 1) value =
      integerBytes count (value >>> 8) ++ [UInt8.ofNat value] := by
  induction count with
  | zero => simp [integerBytes]
  | succ count ih =>
      rw [integerBytes, ih, integerBytes, List.cons_append, ← Nat.shiftRight_add]
      congr 3
      ring

theorem assemble_integerBytes (count value : Nat) :
    assemble (integerBytes count value) = value % 256 ^ count := by
  induction count generalizing value with
  | zero => simp [integerBytes, assemble, Nat.mod_one]
  | succ count ih =>
      have shifted : value >>> 8 = value / 256 := Nat.shiftRight_eq_div_pow value 8
      rw [integerBytes_append, assemble_append_byte, ih, shifted, pow_succ, Nat.mul_comm (256 ^ count),
        Nat.mod_mul, UInt8.toNat_ofNat']
      ring

end Bytes
