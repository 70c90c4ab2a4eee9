import ZBlueNet.Lib.Bytes
import ZBlueNet.Lib.PrefixParser

/-!
Numbers in as few bytes as they need. A first byte below the limit is the number; each of
the bytes from the limit up announces a number of a fixed size behind it.
-/

namespace CompactCode

open Bytes PrefixParser Parser

def unsigned (count : Nat) : Parser UInt8 Nat := (take count).map assemble

def limit (sizes : List Nat) : Nat := 256 - sizes.length

def code (sizes : List Nat) : Parser UInt8 Nat :=
  (unsigned 1).bind fun first =>
    if first < limit sizes then .pure first
    else unsigned (sizes.getD (first - limit sizes) 0)

/-- The marker of the first size that is enough, and the number in that size. -/
def announced (marker : Nat) : List Nat → Nat → List UInt8
  | [], _ => []
  | size :: sizes, number =>
      if number < 256 ^ size then integerBytes 1 marker ++ integerBytes size number
      else announced (marker + 1) sizes number

def codeBytes (sizes : List Nat) (number : Nat) : List UInt8 :=
  if number < limit sizes then integerBytes 1 number
  else announced (limit sizes) sizes number

theorem unsigned_restores {count number : Nat} (small : number < 256 ^ count) :
    Restores (unsigned count).parse (integerBytes count number) number := by
  have bytes := restores_take (integerBytes count number)
  rw [integerBytes_length] at bytes
  have restored := restores_map bytes assemble
  rwa [assemble_integerBytes, Nat.mod_eq_of_lt small] at restored

theorem unsigned_yields {count number : Nat} (yielded : (unsigned count).Yields number) :
    number < 256 ^ count := by
  obtain ⟨input, rest, parsed⟩ := yielded
  simp only [unsigned, map, Parser.bind, take, Parser.pure, Option.bind_eq_some_iff] at parsed
  obtain ⟨⟨bytes, later⟩, taken, given⟩ := parsed
  split at taken
  · cases taken
  · cases taken
    cases given
    have bound := assemble_lt (input.take count)
    rwa [List.length_take, Nat.min_eq_left (by omega)] at bound

theorem announced_marks {number : Nat} (sizes : List Nat) (marker : Nat)
    (enough : ∃ size ∈ sizes, number < 256 ^ size) :
    ∃ index size, sizes[index]? = some size ∧ number < 256 ^ size ∧
      announced marker sizes number =
        integerBytes 1 (marker + index) ++ integerBytes size number := by
  induction sizes generalizing marker with
  | nil =>
      obtain ⟨size, listed, -⟩ := enough
      cases listed
  | cons first sizes ih =>
      rw [announced]
      by_cases small : number < 256 ^ first
      · refine ⟨0, first, rfl, small, ?_⟩
        rw [if_pos small, Nat.add_zero]
      · have later : ∃ size ∈ sizes, number < 256 ^ size := by
          obtain ⟨size, listed, fits⟩ := enough
          rcases List.mem_cons.mp listed with rfl | listed
          · exact absurd fits small
          · exact ⟨size, listed, fits⟩
        obtain ⟨index, size, found, fits, written⟩ := ih (marker + 1) later
        refine ⟨index + 1, size, found, fits, ?_⟩
        rw [if_neg small, written, Nat.add_right_comm, Nat.add_assoc]

theorem code_restores {sizes : List Nat} {number : Nat} (few : sizes.length ≤ 256)
    (enough : ∃ size ∈ sizes, number < 256 ^ size) :
    Restores (code sizes).parse (codeBytes sizes number) number := by
  unfold code codeBytes
  by_cases below : number < limit sizes
  · rw [if_pos below]
    have byte : number < 256 ^ 1 := by
      unfold limit at below
      omega
    have whole : Restores (Parser.pure number).parse ([] : List UInt8) number :=
      restores_pure number
    rw [← List.append_nil (integerBytes 1 number)]
    refine restores_bind (unsigned_restores byte) ?_
    rwa [if_pos below]
  · rw [if_neg below]
    obtain ⟨index, size, found, fits, written⟩ := announced_marks sizes (limit sizes) enough
    have inside : index < sizes.length := (List.getElem?_eq_some_iff.mp found).1
    have byte : limit sizes + index < 256 ^ 1 := by
      unfold limit
      omega
    rw [written]
    refine restores_bind (unsigned_restores byte) ?_
    rw [if_neg (by omega), Nat.add_sub_cancel_left, List.getD_eq_getElem?_getD, found]
    exact unsigned_restores fits

theorem code_yields {sizes : List Nat} {number most : Nat} (positive : 1 ≤ most)
    (bounded : ∀ size ∈ sizes, size ≤ most) (yielded : (code sizes).Yields number) :
    number < 256 ^ most := by
  obtain ⟨input, rest, parsed⟩ := yielded
  simp only [code, Parser.bind, Option.bind_eq_some_iff] at parsed
  obtain ⟨⟨first, middle⟩, start, finish⟩ := parsed
  have byte := unsigned_yields ⟨input, middle, start⟩
  split at finish
  · cases finish
    exact lt_of_lt_of_le byte (Nat.pow_le_pow_right (by omega) positive)
  · have small := unsigned_yields ⟨middle, rest, finish⟩
    refine lt_of_lt_of_le small (Nat.pow_le_pow_right (by omega) ?_)
    rw [List.getD_eq_getElem?_getD]
    cases found : sizes[first - limit sizes]? with
    | none => exact Nat.zero_le most
    | some size => exact bounded size (List.mem_of_getElem? found)

/-! No number is read from fewer bytes than it is written in. -/

theorem unsigned_takes (count : Nat) :
    (unsigned count).Takes fun number used => number < 256 ^ count ∧ used = count := by
  apply (takes_take count).map
  intro bytes used taken
  refine ⟨?_, taken.2⟩
  rw [← taken.1]
  exact assemble_lt bytes

theorem announced_length {sizes : List Nat} (sorted : sizes.Pairwise (· ≤ ·)) {size number : Nat}
    (listed : size ∈ sizes) (small : number < 256 ^ size) (marker : Nat) :
    (announced marker sizes number).length ≤ 1 + size := by
  induction sizes generalizing marker with
  | nil => cases listed
  | cons first sizes ih =>
      rw [List.pairwise_cons] at sorted
      rw [announced]
      by_cases fits : number < 256 ^ first
      · have least : first ≤ size := by
          rcases List.mem_cons.mp listed with rfl | later
          · exact le_rfl
          · exact sorted.1 size later
        rw [if_pos fits, List.length_append, integerBytes_length, integerBytes_length]
        omega
      · rw [if_neg fits]
        rcases List.mem_cons.mp listed with rfl | later
        · exact absurd small fits
        · exact ih sorted.2 later (marker + 1)

theorem codeBytes_length {sizes : List Nat} (sorted : sizes.Pairwise (· ≤ ·)) {size number : Nat}
    (listed : size ∈ sizes) (small : number < 256 ^ size) :
    (codeBytes sizes number).length ≤ 1 + size := by
  rw [codeBytes]
  split
  · rw [integerBytes_length]
    omega
  · exact announced_length sorted listed small _

/-- The bytes of the number, or of a smaller one, are at most as many as were read. -/
theorem code_takes {sizes : List Nat} (few : sizes.length < 256)
    (sorted : sizes.Pairwise (· ≤ ·)) :
    (code sizes).Takes fun number used =>
      ∀ smaller ≤ number, (codeBytes sizes smaller).length ≤ used := by
  apply (unsigned_takes 1).bind
  intro first count byte
  obtain ⟨byte, rfl⟩ := byte
  split
  · rename_i below
    apply takes_pure
    intro smaller less
    rw [codeBytes, if_pos (by omega), integerBytes_length]
  · rename_i above
    have inside : first - limit sizes < sizes.length := by
      unfold limit at above ⊢
      omega
    have listed : sizes.getD (first - limit sizes) 0 ∈ sizes := by
      rw [List.getD_eq_getElem _ _ inside]
      exact List.getElem_mem inside
    intro input number rest parsed
    obtain ⟨used, length, small, rfl⟩ := unsigned_takes _ input number rest parsed
    refine ⟨_, length, ?_⟩
    intro smaller less
    exact codeBytes_length sorted listed (lt_of_le_of_lt less small)

end CompactCode
