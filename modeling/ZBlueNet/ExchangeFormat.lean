import ZBlueNet.ExchangeCore
import ZBlueNet.Lib.CompactCode

/-!
The format that the exchange macros read and write: for each schema a parser of byte
strings, and the bytes of each value. The parser restores a value from its bytes.
-/

namespace ZBlueNet.Exchange

open Bytes PrefixParser CompactCode

namespace IntType

variable {type : IntType}

theorem wrap_congr {x y : Int} (same : x % type.width.modulus = y % type.width.modulus) :
    type.wrap x = type.wrap y := by
  unfold wrap
  rw [← Int.emod_bmod x, ← Int.emod_bmod y, same]

theorem cast_emod (x : Int) :
    (type.cast x).val % type.width.modulus = x % type.width.modulus := by
  change type.wrap x % type.width.modulus = x % type.width.modulus
  unfold wrap
  split
  · exact Int.bmod_emod
  · exact Int.emod_emod_of_dvd x dvd_rfl

theorem wrap_of_bounds {x : Int} (least : type.low ≤ x) (most : x < type.high) :
    type.wrap x = x := by
  obtain ⟨width, signed⟩ := type
  have even := width.modulus_even
  unfold low at least
  unfold high at most
  unfold wrap
  cases signed with
  | true =>
      simp only [if_true] at least most ⊢
      apply Int.bmod_eq_of_le <;> omega
  | false =>
      exact Int.emod_eq_of_lt least most

def Value.bits (var : type.Value) : Nat := (var.val % type.width.modulus).toNat

theorem Value.bits_cast (var : type.Value) : (var.bits : Int) = var.val % type.width.modulus :=
  Int.toNat_of_nonneg <|
    Int.emod_nonneg var.val (Int.natCast_ne_zero.mpr type.width.modulus_positive.ne')

theorem Value.bits_lt (var : type.Value) : var.bits < 256 ^ type.width.bytes := by
  have bound := Int.emod_lt_of_pos var.val (Int.natCast_pos.mpr type.width.modulus_positive)
  rw [← var.bits_cast] at bound
  exact Int.ofNat_lt.mp bound

theorem cast_eq {x : Int} {var : type.Value}
    (same : x % type.width.modulus = var.val % type.width.modulus) : type.cast x = var := by
  apply Value.ext
  rw [← wrap_of_bounds var.least var.most]
  exact wrap_congr same

theorem Value.bits_same (var : type.Value) :
    (var.bits : Int) % 256 ^ type.width.bytes = var.val % 256 ^ type.width.bytes := by
  have size : (type.width.modulus : Int) = 256 ^ type.width.bytes := Nat.cast_pow ..
  rw [← size, var.bits_cast, Int.emod_emod_of_dvd _ dvd_rfl]

def ofBits (type : IntType) (bits : Nat) : type.Value := type.cast bits

theorem ofBits_bits (var : type.Value) : type.ofBits var.bits = var := by
  apply cast_eq
  rw [var.bits_cast, Int.emod_emod_of_dvd _ dvd_rfl]

end IntType

/-! Parsers. -/

def code32 : Parser UInt8 Nat := code [2, 4]

def code32Bytes : Nat → List UInt8 := codeBytes [2, 4]

def Scalar.parser : (type : Scalar) → Parser UInt8 type.Value
  | int8 signed => (unsigned 1).map (IntType.ofBits ⟨.int8, signed⟩)
  | int16 signed => (unsigned 2).map (IntType.ofBits ⟨.int16, signed⟩)
  | int32 signed => (unsigned 4).map (IntType.ofBits ⟨.int32, signed⟩)
  | int64 signed => (unsigned 8).map (IntType.ofBits ⟨.int64, signed⟩)
  | int16V signed => (code [2]).map (IntType.ofBits ⟨.int16, signed⟩)
  | int32V signed => code32.map (IntType.ofBits ⟨.int32, signed⟩)
  | int64V signed => (code [2, 4, 8]).map (IntType.ofBits ⟨.int64, signed⟩)
  | string => code32.bind .take

def Scalar.bytes : (type : Scalar) → type.Value → List UInt8
  | int8 _, var => integerBytes 1 (IntType.Value.bits var)
  | int16 _, var => integerBytes 2 (IntType.Value.bits var)
  | int32 _, var => integerBytes 4 (IntType.Value.bits var)
  | int64 _, var => integerBytes 8 (IntType.Value.bits var)
  | int16V _, var => codeBytes [2] (IntType.Value.bits var)
  | int32V _, var => code32Bytes (IntType.Value.bits var)
  | int64V _, var => codeBytes [2, 4, 8] (IntType.Value.bits var)
  | string, (var : List UInt8) => code32Bytes var.length ++ var

mutual

def Item.parser : (item : Item) → Parser UInt8 item.Value
  | .scalar type => type.parser
  | .enum underlying => code32.map fun bits => underlying.cast (int32.ofBits bits).val
  | .struct fields => fields.parser

def Kind.parser : (kind : Kind) → Parser UInt8 kind.Value
  | .item item => item.parser
  | .list element => code32.bind element.parser.replicate

def Fields.parser : (fields : Fields) → Parser UInt8 fields.Value
  | .nil => .pure ()
  | .cons first rest => first.parser.bind fun var => rest.parser.map fun later => (var, later)

end

mutual

def Item.bytes : (item : Item) → item.Value → List UInt8
  | .scalar type, var => type.bytes var
  | .enum _, var => code32Bytes (uint32.cast var.val).bits
  | .struct fields, var => fields.bytes var

def Kind.bytes : (kind : Kind) → kind.Value → List UInt8
  | .item item, var => item.bytes var
  | .list element, (var : List element.Value) =>
      code32Bytes var.length ++ var.flatMap element.bytes

def Fields.bytes : (fields : Fields) → fields.Value → List UInt8
  | .nil, _ => []
  | .cons first rest, (var, later) => first.bytes var ++ rest.bytes later

end

/-! The parser restores a value from its bytes. -/

theorem code32_restores {number : Nat} (small : number < 2 ^ 32) :
    Restores code32.parse (code32Bytes number) number :=
  code_restores (by decide) ⟨4, by decide, small⟩

theorem code32_yields {number : Nat} (yielded : code32.Yields number) : number < 2 ^ 32 :=
  code_yields (show 1 ≤ 4 by decide) (by decide) yielded

mutual

/-- Each enumeration keeps its value on the way through an `int32_t`, and for each list there is
memory. -/
def Item.Kept (room : Item → Nat) : (item : Item) → item.Value → Prop
  | .scalar _, _ => True
  | .enum underlying, var => underlying.cast (int32.cast var.val).val = var
  | .struct fields, var => fields.Kept room var

def Kind.Kept (room : Item → Nat) : (kind : Kind) → kind.Value → Prop
  | .item item, var => item.Kept room var
  | .list element, (var : List element.Value) =>
      var.length ≤ room element ∧ ∀ v ∈ var, element.Kept room v

def Fields.Kept (room : Item → Nat) : (fields : Fields) → fields.Value → Prop
  | .nil, _ => True
  | .cons first rest, (var, later) => first.Kept room var ∧ rest.Kept room later

end

theorem modulus_dvd {underlying : IntType} (narrow : underlying.width ≠ .int64) :
    (underlying.width.modulus : Int) ∣ int32.width.modulus := by
  cases shape : underlying.width with
  | int64 => exact absurd shape narrow
  | int8 => decide
  | int16 => decide
  | int32 => decide

theorem enum_kept {underlying : IntType} (narrow : underlying.width ≠ .int64)
    (var : underlying.Value) : underlying.cast (int32.cast var.val).val = var := by
  have divides := modulus_dvd narrow
  apply IntType.cast_eq
  rw [← Int.emod_emod_of_dvd _ divides, IntType.cast_emod, Int.emod_emod_of_dvd _ divides]

theorem ofBits_uint32 (x : Int) : int32.ofBits (uint32.cast x).bits = int32.cast x := by
  have same : uint32.width = int32.width := rfl
  apply IntType.cast_eq
  rw [IntType.Value.bits_cast, same, Int.emod_emod_of_dvd _ dvd_rfl, ← same, IntType.cast_emod,
    same, IntType.cast_emod]

theorem bits_restores {type : IntType} {parser : Parser UInt8 Nat} {bytes : List UInt8}
    {var : type.Value} (restored : Restores parser.parse bytes var.bits) :
    Restores (parser.map type.ofBits).parse bytes var := by
  have mapped := Parser.restores_map restored type.ofBits
  rwa [IntType.ofBits_bits var] at mapped

theorem Scalar.restores (type : Scalar) (var : type.Value) (fits : type.Fits var) :
    Restores type.parser.parse (type.bytes var) var := by
  cases type with
  | int8 signed => exact bits_restores (unsigned_restores (IntType.Value.bits_lt var))
  | int16 signed => exact bits_restores (unsigned_restores (IntType.Value.bits_lt var))
  | int32 signed => exact bits_restores (unsigned_restores (IntType.Value.bits_lt var))
  | int64 signed => exact bits_restores (unsigned_restores (IntType.Value.bits_lt var))
  | int16V signed =>
      exact bits_restores (code_restores (by decide) ⟨2, by decide, IntType.Value.bits_lt var⟩)
  | int32V signed => exact bits_restores (code32_restores (IntType.Value.bits_lt var))
  | int64V signed =>
      exact bits_restores (code_restores (by decide) ⟨8, by decide, IntType.Value.bits_lt var⟩)
  | string =>
      change List UInt8 at var
      exact Parser.restores_bind (code32_restores fits) (Parser.restores_take var)

mutual

theorem Item.restores {room : Item → Nat} (item : Item) (var : item.Value) (fits : item.Fits var)
    (kept : item.Kept room var) : Restores item.parser.parse (item.bytes var) var := by
  cases item with
  | scalar type => exact type.restores var fits
  | enum underlying =>
      have restored := code32_restores (IntType.Value.bits_lt (uint32.cast var.val))
      have mapped := Parser.restores_map restored fun bits =>
        underlying.cast (int32.ofBits bits).val
      rwa [ofBits_uint32, kept] at mapped
  | struct fields => exact fields.restores var fits kept

theorem Kind.restores {room : Item → Nat} (kind : Kind) (var : kind.Value) (fits : kind.Fits var)
    (kept : kind.Kept room var) : Restores kind.parser.parse (kind.bytes var) var := by
  cases kind with
  | item item => exact item.restores var fits kept
  | list element =>
      change List element.Value at var
      have each : ∀ v ∈ var, Restores element.parser.parse (element.bytes v) v := by
        intro v listed
        exact element.restores v (fits.2 v listed) (kept.2 v listed)
      exact Parser.restores_bind (code32_restores fits.1) (Parser.restores_replicate var each)

theorem Fields.restores {room : Item → Nat} (fields : Fields) (var : fields.Value)
    (fits : fields.Fits var) (kept : fields.Kept room var) :
    Restores fields.parser.parse (fields.bytes var) var := by
  cases fields with
  | nil => exact Parser.restores_pure ()
  | cons first rest =>
      obtain ⟨var, later⟩ := var
      have after := rest.restores later fits.2 kept.2
      exact Parser.restores_bind (first.restores var fits.1 kept.1)
        (Parser.restores_map after fun later => (var, later))

end

end ZBlueNet.Exchange
