import ZBlueNet.ExchangeRoundTrip

/-!
A message that was received fits where it was received: its bytes are at most as many as
those it was decoded from, whichever of the accepted forms these have. The one exception
is a negative enumeration of a type below 32 bits, whose sign is extended when it is written.
-/

namespace ZBlueNet.Exchange

open PrefixParser CompactCode

/-- A decoded value is encoded again in at most `extra` bytes more. -/
def Fields.Reencodes (machine : Machine) (fields : Fields) (extra : fields.Value → Nat)
    (received : List UInt8) : Prop :=
  ∀ (count : Int) (var : fields.Value), fields.decode machine received = .ok (count, var) →
    ∀ buffer : List UInt8, buffer.length < 2 ^ 31 → count + extra var ≤ buffer.length →
      ∃ (size : Int) (written : List UInt8),
        fields.encode var buffer = .ok (size, written) ∧ 0 ≤ size ∧ size ≤ count + extra var

mutual

/-- The enumerations that are negative and whose type has less than 32 bits. -/
def Item.signExtended : (item : Item) → item.Value → Nat
  | .scalar _, _ => 0
  | .enum underlying, var => if 4 ≤ underlying.width.bytes ∨ 0 ≤ var.val then 0 else 1
  | .struct fields, var => fields.signExtended var

def Kind.signExtended : (kind : Kind) → kind.Value → Nat
  | .item item, var => item.signExtended var
  | .list element, (var : List element.Value) => (var.map element.signExtended).sum

def Fields.signExtended : (fields : Fields) → fields.Value → Nat
  | .nil, _ => 0
  | .cons first rest, (var, later) => first.signExtended var + rest.signExtended later

end

/-! Numbers. -/

theorem bits_ofBits {type : IntType} {bits : Nat} (small : bits < 256 ^ type.width.bytes) :
    (type.ofBits bits).bits = bits := by
  have below : (bits : Int) < type.width.modulus := Int.ofNat_lt.mpr small
  have kept : ((type.ofBits bits).bits : Int) = bits := by
    rw [IntType.Value.bits_cast, IntType.ofBits, IntType.cast_emod]
    exact Int.emod_eq_of_lt (Int.natCast_nonneg bits) below
  exact Int.ofNat_inj.mp kept

theorem bits_uint32 (x : Int) : ((uint32.cast x).bits : Int) = x % 2 ^ 32 := by
  have size : (uint32.width.modulus : Int) = 2 ^ 32 := by
    decide
  rw [IntType.Value.bits_cast, IntType.cast_emod, size]

theorem ofBits_int32 {number : Nat} (small : number < 2 ^ 32) :
    (int32.ofBits number).val % 2 ^ 32 = number := by
  have size : (int32.width.modulus : Int) = 2 ^ 32 := by
    decide
  rw [← size, IntType.ofBits, IntType.cast_emod, size]
  omega

theorem IntType.high_le (type : IntType) : type.high ≤ type.width.modulus := by
  unfold high
  split <;> omega

/-- The bits that an enumeration is written from are at most those it was read from. -/
theorem enum_bits_le {underlying : IntType} {number : Nat} (small : number < 2 ^ 32)
    (kept : 4 ≤ underlying.width.bytes ∨
      0 ≤ (underlying.cast (int32.ofBits number).val).val) :
    (uint32.cast (underlying.cast (int32.ofBits number).val).val).bits ≤ number := by
  have written := bits_uint32 (underlying.cast (int32.ofBits number).val).val
  have read := ofBits_int32 small
  have reduced : (underlying.cast (int32.ofBits number).val).val % underlying.width.modulus =
      (int32.ofBits number).val % underlying.width.modulus := IntType.cast_emod _
  apply Int.ofNat_le.mp
  rw [written]
  by_cases full : 4 ≤ underlying.width.bytes
  · have divides : (2 : Int) ^ 32 ∣ underlying.width.modulus := by
      rw [Width.modulus, Nat.cast_pow]
      exact pow_dvd_pow 256 full
    rw [← Int.emod_emod_of_dvd _ divides, reduced, Int.emod_emod_of_dvd _ divides, read]
  · have nonnegative := kept.resolve_left full
    have size : (int32.width.modulus : Int) = 2 ^ 32 := by
      decide
    have narrow : underlying.width ≠ .int64 := by
      intro wide
      rw [wide] at full
      exact full (by decide)
    have divides := modulus_dvd narrow
    rw [size] at divides
    have below := lt_of_lt_of_le (underlying.cast (int32.ofBits number).val).most underlying.high_le
    have value : (underlying.cast (int32.ofBits number).val).val =
        (number % underlying.width.modulus : Nat) := by
      rw [← Int.emod_eq_of_lt nonnegative below, reduced, ← Int.emod_emod_of_dvd _ divides, read,
        Int.natCast_mod]
    have least := Nat.mod_le number underlying.width.modulus
    rw [value]
    omega

/-! Schemas. -/

def Received {Value : Type} (fits : Value → Prop) (extended : Value → Nat)
    (bytes : Value → List UInt8) (var : Value) (count : Nat) : Prop :=
  fits var ∧ (bytes var).length ≤ count + 4 * extended var

theorem takes_received {Value : Type} {parser : Parser UInt8 Value} {fits : Value → Prop}
    {extended : Value → Nat} {bytes : Value → List UInt8} (free : ∀ var, fits var)
    (takes : parser.Takes fun var count => (bytes var).length ≤ count) :
    parser.Takes (Received fits extended bytes) := by
  apply takes.mono
  intro var count least
  exact ⟨free var, le_trans least (Nat.le_add_right ..)⟩

theorem unsigned_received (type : IntType) :
    ((unsigned type.width.bytes).map type.ofBits).Takes fun var count =>
      (Bytes.integerBytes type.width.bytes var.bits).length ≤ count := by
  apply (unsigned_takes type.width.bytes).map
  intro number used taken
  rw [Bytes.integerBytes_length, taken.2]

theorem code_received (type : IntType) {sizes : List Nat} (few : sizes.length < 256)
    (sorted : sizes.Pairwise (· ≤ ·)) (bounded : ∀ size ∈ sizes, size ≤ type.width.bytes) :
    ((code sizes).map type.ofBits).Takes fun var count =>
      (codeBytes sizes var.bits).length ≤ count := by
  have bytes : 1 ≤ type.width.bytes := by
    cases type.width <;> decide
  have codes : (code sizes).Takes fun number count =>
      number < 256 ^ type.width.bytes ∧ (codeBytes sizes number).length ≤ count := by
    intro input number rest parsed
    obtain ⟨count, length, least⟩ := code_takes few sorted input number rest parsed
    exact ⟨count, length, code_yields bytes bounded ⟨input, rest, parsed⟩, least number le_rfl⟩
  apply codes.map
  intro number count known
  rw [bits_ofBits known.1]
  exact known.2

theorem code32_takes : code32.Takes fun number used =>
    number < 2 ^ 32 ∧ ∀ smaller ≤ number, (code32Bytes smaller).length ≤ used := by
  intro input number rest parsed
  obtain ⟨used, length, least⟩ := code_takes (by decide) (by decide) input number rest parsed
  exact ⟨used, length, code32_yields ⟨input, rest, parsed⟩, least⟩

theorem Scalar.takes (type : Scalar) (extended : type.Value → Nat) :
    type.parser.Takes (Received type.Fits extended type.bytes) := by
  cases type with
  | int8 signed => exact takes_received (fun _ => trivial) (unsigned_received ⟨.int8, signed⟩)
  | int16 signed => exact takes_received (fun _ => trivial) (unsigned_received ⟨.int16, signed⟩)
  | int32 signed => exact takes_received (fun _ => trivial) (unsigned_received ⟨.int32, signed⟩)
  | int64 signed => exact takes_received (fun _ => trivial) (unsigned_received ⟨.int64, signed⟩)
  | int16V signed =>
      have bounded : ∀ size ∈ [2], size ≤ Width.int16.bytes := by
        decide
      have taken := code_received ⟨.int16, signed⟩ (by decide) (by decide) bounded
      exact takes_received (fun _ => trivial) taken
  | int32V signed =>
      have bounded : ∀ size ∈ [2, 4], size ≤ Width.int32.bytes := by
        decide
      have taken := code_received ⟨.int32, signed⟩ (by decide) (by decide) bounded
      exact takes_received (fun _ => trivial) taken
  | int64V signed =>
      have bounded : ∀ size ∈ [2, 4, 8], size ≤ Width.int64.bytes := by
        decide
      have taken := code_received ⟨.int64, signed⟩ (by decide) (by decide) bounded
      exact takes_received (fun _ => trivial) taken
  | string =>
      apply code32_takes.bind
      intro length count code
      apply (Parser.takes_take length).mono
      intro var used taken
      obtain ⟨rfl, rfl⟩ := taken
      refine ⟨code.1, ?_⟩
      have least := code.2 var.length le_rfl
      change (code32Bytes var.length ++ var).length ≤ _
      rw [List.length_append]
      omega

theorem enum_bytes_le {underlying : IntType} {number count : Nat} (small : number < 2 ^ 32)
    (least : ∀ smaller ≤ number, (code32Bytes smaller).length ≤ count) :
    (code32Bytes (uint32.cast (underlying.cast (int32.ofBits number).val).val).bits).length ≤
      count + 4 * if 4 ≤ underlying.width.bytes ∨
        0 ≤ (underlying.cast (int32.ofBits number).val).val then 0 else 1 := by
  split
  · rename_i kept
    exact least _ (enum_bits_le small kept)
  · have marked : 1 ≤ count := least 0 (Nat.zero_le number)
    have five := codeBytes_length (by decide) (show 4 ∈ [2, 4] by decide)
      (IntType.Value.bits_lt (uint32.cast (underlying.cast (int32.ofBits number).val).val))
    exact le_trans five (Nat.add_le_add marked (Nat.le_refl 4))

theorem elements_received {Value : Type} {fits : Value → Prop} {extended : Value → Nat}
    {bytes : Value → List UInt8} {var : List Value} {counts : List Nat}
    (each : List.Forall₂ (Received fits extended bytes) var counts) :
    (∀ v ∈ var, fits v) ∧
      (var.flatMap bytes).length ≤ counts.sum + 4 * (var.map extended).sum := by
  induction each with
  | nil => exact ⟨List.forall_mem_nil _, Nat.le_refl 0⟩
  | cons first others ih =>
      constructor
      · exact List.forall_mem_cons.mpr ⟨first.1, ih.1⟩
      · have start := first.2
        have rest := ih.2
        rw [List.flatMap_cons, List.length_append, List.sum_cons, List.map_cons, List.sum_cons]
        omega

mutual

theorem Item.takes (item : Item) :
    item.parser.Takes (Received item.Fits item.signExtended item.bytes) := by
  cases item with
  | scalar type => exact type.takes _
  | enum underlying =>
      apply code32_takes.map
      intro number count code
      exact ⟨trivial, enum_bytes_le code.1 code.2⟩
  | struct fields => exact fields.takes

theorem Kind.takes (kind : Kind) :
    kind.parser.Takes (Received kind.Fits kind.signExtended kind.bytes) := by
  cases kind with
  | item item => exact item.takes
  | list element =>
      apply code32_takes.bind
      intro length count code
      apply (element.takes.replicate length).mono
      intro var used taken
      obtain ⟨rfl, counts, each, rfl⟩ := taken
      obtain ⟨fitting, contents⟩ := elements_received each
      refine ⟨⟨code.1, fitting⟩, ?_⟩
      have prefixed := code.2 var.length le_rfl
      change (code32Bytes var.length ++ var.flatMap element.bytes).length ≤
        count + counts.sum + 4 * (var.map element.signExtended).sum
      rw [List.length_append]
      omega

theorem Fields.takes (fields : Fields) :
    fields.parser.Takes (Received fields.Fits fields.signExtended fields.bytes) := by
  cases fields with
  | nil => exact Parser.takes_pure ⟨trivial, Nat.le_refl 0⟩
  | cons first rest =>
      apply first.takes.bind
      intro var count before
      apply rest.takes.map
      intro later more after
      refine ⟨⟨before.1, after.1⟩, ?_⟩
      have start := before.2
      have finish := after.2
      change (first.bytes var ++ rest.bytes later).length ≤
        count + more + 4 * (first.signExtended var + rest.signExtended later)
      rw [List.length_append]
      omega

end

/-- A message that was received can be encoded into a buffer of the size it was received in, and
four bytes for each sign that is extended. -/
theorem Fields.reencodes_extended (machine : Machine) {fields : Fields}
    (plain : fields.NoEnumList) {received : List UInt8} (short : received.length < 2 ^ 31) :
    fields.Reencodes machine (fun var => 4 * fields.signExtended var) received := by
  intro count var decoded buffer small room
  have reserved : fields.Reserved machine.room received := by
    by_contra missing
    rw [decode_thrown plain short missing] at decoded
    cases decoded
  rw [decode_eq plain short reserved] at decoded
  cases parsed : fields.parser.parse received with
  | none =>
      rw [parsed, decodedOf] at decoded
      cases decoded
  | some step =>
      obtain ⟨item, rest⟩ := step
      rw [parsed, decodedOf] at decoded
      cases decoded
      obtain ⟨used, length, fits, bytes⟩ := fields.takes received var rest parsed
      dsimp only at room ⊢
      have fitting : (fields.bytes var).length ≤ buffer.length := by omega
      rw [fields.encode_eq fits small, if_pos fitting]
      exact ⟨_, _, rfl, by omega, by omega⟩

def signedEnum : Fields := .cons (.item (.enum ⟨.int8, true⟩)) .nil

theorem Fields.reencodes_extended_signed :
    signedEnum.Reencodes ampleMachine (fun var => 4 * signedEnum.signExtended var)
      [254, 0, 100] := by
  have plain : signedEnum.NoEnumList := ⟨trivial, trivial⟩
  exact Fields.reencodes_extended ampleMachine plain (by decide)

/-- The byte 200 is accepted for -56, which is written in five bytes. -/
theorem signedEnum_grows : ¬ signedEnum.Reencodes ampleMachine (fun _ => 0) [200] := by
  intro reencodes
  obtain ⟨size, written, encoded, -, least⟩ :=
    reencodes 1 (⟨-56, by decide, by decide⟩, ()) rfl (List.replicate 5 0) (by decide) (by decide)
  have five : signedEnum.encode (⟨-56, by decide, by decide⟩, ()) (List.replicate 5 0) =
      .ok (5, [255, 255, 255, 255, 200]) := by
    decide +kernel
  rw [five] at encoded
  cases encoded
  dsimp only at least
  omega

end ZBlueNet.Exchange
