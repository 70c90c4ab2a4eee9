import ZBlueNet.ExchangeDecode

/-!
Encoding is laying down the bytes of the format: every macro that writes stores the bytes
of its variable at `p` if they fit, and returns `-1` if they do not. So what an `encode`
has written, a `decode` gives back.
-/

namespace ZBlueNet.Exchange

open Bytes PrefixParser CompactCode

/-! The bytes of a shifted variable. -/

theorem ofInt_eq {x : Int} {number : Nat} (same : x % 256 = number % 256) :
    UInt8.ofInt x = UInt8.ofNat number := by
  have reduced : (x % 2 ^ 8).toNat = number % 256 := by
    change (x % 256).toNat = number % 256
    omega
  apply UInt8.toNat_inj.mp
  rw [UInt8.ofInt, reduced, UInt8.toNat_ofNat', UInt8.toNat_ofNat']
  omega

theorem shiftedBytes_eq {count number : Nat} {x : Int}
    (same : (number : Int) % 256 ^ count = x % 256 ^ count) :
    shiftedBytes count x = integerBytes count number := by
  induction count with
  | zero => rfl
  | succ count ih =>
      have divides : (256 : Int) ^ count ∣ 256 ^ (count + 1) :=
        pow_dvd_pow 256 (Nat.le_succ count)
      have lower : (number : Int) % 256 ^ count = x % 256 ^ count := by
        rw [← Int.emod_emod_of_dvd _ divides, same, Int.emod_emod_of_dvd _ divides]
      have shifted : (x >>> (8 * count)) % 256 = (number >>> (8 * count) : Nat) % 256 := by
        have multiple := Int.emod_eq_emod_iff_emod_sub_eq_zero.mp same.symm
        obtain ⟨factor, apart⟩ := Int.dvd_of_emod_eq_zero multiple
        have split : x = number + 256 ^ count * (256 * factor) := by
          rw [← mul_assoc, ← pow_succ, ← apart]
          omega
        have power : (2 : Int) ^ (8 * count) = 256 ^ count := by
          rw [pow_mul]
          rfl
        have positive : (256 : Int) ^ count ≠ 0 := pow_ne_zero count (by decide)
        rw [Int.shiftRight_eq_div_pow, Nat.shiftRight_eq_div_pow, split, Int.natCast_ediv]
        push_cast
        rw [power, Int.add_mul_ediv_left _ _ positive, Int.add_mul_emod_self_left]
      rw [shiftedBytes, integerBytes, ih lower, ofInt_eq shifted]

variable {α : Type}

/-! What a macro stores. -/

def Output.stored (output : Output) (bytes : List UInt8) : Outcome (Unit × Output) :=
  if bytes.length ≤ output.cursor.leftBytes then
    .ok ((),
      { memory := overwrite output.memory output.cursor.p bytes
        cursor :=
          { p := output.cursor.p + bytes.length
            leftBytes := output.cursor.leftBytes - bytes.length } })
  else .failed

structure Output.Within (output : Output) (bound : Nat) : Prop where
  inside : output.cursor.p + output.cursor.leftBytes ≤ output.memory.length
  short : output.cursor.leftBytes < bound

def WritesBelow (bound : Nat) (write : Write) (bytes : List UInt8) : Prop :=
  ∀ output : Output, output.Within bound → write output = output.stored bytes

/-- Where an `int` can measure the bytes left, as structs need it. -/
abbrev Writes (write : Write) (bytes : List UInt8) : Prop := WritesBelow (2 ^ 31) write bytes

variable {bound : Nat}

theorem writes_nil : WritesBelow bound (pure ()) [] := by
  intro output within
  have inside : output.cursor.p ≤ output.memory.length :=
    le_trans (Nat.le_add_right ..) within.inside
  have room : ([] : List UInt8).length ≤ output.cursor.leftBytes := Nat.zero_le _
  rw [Output.stored, if_pos room, overwrite_nil _ _ inside]
  rfl

theorem writes_append {first second : Write} {bytes more : List UInt8}
    (start : WritesBelow bound first bytes)
    (finish : WritesBelow bound second more) :
    WritesBelow bound (first >>= fun _ => second) (bytes ++ more) := by
  intro output within
  obtain ⟨inside, short⟩ := within
  rw [Write.bind_apply, start output ⟨inside, short⟩]
  unfold Output.stored
  by_cases room : bytes.length ≤ output.cursor.leftBytes
  · have length := overwrite_length output.memory output.cursor.p bytes (by omega)
    rw [if_pos room, Outcome.bind_ok,
      finish _ ⟨by simp only [length]; omega, by simp only; omega⟩, Output.stored]
    by_cases fits : (bytes ++ more).length ≤ output.cursor.leftBytes
    · rw [List.length_append] at fits
      rw [if_pos (by simp only; omega), if_pos (by rw [List.length_append]; omega)]
      simp only
      rw [overwrite_overwrite _ _ _ _ (by omega), List.length_append, Nat.add_assoc, Nat.sub_sub]
    · rw [List.length_append] at fits
      rw [if_neg (by simp only; omega), if_neg (by rw [List.length_append]; omega)]
  · rw [if_neg room, if_neg (by rw [List.length_append]; omega), Outcome.bind_failed]

theorem writes_store (bytes : List UInt8) :
    WritesBelow bound
      (do
        Write.ensure bytes.length
        Write.store bytes
        Write.skip bytes.length)
      bytes := by
  intro output within
  rw [Write.bind_apply]
  unfold Write.ensure Output.stored
  by_cases room : bytes.length ≤ output.cursor.leftBytes
  · have inside : output.cursor.p + bytes.length ≤ output.memory.length :=
      le_trans (Nat.add_le_add_left room _) within.inside
    have enough : (0 : Int) ≤ bytes.length ∧ (bytes.length : Int) ≤ output.cursor.leftBytes :=
      ⟨Int.natCast_nonneg _, Int.ofNat_le.mpr room⟩
    rw [if_neg (by omega), if_pos room, Outcome.bind_ok, Write.bind_apply, Write.store,
      if_pos inside, Outcome.bind_ok, Write.skip, Cursor.advance, if_pos enough]
    rfl
  · rw [if_pos (by omega), if_neg room, Outcome.bind_failed]

/-! The macros for numbers. -/

theorem shiftedBytes_length (count : Nat) (x : Int) : (shiftedBytes count x).length = count := by
  induction count with
  | zero => rfl
  | succ count ih => rw [shiftedBytes, List.length_cons, ih]

theorem writes_writeInt {count number : Nat} {var : Int}
    (same : (number : Int) % 256 ^ count = var % 256 ^ count) :
    WritesBelow bound (writeInt count var) (integerBytes count number) := by
  have stored : WritesBelow bound _ _ := writes_store (shiftedBytes count var)
  rw [shiftedBytes_length] at stored
  rwa [← shiftedBytes_eq same]

theorem writes_marked (marker : Nat) {count number : Nat} {var : Int}
    (same : (number : Int) % 256 ^ count = var % 256 ^ count) :
    WritesBelow bound (writeInt8 marker >>= fun _ => writeInt count var)
      (integerBytes 1 marker ++ integerBytes count number) :=
  writes_append (writes_writeInt rfl) (writes_writeInt same)

theorem bits_emod {type : IntType} {count : Nat} (narrow : count ≤ type.width.bytes) (x : Int) :
    ((type.cast x).bits : Int) % 256 ^ count = x % 256 ^ count := by
  have divides : (256 : Int) ^ count ∣ type.width.modulus := by
    rw [Width.modulus, Nat.cast_pow]
    exact pow_dvd_pow 256 narrow
  rw [IntType.Value.bits_cast, IntType.cast_emod, Int.emod_emod_of_dvd _ divides]

theorem wrap_bits (width : Width) (x : Int) :
    (IntType.mk width false).wrap x = ((IntType.mk width false).cast x).bits := by
  rw [IntType.Value.bits_cast, IntType.cast_emod]
  rfl

theorem bits_unsigned {width : Width} {signed : Bool} (var : (IntType.mk width signed).Value) :
    ((IntType.mk width false).cast var.val).bits = var.bits := by
  rw [IntType.Value.bits, IntType.cast_emod]
  rfl

theorem writes_writeInt16V (var : Int) :
    WritesBelow bound (writeInt16V var) (codeBytes [2] (uint16.cast var).bits) := by
  have seen : uint16.wrap var = (uint16.cast var).bits := wrap_bits .int16 var
  have bound : (uint16.cast var).bits < 256 ^ 2 := IntType.Value.bits_lt _
  unfold writeInt16V codeBytes
  rw [seen]
  by_cases below : (uint16.cast var).bits < 255
  · rw [if_pos (by omega), if_pos (show _ < limit [2] from below)]
    exact writes_writeInt (bits_emod (by decide) var)
  · rw [if_neg (by omega), if_neg (show ¬ _ < limit [2] from below), announced, if_pos bound]
    exact writes_marked 255 (bits_emod (by decide) var)

theorem writes_writeInt32V (var : Int) :
    WritesBelow bound (writeInt32V var) (code32Bytes (uint32.cast var).bits) := by
  have seen : uint32.wrap var = (uint32.cast var).bits := wrap_bits .int32 var
  have bound : (uint32.cast var).bits < 256 ^ 4 := IntType.Value.bits_lt _
  unfold writeInt32V code32Bytes codeBytes
  rw [seen]
  by_cases below : (uint32.cast var).bits < 254
  · rw [if_pos (by omega), if_pos (show _ < limit [2, 4] from below)]
    exact writes_writeInt (bits_emod (by decide) var)
  · rw [if_neg (by omega), if_neg (show ¬ _ < limit [2, 4] from below), announced]
    by_cases two : (uint32.cast var).bits < 256 ^ 2
    · rw [if_pos (by omega), if_pos two]
      exact writes_marked 254 (bits_emod (by decide) var)
    · rw [if_neg (by omega), if_neg two, announced, if_pos bound]
      exact writes_marked 255 (bits_emod (by decide) var)

theorem writes_writeInt64V (var : Int) :
    WritesBelow bound (writeInt64V var) (codeBytes [2, 4, 8] (uint64.cast var).bits) := by
  have seen : uint64.wrap var = (uint64.cast var).bits := wrap_bits .int64 var
  have bound : (uint64.cast var).bits < 256 ^ 8 := IntType.Value.bits_lt _
  unfold writeInt64V codeBytes
  rw [seen]
  by_cases below : (uint64.cast var).bits < 253
  · rw [if_pos (by omega), if_pos (show _ < limit [2, 4, 8] from below)]
    exact writes_writeInt (bits_emod (by decide) var)
  · rw [if_neg (by omega), if_neg (show ¬ _ < limit [2, 4, 8] from below), announced]
    by_cases two : (uint64.cast var).bits < 256 ^ 2
    · rw [if_pos (by omega), if_pos two]
      exact writes_marked 253 (bits_emod (by decide) var)
    · rw [if_neg (by omega), if_neg two, announced]
      by_cases four : (uint64.cast var).bits < 256 ^ 4
      · rw [if_pos (by omega), if_pos four]
        exact writes_marked 254 (bits_emod (by decide) var)
      · rw [if_neg (by omega), if_neg four, announced, if_pos bound]
        exact writes_marked 255 (bits_emod (by decide) var)

theorem writes_writeLength {length : Nat} (small : length < 2 ^ 32) :
    WritesBelow bound (writeLength length) (code32Bytes length) := by
  unfold writeLength code32Bytes codeBytes
  by_cases below : length < 254
  · rw [if_pos below, if_pos (show length < limit [2, 4] from below)]
    exact writes_writeInt rfl
  · rw [if_neg below, if_neg (show ¬ length < limit [2, 4] from below), announced]
    by_cases two : length < 256 ^ 2
    · rw [if_pos (by omega), if_pos two]
      exact writes_marked 254 rfl
    · rw [if_neg (by omega), if_pos (by omega), if_neg two, announced,
        if_pos (show length < 256 ^ 4 from small)]
      exact writes_marked 255 rfl

theorem writes_writeString {var : List UInt8} (small : var.length < 2 ^ 32) :
    WritesBelow bound (writeString var) (code32Bytes var.length ++ var) :=
  writes_append (writes_writeLength small) (writes_store var)

/-! The macros for lists and messages. -/

theorem writes_writeElements {writeFunc : α → Write} {bytes : α → List UInt8} (var : List α)
    (each : ∀ v ∈ var, WritesBelow bound (writeFunc v) (bytes v)) :
    WritesBelow bound (writeElements writeFunc var) (var.flatMap bytes) := by
  induction var with
  | nil => exact writes_nil
  | cons v rest ih =>
      have first := each v List.mem_cons_self
      have others := ih fun other listed => each other (List.mem_cons_of_mem v listed)
      rw [List.flatMap_cons]
      exact writes_append first others

theorem writes_writeList {writeFunc : α → Write} {bytes : α → List UInt8} {var : List α}
    (small : var.length < 2 ^ 32) (each : ∀ v ∈ var, WritesBelow bound (writeFunc v) (bytes v)) :
    WritesBelow bound (writeList var writeFunc) (code32Bytes var.length ++ var.flatMap bytes) :=
  writes_append (writes_writeLength small) (writes_writeElements var each)

theorem encodeWith_eq {fields : Write} {bytes : List UInt8} (each : Writes fields bytes)
    {output : Output} (within : output.Within (2 ^ 31)) :
    encodeWith fields output.memory output.cursor.p output.cursor.leftBytes =
      if bytes.length ≤ output.cursor.leftBytes then
        .ok (bytes.length, overwrite output.memory output.cursor.p bytes)
      else .failed := by
  have short := within.short
  rw [encodeWith, each output within, Output.stored]
  by_cases room : bytes.length ≤ output.cursor.leftBytes
  · have size : output.cursor.leftBytes - (output.cursor.leftBytes - bytes.length) =
        bytes.length := Nat.sub_sub_self room
    rw [if_pos room, if_pos room, Outcome.bind_ok]
    dsimp only
    rw [returned_eq (Nat.sub_le ..) short, size]
  · rw [if_neg room, if_neg room, Outcome.bind_failed]

theorem writes_writeStruct {fields : Write} {bytes : List UInt8} (each : Writes fields bytes) :
    Writes (writeStruct (encodeWith fields)) bytes := by
  intro output within
  rw [writeStruct, encodeWith_eq each within, Output.stored]
  by_cases room : bytes.length ≤ output.cursor.leftBytes
  · have size : (bytes.length : Int) ≠ -1 := by omega
    have enough : (0 : Int) ≤ bytes.length ∧ (bytes.length : Int) ≤ output.cursor.leftBytes :=
      ⟨Int.natCast_nonneg _, Int.ofNat_le.mpr room⟩
    rw [if_pos room, if_pos room, Outcome.bind_ok]
    dsimp only
    rw [if_neg size, Cursor.advance, if_pos enough]
    rfl
  · rw [if_neg room, if_neg room, Outcome.bind_failed]

/-! Schemas. -/

theorem Scalar.writes (type : Scalar) (var : type.Value) (fits : type.Fits var) :
    Writes (type.write var) (type.bytes var) := by
  cases type with
  | int8 signed => exact writes_writeInt (IntType.Value.bits_same var)
  | int16 signed => exact writes_writeInt (IntType.Value.bits_same var)
  | int32 signed => exact writes_writeInt (IntType.Value.bits_same var)
  | int64 signed => exact writes_writeInt (IntType.Value.bits_same var)
  | int16V signed =>
      change IntType.Value ⟨.int16, signed⟩ at var
      have written : Writes _ _ := writes_writeInt16V var.val
      rwa [uint16, bits_unsigned] at written
  | int32V signed =>
      change IntType.Value ⟨.int32, signed⟩ at var
      have written : Writes _ _ := writes_writeInt32V var.val
      rwa [uint32, bits_unsigned] at written
  | int64V signed =>
      change IntType.Value ⟨.int64, signed⟩ at var
      have written : Writes _ _ := writes_writeInt64V var.val
      rwa [uint64, bits_unsigned] at written
  | string => exact writes_writeString fits

mutual

theorem Item.writes (item : Item) (var : item.Value) (fits : item.Fits var) :
    Writes (item.write var) (item.bytes var) := by
  cases item with
  | scalar type => exact type.writes var fits
  | enum underlying => exact writes_writeInt32V (IntType.Value.val var)
  | struct fields => exact writes_writeStruct (fields.writes var fits)

theorem Kind.writes (kind : Kind) (var : kind.Value) (fits : kind.Fits var) :
    Writes (kind.write var) (kind.bytes var) := by
  cases kind with
  | item item => exact item.writes var fits
  | list element =>
      apply writes_writeList fits.1
      intro v listed
      exact element.writes v (fits.2 v listed)

theorem Fields.writes (fields : Fields) (var : fields.Value) (fits : fields.Fits var) :
    Writes (fields.write var) (fields.bytes var) := by
  cases fields with
  | nil => exact writes_nil
  | cons first rest =>
      obtain ⟨var, later⟩ := var
      exact writes_append (first.writes var fits.1) (rest.writes later fits.2)

end

theorem Fields.encode_eq (fields : Fields) {var : fields.Value} (fits : fields.Fits var)
    {buffer : List UInt8} (short : buffer.length < 2 ^ 31) :
    fields.encode var buffer =
      if (fields.bytes var).length ≤ buffer.length then
        .ok ((fields.bytes var).length, overwrite buffer 0 (fields.bytes var))
      else .failed := by
  have within : Output.Within
      { memory := buffer, cursor := { p := 0, leftBytes := buffer.length } } (2 ^ 31) :=
    ⟨le_of_eq (Nat.zero_add _), short⟩
  exact encodeWith_eq (fields.writes var fits) within

/-- Into a buffer with other memory behind it: the bytes of the message are the same for every
size, and nothing else changes. Where nothing is behind the buffer, a store beyond its end would be
an overrun. -/
def Fields.EncodesExactly (fields : Fields) (var : fields.Value) : Prop :=
  ∃ bytes : List UInt8, ∀ buffer behind : List UInt8, buffer.length < 2 ^ 31 →
    (bytes.length ≤ buffer.length →
      encodeWith (fields.write var) (buffer ++ behind) 0 buffer.length =
        .ok (bytes.length, bytes ++ buffer.drop bytes.length ++ behind)) ∧
    (buffer.length < bytes.length →
      encodeWith (fields.write var) (buffer ++ behind) 0 buffer.length = .failed)

theorem Fields.encode_exact (fields : Fields) (var : fields.Value) (fits : fields.Fits var) :
    fields.EncodesExactly var := by
  refine ⟨fields.bytes var, ?_⟩
  intro buffer behind short
  have within : Output.Within
      { memory := buffer ++ behind, cursor := { p := 0, leftBytes := buffer.length } }
      (2 ^ 31) := by
    refine ⟨?_, short⟩
    change 0 + buffer.length ≤ (buffer ++ behind).length
    rw [List.length_append]
    omega
  have encoded := encodeWith_eq (fields.writes var fits) within
  dsimp only at encoded
  rw [encoded]
  constructor
  · intro room
    have bound : 0 + (fields.bytes var).length ≤ (buffer ++ behind).length := by
      rw [List.length_append]
      omega
    rw [if_pos room, overwrite_eq _ _ _ bound, List.take_zero, List.nil_append, Nat.zero_add,
      List.drop_append_of_le_length room, List.append_assoc]
  · intro full
    rw [if_neg (by omega)]

def nestedFields : Fields :=
  .cons (.item (.scalar (.int16V true))) <| .cons (.list (.enum ⟨.int64, true⟩)) <|
    .cons (.item (.struct (.cons (.list (.scalar .string)) .nil))) .nil

def nestedMessage : nestedFields.Value :=
  (⟨-3, by decide, by decide⟩, [⟨2 ^ 32 + 5, by decide, by decide⟩], ([[65, 66], []], ()), ())

theorem Fields.encode_exact_nested : nestedFields.EncodesExactly nestedMessage := by
  have enums : ∀ v ∈ ([⟨2 ^ 32 + 5, by decide, by decide⟩] : List (IntType.Value ⟨.int64, true⟩)),
      Item.Fits (.enum ⟨.int64, true⟩) v := fun v listed => trivial
  have strings : ∀ v ∈ ([[65, 66], []] : List (List UInt8)), v.length < 2 ^ 32 := by
    decide
  exact Fields.encode_exact nestedFields nestedMessage
    ⟨trivial, ⟨by decide, enums⟩, ⟨⟨by decide, strings⟩, trivial⟩, trivial⟩

/-! A message that was encoded is decoded from the bytes written. -/

variable {machine : Machine}

mutual

theorem Item.reserved_bytes {room : Item → Nat} (item : Item) (var : item.Value)
    (fits : item.Fits var) (kept : item.Kept room var) (tail : List UInt8) :
    item.Reserved room (item.bytes var ++ tail) := by
  cases item with
  | scalar type => trivial
  | enum underlying => trivial
  | struct fields => exact fields.reserved_bytes var fits kept tail

theorem Kind.reserved_bytes {room : Item → Nat} (kind : Kind) (var : kind.Value)
    (fits : kind.Fits var) (kept : kind.Kept room var) (tail : List UInt8) :
    kind.Reserved room (kind.bytes var ++ tail) := by
  cases kind with
  | item item => exact item.reserved_bytes var fits kept tail
  | list element =>
      change List element.Value at var
      rw [Kind.bytes, List.append_assoc]
      refine Parser.then_restores (code32_restores fits.1) ⟨kept.1, ?_⟩
      apply Parser.each_restores
      · intro v listed
        exact element.restores v (fits.2 v listed) (kept.2 v listed)
      · intro v listed
        exact element.reserved_bytes v (fits.2 v listed) (kept.2 v listed)

theorem Fields.reserved_bytes {room : Item → Nat} (fields : Fields) (var : fields.Value)
    (fits : fields.Fits var) (kept : fields.Kept room var) (tail : List UInt8) :
    fields.Reserved room (fields.bytes var ++ tail) := by
  cases fields with
  | nil => trivial
  | cons first rest =>
      obtain ⟨var, later⟩ := var
      rw [Fields.bytes, List.append_assoc]
      constructor
      · exact first.reserved_bytes var fits.1 kept.1 _
      · have after := rest.reserved_bytes later fits.2 kept.2 tail
        exact Parser.then_restores (first.restores var fits.1 kept.1) after

end

/-- The bytes that an encode has written are decoded to the message, whatever follows them. -/
def Fields.RoundTrips (machine : Machine) (fields : Fields) (var : fields.Value) : Prop :=
  ∀ buffer written : List UInt8, buffer.length < 2 ^ 31 → ∀ count : Int,
    fields.encode var buffer = .ok (count, written) → ∀ tail : List UInt8,
      (written.take count.toNat ++ tail).length < 2 ^ 31 →
        fields.decode machine (written.take count.toNat ++ tail) = .ok (count, var)

theorem Fields.decode_encode (machine : Machine) {fields : Fields} (plain : fields.NoEnumList)
    (var : fields.Value) (fits : fields.Fits var) (kept : fields.Kept machine.room var) :
    fields.RoundTrips machine var := by
  intro buffer written short count encoded tail small
  rw [fields.encode_eq fits short] at encoded
  split at encoded
  · rename_i room
    cases encoded
    have bytes : (overwrite buffer 0 (fields.bytes var)).take (fields.bytes var).length =
        fields.bytes var := by
      have taken := overwrite_take buffer 0 (fields.bytes var) (by omega)
      rwa [Nat.zero_add, List.take_zero, List.nil_append] at taken
    rw [Int.toNat_natCast, bytes] at small ⊢
    have reserved := fields.reserved_bytes var fits kept tail
    rw [decode_eq plain small reserved, fields.restores var fits kept tail, decodedOf,
      List.length_append, Nat.add_sub_cancel]
  · cases encoded

def mixedFields : Fields :=
  .cons (.list (.scalar .string)) <| .cons (.item (.enum int32)) .nil

def mixedMessage : mixedFields.Value := ([[65, 66], []], ⟨-2, by decide, by decide⟩, ())

theorem Fields.decode_encode_mixed : mixedFields.RoundTrips ampleMachine mixedMessage := by
  have strings : ∀ v ∈ ([[65, 66], []] : List (List UInt8)), v.length < 2 ^ 32 := by
    decide
  have plain : mixedFields.NoEnumList := ⟨stringsMessage_noEnumList.1, trivial, trivial⟩
  exact Fields.decode_encode ampleMachine plain mixedMessage
    ⟨⟨by decide, strings⟩, trivial, trivial⟩
    ⟨⟨by decide, fun _ _ => trivial⟩, enum_kept (by decide) _, trivial⟩

def wideEnum : Fields := .cons (.item (.enum ⟨.int64, true⟩)) .nil

theorem wideEnum_lost :
    ¬ wideEnum.RoundTrips ampleMachine (⟨2 ^ 32 + 5, by decide, by decide⟩, ()) := by
  intro roundTrips
  have decoded := roundTrips [0] [5] (by decide) 1 rfl [] (by decide)
  have five : wideEnum.decode ampleMachine [5] = .ok (1, ⟨5, by decide, by decide⟩, ()) := rfl
  have same := five.symm.trans decoded
  cases same

def fullMachine : Machine := { ampleMachine with room := fun _ => 0 }

theorem emptyString_thrown : ¬ stringsMessage.RoundTrips fullMachine ([[]], ()) := by
  intro roundTrips
  have decoded := roundTrips [0, 0] [1, 0] (by decide) 2 rfl [] (by decide)
  have thrown : stringsMessage.decode fullMachine [1, 0] = .thrown := rfl
  have same := thrown.symm.trans decoded
  cases same

/-- The value `2 ^ 32 + 5` is written as the byte 5, which is read as 5; and where `reserve` gets
no memory, a list is written that cannot be read. -/
theorem wideEnum_and_list_lost :
    ¬ wideEnum.RoundTrips ampleMachine (⟨2 ^ 32 + 5, by decide, by decide⟩, ()) ∧
      ¬ stringsMessage.RoundTrips fullMachine ([[]], ()) :=
  ⟨wideEnum_lost, emptyString_thrown⟩

end ZBlueNet.Exchange
