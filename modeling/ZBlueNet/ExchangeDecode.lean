import ZBlueNet.ExchangeFormat

/-!
Decoding is parsing: every macro that reads leaves `p` at what its parser leaves over, and
returns `-1` where the parser fails; a list length that asks for more memory than there is
throws. So nothing outside the buffer is read, and what a `decode` has read decides its result.
-/

namespace ZBlueNet.Exchange

open Bytes PrefixParser CompactCode

variable {α β Parsed Next : Type}

def Cursor.before (memory rest : List UInt8) : Cursor :=
  { p := memory.length - rest.length, leftBytes := rest.length }

def outcomeOf (memory : List UInt8) (view : Parsed → α) :
    Option (Parsed × List UInt8) → Outcome (α × Cursor)
  | none => .failed
  | some (item, later) => .ok (view item, .before memory later)

/-- The macros read what the parser gives, seen as a value of the variable. -/
def ReadsBelow (bound : Nat) (read : Read α) (parser : Parser UInt8 Parsed)
    (view : Parsed → α) : Prop :=
  ∀ memory rest, rest <:+ memory → memory.length < bound →
    read memory (.before memory rest) = outcomeOf memory view (parser.parse rest)

abbrev Reads (read : Read α) (parser : Parser UInt8 Parsed) (view : Parsed → α) : Prop :=
  ReadsBelow (2 ^ 31) read parser view

variable {bound : Nat}

/-! Macros in sequence. -/

theorem reads_pure (item : Parsed) (view : Parsed → α) :
    ReadsBelow bound (pure (view item)) (.pure item) view := by
  intro memory rest suffix short
  rfl

theorem reads_bind {read : Read α} {next : α → Read β} {parser : Parser UInt8 Parsed}
    {more : Parsed → Parser UInt8 Next} {view : Parsed → α} {last : Next → β}
    (first : ReadsBelow bound read parser view)
    (second : ∀ item, parser.Yields item → ReadsBelow bound (next (view item)) (more item) last) :
    ReadsBelow bound (read >>= next) (parser.bind more) last := by
  intro memory rest suffix short
  rw [Read.bind_apply, first memory rest suffix short]
  simp only [Parser.bind]
  cases parsed : parser.parse rest with
  | none => rfl
  | some step =>
      obtain ⟨item, later⟩ := step
      exact second item ⟨rest, later, parsed⟩ memory later
        ((Parser.rest_suffix parsed).trans suffix) short

theorem reads_view {read : Read α} {parser : Parser UInt8 Parsed} {change : Parsed → Next}
    {last : Next → α} (first : ReadsBelow bound read parser fun item => last (change item)) :
    ReadsBelow bound read (parser.map change) last := by
  intro memory rest suffix short
  rw [first memory rest suffix short]
  simp only [Parser.map, Parser.bind]
  cases parser.parse rest <;> rfl

theorem reads_map {read : Read α} {parser : Parser UInt8 Parsed} {view : Parsed → α}
    (first : ReadsBelow bound read parser view) (finish : α → β) :
    ReadsBelow bound (read >>= fun var => pure (finish var)) parser fun item =>
      finish (view item) := by
  intro memory rest suffix short
  rw [Read.bind_apply, first memory rest suffix short]
  cases parser.parse rest <;> rfl

/-! The access of a macro to the bytes it has checked for. -/

theorem advance_before {memory rest : List UInt8} {count : Nat} (suffix : rest <:+ memory)
    (enough : count ≤ rest.length) :
    (Cursor.before memory rest).advance count = .ok (.before memory (rest.drop count)) := by
  have inside := suffix.length_le
  have room : (0 : Int) ≤ count ∧ (count : Int) ≤ (Cursor.before memory rest).leftBytes :=
    ⟨Int.natCast_nonneg count, Int.ofNat_le.mpr enough⟩
  rw [Cursor.advance, if_pos room]
  simp only [Cursor.before, Int.toNat_natCast, List.length_drop, Outcome.ok.injEq,
    Cursor.mk.injEq, and_true]
  omega

theorem skip_before {memory rest : List UInt8} {count : Nat} (suffix : rest <:+ memory)
    (enough : count ≤ rest.length) :
    Read.skip count memory (.before memory rest) =
      .ok ((), .before memory (rest.drop count)) := by
  rw [Read.skip, advance_before suffix enough, Outcome.bind_ok]

theorem load_before {memory rest : List UInt8} {count : Nat} (suffix : rest <:+ memory)
    (enough : count ≤ rest.length) :
    Read.load count memory (.before memory rest) =
      .ok (rest.take count, .before memory rest) := by
  have inside := suffix.length_le
  have within : (Cursor.before memory rest).p + count ≤ memory.length := by
    simp only [Cursor.before]
    omega
  have here : memory.drop (Cursor.before memory rest).p = rest :=
    (List.suffix_iff_eq_drop.mp suffix).symm
  rw [Read.load, if_pos within, here]

theorem reads_take (count : Nat) (finish : List UInt8 → α) :
    ReadsBelow bound
      (do
        Read.ensure count
        let bytes ← Read.load count
        Read.skip count
        return finish bytes)
      (.take count) finish := by
  intro memory rest suffix short
  rw [Read.bind_apply]
  simp only [Read.ensure, Parser.take]
  by_cases missing : rest.length < count
  · rw [if_pos missing, if_pos (show (Cursor.before memory rest).leftBytes < count from missing),
      Outcome.bind_failed, outcomeOf]
  · have enough : count ≤ rest.length := Nat.le_of_not_lt missing
    rw [if_neg missing, if_neg (show ¬ (Cursor.before memory rest).leftBytes < count from missing),
      Outcome.bind_ok, Read.bind_apply, load_before suffix enough, Outcome.bind_ok,
      Read.bind_apply, skip_before suffix enough]
    rfl

/-! The macros for numbers. -/

theorem reads_readInt (count : Nat) (type : IntType) :
    ReadsBelow bound (readInt count type) (unsigned count) type.ofBits := by
  apply reads_view
  exact reads_take count fun bytes => type.cast (assemble bytes)

theorem wrap_ofBits {width : Width} {first : Nat} (signed : Bool) (byte : first < 256) :
    (IntType.mk width false).wrap ((IntType.mk width signed).ofBits first).val = first := by
  have small : (first : Int) < width.modulus := by
    have least : 256 ≤ width.modulus := by
      cases width <;> decide
    omega
  have kept : ((IntType.mk width signed).ofBits first).val % width.modulus =
      first % width.modulus := IntType.cast_emod first
  unfold IntType.wrap
  exact kept.trans (Int.emod_eq_of_lt (Int.natCast_nonneg first) small)

theorem reads_code {sizes : List Nat} {type : IntType} {next : type.Value → Read type.Value}
    (pick : ∀ first < 256, next (type.ofBits first) =
      if first < limit sizes then pure (type.ofBits first)
      else readInt (sizes.getD (first - limit sizes) 0) type) :
    ReadsBelow bound (readInt 1 type >>= next) (code sizes) type.ofBits := by
  refine reads_bind (reads_readInt 1 type) ?_
  intro first yielded
  rw [pick first (unsigned_yields yielded)]
  split
  · exact reads_pure first type.ofBits
  · exact reads_readInt _ type

theorem reads_readInt16V (signed : Bool) :
    ReadsBelow bound (readInt16V ⟨.int16, signed⟩) (code [2])
      (IntType.ofBits ⟨.int16, signed⟩) := by
  apply reads_code
  intro first byte
  have seen : uint16.wrap _ = first := wrap_ofBits signed byte
  rw [seen]
  by_cases below : first < 255
  · rw [if_pos (by omega), if_pos (show first < limit [2] from below)]
  · obtain rfl : first = 255 := by omega
    rfl

theorem code32_pick (type : IntType) {first : Nat} (byte : first < 256) :
    (if (first : Int) < 254 then pure (type.ofBits first)
      else if (first : Int) = 254 then readInt16 type else readInt32 type) =
      if first < limit [2, 4] then pure (type.ofBits first)
      else readInt ([2, 4].getD (first - limit [2, 4]) 0) type := by
  by_cases below : first < 254
  · rw [if_pos (by omega), if_pos (show first < limit [2, 4] from below)]
  · obtain rfl | rfl : first = 254 ∨ first = 255 := by omega
    · rfl
    · rfl

theorem reads_readInt32V (signed : Bool) :
    ReadsBelow bound (readInt32V ⟨.int32, signed⟩) code32 (IntType.ofBits ⟨.int32, signed⟩) := by
  apply reads_code
  intro first byte
  have seen : uint32.wrap _ = first := wrap_ofBits signed byte
  rw [seen]
  exact code32_pick _ byte

theorem reads_readInt64V (signed : Bool) :
    ReadsBelow bound (readInt64V ⟨.int64, signed⟩) (code [2, 4, 8])
      (IntType.ofBits ⟨.int64, signed⟩) := by
  apply reads_code
  intro first byte
  have seen : uint64.wrap _ = first := wrap_ofBits signed byte
  rw [seen]
  by_cases below : first < 253
  · rw [if_pos (by omega), if_pos (show first < limit [2, 4, 8] from below)]
  · obtain rfl | rfl | rfl : first = 253 ∨ first = 254 ∨ first = 255 := by omega
    · rfl
    · rfl
    · rfl

theorem sizeT_ofBits {bits : Nat} (small : bits < 2 ^ 32) : (sizeT.ofBits bits).val = bits := by
  change sizeT.wrap bits = bits
  apply IntType.wrap_of_bounds
  · exact Int.natCast_nonneg bits
  · have most : sizeT.high = 2 ^ 64 := rfl
    rw [most]
    omega

theorem reads_readLength : ReadsBelow bound readLength code32 sizeT.ofBits := by
  apply reads_code
  intro first byte
  rw [sizeT_ofBits (by omega)]
  exact code32_pick sizeT byte

theorem reads_readEnum (underlying : IntType) :
    ReadsBelow bound (readEnum underlying) code32
      fun bits => underlying.cast (int32.ofBits bits).val :=
  reads_map (reads_readInt32V true) fun v => underlying.cast v.val

theorem reads_readString : ReadsBelow bound readString (code32.bind .take) id := by
  refine reads_bind reads_readLength ?_
  intro count yielded
  rw [sizeT_ofBits (code32_yields yielded), Int.toNat_natCast]
  exact reads_take count id

/-! Lists whose length asks for more memory than there is. -/

/-- Where the condition is met the macros read what the parser gives, and elsewhere they throw. -/
structure ReadsWhere (bound : Nat) (held : List UInt8 → Prop) (read : Read α)
    (parser : Parser UInt8 Parsed) (view : Parsed → α) : Prop where
  found : ∀ {memory rest}, rest <:+ memory → memory.length < bound → held rest →
    read memory (.before memory rest) = outcomeOf memory view (parser.parse rest)
  thrown : ∀ {memory rest}, rest <:+ memory → memory.length < bound → ¬ held rest →
    read memory (.before memory rest) = .thrown

variable {held : List UInt8 → Prop}

theorem ReadsBelow.everywhere {read : Read α} {parser : Parser UInt8 Parsed} {view : Parsed → α}
    (first : ReadsBelow bound read parser view) :
    ReadsWhere bound (fun _ => True) read parser view where
  found suffix short _ := first _ _ suffix short
  thrown _ _ missing := absurd trivial missing

theorem ReadsWhere.bind {read : Read α} {next : α → Read β} {parser : Parser UInt8 Parsed}
    {more : Parsed → Parser UInt8 Next} {view : Parsed → α} {last : Next → β}
    {after : Parsed → List UInt8 → Prop} (first : ReadsWhere bound held read parser view)
    (second : ∀ item, parser.Yields item →
      ReadsWhere bound (after item) (next (view item)) (more item) last) :
    ReadsWhere bound (fun rest => held rest ∧ parser.Then after rest) (read >>= next)
      (parser.bind more) last where
  found := by
    intro memory rest suffix short met
    rw [Read.bind_apply, first.found suffix short met.1]
    simp only [Parser.bind]
    cases parsed : parser.parse rest with
    | none => rfl
    | some step =>
        obtain ⟨item, later⟩ := step
        exact (second item ⟨rest, later, parsed⟩).found
          ((Parser.rest_suffix parsed).trans suffix) short (met.2 item later parsed)
  thrown := by
    intro memory rest suffix short missing
    rw [Read.bind_apply]
    by_cases met : held rest
    · have later : ¬ parser.Then after rest := fun ahead => missing ⟨met, ahead⟩
      simp only [Parser.Then, not_forall] at later
      obtain ⟨item, later, parsed, unmet⟩ := later
      rw [first.found suffix short met, parsed, outcomeOf, Outcome.bind_ok]
      exact (second item ⟨rest, later, parsed⟩).thrown
        ((Parser.rest_suffix parsed).trans suffix) short unmet
    · rw [first.thrown suffix short met, Outcome.bind_thrown]

theorem ReadsWhere.view {read : Read α} {parser : Parser UInt8 Parsed} {change : Parsed → Next}
    {last : Next → α} (first : ReadsWhere bound held read parser fun item => last (change item)) :
    ReadsWhere bound held read (parser.map change) last where
  found := by
    intro memory rest suffix short met
    rw [first.found suffix short met]
    simp only [Parser.map, Parser.bind]
    cases parser.parse rest <;> rfl
  thrown := first.thrown

theorem ReadsWhere.map {read : Read α} {parser : Parser UInt8 Parsed} {view : Parsed → α}
    (first : ReadsWhere bound held read parser view) (finish : α → β) :
    ReadsWhere bound held (read >>= fun var => pure (finish var)) parser fun item =>
      finish (view item) where
  found := by
    intro memory rest suffix short met
    rw [Read.bind_apply, first.found suffix short met]
    cases parser.parse rest <;> rfl
  thrown := by
    intro memory rest suffix short missing
    rw [Read.bind_apply, first.thrown suffix short missing, Outcome.bind_thrown]

theorem ReadsWhere.reserve {read : Read α} {parser : Parser UInt8 Parsed} {view : Parsed → α}
    (first : ReadsWhere bound held read parser view) (room count : Nat) :
    ReadsWhere bound (fun rest => count ≤ room ∧ held rest)
      (Read.reserve room count >>= fun _ => read) parser view where
  found := by
    intro memory rest suffix short met
    rw [Read.bind_apply, Read.reserve, if_neg (Nat.not_lt.mpr met.1), Outcome.bind_ok]
    exact first.found suffix short met.2
  thrown := by
    intro memory rest suffix short missing
    rw [Read.bind_apply, Read.reserve]
    by_cases full : room < count
    · rw [if_pos full, Outcome.bind_thrown]
    · rw [if_neg full, Outcome.bind_ok]
      exact first.thrown suffix short fun met => missing ⟨Nat.le_of_not_lt full, met⟩

theorem ReadsWhere.list {elements : Nat → Read β} {more : Nat → Parser UInt8 Next}
    {last : Next → β} {after : Nat → List UInt8 → Prop} (room : Nat)
    (each : ∀ count, ReadsWhere bound (after count) (elements count) (more count) last) :
    ReadsWhere bound (code32.Then fun count rest => count ≤ room ∧ after count rest)
      (do
        let length ← readLength
        Read.reserve room length.val.toNat
        elements length.val.toNat)
      (code32.bind more) last := by
  have second : ∀ count, code32.Yields count →
      ReadsWhere bound (fun rest => count ≤ room ∧ after count rest)
        (Read.reserve room (sizeT.ofBits count).val.toNat >>= fun _ =>
          elements (sizeT.ofBits count).val.toNat)
        (more count) last := by
    intro count yielded
    rw [sizeT_ofBits (code32_yields yielded), Int.toNat_natCast]
    exact (each count).reserve room count
  have first : ReadsWhere bound (fun _ => True) readLength code32 sizeT.ofBits :=
    reads_readLength.everywhere
  have read : ReadsWhere bound
      (fun rest => True ∧ code32.Then (fun count rest => count ≤ room ∧ after count rest) rest)
      (readLength >>= fun length =>
        Read.reserve room length.val.toNat >>= fun _ => elements length.val.toNat)
      (code32.bind more) last := first.bind second
  simp only [true_and] at read
  exact read

theorem ReadsWhere.elements {readFunc : Read α} {parser : Parser UInt8 α}
    (each : ReadsWhere bound held readFunc parser id) (count : Nat) :
    ReadsWhere bound (parser.Each held count) (readElements readFunc count)
      (parser.replicate count) id := by
  induction count with
  | zero => exact (reads_pure [] id).everywhere
  | succ count ih =>
      refine each.bind ?_
      intro v yielded
      apply ReadsWhere.view
      exact ih.map (v :: ·)

theorem ReadsWhere.readList {readFunc : Read α} {parser : Parser UInt8 α}
    (each : ReadsWhere bound held readFunc parser id) (room : Nat) :
    ReadsWhere bound
      (code32.Then fun length rest => length ≤ room ∧ parser.Each held length rest)
      (readList room readFunc) (code32.bind parser.replicate) id :=
  ReadsWhere.list room each.elements

/-! The macros for messages. -/

theorem returned_eq {size leftBytes : Nat} (below : leftBytes ≤ size) (short : size < 2 ^ 31) :
    returned size leftBytes = (size - leftBytes : Nat) := by
  have same : ((size - leftBytes : Nat) : Int) = size - leftBytes := Int.natCast_sub below
  rw [same]
  apply IntType.wrap_of_bounds
  · have least : int32.low = -2 ^ 31 := rfl
    rw [least]
    omega
  · have most : int32.high = 2 ^ 31 := rfl
    rw [most]
    omega

def decodedOf (size : Nat) : Option (α × List UInt8) → Outcome (Int × α)
  | none => .failed
  | some (var, later) => .ok ((size - later.length : Nat), var)

theorem decodeWith_before {fields : Read α} {parser : Parser UInt8 α}
    (each : ReadsWhere (2 ^ 31) held fields parser id) {memory rest : List UInt8}
    (suffix : rest <:+ memory) (short : memory.length < 2 ^ 31) (met : held rest) :
    decodeWith fields memory (memory.length - rest.length) rest.length =
      decodedOf rest.length (parser.parse rest) := by
  have read := each.found suffix short met
  rw [Cursor.before] at read
  rw [decodeWith, read]
  cases parsed : parser.parse rest with
  | none => rfl
  | some step =>
      obtain ⟨var, later⟩ := step
      have kept := Parser.rest_suffix parsed
      have inside := suffix.length_le
      have count : returned rest.length later.length = (rest.length - later.length : Nat) :=
        returned_eq kept.length_le (by omega)
      rw [decodedOf, ← count]
      rfl

theorem decodeWith_thrown {fields : Read α} {parser : Parser UInt8 α}
    (each : ReadsWhere (2 ^ 31) held fields parser id) {memory rest : List UInt8}
    (suffix : rest <:+ memory) (short : memory.length < 2 ^ 31) (missing : ¬ held rest) :
    decodeWith fields memory (memory.length - rest.length) rest.length = .thrown := by
  have read := each.thrown suffix short missing
  rw [Cursor.before] at read
  rw [decodeWith, read, Outcome.bind_thrown]

theorem ReadsWhere.struct {fields : Read α} {parser : Parser UInt8 α}
    (each : ReadsWhere (2 ^ 31) held fields parser id) :
    ReadsWhere (2 ^ 31) held (readStruct (decodeWith fields)) parser id where
  found := by
    intro memory rest suffix short met
    rw [readStruct, Cursor.before, decodeWith_before each suffix short met]
    cases parsed : parser.parse rest with
    | none => rfl
    | some step =>
        obtain ⟨var, later⟩ := step
        have kept := Parser.rest_suffix parsed
        have size : ((rest.length - later.length : Nat) : Int) ≠ -1 := by omega
        have moved := advance_before suffix (Nat.sub_le rest.length later.length)
        rw [← List.suffix_iff_eq_drop.mp kept, Cursor.before] at moved
        rw [decodedOf, Outcome.bind_ok]
        dsimp only
        rw [if_neg size, moved]
        rfl
  thrown := by
    intro memory rest suffix short missing
    rw [readStruct, Cursor.before, decodeWith_thrown each suffix short missing,
      Outcome.bind_thrown]

/-! Schemas. -/

mutual

/-- For each list length that stands in the bytes, where the schema comes to it, there is memory. -/
def Item.Reserved (room : Item → Nat) : Item → List UInt8 → Prop
  | .scalar _, _ | .enum _, _ => True
  | .struct fields, bytes => fields.Reserved room bytes

def Kind.Reserved (room : Item → Nat) : Kind → List UInt8 → Prop
  | .item item, bytes => item.Reserved room bytes
  | .list element, bytes =>
      code32.Then (fun length rest =>
        length ≤ room element ∧ element.parser.Each (element.Reserved room) length rest) bytes

def Fields.Reserved (room : Item → Nat) : Fields → List UInt8 → Prop
  | .nil, _ => True
  | .cons first rest, bytes =>
      first.Reserved room bytes ∧ first.parser.Then (fun _ => rest.Reserved room) bytes

end

theorem Scalar.reads (type : Scalar) : Reads type.read type.parser id := by
  cases type with
  | int8 signed => exact reads_view (reads_readInt 1 ⟨.int8, signed⟩)
  | int16 signed => exact reads_view (reads_readInt 2 ⟨.int16, signed⟩)
  | int32 signed => exact reads_view (reads_readInt 4 ⟨.int32, signed⟩)
  | int64 signed => exact reads_view (reads_readInt 8 ⟨.int64, signed⟩)
  | int16V signed => exact reads_view (reads_readInt16V signed)
  | int32V signed => exact reads_view (reads_readInt32V signed)
  | int64V signed => exact reads_view (reads_readInt64V signed)
  | string => exact reads_readString

theorem readItems_eq (machine : Machine) {element : Item} (readFunc : Read element.Value)
    (plain : ∀ underlying, element ≠ .enum underlying) :
    readItems machine element readFunc = readList (machine.room element) readFunc := by
  cases element with
  | scalar type => rfl
  | enum underlying => exact absurd rfl (plain underlying)
  | struct fields => rfl

mutual

theorem Item.reads (machine : Machine) (item : Item) (plain : item.NoEnumList) :
    ReadsWhere (2 ^ 31) (item.Reserved machine.room) (item.read machine) item.parser id := by
  cases item with
  | scalar type =>
      apply ReadsBelow.everywhere
      exact type.reads
  | enum underlying =>
      apply ReadsBelow.everywhere
      exact reads_view (reads_readEnum underlying)
  | struct fields => exact (fields.reads machine plain).struct

theorem Kind.reads (machine : Machine) (kind : Kind) (plain : kind.NoEnumList) :
    ReadsWhere (2 ^ 31) (kind.Reserved machine.room) (kind.read machine) kind.parser id := by
  cases kind with
  | item item => exact item.reads machine plain
  | list element =>
      rw [Kind.read, readItems_eq machine _ plain.1]
      exact (element.reads machine plain.2).readList (machine.room element)

theorem Fields.reads (machine : Machine) (fields : Fields) (plain : fields.NoEnumList) :
    ReadsWhere (2 ^ 31) (fields.Reserved machine.room) (fields.read machine) fields.parser id := by
  cases fields with
  | nil => exact (reads_pure () id).everywhere
  | cons first rest =>
      refine (first.reads machine plain.1).bind ?_
      intro var yielded
      apply ReadsWhere.view
      exact (rest.reads machine plain.2).map fun later => (var, later)

end

variable {machine : Machine}

theorem Fields.decode_eq {fields : Fields} (plain : fields.NoEnumList) {buffer : List UInt8}
    (short : buffer.length < 2 ^ 31) (reserved : fields.Reserved machine.room buffer) :
    fields.decode machine buffer = decodedOf buffer.length (fields.parser.parse buffer) := by
  have start := decodeWith_before (fields.reads machine plain) (List.suffix_refl buffer) short
    reserved
  rwa [Nat.sub_self] at start

theorem Fields.decode_thrown {fields : Fields} (plain : fields.NoEnumList) {buffer : List UInt8}
    (short : buffer.length < 2 ^ 31) (missing : ¬ fields.Reserved machine.room buffer) :
    fields.decode machine buffer = .thrown := by
  have start := decodeWith_thrown (fields.reads machine plain) (List.suffix_refl buffer) short
    missing
  rwa [Nat.sub_self] at start

/-! The lengths that count stand in the bytes that are read. -/

mutual

theorem Item.decides (room : Item → Nat) (item : Item) :
    item.parser.Decides (item.Reserved room) := by
  cases item with
  | scalar type => exact Parser.decides_const True
  | enum underlying => exact Parser.decides_const True
  | struct fields => exact fields.decides room

theorem Kind.decides (room : Item → Nat) (kind : Kind) :
    kind.parser.Decides (kind.Reserved room) := by
  cases kind with
  | item item => exact item.decides room
  | list element =>
      apply Parser.decides_then
      intro length
      exact (Parser.decides_const _).and ((element.decides room).each length)

theorem Fields.decides (room : Item → Nat) (fields : Fields) :
    fields.parser.Decides (fields.Reserved room) := by
  cases fields with
  | nil => exact Parser.decides_const True
  | cons first rest =>
      apply ((first.decides room).bind _).and
      apply Parser.decides_then
      intro var
      exact (rest.decides room).bind _

end

/-- No access outside of the bytes and no `left_bytes` below zero: `-1`, or a message. The
bytes that the message takes give it whatever follows them, and no strict prefix of them
gives any. -/
def Fields.PrefixDetermined (machine : Machine) (fields : Fields) (buffer : List UInt8) : Prop :=
  fields.decode machine buffer = .failed ∨
    ∃ (count : Nat) (var : fields.Value),
      fields.decode machine buffer = .ok (count, var) ∧ count ≤ buffer.length ∧
      (∀ others : List UInt8, (buffer.take count ++ others).length < 2 ^ 31 →
        fields.decode machine (buffer.take count ++ others) = .ok (count, var)) ∧
      ∀ shorter < count, fields.decode machine (buffer.take shorter) = .failed

theorem Fields.prefixDetermined_of_reserved {fields : Fields} (plain : fields.NoEnumList)
    {buffer : List UInt8} (short : buffer.length < 2 ^ 31)
    (reserved : fields.Reserved machine.room buffer) :
    fields.PrefixDetermined machine buffer := by
  have decides := fields.decides machine.room
  unfold PrefixDetermined
  rw [decode_eq plain short reserved]
  cases parsed : fields.parser.parse buffer with
  | none => exact Or.inl rfl
  | some step =>
      obtain ⟨var, later⟩ := step
      obtain ⟨used, rfl, decided⟩ := fields.parser.determined parsed
      have count : (used ++ later).length - later.length = used.length := by
        rw [List.length_append, Nat.add_sub_cancel]
      refine Or.inr ⟨used.length, var, ?_, ?_, ?_, ?_⟩
      · rw [decodedOf, count]
      · rw [List.length_append]
        omega
      · intro others fits
        rw [List.take_left] at fits ⊢
        have whole : fields.parser.parse used = some (var, []) := by
          have alone := decided.restores []
          rwa [List.append_nil] at alone
        have continued := decides.longer others (decides.shorter reserved) whole
        rw [decode_eq plain fits continued, decided.restores others, decodedOf,
          List.length_append, Nat.add_sub_cancel]
      · intro shorter fewer
        have split := (List.take_append_drop shorter used).symm
        have rest : used.drop shorter ≠ [] := by
          rw [Ne, List.drop_eq_nil_iff]
          omega
        have missing := decided.short (used.take shorter) (used.drop shorter) split rest
        have start : fields.Reserved machine.room (used.take shorter) := by
          have before := decides.shorter reserved
          rw [split] at before
          exact decides.shorter before
        rw [List.take_append_of_le_length (by omega)]
        have few : (used.take shorter).length < 2 ^ 31 := by
          rw [List.length_take]
          rw [List.length_append] at short
          omega
        rw [decode_eq plain few start, missing, decodedOf]

theorem Fields.prefixDetermined_iff (machine : Machine) {fields : Fields}
    (plain : fields.NoEnumList) {buffer : List UInt8} (short : buffer.length < 2 ^ 31) :
    fields.PrefixDetermined machine buffer ↔ fields.Reserved machine.room buffer := by
  constructor
  · intro determined
    by_contra missing
    have thrown := decode_thrown plain short missing
    rcases determined with failed | ⟨count, var, decoded, -⟩
    · rw [thrown] at failed
      cases failed
    · rw [thrown] at decoded
      cases decoded
  · intro reserved
    exact prefixDetermined_of_reserved plain short reserved

def stringsMessage : Fields := .cons (.list (.scalar .string)) .nil

/-- Memory for `2 ^ 31` elements of any type, which is 64 GiB for strings of 32 bytes. -/
def ampleMachine : Machine where
  room _ := 2 ^ 31
  declared underlying _ := underlying.cast 0

theorem stringsMessage_noEnumList : stringsMessage.NoEnumList := by
  refine ⟨⟨?_, trivial⟩, trivial⟩
  intro underlying same
  cases same

theorem Fields.prefixDetermined_iff_strings :
    stringsMessage.PrefixDetermined ampleMachine [2, 1, 65, 0, 9] ↔
      stringsMessage.Reserved ampleMachine.room [2, 1, 65, 0, 9] :=
  Fields.prefixDetermined_iff ampleMachine stringsMessage_noEnumList (by decide)

/-- Five bytes announce `2 ^ 32 - 1` strings, and `reserve` throws. -/
theorem stringsMessage_throws :
    ¬ stringsMessage.PrefixDetermined ampleMachine [255, 255, 255, 255, 255] := by
  have thrown : stringsMessage.decode ampleMachine [255, 255, 255, 255, 255] = .thrown := by
    rfl
  rintro (failed | ⟨count, var, decoded, -⟩)
  · rw [thrown] at failed
    cases failed
  · rw [thrown] at decoded
    cases decoded

end ZBlueNet.Exchange
