import ZBlueNet.ExchangeRoundTrip

/-!
Lists of enumerations. `READ_ENUM` declares a `v` and assigns its own `v`, also when it is
given the `v` of `READ_ENUM_LIST`: the list is read to its last byte, and holds what the
variable of each turn happened to hold.
-/

namespace ZBlueNet.Exchange

open Bytes PrefixParser CompactCode

def writeEnumList {underlying : IntType} (var : List underlying.Value) : Write :=
  writeList var fun v => writeEnum v.val

def Output.bytesFrom (written : Output) (p : Nat) : List UInt8 :=
  (written.memory.take written.cursor.p).drop p

/-- The list is read back from its bytes, whatever follows them, and nothing else is read, where
there is memory for it. -/
def EnumListRoundTrips {underlying : IntType} (var : List underlying.Value) : Prop :=
  ∀ (room : Nat) (declared : Nat → underlying.Value) (output written : Output) (tail : List UInt8),
    var.length ≤ room →
    output.cursor.p + output.cursor.leftBytes ≤ output.memory.length →
    writeEnumList var output = .ok ((), written) →
    readEnumList room underlying declared (written.bytesFrom output.cursor.p ++ tail)
        { p := 0, leftBytes := (written.bytesFrom output.cursor.p ++ tail).length } =
      .ok (var, { p := (written.bytesFrom output.cursor.p).length, leftBytes := tail.length })

variable {bound : Nat} {underlying : IntType}

/-! Reading. -/

theorem reads_readEnumElements (declared : Nat → underlying.Value) (i count : Nat) :
    ReadsBelow bound (readEnumElements underlying declared i count) (code32.replicate count)
      fun numbers => (List.range' i numbers.length).map declared := by
  induction count generalizing i with
  | zero =>
      exact reads_pure [] fun numbers : List Nat => (List.range' i numbers.length).map declared
  | succ count ih =>
      refine reads_bind (reads_readEnum underlying) ?_
      intro number yielded
      apply reads_view
      exact reads_map (ih (i + 1)) (declared i :: ·)

theorem reads_readEnumList (room : Nat) (declared : Nat → underlying.Value) :
    ReadsWhere bound (code32.Then fun length _ => length ≤ room ∧ True)
      (readEnumList room underlying declared) (code32.bind code32.replicate)
      fun numbers => (List.range' 0 numbers.length).map declared :=
  ReadsWhere.list room fun count => (reads_readEnumElements declared 0 count).everywhere

/-! Writing. -/

def enumListBytes (var : List underlying.Value) : List UInt8 :=
  code32Bytes var.length ++ var.flatMap fun v => code32Bytes (uint32.cast v.val).bits

theorem writes_writeEnumList {var : List underlying.Value} (small : var.length < 2 ^ 32) :
    WritesBelow bound (writeEnumList var) (enumListBytes var) := by
  apply writes_writeList small
  intro v listed
  exact writes_writeInt32V v.val

theorem enumListBytes_restores {var : List underlying.Value} (small : var.length < 2 ^ 32) :
    Restores (code32.bind code32.replicate).parse (enumListBytes var)
      (var.map fun v => (uint32.cast v.val).bits) := by
  have each : ∀ number ∈ var.map fun v => (uint32.cast v.val).bits,
      Restores code32.parse (code32Bytes number) number := by
    intro number listed
    obtain ⟨v, -, rfl⟩ := List.mem_map.mp listed
    exact code32_restores (IntType.Value.bits_lt _)
  have elements := Parser.restores_replicate _ each
  rw [List.length_map, List.flatMap_map] at elements
  exact Parser.restores_bind (code32_restores small) elements

theorem readEnumList_written {var : List underlying.Value} (small : var.length < 2 ^ 32)
    {room : Nat} (enough : var.length ≤ room) (declared : Nat → underlying.Value)
    {output written : Output} (tail : List UInt8)
    (inside : output.cursor.p + output.cursor.leftBytes ≤ output.memory.length)
    (wrote : writeEnumList var output = .ok ((), written)) :
    readEnumList room underlying declared (written.bytesFrom output.cursor.p ++ tail)
        { p := 0, leftBytes := (written.bytesFrom output.cursor.p ++ tail).length } =
      .ok ((List.range' 0 var.length).map declared,
        { p := (written.bytesFrom output.cursor.p).length, leftBytes := tail.length }) := by
  rw [writes_writeEnumList small output ⟨inside, Nat.lt_succ_self _⟩, Output.stored] at wrote
  split at wrote
  · rename_i fits
    cases wrote
    have bytes : ((overwrite output.memory output.cursor.p (enumListBytes var)).take
        (output.cursor.p + (enumListBytes var).length)).drop output.cursor.p =
          enumListBytes var := by
      rw [overwrite_take _ _ _ (by omega), List.drop_left']
      rw [List.length_take]
      omega
    rw [Output.bytesFrom, bytes]
    have reserved : code32.Then (fun length _ => length ≤ room ∧ True)
        (enumListBytes var ++ tail) := by
      rw [enumListBytes, List.append_assoc]
      exact Parser.then_restores (code32_restores small) ⟨enough, trivial⟩
    have read := (reads_readEnumList room declared).found (List.suffix_refl _)
      (Nat.lt_succ_self _) reserved
    rw [enumListBytes_restores small tail, outcomeOf, Cursor.before, Cursor.before, Nat.sub_self,
      List.length_map, List.length_append, Nat.add_sub_cancel] at read
    rw [List.length_append]
    exact read
  · cases wrote

theorem writeEnumList_fits {var : List underlying.Value} (small : var.length < 2 ^ 32) :
    ∃ output written : Output,
      output.cursor.p + output.cursor.leftBytes ≤ output.memory.length ∧
        writeEnumList var output = .ok ((), written) := by
  have inside : 0 + (enumListBytes var).length ≤ (List.replicate (enumListBytes var).length
      (0 : UInt8)).length := by
    rw [List.length_replicate, Nat.zero_add]
  have stored := writes_writeEnumList small
    { memory := List.replicate (enumListBytes var).length 0
      cursor := { p := 0, leftBytes := (enumListBytes var).length } }
    ⟨inside, Nat.lt_succ_self _⟩
  rw [Output.stored, if_pos (Nat.le_refl _)] at stored
  exact ⟨_, _, inside, stored⟩

theorem exists_other (v : underlying.Value) : ∃ other : underlying.Value, other ≠ v := by
  have zero : (underlying.cast 0).val ≠ (underlying.cast 1).val := by
    obtain ⟨width, signed⟩ := underlying
    cases width <;> cases signed <;> decide
  by_cases same : v = underlying.cast 0
  · refine ⟨underlying.cast 1, ?_⟩
    rw [same]
    intro equal
    exact zero (congrArg IntType.Value.val equal).symm
  · exact ⟨underlying.cast 0, Ne.symm same⟩

/-- Only the empty list comes back whatever the variables hold. -/
theorem enumList_roundTrips_iff {var : List underlying.Value} (small : var.length < 2 ^ 32) :
    EnumListRoundTrips var ↔ var = [] := by
  constructor
  · intro roundTrips
    cases var with
    | nil => rfl
    | cons v rest =>
        obtain ⟨other, different⟩ := exists_other v
        obtain ⟨output, written, inside, wrote⟩ := writeEnumList_fits small
        have same := roundTrips _ (fun _ => other) output written [] (Nat.le_refl _) inside wrote
        rw [readEnumList_written small (Nat.le_refl _) _ [] inside wrote] at same
        have first := congrArg (fun step => step.1.head?) (Outcome.ok.inj same)
        exact absurd (Option.some.inj first) different
  · rintro rfl room declared output written tail enough inside wrote
    exact readEnumList_written small enough declared tail inside wrote

theorem enumList_roundTrips_iff_one :
    EnumListRoundTrips [int32.cast 1] ↔ [int32.cast 1] = [] :=
  enumList_roundTrips_iff (by decide)

/-- The list of one 1 is written as `01 01`, and a 7 is read where a variable holds 7. -/
theorem enumList_one_lost : ¬ EnumListRoundTrips [int32.cast 1] := by
  intro roundTrips
  have same := roundTrips 1 (fun _ => int32.cast 7)
    { memory := [0, 0], cursor := { p := 0, leftBytes := 2 } }
    { memory := [1, 1], cursor := { p := 2, leftBytes := 0 } } [] (by decide) (by decide)
    (by decide +kernel)
  revert same
  decide +kernel

end ZBlueNet.Exchange
