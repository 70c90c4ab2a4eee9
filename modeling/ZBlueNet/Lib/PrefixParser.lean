import Mathlib.Algebra.Ring.Nat
import Mathlib.Data.List.Basic

/-!
Parsers that decide on a prefix of their input: what they have read gives the same item
whatever follows it, and nothing shorter gives an item. Parsers in sequence, and as many
as an item says, are again of this kind.
-/

namespace PrefixParser

variable {Byte Item Next : Type}

def Restores (parse : List Byte → Option (Item × List Byte)) (bytes : List Byte)
    (item : Item) : Prop :=
  ∀ suffix, parse (bytes ++ suffix) = some (item, suffix)

/-- The used bytes give the item, and no part of them is enough. -/
structure Determines (parse : List Byte → Option (Item × List Byte)) (used : List Byte)
    (item : Item) : Prop where
  restores : Restores parse used item
  short : ∀ shorter longer, used = shorter ++ longer → longer ≠ [] → parse shorter = none

structure Parser (Byte Item : Type) where
  parse : List Byte → Option (Item × List Byte)
  determined : ∀ {input item rest}, parse input = some (item, rest) →
    ∃ used, input = used ++ rest ∧ Determines parse used item

namespace Parser

variable {parser : Parser Byte Item} {input rest : List Byte} {item : Item}

theorem rest_suffix (parsed : parser.parse input = some (item, rest)) : rest <:+ input := by
  obtain ⟨used, split, -⟩ := parser.determined parsed
  exact ⟨used, split.symm⟩

protected def pure (item : Item) : Parser Byte Item where
  parse input := some (item, input)
  determined := by
    intro input other rest parsed
    cases parsed
    refine ⟨[], rfl, fun suffix => rfl, ?_⟩
    intro shorter longer split rest
    exact absurd (List.append_eq_nil_iff.mp split.symm).2 rest

def take (count : Nat) : Parser Byte (List Byte) where
  parse input := if input.length < count then none else some (input.take count, input.drop count)
  determined := by
    intro input item rest parsed
    split at parsed
    · cases parsed
    · rename_i enough
      cases parsed
      have full : (input.take count).length = count := by
        rw [List.length_take]
        omega
      refine ⟨input.take count, (List.take_append_drop count input).symm, ?_, ?_⟩
      · intro suffix
        dsimp only
        rw [if_neg (by rw [List.length_append, full]; omega), List.take_left' full,
          List.drop_left' full]
      · intro shorter longer split rest
        have fewer : 0 < longer.length := List.length_pos_iff.mpr rest
        rw [split, List.length_append] at full
        exact if_pos (by omega)

protected def bind (first : Parser Byte Item) (next : Item → Parser Byte Next) :
    Parser Byte Next where
  parse input := (first.parse input).bind fun parsed => (next parsed.1).parse parsed.2
  determined := by
    intro input last rest parsed
    simp only [Option.bind_eq_some_iff] at parsed
    obtain ⟨⟨item, middle⟩, start, finish⟩ := parsed
    obtain ⟨used, rfl, before⟩ := first.determined start
    obtain ⟨more, rfl, after⟩ := (next item).determined finish
    refine ⟨used ++ more, (List.append_assoc ..).symm, ?_, ?_⟩
    · intro suffix
      dsimp only
      rw [List.append_assoc, before.restores, Option.bind_some, after.restores]
    · intro shorter longer split rest
      rcases List.append_eq_append_iff.mp split with ⟨part, rfl, tail⟩ | ⟨part, head, rfl⟩
      · rw [before.restores, Option.bind_some, after.short part longer tail rest]
      · by_cases whole : part = []
        · rw [whole, List.append_nil] at head
          rw [whole, List.nil_append] at rest
          have start := before.restores []
          rw [List.append_nil, head] at start
          rw [start, Option.bind_some, after.short [] more rfl rest]
        · rw [before.short shorter part head whole, Option.bind_none]

def map (change : Item → Next) (parser : Parser Byte Item) : Parser Byte Next :=
  parser.bind fun item => .pure (change item)

def replicate (parser : Parser Byte Item) : Nat → Parser Byte (List Item)
  | 0 => .pure []
  | count + 1 => parser.bind fun item => (parser.replicate count).map (item :: ·)

def Yields (parser : Parser Byte Item) (item : Item) : Prop :=
  ∃ input rest, parser.parse input = some (item, rest)

/-! What is written so that it is restored. -/

theorem restores_pure (item : Item) :
    Restores (Parser.pure item).parse ([] : List Byte) item := by
  intro suffix
  rfl

theorem restores_take (bytes : List Byte) : Restores (take bytes.length).parse bytes bytes := by
  intro suffix
  have enough : ¬ (bytes ++ suffix).length < bytes.length := by
    rw [List.length_append]
    omega
  simp only [take, if_neg enough, List.take_left, List.drop_left]

theorem restores_bind {first : Parser Byte Item} {next : Item → Parser Byte Next} {last : Next}
    {bytes more : List Byte} (start : Restores first.parse bytes item)
    (finish : Restores (next item).parse more last) :
    Restores (first.bind next).parse (bytes ++ more) last := by
  intro suffix
  simp only [Parser.bind]
  rw [List.append_assoc, start, Option.bind_some, finish]

theorem restores_map {bytes : List Byte} (start : Restores parser.parse bytes item)
    (change : Item → Next) : Restores (parser.map change).parse bytes (change item) := by
  have mapped : Restores (parser.map change).parse (bytes ++ []) (change item) :=
    restores_bind start (restores_pure (change item))
  rwa [List.append_nil] at mapped

theorem restores_replicate {bytes : Item → List Byte} (items : List Item)
    (each : ∀ item ∈ items, Restores parser.parse (bytes item) item) :
    Restores (parser.replicate items.length).parse (items.flatMap bytes) items := by
  induction items with
  | nil => exact restores_pure []
  | cons item items ih =>
      have first := each item List.mem_cons_self
      have rest := ih fun other listed => each other (List.mem_cons_of_mem item listed)
      rw [List.flatMap_cons, List.length_cons, replicate]
      exact restores_bind first (restores_map rest (item :: ·))

/-! How many bytes an item takes. -/

/-- What is known of an item and of the number of bytes that gave it. -/
def Takes (parser : Parser Byte Item) (known : Item → Nat → Prop) : Prop :=
  ∀ input item rest, parser.parse input = some (item, rest) →
    ∃ count, input.length = count + rest.length ∧ known item count

theorem Takes.mono {known weaker : Item → Nat → Prop} (takes : parser.Takes known)
    (weaken : ∀ item count, known item count → weaker item count) : parser.Takes weaker := by
  intro input item rest parsed
  obtain ⟨count, length, fact⟩ := takes input item rest parsed
  exact ⟨count, length, weaken item count fact⟩

theorem takes_pure {known : Item → Nat → Prop} (none : known item 0) :
    (Parser.pure item : Parser Byte Item).Takes known := by
  intro input other rest parsed
  cases parsed
  exact ⟨0, (Nat.zero_add _).symm, none⟩

theorem takes_take (count : Nat) :
    (take count : Parser Byte (List Byte)).Takes
      fun bytes used => bytes.length = count ∧ used = count := by
  intro input bytes rest parsed
  simp only [take] at parsed
  split at parsed
  · cases parsed
  · rename_i enough
    cases parsed
    refine ⟨count, ?_, ?_, rfl⟩
    · rw [List.length_drop]
      omega
    · rw [List.length_take]
      omega

theorem Takes.bind {first : Parser Byte Item} {next : Item → Parser Byte Next}
    {known : Item → Nat → Prop} {total : Next → Nat → Prop} (start : first.Takes known)
    (finish : ∀ item count, known item count →
      (next item).Takes fun last more => total last (count + more)) :
    (first.bind next).Takes total := by
  intro input last rest parsed
  simp only [Parser.bind, Option.bind_eq_some_iff] at parsed
  obtain ⟨⟨item, middle⟩, started, finished⟩ := parsed
  obtain ⟨count, length, before⟩ := start input item middle started
  obtain ⟨more, middleLength, after⟩ := finish item count before middle last rest finished
  exact ⟨count + more, by omega, after⟩

theorem Takes.map {known : Item → Nat → Prop} {total : Next → Nat → Prop}
    (start : parser.Takes known) {change : Item → Next}
    (changed : ∀ item count, known item count → total (change item) count) :
    (parser.map change).Takes total := by
  apply start.bind
  intro item count before
  exact takes_pure (changed item count before)

theorem Takes.replicate {known : Item → Nat → Prop} (each : parser.Takes known) (count : Nat) :
    (parser.replicate count).Takes fun items used =>
      items.length = count ∧ ∃ counts, List.Forall₂ known items counts ∧ counts.sum = used := by
  induction count with
  | zero => exact takes_pure ⟨rfl, [], .nil, rfl⟩
  | succ count ih =>
      apply each.bind
      intro item first before
      apply ih.map
      intro items more rest
      obtain ⟨length, counts, others, total⟩ := rest
      refine ⟨congrArg Nat.succ length, first :: counts, .cons before others, ?_⟩
      rw [List.sum_cons, total]

/-! Conditions on what a parser comes to. -/

/-- What is left over after the parser meets the condition that its item sets. -/
def Then (parser : Parser Byte Item) (next : Item → List Byte → Prop) (input : List Byte) : Prop :=
  ∀ item rest, parser.parse input = some (item, rest) → next item rest

/-- Each of so many items in sequence meets the condition where it starts. -/
def Each (parser : Parser Byte Item) (held : List Byte → Prop) : Nat → List Byte → Prop
  | 0, _ => True
  | count + 1, input => held input ∧ parser.Then (fun _ => parser.Each held count) input

theorem parse_append (parsed : parser.parse input = some (item, rest)) (extra : List Byte) :
    parser.parse (input ++ extra) = some (item, rest ++ extra) := by
  obtain ⟨used, rfl, decided⟩ := parser.determined parsed
  rw [List.append_assoc, decided.restores]

theorem then_restores {next : Item → List Byte → Prop} {bytes tail : List Byte}
    (restored : Restores parser.parse bytes item) (after : next item tail) :
    parser.Then next (bytes ++ tail) := by
  intro other rest parsed
  rw [restored tail] at parsed
  cases parsed
  exact after

theorem each_restores {held : List Byte → Prop} {bytes : Item → List Byte} {items : List Item}
    (restored : ∀ item ∈ items, Restores parser.parse (bytes item) item)
    (met : ∀ item ∈ items, ∀ tail, held (bytes item ++ tail)) (tail : List Byte) :
    parser.Each held items.length (items.flatMap bytes ++ tail) := by
  induction items with
  | nil => trivial
  | cons item items ih =>
      have rest := ih (fun other listed => restored other (List.mem_cons_of_mem item listed))
        (fun other listed => met other (List.mem_cons_of_mem item listed))
      rw [List.flatMap_cons, List.append_assoc]
      constructor
      · exact met item List.mem_cons_self _
      · exact then_restores (restored item List.mem_cons_self) rest

/-- The condition looks at no more than the parser: less input meets it as well, and so does what
continues an input that the parser finishes on. -/
structure Decides (parser : Parser Byte Item) (held : List Byte → Prop) : Prop where
  shorter : ∀ {input extra}, held (input ++ extra) → held input
  longer : ∀ {input item rest} extra, held input → parser.parse input = some (item, rest) →
    held (input ++ extra)

theorem decides_const (fact : Prop) : parser.Decides fun _ => fact where
  shorter := id
  longer _ met _ := met

theorem Decides.and {held other : List Byte → Prop} (first : parser.Decides held)
    (second : parser.Decides other) : parser.Decides fun input => held input ∧ other input where
  shorter met := ⟨first.shorter met.1, second.shorter met.2⟩
  longer extra met parsed := ⟨first.longer extra met.1 parsed, second.longer extra met.2 parsed⟩

theorem Decides.bind {held : List Byte → Prop} (decides : parser.Decides held)
    (next : Item → Parser Byte Next) : (parser.bind next).Decides held where
  shorter := decides.shorter
  longer extra met parsed := by
    simp only [Parser.bind, Option.bind_eq_some_iff] at parsed
    obtain ⟨⟨item, middle⟩, start, -⟩ := parsed
    exact decides.longer extra met start

theorem decides_then {more : Item → Parser Byte Next} {next : Item → List Byte → Prop}
    (each : ∀ item, (more item).Decides (next item)) :
    (parser.bind more).Decides (parser.Then next) where
  shorter := by
    intro input extra met item rest parsed
    exact (each item).shorter (met item (rest ++ extra) (parse_append parsed extra))
  longer := by
    intro input last rest extra met parsed item later continued
    simp only [Parser.bind, Option.bind_eq_some_iff] at parsed
    obtain ⟨⟨first, middle⟩, start, finish⟩ := parsed
    have same := parse_append start extra
    rw [continued] at same
    cases same
    exact (each item).longer extra (met item middle start) finish

theorem Decides.each {held : List Byte → Prop} (decides : parser.Decides held) (count : Nat) :
    (parser.replicate count).Decides (parser.Each held count) := by
  induction count with
  | zero => exact decides_const True
  | succ count ih => exact (decides.bind _).and (decides_then fun item => ih.bind _)

end Parser

end PrefixParser
