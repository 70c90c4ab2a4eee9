import Mathlib.Data.List.Basic

/-!
Incremental parsing of a byte stream. A parser whose verdict on a prefix stands
whatever follows can be run after every chunk, or once on the whole stream: the
items, the failure and the unread rest are the same.
-/

namespace StreamParser

variable {Byte Item : Type}

inductive Outcome (Byte Item : Type)
  | more
  | fail
  | item (value : Item) (rest : List Byte)

structure Parser (Byte Item : Type) where
  parse : List Byte → Outcome Byte Item
  item_shorter : ∀ {input value rest}, parse input = .item value rest → rest.length < input.length
  item_append : ∀ {input value rest}, parse input = .item value rest →
    ∀ suffix, parse (input ++ suffix) = .item value (rest ++ suffix)
  fail_append : ∀ {input}, parse input = .fail → ∀ suffix, parse (input ++ suffix) = .fail

/-- The items delivered so far and the bytes still waiting; nothing waits once a parse failed. -/
structure Result (Byte Item : Type) where
  items : List Item
  pending : Option (List Byte)

def Result.prepend (items : List Item) (result : Result Byte Item) : Result Byte Item :=
  ⟨items ++ result.items, result.pending⟩

def drain (parser : Parser Byte Item) (input : List Byte) : Result Byte Item :=
  match _found : parser.parse input with
  | .more => ⟨[], some input⟩
  | .fail => ⟨[], none⟩
  | .item value rest => (drain parser rest).prepend [value]
termination_by input.length
decreasing_by exact parser.item_shorter _found

theorem drain_more {parser : Parser Byte Item} {input : List Byte}
    (found : parser.parse input = .more) : drain parser input = ⟨[], some input⟩ := by
  rw [drain]
  split <;> simp_all

theorem drain_fail {parser : Parser Byte Item} {input : List Byte}
    (found : parser.parse input = .fail) : drain parser input = ⟨[], none⟩ := by
  rw [drain]
  split <;> simp_all

theorem drain_item {parser : Parser Byte Item} {input rest : List Byte} {value : Item}
    (found : parser.parse input = .item value rest) :
    drain parser input = (drain parser rest).prepend [value] := by
  rw [drain]
  split <;> simp_all

theorem drain_pending_length {parser : Parser Byte Item} {input rest : List Byte}
    (waiting : (drain parser input).pending = some rest) : rest.length ≤ input.length := by
  induction size : input.length using Nat.strongRecOn generalizing input with
  | ind size ih =>
      cases found : parser.parse input with
      | more =>
          rw [drain_more found] at waiting
          cases waiting
          omega
      | fail => simp [drain_fail found] at waiting
      | item value tail =>
          have shorter := parser.item_shorter found
          rw [drain_item found] at waiting
          have bound := ih tail.length (by omega) waiting rfl
          omega

theorem drain_pending_more {parser : Parser Byte Item} {input rest : List Byte}
    (waiting : (drain parser input).pending = some rest) : parser.parse rest = .more := by
  induction size : input.length using Nat.strongRecOn generalizing input with
  | ind size ih =>
      cases found : parser.parse input with
      | more =>
          rw [drain_more found] at waiting
          cases waiting
          exact found
      | fail => simp [drain_fail found] at waiting
      | item value tail =>
          have shorter := parser.item_shorter found
          rw [drain_item found] at waiting
          exact ih tail.length (by omega) waiting rfl

def feed (parser : Parser Byte Item) (state : Result Byte Item) (chunk : List Byte) :
    Result Byte Item :=
  match state.pending with
  | none => state
  | some rest => (drain parser (rest ++ chunk)).prepend state.items

theorem feed_prepend (parser : Parser Byte Item) (items : List Item) (state : Result Byte Item)
    (chunk : List Byte) :
    feed parser (state.prepend items) chunk = (feed parser state chunk).prepend items := by
  simp only [feed, Result.prepend]
  cases pending : state.pending <;> simp [pending]

theorem drain_append (parser : Parser Byte Item) (input suffix : List Byte) :
    drain parser (input ++ suffix) = feed parser (drain parser input) suffix := by
  induction size : input.length using Nat.strongRecOn generalizing input with
  | ind size ih =>
      cases found : parser.parse input with
      | more => simp [drain_more found, feed, Result.prepend]
      | fail => simp [drain_fail found, drain_fail (parser.fail_append found suffix), feed]
      | item value rest =>
          have shorter := parser.item_shorter found
          have tail := ih rest.length (by omega) rest rfl
          rw [drain_item found, drain_item (parser.item_append found suffix), feed_prepend, tail]

theorem drain_pending_prefix {parser : Parser Byte Item} {input suffix rest : List Byte}
    (waiting : (drain parser (input ++ suffix)).pending = some rest) :
    ∃ before, (drain parser input).pending = some before := by
  cases pending : (drain parser input).pending with
  | none =>
      rw [drain_append, feed, pending] at waiting
      simp [pending] at waiting
  | some before => exact ⟨before, rfl⟩

theorem drain_append_pending {parser : Parser Byte Item} {input before : List Byte}
    (suffix : List Byte) (waiting : (drain parser input).pending = some before) :
    (drain parser (input ++ suffix)).pending = (drain parser (before ++ suffix)).pending := by
  rw [drain_append, feed, waiting]
  rfl

theorem feed_chunks (parser : Parser Byte Item) (input : List Byte) (chunks : List (List Byte)) :
    chunks.foldl (feed parser) (drain parser input) = drain parser (input ++ chunks.flatten) := by
  induction chunks generalizing input with
  | nil => simp
  | cons chunk chunks ih =>
      rw [List.foldl_cons, ← drain_append, ih, List.flatten_cons, List.append_assoc]

theorem drain_frames (parser : Parser Byte Item) (empty : parser.parse [] = .more)
    (frames : List (List Byte × Item))
    (each : ∀ frame ∈ frames, parser.parse frame.1 = .item frame.2 []) :
    drain parser (frames.map Prod.fst).flatten = ⟨frames.map Prod.snd, some []⟩ := by
  induction frames with
  | nil => simpa using drain_more empty
  | cons frame frames ih =>
      have first := parser.item_append (each frame (by simp)) (frames.map Prod.fst).flatten
      have rest := ih (fun other member => each other (by simp [member]))
      simp only [List.map_cons, List.flatten_cons, List.nil_append] at first ⊢
      rw [drain_item first, rest]
      simp [Result.prepend]

end StreamParser
