import Mathlib.Data.List.Nodup
import Mathlib.Logic.Function.Basic
import Mathlib.Data.Nat.Basic

/-!
Objects behind raw pointers, created with `new` and gone with `delete`, and the places
that hold the pointers. Where every live object is held at one place, and once, a place
that gives a pointer up has to delete it or to pass it on.
-/

namespace Ownership

abbrev Pointer := Nat

structure Memory (Object : Type) where
  objects : Pointer → Option Object
  next : Pointer
  deleted : List Pointer

variable {Object Place : Type}

namespace Memory

def empty : Memory Object := { objects := fun _ => none, next := 0, deleted := [] }

def new (memory : Memory Object) (object : Object) : Memory Object :=
  { memory with
    objects := Function.update memory.objects memory.next (some object)
    next := memory.next + 1 }

def set (memory : Memory Object) (pointer : Pointer) (object : Object) : Memory Object :=
  { memory with objects := Function.update memory.objects pointer (some object) }

def delete (memory : Memory Object) (pointer : Pointer) : Memory Object :=
  { memory with
    objects := Function.update memory.objects pointer none
    deleted := memory.deleted ++ [pointer] }

def deleteAll (memory : Memory Object) (pointers : List Pointer) : Memory Object :=
  pointers.foldl delete memory

end Memory

structure Owned (memory : Memory Object) (held : Place → List Pointer) : Prop where
  live : ∀ pointer, (memory.objects pointer).isSome ↔ ∃ place, pointer ∈ held place
  nodup : ∀ place, (held place).Nodup
  apart : ∀ place other pointer, pointer ∈ held place → pointer ∈ held other → place = other
  fresh : ∀ pointer, memory.next ≤ pointer →
    memory.objects pointer = none ∧ pointer ∉ memory.deleted
  gone : ∀ pointer ∈ memory.deleted, memory.objects pointer = none
  once : memory.deleted.Nodup

variable {memory : Memory Object} {held after : Place → List Pointer} {place target : Place}
  {pointer : Pointer} {rest : List Pointer}

theorem owned_empty : Owned (Memory.empty : Memory Object) (fun _ : Place => []) := by
  refine ⟨?_, fun _ => List.nodup_nil, nofun, fun _ _ => ⟨rfl, nofun⟩, nofun, List.nodup_nil⟩
  intro pointer
  simp [Memory.empty]

theorem Owned.lt_next (owned : Owned memory held) (member : pointer ∈ held place) :
    pointer < memory.next := by
  by_contra beyond
  have missing := (owned.fresh pointer (not_lt.mp beyond)).1
  have present := (owned.live pointer).mpr ⟨place, member⟩
  rw [missing] at present
  cases present

theorem Owned.same (owned : Owned memory held) (same : after = held) : Owned memory after :=
  same ▸ owned

theorem Owned.set (owned : Owned memory held) (member : pointer ∈ held place) (object : Object) :
    Owned (memory.set pointer object) held := by
  have present := (owned.live pointer).mpr ⟨place, member⟩
  refine ⟨?_, owned.nodup, owned.apart, ?_, ?_, owned.once⟩
  · intro any
    rw [← owned.live, Memory.set]
    by_cases same : any = pointer
    · simp [same, present]
    · simp [same]
  · intro any beyond
    obtain ⟨missing, kept⟩ := owned.fresh any beyond
    have apart : any ≠ pointer := Nat.ne_of_gt (Nat.lt_of_lt_of_le (owned.lt_next member) beyond)
    exact ⟨(Function.update_of_ne apart ..).trans missing, kept⟩
  · intro any deleted
    have missing := owned.gone any deleted
    have apart : any ≠ pointer := by
      rintro rfl
      rw [missing] at present
      cases present
    exact (Function.update_of_ne apart ..).trans missing

theorem Owned.perm (owned : Owned memory held) (same : ∀ place, (after place).Perm (held place)) :
    Owned memory after := by
  refine ⟨?_, ?_, ?_, owned.fresh, owned.gone, owned.once⟩
  · intro pointer
    rw [owned.live]
    exact exists_congr fun place => (same place).mem_iff.symm
  · intro place
    exact (same place).nodup_iff.mpr (owned.nodup place)
  · intro first second pointer one two
    exact owned.apart first second pointer ((same first).mem_iff.mp one)
      ((same second).mem_iff.mp two)

theorem Owned.new (owned : Owned memory held) (object : Object)
    (here : after place = held place ++ [memory.next])
    (elsewhere : ∀ other ≠ place, after other = held other) :
    Owned (memory.new object) after := by
  have member (other : Place) (pointer : Pointer) :
      pointer ∈ after other ↔ pointer ∈ held other ∨ other = place ∧ pointer = memory.next := by
    by_cases same : other = place
    · subst same
      simp [here]
    · simp [elsewhere other same, same]
  refine ⟨?_, ?_, ?_, ?_, ?_, owned.once⟩
  · intro pointer
    simp only [member, exists_or, Memory.new]
    by_cases newest : pointer = memory.next
    · subst newest
      simp
    · simp [newest, owned.live]
  · intro other
    by_cases same : other = place
    · subst same
      rw [here]
      refine (owned.nodup other).append (List.nodup_singleton _) ?_
      intro pointer old newest
      rw [List.mem_singleton] at newest
      exact absurd (owned.lt_next old) (newest ▸ lt_irrefl memory.next)
    · rw [elsewhere other same]
      exact owned.nodup other
  · intro first second pointer one two
    rw [member] at one two
    rcases one with old | ⟨rfl, newest⟩
    · rcases two with again | ⟨-, newest⟩
      · exact owned.apart first second pointer old again
      · exact absurd (owned.lt_next old) (newest ▸ lt_irrefl memory.next)
    · rcases two with old | ⟨same, -⟩
      · exact absurd (owned.lt_next old) (newest ▸ lt_irrefl memory.next)
      · exact same.symm
  · intro pointer beyond
    obtain ⟨missing, kept⟩ := owned.fresh pointer (Nat.le_of_succ_le beyond)
    have apart : pointer ≠ memory.next := Nat.ne_of_gt beyond
    exact ⟨(Function.update_of_ne apart ..).trans missing, kept⟩
  · intro pointer deleted
    have apart : pointer ≠ memory.next := by
      rintro rfl
      exact (owned.fresh memory.next le_rfl).2 deleted
    exact (Function.update_of_ne apart ..).trans (owned.gone pointer deleted)

theorem Owned.move (owned : Owned memory held) (between : place ≠ target)
    (front : held place = pointer :: rest) (left : after place = rest)
    (here : after target = held target ++ [pointer])
    (elsewhere : ∀ other, other ≠ place → other ≠ target → after other = held other) :
    Owned memory after := by
  have nodup := owned.nodup place
  rw [front, List.nodup_cons] at nodup
  have member (other : Place) (any : Pointer) : any ∈ after other ↔
      any ≠ pointer ∧ any ∈ held other ∨ other = target ∧ any = pointer := by
    have only (moved : pointer ∈ held other) : other = place :=
      owned.apart other place pointer moved (by simp [front])
    by_cases source : other = place
    · subst source
      rw [left, front]
      simp only [List.mem_cons, between, false_and, or_false]
      constructor
      · intro kept
        exact ⟨fun same => nodup.1 (same ▸ kept), .inr kept⟩
      · rintro ⟨apart, found⟩
        exact found.resolve_left apart
    · by_cases goal : other = target
      · subst goal
        rw [here, List.mem_append, List.mem_singleton]
        grind
      · rw [elsewhere other source goal]
        grind
  refine ⟨?_, ?_, ?_, owned.fresh, owned.gone, owned.once⟩
  · intro any
    rw [owned.live]
    by_cases moved : any = pointer
    · subst moved
      refine iff_of_true ⟨place, by simp [front]⟩ ⟨target, ?_⟩
      rw [member]
      exact .inr ⟨rfl, rfl⟩
    · simp [member, moved]
  · intro other
    by_cases source : other = place
    · rw [source, left]
      exact nodup.2
    · by_cases goal : other = target
      · rw [goal, here]
        refine (owned.nodup target).append (List.nodup_singleton _) ?_
        intro any old moved
        rw [List.mem_singleton] at moved
        exact between (owned.apart place target pointer (by simp [front]) (moved ▸ old))
      · rw [elsewhere other source goal]
        exact owned.nodup other
  · intro first second any one two
    rw [member] at one two
    rcases one with ⟨apart, old⟩ | ⟨rfl, moved⟩
    · rcases two with ⟨-, again⟩ | ⟨-, moved⟩
      · exact owned.apart first second any old again
      · exact absurd moved apart
    · rcases two with ⟨apart, -⟩ | ⟨same, -⟩
      · exact absurd moved apart
      · exact same.symm

theorem Owned.moveLast [DecidableEq Place] (owned : Owned memory held) (between : place ≠ target)
    (last : held place = rest ++ [pointer]) (left : after place = rest)
    (here : after target = held target ++ [pointer])
    (elsewhere : ∀ other, other ≠ place → other ≠ target → after other = held other) :
    Owned memory after := by
  let turned := Function.update held place (pointer :: rest)
  have first : turned place = pointer :: rest := Function.update_self ..
  have others (other : Place) (apart : other ≠ place) : turned other = held other :=
    Function.update_of_ne apart ..
  have still : Owned memory turned := by
    apply owned.perm
    intro other
    by_cases same : other = place
    · rw [same, first, last]
      exact (List.perm_append_singleton pointer rest).symm
    · rw [others other same]
  apply still.move between first left
  · rw [here, others target between.symm]
  · intro other apart beside
    rw [elsewhere other apart beside, others other apart]

theorem Owned.delete (owned : Owned memory held) (front : held place = pointer :: rest)
    (left : after place = rest) (elsewhere : ∀ other ≠ place, after other = held other) :
    Owned (memory.delete pointer) after := by
  have nodup := owned.nodup place
  rw [front, List.nodup_cons] at nodup
  have held_here : pointer ∈ held place := by simp [front]
  have present := (owned.live pointer).mpr ⟨place, held_here⟩
  have member (other : Place) (any : Pointer) :
      any ∈ after other ↔ any ≠ pointer ∧ any ∈ held other := by
    have only (deleted : pointer ∈ held other) : other = place :=
      owned.apart other place pointer deleted held_here
    by_cases source : other = place
    · subst source
      rw [left, front, List.mem_cons]
      grind
    · rw [elsewhere other source]
      grind
  refine ⟨?_, ?_, ?_, ?_, ?_, ?_⟩
  · intro any
    by_cases deleted : any = pointer
    · simp [Memory.delete, deleted, member]
    · simp [Memory.delete, deleted, member, owned.live]
  · intro other
    by_cases source : other = place
    · rw [source, left]
      exact nodup.2
    · rw [elsewhere other source]
      exact owned.nodup other
  · intro first second any one two
    exact owned.apart first second any ((member first any).mp one).2 ((member second any).mp two).2
  · intro any beyond
    obtain ⟨missing, kept⟩ := owned.fresh any beyond
    have apart : any ≠ pointer := Nat.ne_of_gt (Nat.lt_of_lt_of_le (owned.lt_next held_here) beyond)
    exact ⟨(Function.update_of_ne apart ..).trans missing, by simp [Memory.delete, kept, apart]⟩
  · intro any deleted
    simp only [Memory.delete, List.mem_append, List.mem_singleton] at deleted ⊢
    by_cases same : any = pointer
    · rw [same, Function.update_self]
    · rw [Function.update_of_ne same]
      exact owned.gone any (deleted.resolve_right same)
  · refine owned.once.append (List.nodup_singleton _) ?_
    intro any old deleted
    rw [List.mem_singleton] at deleted
    rw [← deleted, owned.gone any old] at present
    cases present

theorem Owned.deleteAll [DecidableEq Place] (owned : Owned memory held) (left : after place = [])
    (elsewhere : ∀ other ≠ place, after other = held other) :
    Owned (memory.deleteAll (held place)) after := by
  generalize front : held place = pointers
  induction pointers generalizing memory held with
  | nil =>
      apply owned.same
      funext other
      by_cases here : other = place
      · rw [here, left, front]
      · exact elsewhere other here
  | cons pointer rest ih =>
      let shorter := Function.update held place rest
      have short : shorter place = rest := Function.update_self ..
      have others (other : Place) (apart : other ≠ place) : shorter other = held other :=
        Function.update_of_ne apart ..
      have deleted : Owned (memory.delete pointer) shorter := owned.delete front short others
      exact ih deleted (fun other apart => (elsewhere other apart).trans (others other apart).symm)
        short

end Ownership
