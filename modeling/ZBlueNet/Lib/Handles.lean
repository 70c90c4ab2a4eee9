import Mathlib.Logic.Function.Basic

/-!
Handles whose numbers are used again, as a kernel gives out descriptors, and the places
that keep them. Where every open handle is kept at one place, a place that gets another
handle has to close its own first, or that one is lost; and a close that comes twice can
hit a handle that has become another's.
-/

namespace Handles

/-- `stray` are the handles that were closed when they were not open. -/
structure Table (Handle : Type) where
  opened : Handle → Bool
  stray : List Handle

namespace Table

variable {Handle : Type}

def empty : Table Handle := { opened := fun _ => false, stray := [] }

variable [DecidableEq Handle]

def give (table : Table Handle) (handle : Handle) : Option (Table Handle) :=
  if table.opened handle = true then none
  else some { table with opened := Function.update table.opened handle true }

def close (table : Table Handle) (handle : Handle) : Table Handle :=
  if table.opened handle = true then
    { table with opened := Function.update table.opened handle false }
  else { table with stray := table.stray ++ [handle] }

end Table

structure Kept {Handle Place : Type} (table : Table Handle) (keeps : Place → Option Handle) :
    Prop where
  opened : ∀ handle, table.opened handle = true ↔ ∃ place, keeps place = some handle
  apart : ∀ place other handle, keeps place = some handle → keeps other = some handle →
    place = other
  stray : table.stray = []

theorem kept_empty {Handle Place : Type} :
    Kept (Table.empty : Table Handle) (fun _ : Place => none) := by
  refine ⟨?_, ?_, rfl⟩
  · intro handle
    simp [Table.empty]
  · intro place other handle nothing
    cases nothing

variable {Handle Place : Type} [DecidableEq Handle] [DecidableEq Place] {table next : Table Handle}
  {keeps : Place → Option Handle} {place : Place} {handle : Handle}

theorem Kept.give (kept : Kept table keeps) (given : table.give handle = some next)
    (nothing : keeps place = none) :
    Kept next (Function.update keeps place (some handle)) := by
  rw [Table.give] at given
  split at given
  · cases given
  · rename_i unused
    cases given
    have nowhere (other : Place) : keeps other ≠ some handle := by
      intro here
      exact unused ((kept.opened handle).mpr ⟨other, here⟩)
    refine ⟨?_, ?_, kept.stray⟩
    · intro any
      by_cases same : any = handle
      · subst same
        simp only [Function.update_self, true_iff]
        exact ⟨place, Function.update_self ..⟩
      · dsimp only
        rw [Function.update_of_ne same, kept.opened]
        constructor
        · rintro ⟨other, here⟩
          have apart : other ≠ place := by
            rintro rfl
            cases nothing.symm.trans here
          exact ⟨other, (Function.update_of_ne apart ..).trans here⟩
        · rintro ⟨other, here⟩
          by_cases mine : other = place
          · rw [mine, Function.update_self, Option.some.injEq] at here
            exact absurd here.symm same
          · exact ⟨other, (Function.update_of_ne mine ..).symm.trans here⟩
    · intro first second any one two
      by_cases here : first = place
      · by_cases there : second = place
        · exact here.trans there.symm
        · rw [here, Function.update_self] at one
          rw [Function.update_of_ne there, ← one] at two
          exact absurd two (nowhere second)
      · rw [Function.update_of_ne here] at one
        by_cases there : second = place
        · rw [there, Function.update_self] at two
          rw [← two] at one
          exact absurd one (nowhere first)
        · rw [Function.update_of_ne there] at two
          exact kept.apart first second any one two

theorem Kept.close (kept : Kept table keeps) (mine : keeps place = some handle) :
    Kept (table.close handle) (Function.update keeps place none) := by
  have alive : table.opened handle = true := (kept.opened handle).mpr ⟨place, mine⟩
  have elsewhere {other : Place} {any : Handle}
      (here : Function.update keeps place none other = some any) :
      other ≠ place ∧ keeps other = some any := by
    by_cases same : other = place
    · rw [same, Function.update_self] at here
      cases here
    · exact ⟨same, (Function.update_of_ne same ..).symm.trans here⟩
  rw [Table.close, if_pos alive]
  refine ⟨?_, ?_, kept.stray⟩
  · intro any
    by_cases same : any = handle
    · subst same
      simp only [Function.update_self, Bool.false_eq_true, false_iff]
      rintro ⟨other, here⟩
      obtain ⟨away, found⟩ := elsewhere here
      exact away (kept.apart other place any found mine)
    · dsimp only
      rw [Function.update_of_ne same, kept.opened]
      constructor
      · rintro ⟨other, here⟩
        have away : other ≠ place := by
          rintro rfl
          exact same (Option.some.inj (here.symm.trans mine))
        exact ⟨other, (Function.update_of_ne away ..).trans here⟩
      · rintro ⟨other, here⟩
        exact ⟨other, (elsewhere here).2⟩
  · intro first second any one two
    exact kept.apart first second any (elsewhere one).2 (elsewhere two).2

end Handles
