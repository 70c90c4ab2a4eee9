import Mathlib.Data.List.Basic

/-!
Histories in which what came before decides what may come next.
-/

namespace Runs

variable {Item : Type} {admits : List Item → Item → Prop}

def Admitted (admits : List Item → Item → Prop) : List Item → List Item → Prop
  | _, [] => True
  | earlier, item :: later => admits earlier item ∧ Admitted admits (earlier ++ [item]) later

instance decidableAdmitted [∀ earlier item, Decidable (admits earlier item)] :
    ∀ earlier history, Decidable (Admitted admits earlier history)
  | _, [] => .isTrue trivial
  | earlier, item :: later =>
      have := decidableAdmitted (earlier ++ [item]) later
      inferInstanceAs (Decidable (admits earlier item ∧ Admitted admits (earlier ++ [item]) later))

theorem admitted_append (earlier first second : List Item) :
    Admitted admits earlier (first ++ second) ↔
      Admitted admits earlier first ∧ Admitted admits (earlier ++ first) second := by
  induction first generalizing earlier with
  | nil => simp [Admitted]
  | cons item later ih =>
      simp only [List.cons_append, List.nil_append, Admitted, ih, List.append_assoc, and_assoc]

theorem admitted_snoc (history : List Item) (item : Item) :
    Admitted admits [] (history ++ [item]) ↔ Admitted admits [] history ∧ admits history item := by
  rw [admitted_append]
  simp [Admitted]

theorem Admitted.at {earlier later : List Item} {item : Item}
    (admitted : Admitted admits [] (earlier ++ item :: later)) : admits earlier item := by
  rw [admitted_append] at admitted
  exact admitted.2.1

end Runs
