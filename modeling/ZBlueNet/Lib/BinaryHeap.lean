import Mathlib.Logic.Equiv.Basic
import Mathlib.Order.Lattice

/-!
The order of a binary heap that is stored from index 1 on, the children of an
index being its double and the one behind it. Sifting swaps neighbours; one pair
at a time may be out of order.
-/

namespace BinaryHeap

variable {Key : Type} [LinearOrder Key] {keys : Nat → Key} {size pos : Nat}

def Ordered (keys : Nat → Key) (size : Nat) : Prop :=
  ∀ i, 2 ≤ i → i < size → keys (i / 2) ≤ keys i

theorem Ordered.top_le (ordered : Ordered keys size) (i : Nat) (lower : 1 ≤ i)
    (upper : i < size) : keys 1 ≤ keys i := by
  induction i using Nat.strongRecOn with
  | ind i ih =>
      by_cases top : i = 1
      · rw [top]
      · exact le_trans (ih (i / 2) (by omega) (by omega) (by omega)) (ordered i (by omega) upper)

/-- Only `pos` may be out of order with its parent; its children are not before that parent. -/
structure Rising (keys : Nat → Key) (size pos : Nat) : Prop where
  except : ∀ i, 2 ≤ i → i < size → i ≠ pos → keys (i / 2) ≤ keys i
  grand : 2 ≤ pos → ∀ child, child < size → child / 2 = pos → keys (pos / 2) ≤ keys child

/-- Only `pos` may be out of order with its children; they are not before its parent. -/
structure Sinking (keys : Nat → Key) (size pos : Nat) : Prop where
  except : ∀ i, 2 ≤ i → i < size → i / 2 ≠ pos → keys (i / 2) ≤ keys i
  grand : 2 ≤ pos → ∀ child, child < size → child / 2 = pos → keys (pos / 2) ≤ keys child

theorem Rising.swap (rising : Rising keys size pos) (lower : 2 ≤ pos) (upper : pos < size)
    (before : keys pos ≤ keys (pos / 2)) :
    Rising (keys ∘ Equiv.swap (pos / 2) pos) size (pos / 2) := by
  have parent (deep : 2 ≤ pos / 2) : keys (pos / 2 / 2) ≤ keys (pos / 2) :=
    rising.except (pos / 2) deep (by omega) (by omega)
  constructor
  · intro i iLower iUpper different
    simp only [Function.comp, Equiv.swap_apply_def]
    by_cases same : i = pos
    · rw [if_pos (by omega), if_neg (by omega), if_pos same]
      exact before
    · rw [if_neg different, if_neg same]
      by_cases child : i / 2 = pos
      · rw [if_neg (by omega), if_pos child]
        exact rising.grand lower i iUpper child
      · by_cases sibling : i / 2 = pos / 2
        · rw [if_pos sibling]
          exact le_trans before (sibling ▸ rising.except i iLower iUpper same)
        · rw [if_neg sibling, if_neg child]
          exact rising.except i iLower iUpper same
  · intro deep child childUpper isChild
    simp only [Function.comp, Equiv.swap_apply_def]
    rw [if_neg (show ¬pos / 2 / 2 = pos / 2 by omega), if_neg (show ¬pos / 2 / 2 = pos by omega),
      if_neg (show ¬child = pos / 2 by omega)]
    split
    · exact parent deep
    · rename_i different
      exact le_trans (parent deep)
        (isChild ▸ rising.except child (by omega) childUpper different)

theorem Rising.finish (rising : Rising keys size pos) (stop : 2 ≤ pos → keys (pos / 2) ≤ keys pos) :
    Ordered keys size := by
  intro i lower upper
  by_cases same : i = pos
  · exact same ▸ stop (same ▸ lower)
  · exact rising.except i lower upper same

theorem Ordered.rising {longer : Nat → Key} (ordered : Ordered keys size)
    (same : ∀ i, i < size → longer i = keys i) : Rising longer (size + 1) size := by
  constructor
  · intro i lower upper different
    rw [same i (by omega), same (i / 2) (by omega)]
    exact ordered i lower (by omega)
  · intro lower child upper isChild
    omega

theorem Sinking.swap (sinking : Sinking keys size pos) {child : Nat} (lower : 1 ≤ pos)
    (upper : child < size) (isChild : child / 2 = pos)
    (least : ∀ other, other < size → other / 2 = pos → keys child ≤ keys other)
    (before : keys child ≤ keys pos) :
    Sinking (keys ∘ Equiv.swap pos child) size child := by
  constructor
  · intro i iLower iUpper different
    simp only [Function.comp, Equiv.swap_apply_def]
    rw [if_neg different]
    by_cases sibling : i / 2 = pos
    · rw [if_pos sibling, if_neg (show ¬i = pos by omega)]
      split
      · exact before
      · exact least i iUpper sibling
    · rw [if_neg sibling]
      by_cases same : i = pos
      · rw [if_pos same, same]
        exact sinking.grand (by omega) child upper isChild
      · rw [if_neg same, if_neg (show ¬i = child by omega)]
        exact sinking.except i iLower iUpper sibling
  · intro deep grandchild grandUpper isGrandchild
    simp only [Function.comp, Equiv.swap_apply_def]
    rw [if_pos isChild, if_neg (show ¬grandchild = pos by omega),
      if_neg (show ¬grandchild = child by omega)]
    exact isGrandchild ▸ sinking.except grandchild (by omega) grandUpper (by omega)

theorem Sinking.finish (sinking : Sinking keys size pos)
    (stop : ∀ child, 2 ≤ child → child < size → child / 2 = pos → keys pos ≤ keys child) :
    Ordered keys size := by
  intro i lower upper
  by_cases child : i / 2 = pos
  · exact child ▸ stop i lower upper child
  · exact sinking.except i lower upper child

theorem Ordered.sinking {shorter : Nat → Key} (ordered : Ordered keys (size + 1))
    (upper : pos < size) (moved : shorter pos = keys size)
    (same : ∀ i, i < size → i ≠ pos → shorter i = keys i)
    (above : 2 ≤ pos → keys (pos / 2) ≤ keys size) : Sinking shorter size pos := by
  constructor
  · intro i iLower iUpper different
    rw [same (i / 2) (by omega) different]
    by_cases here : i = pos
    · rw [here, moved]
      exact above (by omega)
    · rw [same i iUpper here]
      exact ordered i iLower (by omega)
  · intro deep child childUpper isChild
    rw [same (pos / 2) (by omega) (by omega), same child childUpper (by omega)]
    exact le_trans (ordered pos deep (by omega)) (isChild ▸ ordered child (by omega) (by omega))

end BinaryHeap
