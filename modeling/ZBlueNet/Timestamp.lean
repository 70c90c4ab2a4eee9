import Mathlib.Data.Prod.Lex
import Mathlib.Tactic.MkIffOfInductiveProp

/-!
The time stamps of `timestamp.cc`: a second and a nanosecond, compared by either
the nanosecond or the millisecond. C++ division truncates towards zero.
-/

namespace ZBlueNet

structure Timestamp where
  second : Int
  nanosecond : Int
deriving DecidableEq, Repr

namespace Timestamp

def millisecond (t : Timestamp) : Int := t.nanosecond.tdiv 1000000

/-- `operator+=` and `operator+`. -/
def add (t : Timestamp) (millisecond : Int) : Timestamp :=
  let second := t.second + millisecond.tdiv 1000
  let nanosecond := t.nanosecond + millisecond.tmod 1000 * 1000000
  if nanosecond ≥ 1000000000 then ⟨second + 1, nanosecond - 1000000000⟩ else ⟨second, nanosecond⟩

/-- `operator<`. -/
def less (t other : Timestamp) : Bool :=
  if t.second ≠ other.second then t.second < other.second else t.nanosecond < other.nanosecond

def millisecondLess (t other : Timestamp) : Bool :=
  if t.second ≠ other.second then t.second < other.second else t.millisecond < other.millisecond

def distanceMillisecond (t other : Timestamp) : Int :=
  let bigger := if t.less other then other else t
  let smaller := if t.less other then t else other
  (bigger.second - smaller.second) * 1000 + (bigger.millisecond - smaller.millisecond)

/-- What `setNow` produces for any clock after the epoch. -/
@[mk_iff normalised_iff]
structure Normalised (t : Timestamp) : Prop where
  lower : 0 ≤ t.nanosecond
  upper : t.nanosecond < 1000000000

def key (t : Timestamp) : ℤ ×ₗ ℤ := toLex (t.second, t.nanosecond)

def milliseconds (t : Timestamp) : Int := 1000 * t.second + t.nanosecond / 1000000

theorem less_iff (t other : Timestamp) : t.less other = true ↔ t.key < other.key := by
  simp only [less, key, Prod.Lex.toLex_lt_toLex]
  split <;> simp <;> omega

theorem less_eq_false_iff (t other : Timestamp) :
    t.less other = false ↔ other.key ≤ t.key := by
  rw [← Bool.not_eq_true, less_iff, not_lt]

theorem key_le_iff (t other : Timestamp) :
    t.key ≤ other.key ↔
      t.second < other.second ∨ t.second = other.second ∧ t.nanosecond ≤ other.nanosecond := by
  simp only [key, Prod.Lex.toLex_le_toLex]

theorem millisecondLess_lex (t other : Timestamp) :
    t.millisecondLess other = true ↔
      t.second < other.second ∨ t.second = other.second ∧ t.millisecond < other.millisecond := by
  simp only [millisecondLess]
  split <;> simp only [decide_eq_true_eq] <;> omega

theorem millisecondLess_of_le {now earlier later : Timestamp}
    (undue : now.millisecondLess earlier = true) (order : earlier.key ≤ later.key) :
    now.millisecondLess later = true := by
  rw [millisecondLess_lex] at undue ⊢
  rw [key_le_iff] at order
  rcases order with before | ⟨same, nanoseconds⟩
  · omega
  · have monotone : earlier.millisecond ≤ later.millisecond :=
      Int.tdiv_le_tdiv (show (0 : Int) < 1000000 by decide) nanoseconds
    omega

theorem Normalised.millisecond_eq {t : Timestamp} (normal : t.Normalised) :
    t.millisecond = t.nanosecond / 1000000 := Int.tdiv_eq_ediv_of_nonneg normal.lower

theorem Normalised.add {t : Timestamp} (normal : t.Normalised) {millisecond : Int}
    (positive : 0 ≤ millisecond) : (t.add millisecond).Normalised := by
  have lower := normal.lower
  have upper := normal.upper
  simp only [Timestamp.add, Int.tmod_eq_emod_of_nonneg positive]
  split
  · exact ⟨by simp only; omega, by simp only; omega⟩
  · exact ⟨by simp only; omega, by simp only; omega⟩

theorem Normalised.key_le_add {t : Timestamp} (normal : t.Normalised) {millisecond : Int}
    (positive : 0 ≤ millisecond) : t.key ≤ (t.add millisecond).key := by
  have upper := normal.upper
  rw [key_le_iff]
  simp only [Timestamp.add, Int.tmod_eq_emod_of_nonneg positive,
    Int.tdiv_eq_ediv_of_nonneg positive]
  split <;> simp only <;> omega

theorem Normalised.add_key_le_add_iff {t other : Timestamp} (normal : t.Normalised)
    (otherNormal : other.Normalised) {millisecond : Int} (positive : 0 ≤ millisecond) :
    (t.add millisecond).key ≤ (other.add millisecond).key ↔ t.key ≤ other.key := by
  have lower := normal.lower
  have upper := normal.upper
  have otherLower := otherNormal.lower
  have otherUpper := otherNormal.upper
  simp only [key_le_iff, Timestamp.add, Int.tmod_eq_emod_of_nonneg positive,
    Int.tdiv_eq_ediv_of_nonneg positive]
  split <;> split <;> simp only <;> omega

theorem Normalised.milliseconds_add {t : Timestamp} (normal : t.Normalised) {millisecond : Int}
    (positive : 0 ≤ millisecond) :
    (t.add millisecond).milliseconds = t.milliseconds + millisecond := by
  have lower := normal.lower
  have upper := normal.upper
  simp only [Timestamp.add, Int.tmod_eq_emod_of_nonneg positive,
    Int.tdiv_eq_ediv_of_nonneg positive]
  split <;> simp only [milliseconds] <;> omega

theorem Normalised.millisecondLess_iff {t other : Timestamp} (normal : t.Normalised)
    (otherNormal : other.Normalised) :
    t.millisecondLess other = true ↔ t.milliseconds < other.milliseconds := by
  have lower := normal.lower
  have upper := normal.upper
  have otherLower := otherNormal.lower
  have otherUpper := otherNormal.upper
  rw [millisecondLess_lex, normal.millisecond_eq, otherNormal.millisecond_eq, milliseconds,
    milliseconds]
  omega

theorem Normalised.millisecondLess_eq_false_iff {t other : Timestamp} (normal : t.Normalised)
    (otherNormal : other.Normalised) :
    t.millisecondLess other = false ↔ other.milliseconds ≤ t.milliseconds := by
  rw [← Bool.not_eq_true, normal.millisecondLess_iff otherNormal, Int.not_lt]

theorem Normalised.milliseconds_mono {t other : Timestamp} (normal : t.Normalised)
    (otherNormal : other.Normalised) (order : t.key ≤ other.key) :
    t.milliseconds ≤ other.milliseconds := by
  have lower := normal.lower
  have upper := normal.upper
  have otherLower := otherNormal.lower
  have otherUpper := otherNormal.upper
  rw [key_le_iff] at order
  simp only [milliseconds]
  omega

theorem Normalised.distanceMillisecond_eq {t other : Timestamp} (normal : t.Normalised)
    (otherNormal : other.Normalised) (order : t.key ≤ other.key) :
    t.distanceMillisecond other = other.milliseconds - t.milliseconds := by
  simp only [distanceMillisecond, milliseconds]
  split
  · rw [normal.millisecond_eq, otherNormal.millisecond_eq]
    omega
  · rename_i later
    rw [less_iff, not_lt] at later
    have same : t.key = other.key := le_antisymm order later
    simp only [key, EmbeddingLike.apply_eq_iff_eq, Prod.mk.injEq] at same
    rw [normal.millisecond_eq, otherNormal.millisecond_eq]
    omega

end Timestamp

end ZBlueNet
