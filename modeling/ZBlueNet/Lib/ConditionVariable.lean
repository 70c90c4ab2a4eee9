import Mathlib.Data.Finset.Card

/-!
Condition variables. A thread in `wait` sleeps until it is notified or wakes up without
cause, and then has to take the mutex again before it can look at its condition. The
notification goes to one sleeper, whichever it is.
-/

namespace ConditionVariable

/-- The threads inside `wait`: `woken` are those that have not had the mutex since they woke up. -/
structure Waiters (Thread : Type) where
  waiting : Finset Thread
  woken : Finset Thread
  apart : Disjoint waiting woken

namespace Waiters

variable {Thread : Type}

def empty : Waiters Thread :=
  { waiting := ∅, woken := ∅, apart := Finset.disjoint_empty_left ∅ }

def count (waiters : Waiters Thread) : Nat := waiters.waiting.card + waiters.woken.card

/-- Nobody sleeps, or enough threads are up to look at `work` things. -/
def Covers (waiters : Waiters Thread) (work : Nat) : Prop :=
  waiters.waiting.Nonempty → work ≤ waiters.woken.card

theorem covers_zero (waiters : Waiters Thread) : waiters.Covers 0 := by
  intro _
  exact Nat.zero_le _

theorem Covers.mono {waiters : Waiters Thread} {work less : Nat} (covers : waiters.Covers work)
    (bound : less ≤ work) : waiters.Covers less := by
  intro asleep
  exact bound.trans (covers asleep)

theorem Covers.woken_pos {waiters : Waiters Thread} {work : Nat} (covers : waiters.Covers work)
    (positive : 0 < work) (inside : 0 < waiters.count) : 0 < waiters.woken.card := by
  by_cases asleep : waiters.waiting.Nonempty
  · exact positive.trans_le (covers asleep)
  · rw [Finset.not_nonempty_iff_eq_empty] at asleep
    simpa [count, asleep] using inside

theorem awake_of_woken {waiters : Waiters Thread} {thread : Thread}
    (woken : thread ∈ waiters.woken) : thread ∉ waiters.waiting :=
  Finset.disjoint_right.mp waiters.apart woken

variable [DecidableEq Thread]

def Inside (waiters : Waiters Thread) (thread : Thread) : Prop :=
  thread ∈ waiters.waiting ∨ thread ∈ waiters.woken

instance (waiters : Waiters Thread) (thread : Thread) : Decidable (waiters.Inside thread) :=
  inferInstanceAs (Decidable (_ ∨ _))

def block (waiters : Waiters Thread) (thread : Thread) : Waiters Thread where
  waiting := insert thread waiters.waiting
  woken := waiters.woken.erase thread
  apart := by
    rw [Finset.disjoint_insert_left]
    constructor
    · exact Finset.notMem_erase thread waiters.woken
    · exact waiters.apart.mono_right (Finset.erase_subset thread waiters.woken)

def leave (waiters : Waiters Thread) (thread : Thread) : Waiters Thread where
  waiting := waiters.waiting
  woken := waiters.woken.erase thread
  apart := waiters.apart.mono_right (Finset.erase_subset thread waiters.woken)

def wake (waiters : Waiters Thread) (thread : Thread) : Option (Waiters Thread) :=
  if thread ∈ waiters.waiting then
    some {
      waiting := waiters.waiting.erase thread
      woken := insert thread waiters.woken
      apart := by
        rw [Finset.disjoint_insert_right]
        constructor
        · exact Finset.notMem_erase thread waiters.waiting
        · exact waiters.apart.mono_left (Finset.erase_subset thread waiters.waiting) }
  else none

/-- `chosen` is the sleeper that is woken. There is none only when nobody sleeps. -/
def notifyOne (waiters : Waiters Thread) : Option Thread → Option (Waiters Thread)
  | none => if waiters.waiting = ∅ then some waiters else none
  | some thread => waiters.wake thread

variable {waiters after : Waiters Thread} {thread : Thread} {chosen : Option Thread} {work : Nat}

theorem wake_some (taken : waiters.wake thread = some after) :
    thread ∈ waiters.waiting ∧ after.waiting = waiters.waiting.erase thread ∧
      after.woken = insert thread waiters.woken := by
  rw [wake] at taken
  split at taken
  next asleep =>
      cases taken
      exact ⟨asleep, rfl, rfl⟩
  next => cases taken

theorem notifyOne_cases (taken : waiters.notifyOne chosen = some after) :
    waiters.waiting = ∅ ∧ after = waiters ∨
      ∃ thread, chosen = some thread ∧ waiters.wake thread = some after := by
  cases chosen with
  | none =>
      simp only [notifyOne, Option.ite_none_right_eq_some, Option.some.injEq] at taken
      exact .inl ⟨taken.1, taken.2.symm⟩
  | some thread => exact .inr ⟨thread, rfl, taken⟩

theorem notifyOne_possible (waiters : Waiters Thread) :
    ∃ chosen after, waiters.notifyOne chosen = some after := by
  by_cases asleep : waiters.waiting.Nonempty
  · obtain ⟨thread, asleep⟩ := asleep
    exact ⟨some thread, _, if_pos asleep⟩
  · rw [Finset.not_nonempty_iff_eq_empty] at asleep
    exact ⟨none, waiters, if_pos asleep⟩

theorem inside_wake (taken : waiters.wake thread = some after) (other : Thread) :
    after.Inside other ↔ waiters.Inside other := by
  obtain ⟨asleep, waiting, woken⟩ := wake_some taken
  rw [Inside, Inside, waiting, woken, Finset.mem_erase, Finset.mem_insert]
  by_cases same : other = thread
  · simp [same, asleep]
  · simp [same]

theorem inside_notifyOne (taken : waiters.notifyOne chosen = some after) (other : Thread) :
    after.Inside other ↔ waiters.Inside other := by
  rcases notifyOne_cases taken with ⟨-, rfl⟩ | ⟨thread, -, woke⟩
  · rfl
  · exact inside_wake woke other

theorem inside_block (waiters : Waiters Thread) (thread other : Thread) :
    (waiters.block thread).Inside other ↔ other = thread ∨ waiters.Inside other := by
  rw [Inside, Inside, block, Finset.mem_insert, Finset.mem_erase]
  by_cases same : other = thread
  · simp [same]
  · simp [same]

theorem inside_leave (awake : thread ∉ waiters.waiting) (other : Thread) :
    (waiters.leave thread).Inside other ↔ other ≠ thread ∧ waiters.Inside other := by
  rw [Inside, Inside, leave, Finset.mem_erase]
  by_cases same : other = thread
  · simp [same, awake]
  · simp [same]

theorem wake_woken_card (taken : waiters.wake thread = some after) :
    after.woken.card = waiters.woken.card + 1 := by
  obtain ⟨asleep, -, woken⟩ := wake_some taken
  rw [woken, Finset.card_insert_of_notMem]
  exact Finset.disjoint_left.mp waiters.apart asleep

theorem count_wake (taken : waiters.wake thread = some after) : after.count = waiters.count := by
  obtain ⟨asleep, waiting, -⟩ := wake_some taken
  have fewer := Finset.card_erase_add_one asleep
  rw [count, count, wake_woken_card taken, waiting]
  omega

theorem count_notifyOne (taken : waiters.notifyOne chosen = some after) :
    after.count = waiters.count := by
  rcases notifyOne_cases taken with ⟨-, rfl⟩ | ⟨thread, -, woke⟩
  · rfl
  · exact count_wake woke

theorem count_block_new (new : ¬ waiters.Inside thread) :
    (waiters.block thread).count = waiters.count + 1 := by
  rw [Inside, not_or] at new
  simp only [count, block]
  rw [Finset.card_insert_of_notMem new.1, Finset.erase_eq_of_notMem new.2]
  omega

theorem count_block_woken (woken : thread ∈ waiters.woken) :
    (waiters.block thread).count = waiters.count := by
  have awake := awake_of_woken woken
  have fewer := Finset.card_erase_add_one woken
  simp only [count, block]
  rw [Finset.card_insert_of_notMem awake]
  omega

theorem leave_eq_self (outside : thread ∉ waiters.woken) : waiters.leave thread = waiters := by
  rw [leave]
  congr 1
  exact Finset.erase_eq_of_notMem outside

theorem count_leave (woken : thread ∈ waiters.woken) :
    (waiters.leave thread).count + 1 = waiters.count := by
  have fewer := Finset.card_erase_add_one woken
  simp only [count, leave]
  omega

theorem Covers.wake (covers : waiters.Covers work) (taken : waiters.wake thread = some after) :
    after.Covers work := by
  intro _
  have enough := covers ⟨thread, (wake_some taken).1⟩
  rw [wake_woken_card taken]
  omega

theorem Covers.notifyOne (covers : waiters.Covers work)
    (taken : waiters.notifyOne chosen = some after) : after.Covers (work + 1) := by
  intro asleep
  rcases notifyOne_cases taken with ⟨nobody, rfl⟩ | ⟨thread, -, woke⟩
  · rw [nobody] at asleep
    exact absurd asleep Finset.not_nonempty_empty
  · rw [wake_woken_card woke]
    exact Nat.succ_le_succ (covers ⟨thread, (wake_some woke).1⟩)

theorem Covers.leave (covers : waiters.Covers (work + 1)) : (waiters.leave thread).Covers work := by
  intro asleep
  have enough := covers asleep
  have left := @Finset.pred_card_le_card_erase _ waiters.woken thread _
  simp only [Waiters.leave]
  omega

end Waiters

end ConditionVariable
