import ZBlueNet.Lib.ConditionVariable
import ZBlueNet.Lib.Runs
import Mathlib.Algebra.Order.Group.Int
import Mathlib.Algebra.Ring.Nat

/-!
`Semaphore`. `wait_count_` is what the calls add up to, `wakeup_count_` the permits given
to threads that were already waiting and not taken yet.
-/

namespace ZBlueNet

open Runs ConditionVariable

/-- The value that `++` or `--` leaves in an `int`, in two's complement. -/
def wrapInt (value : Int) : Int := Int.bmod value (2 ^ 32)

theorem wrapInt_eq {value : Int} (least : -2 ^ 31 ≤ value) (most : value < 2 ^ 31) :
    wrapInt value = value :=
  Int.bmod_eq_of_le (by omega) (by omega)

structure Semaphore (Thread : Type) where
  conditionVar : Waiters Thread
  waitCount : Int
  wakeupCount : Int

namespace Semaphore

variable {Thread : Type}

def create : Semaphore Thread :=
  { conditionVar := Waiters.empty, waitCount := 0, wakeupCount := 0 }

/-- What the threads keep between their steps. `outside` calls have been counted in `wait_count_`
and have neither come back nor slept. -/
structure Sound (outside : Nat) (s : Semaphore Thread) : Prop where
  waitRange : -2 ^ 31 ≤ s.waitCount ∧ s.waitCount < 2 ^ 31
  wakeupRange : 0 ≤ s.wakeupCount ∧ s.wakeupCount < 2 ^ 31
  inside : (s.conditionVar.count : Int) + outside = max 0 (-s.waitCount) + s.wakeupCount
  covers : s.conditionVar.Covers s.wakeupCount.toNat

theorem Sound.create : (create : Semaphore Thread).Sound 0 := by
  constructor
  case waitRange => exact ⟨by simp [Semaphore.create], by simp [Semaphore.create]⟩
  case wakeupRange => exact ⟨le_rfl, by simp [Semaphore.create]⟩
  case inside => rfl
  case covers => exact Waiters.covers_zero _

variable [DecidableEq Thread]

/-- One test of the predicate, and whether the call comes back. -/
def test (s : Semaphore Thread) (thread : Thread) : Bool × Semaphore Thread :=
  if s.wakeupCount > 0 then
    (true, { s with
      conditionVar := s.conditionVar.leave thread
      wakeupCount := wrapInt (s.wakeupCount - 1) })
  else (false, { s with conditionVar := s.conditionVar.block thread })

def wait (s : Semaphore Thread) (thread : Thread) : Bool × Semaphore Thread :=
  let counted := { s with waitCount := wrapInt (s.waitCount - 1) }
  if counted.waitCount < 0 then counted.test thread else (true, counted)

def wakeup (s : Semaphore Thread) (notified : Option Thread) : Option (Semaphore Thread) :=
  let counted := { s with waitCount := wrapInt (s.waitCount + 1) }
  if counted.waitCount ≤ 0 then
    (counted.conditionVar.notifyOne notified).map fun cond =>
      { counted with conditionVar := cond, wakeupCount := wrapInt (counted.wakeupCount + 1) }
  else some counted

variable {s after : Semaphore Thread} {thread : Thread} {notified : Option Thread}

theorem test_of_permit (permit : 0 < s.wakeupCount) :
    s.test thread = (true, { s with
      conditionVar := s.conditionVar.leave thread
      wakeupCount := wrapInt (s.wakeupCount - 1) }) :=
  if_pos permit

theorem test_of_none (empty : ¬ 0 < s.wakeupCount) :
    s.test thread = (false, { s with conditionVar := s.conditionVar.block thread }) :=
  if_neg empty

theorem Sound.test {extra : Nat} (sound : s.Sound extra)
    (left : (s.conditionVar.leave thread).count + 1 = s.conditionVar.count + extra)
    (blocked : (s.conditionVar.block thread).count = s.conditionVar.count + extra) :
    (s.test thread).2.Sound 0 := by
  obtain ⟨least, most⟩ := sound.wakeupRange
  have inside := sound.inside
  by_cases permit : 0 < s.wakeupCount
  · have lower : wrapInt (s.wakeupCount - 1) = s.wakeupCount - 1 :=
      wrapInt_eq (by omega) (by omega)
    rw [test_of_permit permit, lower]
    constructor
    case waitRange => exact sound.waitRange
    case wakeupRange => dsimp only; omega
    case inside => dsimp only; omega
    case covers =>
        apply Waiters.Covers.leave
        exact sound.covers.mono (by dsimp only; omega)
  · have none_left : s.wakeupCount = 0 := by omega
    rw [test_of_none permit]
    constructor
    case waitRange => exact sound.waitRange
    case wakeupRange => exact sound.wakeupRange
    case inside => dsimp only; omega
    case covers =>
        simp only [none_left]
        exact Waiters.covers_zero _

theorem Sound.test_new (sound : s.Sound 1) (new : ¬ s.conditionVar.Inside thread) :
    (s.test thread).2.Sound 0 := by
  apply sound.test
  · rw [Waiters.leave_eq_self (fun woken => new (.inr woken))]
  · exact Waiters.count_block_new new

theorem Sound.test_woken (sound : s.Sound 0) (woken : thread ∈ s.conditionVar.woken) :
    (s.test thread).2.Sound 0 :=
  sound.test (Waiters.count_leave woken) (Waiters.count_block_woken woken)

theorem test_count_new (new : ¬ s.conditionVar.Inside thread) :
    (s.test thread).2.conditionVar.count + (s.test thread).1.toNat = s.conditionVar.count + 1 := by
  by_cases permit : 0 < s.wakeupCount
  · rw [test_of_permit permit]
    dsimp only
    rw [Waiters.leave_eq_self (fun woken => new (.inr woken))]
    rfl
  · rw [test_of_none permit]
    exact Waiters.count_block_new new

theorem test_count_woken (woken : thread ∈ s.conditionVar.woken) :
    (s.test thread).2.conditionVar.count + (s.test thread).1.toNat = s.conditionVar.count := by
  by_cases permit : 0 < s.wakeupCount
  · rw [test_of_permit permit]
    exact Waiters.count_leave woken
  · rw [test_of_none permit]
    exact Waiters.count_block_woken woken

theorem test_passes_iff : (s.test thread).1 = true ↔ 0 < s.wakeupCount := by
  by_cases permit : 0 < s.wakeupCount
  · simp [test_of_permit permit, permit]
  · simp [test_of_none permit, permit]

theorem outside_of_test (awake : thread ∉ s.conditionVar.waiting)
    (passed : (s.test thread).1 = true) : ¬ (s.test thread).2.conditionVar.Inside thread := by
  by_cases permit : 0 < s.wakeupCount
  · rw [test_of_permit permit]
    intro inside
    exact ((Waiters.inside_leave awake thread).mp inside).1 rfl
  · rw [test_of_none permit] at passed
    cases passed

theorem no_permit_of_test (blocked : (s.test thread).1 = false) :
    ¬ 0 < (s.test thread).2.wakeupCount := by
  by_cases permit : 0 < s.wakeupCount
  · rw [test_of_permit permit] at blocked
    cases blocked
  · rw [test_of_none permit]
    exact permit

theorem outside_of_wait (new : ¬ s.conditionVar.Inside thread)
    (passed : (s.wait thread).1 = true) : ¬ (s.wait thread).2.conditionVar.Inside thread := by
  simp only [wait] at passed ⊢
  split at passed
  next short =>
      rw [if_pos short]
      exact outside_of_test (fun asleep => new (.inl asleep)) passed
  next enough =>
      rw [if_neg enough]
      exact new

theorem no_permit_of_wait (blocked : (s.wait thread).1 = false) :
    ¬ 0 < (s.wait thread).2.wakeupCount := by
  simp only [wait] at blocked ⊢
  split at blocked
  next short =>
      rw [if_pos short]
      exact no_permit_of_test blocked
  next => cases blocked

theorem test_waitCount : (s.test thread).2.waitCount = s.waitCount := by
  rw [test]
  split
  next => rfl
  next => rfl

theorem wait_eq (least : -2 ^ 31 < s.waitCount) (most : s.waitCount < 2 ^ 31) :
    s.wait thread =
      if s.waitCount - 1 < 0 then { s with waitCount := s.waitCount - 1 }.test thread
      else (true, { s with waitCount := s.waitCount - 1 }) := by
  have lower : wrapInt (s.waitCount - 1) = s.waitCount - 1 := wrapInt_eq (by omega) (by omega)
  simp only [wait, lower]

theorem Sound.wait (sound : s.Sound 0) (new : ¬ s.conditionVar.Inside thread)
    (least : -2 ^ 31 < s.waitCount) :
    (s.wait thread).2.Sound 0 ∧ (s.wait thread).2.waitCount = s.waitCount - 1 ∧
      (s.wait thread).2.conditionVar.count + (s.wait thread).1.toNat =
        s.conditionVar.count + 1 := by
  have most := sound.waitRange.2
  have inside := sound.inside
  rw [wait_eq least most]
  split
  next short =>
      have counted : { s with waitCount := s.waitCount - 1 }.Sound 1 := by
        constructor
        case waitRange => dsimp only; omega
        case wakeupRange => exact sound.wakeupRange
        case inside => dsimp only; omega
        case covers => exact sound.covers
      refine ⟨counted.test_new new, test_waitCount, ?_⟩
      exact test_count_new (s := { s with waitCount := s.waitCount - 1 }) new
  next enough =>
      refine ⟨?_, rfl, rfl⟩
      constructor
      case waitRange => dsimp only; omega
      case wakeupRange => exact sound.wakeupRange
      case inside => dsimp only; omega
      case covers => exact sound.covers

theorem wakeup_eq (least : -2 ^ 31 ≤ s.waitCount) (most : s.waitCount < 2 ^ 31 - 1) :
    s.wakeup notified =
      if s.waitCount + 1 ≤ 0 then
        (s.conditionVar.notifyOne notified).map fun cond =>
          { s with
            conditionVar := cond
            waitCount := s.waitCount + 1
            wakeupCount := wrapInt (s.wakeupCount + 1) }
      else some { s with waitCount := s.waitCount + 1 } := by
  have higher : wrapInt (s.waitCount + 1) = s.waitCount + 1 := wrapInt_eq (by omega) (by omega)
  simp only [wakeup, higher]

theorem inside_wakeup (taken : s.wakeup notified = some after) (other : Thread) :
    after.conditionVar.Inside other ↔ s.conditionVar.Inside other := by
  simp only [wakeup] at taken
  split at taken
  next =>
      simp only [Option.map_eq_some_iff] at taken
      obtain ⟨cond, notify, rfl⟩ := taken
      exact Waiters.inside_notifyOne notify other
  next =>
      cases taken
      exact Iff.rfl

theorem Sound.wakeup (sound : s.Sound 0) (most : s.waitCount < 2 ^ 31 - 1)
    (permits : s.waitCount < 0 → s.wakeupCount < 2 ^ 31 - 1)
    (taken : s.wakeup notified = some after) :
    after.Sound 0 ∧ after.waitCount = s.waitCount + 1 ∧
      after.conditionVar.count = s.conditionVar.count := by
  have least := sound.waitRange.1
  have inside := sound.inside
  have range := sound.wakeupRange
  rw [wakeup_eq least most] at taken
  split at taken
  next short =>
      have fits := permits (by omega)
      have higher : wrapInt (s.wakeupCount + 1) = s.wakeupCount + 1 :=
        wrapInt_eq (by omega) (by omega)
      simp only [Option.map_eq_some_iff] at taken
      obtain ⟨cond, notify, rfl⟩ := taken
      have same := Waiters.count_notifyOne notify
      rw [higher]
      refine ⟨?_, rfl, same⟩
      constructor
      case waitRange => dsimp only; omega
      case wakeupRange => dsimp only; omega
      case inside => dsimp only; omega
      case covers =>
          apply (sound.covers.notifyOne notify).mono
          dsimp only
          omega
  next enough =>
      cases taken
      refine ⟨?_, rfl, rfl⟩
      constructor
      case waitRange => dsimp only; omega
      case wakeupRange => exact range
      case inside => dsimp only; omega
      case covers => exact sound.covers

theorem Sound.spurious (sound : s.Sound 0) {cond : Waiters Thread}
    (woke : s.conditionVar.wake thread = some cond) :
    ({ s with conditionVar := cond } : Semaphore Thread).Sound 0 := by
  have inside := sound.inside
  have same := Waiters.count_wake woke
  constructor
  case waitRange => exact sound.waitRange
  case wakeupRange => exact sound.wakeupRange
  case inside => dsimp only; omega
  case covers => exact sound.covers.wake woke

theorem Sound.able (sound : s.Sound 0) (permit : 0 < s.wakeupCount) :
    ∃ thread ∈ s.conditionVar.woken, (s.test thread).1 = true := by
  have inside := sound.inside
  have up := sound.covers.woken_pos (by omega) (by omega)
  obtain ⟨thread, woken⟩ := Finset.card_pos.mp up
  refine ⟨thread, woken, ?_⟩
  rw [test_of_permit permit]

end Semaphore

/-- `started` and `passed` count the calls of `wait`, `made` those of `wakeup`. -/
structure SemaphoreRun (Thread : Type) where
  semaphore : Semaphore Thread
  started : Nat
  passed : Nat
  made : Nat

inductive SemaphoreEvent (Thread : Type)
  | wait (thread : Thread)
  | lock (thread : Thread)
  | wakeup (notified : Option Thread)
  | spurious (thread : Thread)

namespace SemaphoreRun

variable {Thread : Type}

def start : SemaphoreRun Thread :=
  { semaphore := Semaphore.create, started := 0, passed := 0, made := 0 }

def returned (run : SemaphoreRun Thread) (result : Bool × Semaphore Thread) :
    SemaphoreRun Thread :=
  { run with
    semaphore := result.2
    passed := if result.1 then run.passed + 1 else run.passed }

structure Sound (run : SemaphoreRun Thread) : Prop where
  semaphore : run.semaphore.Sound 0
  waitCount : run.semaphore.waitCount = (run.made : Int) - run.started
  started : run.started = run.passed + run.semaphore.conditionVar.count

theorem returned_passed (run : SemaphoreRun Thread) (result : Bool × Semaphore Thread) :
    (run.returned result).passed = run.passed + result.1.toNat := by
  cases passed : result.1 with
  | false => simp [returned, passed]
  | true => simp [returned, passed]

theorem Sound.start : (start : SemaphoreRun Thread).Sound :=
  ⟨Semaphore.Sound.create, rfl, rfl⟩

variable [DecidableEq Thread]

def step (run : SemaphoreRun Thread) : SemaphoreEvent Thread → Option (SemaphoreRun Thread)
  | .wait thread =>
      if run.semaphore.conditionVar.Inside thread then none
      else some (returned { run with started := run.started + 1 } (run.semaphore.wait thread))
  | .lock thread =>
      if thread ∈ run.semaphore.conditionVar.woken then
        some (run.returned (run.semaphore.test thread))
      else none
  | .wakeup notified =>
      (run.semaphore.wakeup notified).map fun semaphore =>
        { run with semaphore := semaphore, made := run.made + 1 }
  | .spurious thread =>
      (run.semaphore.conditionVar.wake thread).map fun cond =>
        { run with semaphore := { run.semaphore with conditionVar := cond } }

/-- No `++` and no `--` of the step overflows. -/
def InRange (run : SemaphoreRun Thread) : SemaphoreEvent Thread → Prop
  | .wait _ => -2 ^ 31 < run.semaphore.waitCount
  | .wakeup _ => run.semaphore.waitCount < 2 ^ 31 - 1 ∧
      (run.semaphore.waitCount < 0 → run.semaphore.wakeupCount < 2 ^ 31 - 1)
  | .lock _ | .spurious _ => True

instance (run : SemaphoreRun Thread) (event : SemaphoreEvent Thread) :
    Decidable (run.InRange event) :=
  match event with
  | .wait _ => inferInstanceAs (Decidable (_ < _))
  | .wakeup _ => inferInstanceAs (Decidable (_ ∧ _))
  | .lock _ | .spurious _ => .isTrue trivial

structure Balanced (run : SemaphoreRun Thread) : Prop where
  passed : run.passed ≤ run.made
  inside : run.semaphore.conditionVar.count =
    max 0 ((run.started : Int) - run.made) + run.semaphore.wakeupCount
  able : 0 < run.semaphore.wakeupCount →
    ∃ thread ∈ run.semaphore.conditionVar.woken, (run.semaphore.test thread).1 = true

variable {run next : SemaphoreRun Thread} {event : SemaphoreEvent Thread}

theorem Sound.step (sound : run.Sound) (inRange : run.InRange event)
    (taken : run.step event = some next) : next.Sound := by
  obtain ⟨semaphore, waitCount, started⟩ := sound
  cases event with
  | wait thread =>
      simp only [SemaphoreRun.step, Option.ite_none_left_eq_some, Option.some.injEq] at taken
      obtain ⟨new, rfl⟩ := taken
      obtain ⟨sound, lower, count⟩ := semaphore.wait new inRange
      constructor
      case semaphore => exact sound
      case waitCount =>
          simp only [returned, lower]
          omega
      case started =>
          rw [returned_passed]
          dsimp only [returned]
          omega
  | lock thread =>
      simp only [SemaphoreRun.step, Option.ite_none_right_eq_some, Option.some.injEq] at taken
      obtain ⟨woken, rfl⟩ := taken
      have count := Semaphore.test_count_woken woken
      constructor
      case semaphore => exact semaphore.test_woken woken
      case waitCount =>
          simp only [returned, Semaphore.test_waitCount]
          exact waitCount
      case started =>
          rw [returned_passed]
          dsimp only [returned]
          omega
  | wakeup notified =>
      simp only [SemaphoreRun.step, Option.map_eq_some_iff] at taken
      obtain ⟨after, taken, rfl⟩ := taken
      obtain ⟨sound, higher, count⟩ := semaphore.wakeup inRange.1 inRange.2 taken
      constructor
      case semaphore => exact sound
      case waitCount =>
          simp only [higher]
          omega
      case started => simpa only [count] using started
  | spurious thread =>
      simp only [SemaphoreRun.step, Option.map_eq_some_iff] at taken
      obtain ⟨cond, woke, rfl⟩ := taken
      constructor
      case semaphore => exact semaphore.spurious woke
      case waitCount => exact waitCount
      case started => simpa only [Waiters.count_wake woke] using started

theorem Sound.balanced (sound : run.Sound) : run.Balanced := by
  have inside := sound.semaphore.inside
  have waitCount := sound.waitCount
  have started := sound.started
  have permits := sound.semaphore.wakeupRange.1
  constructor
  case passed => omega
  case inside => omega
  case able => exact sound.semaphore.able

/-- As long as no counter overflows, permits and waiting calls stay in balance over every
interleaving. -/
theorem balanced_of_inRange {events : List (SemaphoreEvent Thread)}
    (inRange : Along step InRange start events) : Every step Balanced start events := by
  have preserved {run : SemaphoreRun Thread} {event : SemaphoreEvent Thread}
      {next : SemaphoreRun Thread} (sound : run.Sound) (fits : run.InRange event)
      (taken : run.step event = some next) : next.Sound :=
    sound.step fits taken
  exact Every.mono Sound.balanced (every_of_invariant preserved Sound.start inRange)

theorem balanced_of_inRange_stolen :
    (Runs.run step (start : SemaphoreRun Nat)
      [.wait 0, .wakeup (some 0), .wait 1, .lock 0, .wakeup (some 0), .lock 0]).isSome ∧
    Every step Balanced (start : SemaphoreRun Nat)
      [.wait 0, .wakeup (some 0), .wait 1, .lock 0, .wakeup (some 0), .lock 0] :=
  ⟨by decide, balanced_of_inRange (by decide)⟩

def ahead (count : Nat) : SemaphoreRun Thread :=
  { semaphore := { Semaphore.create with waitCount := count }
    started := 0, passed := 0, made := count }

theorem ahead_step {count : Nat} (bound : (count : Int) < 2 ^ 31 - 1) :
    (ahead count : SemaphoreRun Thread).step (.wakeup none) = some (ahead (count + 1)) := by
  have counted : (ahead count : SemaphoreRun Thread).semaphore.waitCount = count := rfl
  have positive : ¬ (count : Int) + 1 ≤ 0 := by omega
  rw [step, Semaphore.wakeup_eq (by omega) (by omega), counted, if_neg positive]
  rfl

theorem ahead_of_wakeups {count : Nat} (bound : (count : Int) < 2 ^ 31) :
    Runs.run step (start : SemaphoreRun Thread) (List.replicate count (.wakeup none)) =
      some (ahead count) := by
  induction count with
  | zero => rfl
  | succ count ih =>
      rw [List.replicate_succ', run_append, ih (by omega), Option.bind_some, Runs.run,
        ahead_step (by omega)]
      rfl

/-- After one call of `wakeup` too many `wait_count_` is far below zero, and a permit is left with
nobody to take it. -/
theorem not_always_balanced :
    ¬ Every step Balanced (start : SemaphoreRun Nat) (List.replicate (2 ^ 31) (.wakeup none)) := by
  intro every
  let last : SemaphoreRun Nat :=
    { semaphore := { conditionVar := Waiters.empty, waitCount := -2 ^ 31, wakeupCount := 1 }
      started := 0, passed := 0, made := 2 ^ 31 }
  have overflow : step (ahead (2 ^ 31 - 1)) (.wakeup none) = some last := by rfl
  have reached : Runs.run step (start : SemaphoreRun Nat) (List.replicate (2 ^ 31) (.wakeup none)) =
      some last := by
    have count : 2 ^ 31 = (2 ^ 31 - 1) + 1 := by decide
    rw [count, List.replicate_succ', run_append, ahead_of_wakeups (by decide), Option.bind_some,
      Runs.run, overflow]
    rfl
  obtain ⟨thread, woken, -⟩ := (every.finish reached).able Int.one_pos
  exact Finset.notMem_empty thread woken

end SemaphoreRun

end ZBlueNet
