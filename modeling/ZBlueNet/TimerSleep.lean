import ZBlueNet.TimerOrder
import ZBlueNet.TimerWaits

/-!
A loop that sleeps until the next timer. The sum of a time stamp and milliseconds, the distance to
the top and the test of `checkTimeout` cut off the same part of a millisecond.
-/

namespace ZBlueNet

open Runs

variable {Callback : Type}

namespace Timestamp

def addTerms (t : Timestamp) (millisecond : Int) : List Int :=
  let second := t.second + millisecond.tdiv 1000
  let nanosecond := t.nanosecond + millisecond.tmod 1000 * 1000000
  let kept := [second, millisecond.tmod 1000 * 1000000, nanosecond]
  if nanosecond ≥ 1000000000 then kept ++ [second + 1, nanosecond - 1000000000] else kept

variable {t now value : Timestamp} {millisecond : Int}

theorem Normalised.addTerms_int64 (normal : t.Normalised) (before : IsInt64 t.second)
    (positive : 0 ≤ millisecond) (after : IsInt64 (t.add millisecond).second) :
    ∀ term ∈ t.addTerms millisecond, IsInt64 term := by
  have lower := normal.lower
  have upper := normal.upper
  obtain ⟨least, most⟩ := before
  simp only [Timestamp.add, addTerms, IsInt64, Int.tmod_eq_emod_of_nonneg positive,
    Int.tdiv_eq_ediv_of_nonneg positive] at after ⊢
  split at after
  · rename_i carry
    dsimp only at after
    simp only [if_pos carry, List.forall_mem_append, List.forall_mem_cons, List.not_mem_nil,
      false_implies, implies_true, and_true]
    omega
  · rename_i small
    dsimp only at after
    simp only [if_neg small, List.forall_mem_cons, List.not_mem_nil, false_implies, implies_true,
      and_true]
    omega

theorem Normalised.second_le_of_milliseconds_le (normal : t.Normalised)
    (valueNormal : value.Normalised) (order : t.milliseconds ≤ value.milliseconds) :
    t.second ≤ value.second := by
  have lower := normal.lower
  have upper := valueNormal.upper
  simp only [milliseconds] at order
  omega

end Timestamp

namespace TimerHeap

def topTimer (h : TimerHeap Callback) : Option (Timer Callback) := h.minHeapTop.bind h.timers

/-- After the sleep that is asked for the top is called, and after a shorter one nothing is. -/
structure SleepsUntil (h : TimerHeap Callback) (now : Timestamp) (timer : Timer Callback) :
    Prop where
  nonnegative : 0 ≤ h.getNextTimeoutMillisecond now
  due : ∃ next, h.checkTurn (now.add (h.getNextTimeoutMillisecond now)) =
    some (⟨timer.timerId, timer.timerCb, timer.value⟩, next)
  undue : ∀ slept, 0 ≤ slept → slept < h.getNextTimeoutMillisecond now →
    h.checkTurn (now.add slept) = none

section Top

variable {h : TimerHeap Callback} {timer : Timer Callback} (top : h.topTimer = some timer)
  {now : Timestamp}
include top

theorem checkTurn_due (due : now.millisecondLess timer.value = false) :
    ∃ next, h.checkTurn now = some (⟨timer.timerId, timer.timerCb, timer.value⟩, next) := by
  obtain ⟨ptr, first, held⟩ := Option.bind_eq_some_iff.mp top
  simp only [checkTurn, first, held, due, Bool.false_eq_true, if_false]
  exact ⟨_, rfl⟩

theorem checkTurn_undue (undue : now.millisecondLess timer.value = true) :
    h.checkTurn now = none := by
  obtain ⟨ptr, first, held⟩ := Option.bind_eq_some_iff.mp top
  simp only [checkTurn, first, held, undue, if_true]

variable (normal : now.Normalised) (topNormal : timer.value.Normalised)
  (ahead : timer.value.less now = false)
include normal topNormal ahead

theorem next_eq_milliseconds :
    h.getNextTimeoutMillisecond now = timer.value.milliseconds - now.milliseconds := by
  obtain ⟨ptr, first, held⟩ := Option.bind_eq_some_iff.mp top
  have value : h.valueOf ptr = timer.value := by
    rw [valueOf, held]
    rfl
  rw [next_of_ahead first normal (value ▸ topNormal) (value ▸ ahead), value]

theorem sleepsUntil_top : SleepsUntil h now timer := by
  have next := next_eq_milliseconds top normal topNormal ahead
  have order := normal.milliseconds_mono topNormal ((Timestamp.less_eq_false_iff _ _).mp ahead)
  have nonnegative : 0 ≤ h.getNextTimeoutMillisecond now := by omega
  constructor
  case nonnegative => exact nonnegative
  case due =>
    apply checkTurn_due top
    rw [(normal.add nonnegative).millisecondLess_eq_false_iff topNormal,
      normal.milliseconds_add nonnegative]
    omega
  case undue =>
    intro slept positive short
    apply checkTurn_undue top
    rw [(normal.add positive).millisecondLess_iff topNormal, normal.milliseconds_add positive]
    omega

theorem sleep_addTerms_int64 (typed : now.Typed) (topTyped : timer.value.Typed) {slept : Int}
    (positive : 0 ≤ slept) (short : slept ≤ h.getNextTimeoutMillisecond now) :
    ∀ term ∈ now.addTerms slept, IsInt64 term := by
  have next := next_eq_milliseconds top normal topNormal ahead
  have sum := normal.milliseconds_add positive
  have later := (Timestamp.key_le_iff _ _).mp (normal.key_le_add positive)
  have before := (normal.add positive).second_le_of_milliseconds_le topNormal (by omega)
  obtain ⟨least, -⟩ := typed.second
  obtain ⟨-, most⟩ := topTyped.second
  apply normal.addTerms_int64 typed.second positive
  constructor <;> omega

end Top

end TimerHeap

namespace TimerCalls

theorem Sound.topNormal {calls : TimerCalls Callback} (sound : Sound calls)
    {timer : Timer Callback} (top : calls.heap.topTimer = some timer) :
    timer.value.Normalised := by
  obtain ⟨ptr, first, held⟩ := Option.bind_eq_some_iff.mp top
  obtain ⟨topTimer, found, -⟩ := sound.indexed.minHeapTop_spec first
  obtain ⟨memory, same, rfl⟩ := TimerHeap.live_some found
  cases held.symm.trans same
  exact (sound.deadlines ptr timer.unplaced found).1

theorem run_topNormal {events : List (TimerEvent Callback)} {calls : TimerCalls Callback}
    (clocks : ∀ event ∈ events, event.Normalised)
    (reached : run step start events = some calls) {timer : Timer Callback}
    (top : calls.heap.topTimer = some timer) : timer.value.Normalised := by
  have sound : Sound calls := run_invariant (fun sound clock taken => sound.step clock taken)
    start_sound (Along.of_forall clocks start) reached
  exact sound.topNormal top

/-- Waiting and calling go by one clock. The deadlines of a heap in use are normalised. -/
theorem sleep_exact :
    (∀ (t : Timestamp) (millisecond : Int), t.Normalised → 0 ≤ millisecond →
      (t.add millisecond).Normalised ∧
        (t.add millisecond).milliseconds = t.milliseconds + millisecond) ∧
    (∀ (h : TimerHeap Callback) (now : Timestamp) (timer : Timer Callback), now.Normalised →
      h.topTimer = some timer → timer.value.Normalised → timer.value.less now = false →
      h.SleepsUntil now timer) ∧
    ∀ (events : List (TimerEvent Callback)) (calls : TimerCalls Callback) (timer : Timer Callback),
      (∀ event ∈ events, event.Normalised) → run step start events = some calls →
      calls.heap.topTimer = some timer → timer.value.Normalised := by
  refine ⟨?_, ?_, ?_⟩
  · intro t millisecond normal positive
    exact ⟨normal.add positive, normal.milliseconds_add positive⟩
  · intro h now timer normal top topNormal ahead
    exact TimerHeap.sleepsUntil_top top normal topNormal ahead
  · intro events calls timer clocks reached top
    exact run_topNormal clocks reached top

def carriedHeap : TimerHeap Unit := (TimerHeap.empty.addTimer ⟨5, 999600000⟩ 2 ()).2

theorem sleep_exact_carriedHeap :
    carriedHeap.getNextTimeoutMillisecond ⟨5, 999900000⟩ = 2 ∧
      carriedHeap.SleepsUntil ⟨5, 999900000⟩ ⟨1, ⟨6, 1600000⟩, 2, (), -1, 1⟩ := by
  refine ⟨by decide, ?_⟩
  apply sleep_exact.2.1
  · exact ⟨by decide, by decide⟩
  · decide
  · exact ⟨by decide, by decide⟩
  · decide

end TimerCalls

end ZBlueNet
