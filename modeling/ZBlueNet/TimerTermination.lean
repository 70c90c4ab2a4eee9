import ZBlueNet.TimerOrder
import Mathlib.Algebra.Order.BigOperators.Group.Finset

/-!
The end of `checkTimeout`. A timer with a period comes behind `now` in the end, and one
that has calls left runs out of them; a due timer with neither a period nor a last call
stays at the top for ever.
-/

namespace ZBlueNet

open Runs TimerHeap

variable {Callback : Type}

/-- A timer that is due again as soon as it has been called. -/
def Timer.Endless (now : Timestamp) (timer : Timer Callback) : Prop :=
  timer.callTimes ≤ 0 ∧ timer.timeoutMillisec = 0 ∧ now.millisecondLess timer.value = false

/-- The calls that a timer can still get at `now`, counting a millisecond for each where their
number is not limited. -/
def Timer.callsLeft (now : Timestamp) : Option (Timer Callback) → Nat
  | none => 0
  | some timer =>
      if timer.callTimes ≥ 1 then timer.callTimes.toNat
      else (now.milliseconds - timer.value.milliseconds + 1).toNat

theorem Timer.rearm_callsLeft {now : Timestamp} {timer : Timer Callback} (normal : now.Normalised)
    (timerNormal : timer.value.Normalised) (positive : 0 ≤ timer.timeoutMillisec)
    (due : now.millisecondLess timer.value = false) (ends : ¬timer.Endless now)
    (again : timer.callTimes ≠ 1) :
    Timer.callsLeft now (some timer.rearm) < Timer.callsLeft now (some timer) := by
  have notUndue := (normal.millisecondLess_eq_false_iff timerNormal).mp due
  have moved := timerNormal.milliseconds_add positive
  simp only [Timer.callsLeft]
  by_cases limited : timer.callTimes ≥ 1
  · have fewer : timer.rearm.callTimes = timer.callTimes - 1 := if_pos (by omega)
    rw [if_pos (by omega), if_pos limited, fewer]
    omega
  · have same : timer.rearm.callTimes = timer.callTimes := if_neg (by omega)
    have later : timer.rearm.value = timer.value.add timer.timeoutMillisec := rfl
    have period : timer.timeoutMillisec ≠ 0 := fun none => ends ⟨by omega, none, due⟩
    rw [if_neg (by omega), if_neg limited, later, moved]
    omega

theorem Timer.rearm_endless {now : Timestamp} {timer : Timer Callback}
    (nowNormal : now.Normalised) (normal : timer.value.Normalised) (due : now.millisecondLess timer.value = false)
    (again : timer.callTimes ≠ 1) : timer.rearm.Endless now ↔ timer.Endless now := by
  have unmoved (period : timer.timeoutMillisec = 0) :
      now.millisecondLess timer.rearm.value = false := by
    have positive : 0 ≤ timer.timeoutMillisec := by omega
    have same := normal.milliseconds_add positive
    have later : timer.rearm.value = timer.value.add timer.timeoutMillisec := rfl
    have notUndue := (nowNormal.millisecondLess_eq_false_iff normal).mp due
    rw [later, nowNormal.millisecondLess_eq_false_iff (normal.add positive), same]
    omega
  simp only [Timer.Endless, Timer.rearm]
  constructor
  · rintro ⟨unlimited, period, -⟩
    refine ⟨?_, period, due⟩
    split at unlimited <;> omega
  · rintro ⟨unlimited, period, -⟩
    refine ⟨?_, period, unmoved period⟩
    rw [if_neg (by omega)]
    exact unlimited

namespace TimerCalls

def WithinCheck : TimerEvent Callback → Prop
  | .removeTimer _ | .callbackReturns => True
  | .addTimer .. | .checkTimeout _ => False

/-- Whatever its callbacks remove, a call of `checkTimeout` makes a bounded number of calls. -/
def CheckEnds (calls : TimerCalls Callback) (now : Timestamp) : Prop :=
  ∃ bound, ∀ events, (∀ event ∈ events, WithinCheck event) →
    ∀ finish, run step calls (.checkTimeout now :: events) = some finish →
      finish.fired.length ≤ calls.fired.length + bound

def callsPending (pointers : Nat) (now : Timestamp) (calls : TimerCalls Callback) : Nat :=
  ∑ ptr ∈ Finset.range pointers, Timer.callsLeft now (calls.heap.live ptr)

structure Ending (pointers : Nat) (now : Timestamp) (calls : TimerCalls Callback) : Prop where
  sound : Sound calls
  checking : ∀ checked, calls.checking = some checked → checked = now
  placed : ∀ ptr timer, calls.heap.live ptr = some timer → ptr < pointers
  ends : ∀ ptr timer, calls.heap.live ptr = some timer → ¬timer.Endless now

variable {calls next : TimerCalls Callback} {event : TimerEvent Callback} {pointers : Nat}
  {now : Timestamp}

/-- A turn that calls a callback uses up one of the calls that are left. -/
theorem Ending.turn (ending : Ending pointers now calls) (normal : now.Normalised) :
    Ending pointers now (calls.turn now) ∧
      (calls.turn now).fired.length + callsPending pointers now (calls.turn now) ≤
        calls.fired.length + callsPending pointers now calls := by
  have sound := ending.sound.turn now
  obtain ⟨-, same⟩ | ⟨firing, heap, turned, moved⟩ := turn_cases calls now
  · rw [same] at sound ⊢
    refine ⟨⟨sound, ?_, ending.placed, ending.ends⟩, le_rfl⟩
    intro checked none
    cases none
  · obtain ⟨ptr, timer, fired⟩ := ending.sound.indexed.checkTurn_some turned
    obtain ⟨timerNormal, positive⟩ := ending.sound.deadlines ptr timer fired.found
    have ends := ending.ends ptr timer fired.found
    have less : Timer.callsLeft now (heap.live ptr) < Timer.callsLeft now (calls.heap.live ptr) := by
      rw [fired.found]
      simp only [fired.live, if_true]
      split
      · rename_i last
        simp [Timer.callsLeft, last]
      · rename_i again
        exact Timer.rearm_callsLeft normal timerNormal positive fired.due ends again
    rw [moved] at sound ⊢
    refine ⟨⟨sound, ?_, ?_, ?_⟩, ?_⟩
    · intro checked same
      cases same
      rfl
    · intro other otherTimer found
      rcases rearmed_cases fired.live found with ⟨rfl, -, -⟩ | ⟨-, old⟩
      · exact ending.placed _ timer fired.found
      · exact ending.placed other otherTimer old
    · intro other otherTimer found
      rcases rearmed_cases fired.live found with ⟨-, again, rfl⟩ | ⟨-, old⟩
      · rwa [Timer.rearm_endless normal timerNormal fired.due again]
      · exact ending.ends other otherTimer old
    · have fewer : callsPending pointers now
          { heap := heap, checking := some now, fired := calls.fired ++ [firing] } <
            callsPending pointers now calls := by
        refine Finset.sum_lt_sum ?_
          ⟨ptr, Finset.mem_range.mpr (ending.placed ptr timer fired.found), less⟩
        intro other _
        by_cases same : other = ptr
        · exact same ▸ less.le
        · simp [fired.live, same]
      simp only [List.length_append, List.length_singleton]
      omega

theorem Ending.removeTimer (ending : Ending pointers now calls) (timerId : TimerId) :
    Ending pointers now { calls with heap := calls.heap.removeTimer timerId } ∧
      callsPending pointers now { calls with heap := calls.heap.removeTimer timerId } ≤
        callsPending pointers now calls := by
  have old {ptr : TimerPtr} {timer : Timer Callback}
      (found : (calls.heap.removeTimer timerId).live ptr = some timer) :
      calls.heap.live ptr = some timer := (ending.sound.indexed.removeTimer_live found).1
  refine ⟨⟨?_, ending.checking, ?_, ?_⟩, ?_⟩
  · have clock : (TimerEvent.removeTimer timerId : TimerEvent Callback).Normalised := trivial
    exact ending.sound.step clock rfl
  · intro ptr timer found
    exact ending.placed ptr timer (old found)
  · intro ptr timer found
    exact ending.ends ptr timer (old found)
  · apply Finset.sum_le_sum
    intro ptr _
    cases found : (calls.heap.removeTimer timerId).live ptr with
    | none => simp [Timer.callsLeft]
    | some timer => simp [old found]

theorem Ending.step (ending : Ending pointers now calls) (normal : now.Normalised)
    (within : WithinCheck event) (taken : calls.step event = some next) :
    Ending pointers now next ∧ next.fired.length + callsPending pointers now next ≤
      calls.fired.length + callsPending pointers now calls := by
  cases event with
  | addTimer => exact within.elim
  | checkTimeout => exact within.elim
  | removeTimer timerId =>
      cases taken
      have removed := ending.removeTimer timerId
      exact ⟨removed.1, Nat.add_le_add_left removed.2 _⟩
  | callbackReturns =>
      cases checking : calls.checking with
      | none => simp [TimerCalls.step, checking] at taken
      | some checked =>
          rw [ending.checking checked checking] at checking
          rw [step_turn (show calls.checkedAt .callbackReturns = some now from checking) taken]
          exact ending.turn normal

theorem Ending.run (ending : Ending pointers now calls) (normal : now.Normalised)
    {events : List (TimerEvent Callback)} (within : ∀ event ∈ events, WithinCheck event)
    {finish : TimerCalls Callback} (reached : Runs.run TimerCalls.step calls events = some finish) :
    finish.fired.length + callsPending pointers now finish ≤
      calls.fired.length + callsPending pointers now calls := by
  induction events generalizing calls with
  | nil =>
      cases reached
      exact le_rfl
  | cons event events ih =>
      rw [List.forall_mem_cons] at within
      simp only [Runs.run, Option.bind_eq_some_iff] at reached
      obtain ⟨next, taken, rest⟩ := reached
      obtain ⟨later, fewer⟩ := ending.step normal within.1 taken
      exact le_trans (ih later within.2 rest) fewer

structure Trapped (now : Timestamp) (calls : TimerCalls Callback) : Prop where
  sound : Sound calls
  ordered : InOrder calls.heap
  endless : ∃ ptr timer, calls.heap.live ptr = some timer ∧ timer.Endless now

theorem Trapped.turn (trapped : Trapped now calls) (normal : now.Normalised) :
    Trapped now (calls.turn now) ∧ (calls.turn now).checking = some now ∧
      (calls.turn now).fired.length = calls.fired.length + 1 := by
  obtain ⟨ptr, timer, found, endless⟩ := trapped.endless
  have sound := trapped.sound.turn now
  have ordered := trapped.sound.turn_inOrder now trapped.ordered
  obtain ⟨turned, -⟩ | ⟨firing, heap, turned, moved⟩ := turn_cases calls now
  · have undue := trapped.sound.indexed.checkTurn_none trapped.ordered turned found
    rw [endless.2.2] at undue
    cases undue
  · obtain ⟨first, firstTimer, fired⟩ := trapped.sound.indexed.checkTurn_some turned
    rw [moved] at sound ordered ⊢
    refine ⟨⟨sound, ordered, ?_⟩, rfl, by simp⟩
    by_cases here : ptr = first
    · subst here
      cases found.symm.trans fired.found
      have again : timer.callTimes ≠ 1 := by
        have unlimited := endless.1
        omega
      refine ⟨ptr, timer.rearm, by simp [fired.live, again], ?_⟩
      rwa [Timer.rearm_endless normal (trapped.sound.deadlines ptr timer found).1 fired.due again]
    · exact ⟨ptr, timer, by simp [fired.live, here, found], endless⟩

/-- With callbacks that leave the heap alone, there is a call for every return. -/
theorem Trapped.run (trapped : Trapped now calls) (normal : now.Normalised)
    (checking : calls.checking = some now) (count : Nat) :
    ∃ finish, Runs.run TimerCalls.step calls (List.replicate count .callbackReturns) =
      some finish ∧ finish.fired.length = calls.fired.length + count := by
  induction count generalizing calls with
  | zero => exact ⟨calls, rfl, rfl⟩
  | succ count ih =>
      obtain ⟨later, still, more⟩ := trapped.turn normal
      obtain ⟨finish, reached, total⟩ := ih later still
      refine ⟨finish, ?_, by omega⟩
      simp only [List.replicate_succ, Runs.run, TimerCalls.step, checking, Option.bind_some]
      exact reached

theorem Trapped.not_checkEnds (trapped : Trapped now calls) (normal : now.Normalised)
    (idle : calls.checking = none) : ¬CheckEnds calls now := by
  rintro ⟨bound, ends⟩
  obtain ⟨later, checking, more⟩ := trapped.turn normal
  obtain ⟨finish, reached, total⟩ := later.run normal checking bound
  have within : ∀ event ∈ List.replicate bound (TimerEvent.callbackReturns : TimerEvent Callback),
      WithinCheck event := by
    intro event member
    rw [List.eq_of_mem_replicate member]
    trivial
  have limited := ends _ within finish (by
    simp only [Runs.run, TimerCalls.step, idle, Option.bind_some]
    exact reached)
  omega

theorem Ending.checkEnds (ending : Ending pointers now calls) (normal : now.Normalised) :
    CheckEnds calls now := by
  refine ⟨callsPending pointers now calls, ?_⟩
  intro events within finish reached
  simp only [Runs.run, Option.bind_eq_some_iff] at reached
  obtain ⟨next, taken, rest⟩ := reached
  rw [step_turn rfl taken] at rest
  obtain ⟨later, fewer⟩ := ending.turn normal
  have total := later.run normal within rest
  omega

def OnlyAdds (events : List (TimerEvent Callback)) : Prop :=
  ∀ event ∈ events, ∃ now timeoutMs timerCb callTimes,
    event = .addTimer now timeoutMs timerCb callTimes

theorem onlyAdds_built {events : List (TimerEvent Callback)} (adds : OnlyAdds events)
    (clocks : ∀ event ∈ events, event.Normalised)
    (built : Runs.run TimerCalls.step start events = some calls) :
    Sound calls ∧ InOrder calls.heap ∧ calls.checking = none := by
  have preserved {state next : TimerCalls Callback} {event : TimerEvent Callback}
      (holds : Sound state ∧ InOrder state.heap ∧ state.checking = none)
      (added : event.Normalised ∧ ∃ now timeoutMs timerCb callTimes,
        event = .addTimer now timeoutMs timerCb callTimes)
      (taken : state.step event = some next) :
      Sound next ∧ InOrder next.heap ∧ next.checking = none := by
    obtain ⟨clock, now, timeoutMs, timerCb, callTimes, rfl⟩ := added
    refine ⟨holds.1.step clock taken, (holds.1.step_inOrder holds.2.1 taken).mpr trivial, ?_⟩
    cases taken
    exact holds.2.2
  have each : ∀ event ∈ events, event.Normalised ∧ ∃ now timeoutMs timerCb callTimes,
      event = .addTimer now timeoutMs timerCb callTimes := by
    intro event member
    exact ⟨clocks event member, adds event member⟩
  exact run_invariant preserved ⟨start_sound, empty_inOrder, rfl⟩ (Along.of_forall each start) built

/-- `checkTimeout` comes to its end exactly if no due timer has neither a period nor a last call. -/
theorem checkEnds_iff {events : List (TimerEvent Callback)} (adds : OnlyAdds events)
    (clocks : ∀ event ∈ events, event.Normalised)
    (built : Runs.run TimerCalls.step start events = some calls) (normal : now.Normalised) :
    CheckEnds calls now ↔
      ∀ ptr timer, calls.heap.live ptr = some timer → ¬timer.Endless now := by
  obtain ⟨sound, ordered, idle⟩ := onlyAdds_built adds clocks built
  constructor
  · intro ends ptr timer found endless
    have trapped : Trapped now calls := ⟨sound, ordered, ptr, timer, found, endless⟩
    exact trapped.not_checkEnds normal idle ends
  · intro none
    have ending : Ending calls.heap.nextPtr now calls := by
      refine ⟨sound, ?_, fun ptr timer found => sound.indexed.live_lt found, none⟩
      intro checked checking
      rw [idle] at checking
      cases checking
    exact ending.checkEnds normal

def zeroPeriod : List (TimerEvent Unit) := [.addTimer ⟨1, 0⟩ 0 () (-1)]

theorem zeroPeriod_adds : OnlyAdds zeroPeriod ∧ ∀ event ∈ zeroPeriod, event.Normalised := by
  constructor
  · intro event member
    rw [List.mem_singleton.mp member]
    exact ⟨_, _, _, _, rfl⟩
  · intro event member
    rw [List.mem_singleton.mp member]
    exact ⟨by decide, by decide⟩

def zeroPeriodCalls : TimerCalls Unit :=
  { (start : TimerCalls Unit) with heap := (TimerHeap.empty.addTimer ⟨1, 0⟩ 0 () (-1)).2 }

theorem zeroPeriod_built : Runs.run TimerCalls.step start zeroPeriod = some zeroPeriodCalls :=
  rfl

theorem zeroPeriod_hangs :
    ¬∀ (events : List (TimerEvent Unit)) (calls : TimerCalls Unit) (now : Timestamp),
      OnlyAdds events → (∀ event ∈ events, event.Normalised) →
      Runs.run TimerCalls.step start events = some calls → now.Normalised →
      CheckEnds calls now := by
  intro ends
  have normal : (⟨1, 0⟩ : Timestamp).Normalised := ⟨by decide, by decide⟩
  have hangs := ends zeroPeriod zeroPeriodCalls ⟨1, 0⟩ zeroPeriod_adds.1 zeroPeriod_adds.2
    zeroPeriod_built normal
  obtain ⟨sound, ordered, idle⟩ :=
    onlyAdds_built zeroPeriod_adds.1 zeroPeriod_adds.2 zeroPeriod_built
  have trapped : Trapped ⟨1, 0⟩ zeroPeriodCalls :=
    ⟨sound, ordered, 1, (Timer.create 1 ⟨1, 0⟩ 0 () (-1)).unplaced, rfl, by decide, rfl, by decide⟩
  exact trapped.not_checkEnds normal idle hangs

theorem checkEnds_iff_zeroPeriod :
    CheckEnds zeroPeriodCalls ⟨0, 0⟩ ↔
      ∀ ptr timer, zeroPeriodCalls.heap.live ptr = some timer → ¬timer.Endless ⟨0, 0⟩ :=
  checkEnds_iff zeroPeriod_adds.1 zeroPeriod_adds.2 zeroPeriod_built ⟨by decide, by decide⟩

end TimerCalls

end ZBlueNet
