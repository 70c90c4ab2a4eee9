import ZBlueNet.TimerAccess
import Mathlib.Tactic.Linarith

/-!
The life of one timer, from the `addTimer` that returned its id to its last callback.
Only live timers are called, a finite one counts down, and an id that left the index
does not come back as long as the allocator does not wrap around.
-/

namespace ZBlueNet

open Runs TimerHeap

variable {Callback : Type}

namespace TimerHeap

variable {h : TimerHeap Callback}

theorem siftUp_timerId (fuel : Nat) (h : TimerHeap Callback) (pos : Nat) :
    (siftUp fuel h pos).timerId = h.timerId := by
  induction fuel generalizing h pos with
  | zero => rfl
  | succ fuel ih =>
      simp only [siftUp]
      split
      · rfl
      · split
        · rfl
        · exact ih _ _

theorem siftDown_timerId (fuel : Nat) (h : TimerHeap Callback) (pos : Nat) :
    (siftDown fuel h pos).timerId = h.timerId := by
  induction fuel generalizing h pos with
  | zero => rfl
  | succ fuel ih =>
      simp only [siftDown]
      split
      · rfl
      · split
        · rfl
        · exact ih _ _

theorem minHeapErase_timerId (h : TimerHeap Callback) (ptr : TimerPtr) :
    (h.minHeapErase ptr).timerId = h.timerId := by
  simp only [minHeapErase]
  split
  · rfl
  · split
    · rfl
    · exact siftDown_timerId _ _ _

theorem addTimer_timerId (h : TimerHeap Callback) (now : Timestamp) (timeoutMs : Int)
    (timerCb : Callback) (callTimes : Int) :
    (h.addTimer now timeoutMs timerCb callTimes).2.timerId = nextTimerId h.timerId := by
  simp only [addTimer]
  split
  · rfl
  · exact siftUp_timerId _ _ _

theorem removeTimer_timerId (h : TimerHeap Callback) (timerId : TimerId) :
    (h.removeTimer timerId).timerId = h.timerId := by
  simp only [removeTimer]
  split
  · rfl
  · exact minHeapErase_timerId _ _

theorem checkTurn_timerId {now : Timestamp} {firing : Firing Callback}
    {result : TimerHeap Callback} (turned : h.checkTurn now = some (firing, result)) :
    result.timerId = h.timerId := by
  simp only [checkTurn] at turned
  split at turned
  · cases turned
  · split at turned
    · cases turned
    · split at turned
      · cases turned
      · simp only [Option.some.injEq, Prod.mk.injEq] at turned
        rw [← turned.2]
        split
        · exact minHeapErase_timerId _ _
        · exact (siftUp_timerId _ _ _).trans (minHeapErase_timerId _ _)

end TimerHeap

namespace TimerCalls

/-- The allocator is not about to wrap around. -/
def IdsLeft (calls : TimerCalls Callback) : TimerEvent Callback → Prop
  | .addTimer .. => calls.heap.timerId + 1 < 2 ^ 63
  | _ => True

instance (calls : TimerCalls Callback) : DecidablePred (IdsLeft calls)
  | .addTimer .. => inferInstanceAs (Decidable (calls.heap.timerId + 1 < 2 ^ 63))
  | .removeTimer _ | .checkTimeout _ | .callbackReturns => .isTrue trivial

def calledTimes (calls : TimerCalls Callback) (timerId : TimerId) : Nat :=
  calls.fired.countP (·.timerId = timerId)

variable {calls next : TimerCalls Callback} {event : TimerEvent Callback}

inductive Change (calls next : TimerCalls Callback) : TimerEvent Callback → Prop
  | fired (event : TimerEvent Callback) (firing : Firing Callback) (ptr : TimerPtr)
      (timer : Timer Callback) (found : calls.heap.live ptr = some timer)
      (timerId : firing.timerId = timer.timerId) (log : next.fired = calls.fired ++ [firing])
      (allocator : next.heap.timerId = calls.heap.timerId)
      (live : next.heap.live = fun other =>
        if other = ptr then if timer.callTimes = 1 then none else some timer.rearm
        else calls.heap.live other) : Change calls next event
  | added (now : Timestamp) (timeoutMs : Int) (timerCb : Callback) (callTimes : Int)
      (log : next.fired = calls.fired)
      (allocator : next.heap.timerId = nextTimerId calls.heap.timerId)
      (live : ∀ ptr timer, next.heap.live ptr = some timer →
        calls.heap.live ptr = some timer ∨
          timer.timerId = nextTimerId calls.heap.timerId ∧ timer.callTimes = callTimes) :
      Change calls next (.addTimer now timeoutMs timerCb callTimes)
  | kept (event : TimerEvent Callback) (log : next.fired = calls.fired)
      (allocator : next.heap.timerId = calls.heap.timerId)
      (live : ∀ ptr timer, next.heap.live ptr = some timer → calls.heap.live ptr = some timer)
      (removed : ∀ timerId, event = .removeTimer timerId →
        ∀ ptr timer, next.heap.live ptr = some timer → timer.timerId ≠ timerId) :
      Change calls next event

theorem turn_change (indexed : Indexed calls.heap) (now : Timestamp)
    (checks : ∀ timerId, event ≠ .removeTimer timerId) : Change calls (calls.turn now) event := by
  cases turned : calls.heap.checkTurn now with
  | none =>
      have same : calls.turn now = { calls with checking := none } := by simp [turn, turned]
      rw [same]
      exact .kept event rfl rfl (fun _ _ found => found)
        fun timerId removal => absurd removal (checks timerId)
  | some result =>
      have moved : calls.turn now =
          { heap := result.2, checking := some now, fired := calls.fired ++ [result.1] } := by
        simp [turn, turned]
      obtain ⟨ptr, timer, fired⟩ := indexed.checkTurn_some turned
      rw [moved]
      exact .fired event result.1 ptr timer fired.found (by rw [fired.firing]) rfl
        (checkTurn_timerId turned) fired.live

theorem step_change (indexed : Indexed calls.heap) (taken : calls.step event = some next) :
    Change calls next event := by
  cases event with
  | addTimer now timeoutMs timerCb callTimes =>
      cases taken
      have allocator := addTimer_timerId calls.heap now timeoutMs timerCb callTimes
      refine .added now timeoutMs timerCb callTimes rfl allocator fun ptr timer found => ?_
      rcases indexed.addTimer_live found with ⟨-, rfl⟩ | old
      · exact .inr ⟨rfl, rfl⟩
      · exact .inl old
  | removeTimer timerId =>
      cases taken
      have allocator := removeTimer_timerId calls.heap timerId
      refine .kept _ rfl allocator (fun ptr timer found => (indexed.removeTimer_live found).1) ?_
      intro other same ptr timer found
      cases same
      exact (indexed.removeTimer_live found).2
  | checkTimeout now =>
      simp only [step] at taken
      split at taken
      · cases taken
        exact turn_change indexed now (by simp)
      · cases taken
  | callbackReturns =>
      simp only [step] at taken
      split at taken
      · cases taken
      · cases taken
        exact turn_change indexed _ (by simp)

theorem nextTimerId_eq {timerId : Int} (nonneg : 0 ≤ timerId)
    (left : timerId + 1 < 2 ^ 63) : nextTimerId timerId = timerId + 1 := by
  have same : Int.bmod (timerId + 1) (2 ^ 64) = timerId + 1 :=
    Int.bmod_eq_of_le (by omega) (by omega)
  simp only [nextTimerId, same]
  exact if_neg (by omega)

structure Numbered (calls : TimerCalls Callback) : Prop where
  indexed : Indexed calls.heap
  nonneg : 0 ≤ calls.heap.timerId
  alive : ∀ ptr timer, calls.heap.live ptr = some timer → timer.timerId ≤ calls.heap.timerId
  past : ∀ firing ∈ calls.fired, firing.timerId ≤ calls.heap.timerId

theorem start_numbered : Numbered (start : TimerCalls Callback) :=
  ⟨empty_indexed, le_rfl, by simp [start, live, TimerHeap.empty], by simp [start]⟩

theorem Numbered.grows (numbered : Numbered calls) (left : IdsLeft calls event)
    (taken : calls.step event = some next) : calls.heap.timerId ≤ next.heap.timerId := by
  cases step_change numbered.indexed taken with
  | fired event firing ptr timer found timerId log allocator live => exact allocator.ge
  | added now timeoutMs timerCb callTimes log allocator live =>
      rw [nextTimerId_eq numbered.nonneg left] at allocator
      linarith
  | kept event log allocator live removed => exact allocator.ge

theorem Numbered.step (numbered : Numbered calls) (left : IdsLeft calls event)
    (taken : calls.step event = some next) : Numbered next := by
  have indexed := indexed_step numbered.indexed taken
  have grown := numbered.grows left taken
  cases step_change numbered.indexed taken with
  | fired event firing ptr timer found timerId log allocator live =>
      refine ⟨indexed, numbered.nonneg.trans grown, ?_, ?_⟩
      · intro other otherTimer otherFound
        rw [allocator]
        rcases rearmed_cases live otherFound with ⟨-, -, rfl⟩ | ⟨-, old⟩
        · exact numbered.alive ptr timer found
        · exact numbered.alive other otherTimer old
      · intro called member
        rw [allocator]
        rw [log, List.mem_append, List.mem_singleton] at member
        rcases member with old | rfl
        · exact numbered.past called old
        · rw [timerId]
          exact numbered.alive ptr timer found
  | added now timeoutMs timerCb callTimes log allocator live =>
      rw [nextTimerId_eq numbered.nonneg left] at allocator live
      refine ⟨indexed, numbered.nonneg.trans grown, ?_, ?_⟩
      · intro ptr timer found
        rcases live ptr timer found with old | new
        · exact (numbered.alive ptr timer old).trans grown
        · rw [new.1, allocator]
      · intro called member
        rw [log] at member
        exact (numbered.past called member).trans grown
  | kept event log allocator live removed =>
      refine ⟨indexed, numbered.nonneg.trans grown, ?_, ?_⟩
      · intro ptr timer found
        rw [allocator]
        exact numbered.alive ptr timer (live ptr timer found)
      · intro called member
        rw [allocator]
        exact numbered.past called (log ▸ member)

structure Gone (timerId : TimerId) (base : List (Firing Callback)) (calls : TimerCalls Callback) :
    Prop where
  numbered : Numbered calls
  allocated : timerId ≤ calls.heap.timerId
  absent : ∀ ptr timer, calls.heap.live ptr = some timer → timer.timerId ≠ timerId
  silent : ∃ later, calls.fired = base ++ later ∧ ∀ firing ∈ later, firing.timerId ≠ timerId

theorem Gone.step {timerId : TimerId} {base : List (Firing Callback)}
    (gone : Gone timerId base calls) (left : IdsLeft calls event)
    (taken : calls.step event = some next) : Gone timerId base next := by
  have numbered := gone.numbered.step left taken
  have allocated := gone.allocated.trans (gone.numbered.grows left taken)
  rcases gone.silent with ⟨later, since, others⟩
  cases step_change gone.numbered.indexed taken with
  | fired event firing ptr timer found identity log allocator live =>
      have different := gone.absent ptr timer found
      refine ⟨numbered, allocated, ?_, later ++ [firing], ?_, ?_⟩
      · intro other otherTimer otherFound
        rcases rearmed_cases live otherFound with ⟨-, -, rfl⟩ | ⟨-, old⟩
        · exact different
        · exact gone.absent other otherTimer old
      · rw [log, since, List.append_assoc]
      · intro called member
        rw [List.mem_append, List.mem_singleton] at member
        rcases member with old | rfl
        · exact others called old
        · rw [identity]
          exact different
  | added now timeoutMs timerCb callTimes log allocator live =>
      rw [nextTimerId_eq gone.numbered.nonneg left] at live
      refine ⟨numbered, allocated, ?_, later, log.trans since, others⟩
      intro ptr timer found
      rcases live ptr timer found with old | new
      · exact gone.absent ptr timer old
      · rw [new.1]
        exact (gone.allocated.trans_lt (by linarith)).ne'
  | kept event log allocator live removed =>
      refine ⟨numbered, allocated, ?_, later, log.trans since, others⟩
      intro ptr timer found
      exact gone.absent ptr timer (live ptr timer found)

structure Counted (timerId : TimerId) (callTimes : Int) (calls : TimerCalls Callback) : Prop where
  numbered : Numbered calls
  allocated : timerId ≤ calls.heap.timerId
  bounded : (calls.calledTimes timerId : Int) ≤ callTimes
  remaining : ∀ ptr timer, calls.heap.live ptr = some timer → timer.timerId = timerId →
    1 ≤ timer.callTimes ∧ timer.callTimes + calls.calledTimes timerId = callTimes

theorem Counted.step {timerId : TimerId} {callTimes : Int} (counted : Counted timerId callTimes calls)
    (left : IdsLeft calls event) (taken : calls.step event = some next) :
    Counted timerId callTimes next := by
  have numbered := counted.numbered.step left taken
  have allocated := counted.allocated.trans (counted.numbered.grows left taken)
  have bounded := counted.bounded
  cases step_change counted.numbered.indexed taken with
  | fired event firing ptr timer found identity log allocator live =>
      by_cases same : timer.timerId = timerId
      · obtain ⟨positive, total⟩ := counted.remaining ptr timer found same
        have once : next.calledTimes timerId = calls.calledTimes timerId + 1 := by
          simp [calledTimes, log, List.countP_append, identity, same]
        refine ⟨numbered, allocated, by omega, ?_⟩
        intro other otherTimer otherFound otherId
        rcases rearmed_cases live otherFound with ⟨-, unfinished, rfl⟩ | ⟨elsewhere, old⟩
        · simp only [Timer.rearm]
          rw [if_pos (by omega)]
          omega
        · -- an id has one live timer only
          have known := (counted.numbered.indexed.mapped timerId ptr).mpr ⟨timer, found, same⟩
          have again := (counted.numbered.indexed.mapped timerId other).mpr
            ⟨otherTimer, old, otherId⟩
          rw [known, Option.some.injEq] at again
          exact absurd again.symm elsewhere
      · have unchanged : next.calledTimes timerId = calls.calledTimes timerId := by
          simp [calledTimes, log, List.countP_append, identity, same]
        refine ⟨numbered, allocated, by omega, ?_⟩
        intro other otherTimer otherFound otherId
        rcases rearmed_cases live otherFound with ⟨-, -, rfl⟩ | ⟨-, old⟩
        · exact absurd otherId same
        · rw [unchanged]
          exact counted.remaining other otherTimer old otherId
  | added now timeoutMs timerCb newCallTimes log allocator live =>
      have unchanged : next.calledTimes timerId = calls.calledTimes timerId := by
        simp only [calledTimes, log]
      rw [nextTimerId_eq counted.numbered.nonneg left] at live
      refine ⟨numbered, allocated, unchanged ▸ bounded, ?_⟩
      intro ptr timer found timerIs
      rcases live ptr timer found with old | new
      · rw [unchanged]
        exact counted.remaining ptr timer old timerIs
      · rw [new.1] at timerIs
        exact absurd timerIs (counted.allocated.trans_lt (by linarith)).ne'
  | kept event log allocator live removed =>
      have unchanged : next.calledTimes timerId = calls.calledTimes timerId := by
        simp only [calledTimes, log]
      refine ⟨numbered, allocated, unchanged ▸ bounded, ?_⟩
      intro ptr timer found timerIs
      rw [unchanged]
      exact counted.remaining ptr timer (live ptr timer found) timerIs

theorem Numbered.addTimer_id (numbered : Numbered calls) {now : Timestamp} {timeoutMs callTimes : Int}
    {timerCb : Callback} (left : calls.heap.timerId + 1 < 2 ^ 63) :
    (calls.heap.addTimer now timeoutMs timerCb callTimes).1 = calls.heap.timerId + 1 := by
  have fresh := nextTimerId_eq numbered.nonneg left
  cases taken : calls.heap.timerMap (nextTimerId calls.heap.timerId) with
  | none =>
      simp only [addTimer, taken]
      exact fresh
  | some ptr =>
      obtain ⟨timer, found, identity⟩ := (numbered.indexed.mapped _ ptr).mp taken
      have bound := numbered.alive ptr timer found
      rw [identity, fresh] at bound
      exact absurd bound (not_le.mpr (lt_add_one _))

theorem Gone.removed {timerId : TimerId} (numbered : Numbered calls)
    (allocated : timerId ≤ calls.heap.timerId)
    (taken : calls.step (.removeTimer timerId) = some next) : Gone timerId calls.fired next := by
  have left : IdsLeft calls (.removeTimer timerId) := trivial
  have grown := numbered.grows left taken
  cases step_change numbered.indexed taken with
  | fired event firing ptr timer found identity log allocator live =>
      cases taken
      simp at log
  | kept event log allocator live removed =>
      exact ⟨numbered.step left taken, allocated.trans grown, removed timerId rfl, [],
        by rw [log, List.append_nil], by simp⟩

theorem Counted.added {now : Timestamp} {timeoutMs callTimes : Int} {timerCb : Callback}
    (numbered : Numbered calls)
    (left : IdsLeft calls (.addTimer now timeoutMs timerCb callTimes)) (finite : 1 ≤ callTimes)
    (taken : calls.step (.addTimer now timeoutMs timerCb callTimes) = some next) :
    Counted (calls.heap.timerId + 1) callTimes next := by
  have after : Numbered next := numbered.step left taken
  have fresh := nextTimerId_eq numbered.nonneg left
  have none : calls.calledTimes (calls.heap.timerId + 1) = 0 := by
    apply List.countP_eq_zero.mpr
    intro firing member
    have bound := numbered.past firing member
    simpa using (bound.trans_lt (lt_add_one _)).ne
  cases step_change numbered.indexed taken with
  | fired event firing ptr timer found identity log allocator live =>
      cases taken
      simp at log
  | added now timeoutMs timerCb callTimes log allocator live =>
      have unchanged : next.calledTimes (calls.heap.timerId + 1) = 0 := by
        simpa only [calledTimes, log] using none
      rw [fresh] at allocator live
      refine ⟨after, allocator.ge, by omega, ?_⟩
      intro ptr timer found identity
      rcases live ptr timer found with old | new
      · have bound := numbered.alive ptr timer old
        rw [identity] at bound
        exact absurd bound (not_le.mpr (lt_add_one _))
      · omega
  | kept event log allocator live removed =>
      cases taken
      rw [addTimer_timerId, fresh] at allocator
      exact absurd allocator (lt_add_one _).ne'

def Returned (events : List (TimerEvent Callback)) (timerId : TimerId) : Prop :=
  ∃ earlier now timeoutMs timerCb callTimes later adding,
    events = earlier ++ .addTimer now timeoutMs timerCb callTimes :: later ∧
      run TimerCalls.step start earlier = some adding ∧
      (adding.heap.addTimer now timeoutMs timerCb callTimes).1 = timerId

theorem numbered_run {events : List (TimerEvent Callback)}
    (reached : run TimerCalls.step start events = some calls)
    (left : Along TimerCalls.step IdsLeft start events) : Numbered calls :=
  run_invariant (fun numbered left taken => numbered.step left taken) start_numbered left reached

theorem Returned.allocated {events : List (TimerEvent Callback)} {timerId : TimerId}
    (returned : Returned events timerId) (reached : run TimerCalls.step start events = some calls)
    (left : Along TimerCalls.step IdsLeft start events) : timerId ≤ calls.heap.timerId := by
  rcases returned with
    ⟨earlier, now, timeoutMs, timerCb, callTimes, later, adding, cut, before, identity⟩
  rcases run_cut reached left cut with ⟨middle, added, first, firstLeft, here, taken, rest, restLeft⟩
  rw [before] at first
  cases first
  have numbered := numbered_run before firstLeft
  have known : timerId ≤ added.heap.timerId := by
    cases taken
    rw [← identity, numbered.addTimer_id here, addTimer_timerId,
      nextTimerId_eq numbered.nonneg here]
  have preserved {calls next : TimerCalls Callback} {event : TimerEvent Callback}
      (known : Numbered calls ∧ timerId ≤ calls.heap.timerId) (left : IdsLeft calls event)
      (taken : calls.step event = some next) : Numbered next ∧ timerId ≤ next.heap.timerId :=
    ⟨known.1.step left taken, known.2.trans (known.1.grows left taken)⟩
  exact (run_invariant preserved ⟨numbered.step here taken, known⟩ restLeft rest).2

/-- Whatever a run does, a timer that was removed is not called any more, and one that was added
for a number of calls is called no more often and is gone from the index with the last one. -/
theorem cancelled_and_finite {events : List (TimerEvent Callback)}
    (reached : run TimerCalls.step start events = some calls)
    (left : Along TimerCalls.step IdsLeft start events) :
    (∀ before after timerId, events = before ++ .removeTimer timerId :: after →
      Returned before timerId → ∃ removing later, run TimerCalls.step start before = some removing ∧
        calls.fired = removing.fired ++ later ∧ ∀ firing ∈ later, firing.timerId ≠ timerId) ∧
    (∀ before after now timeoutMs timerCb callTimes,
      events = before ++ .addTimer now timeoutMs timerCb callTimes :: after → 1 ≤ callTimes →
      ∃ adding, run TimerCalls.step start before = some adding ∧
        let timerId := (adding.heap.addTimer now timeoutMs timerCb callTimes).1
        (calls.calledTimes timerId : Int) ≤ callTimes ∧
          (calls.calledTimes timerId = callTimes → calls.heap.timerMap timerId = none)) := by
  constructor
  · intro before after timerId cut returned
    rcases run_cut reached left cut with
      ⟨removing, removed, first, firstLeft, -, taken, rest, restLeft⟩
    have gone := Gone.removed (numbered_run first firstLeft)
      (returned.allocated first firstLeft) taken
    have ended : Gone timerId removing.fired calls :=
      run_invariant (fun gone left taken => gone.step left taken) gone restLeft rest
    rcases ended.silent with ⟨later, since, others⟩
    exact ⟨removing, later, first, since, others⟩
  · intro before after now timeoutMs timerCb callTimes cut finite
    rcases run_cut reached left cut with
      ⟨adding, added, first, firstLeft, here, taken, rest, restLeft⟩
    have numbered := numbered_run first firstLeft
    have counted := Counted.added numbered here finite taken
    have ended : Counted (adding.heap.timerId + 1) callTimes calls :=
      run_invariant (fun counted left taken => counted.step left taken) counted restLeft rest
    refine ⟨adding, first, ?_⟩
    rw [numbered.addTimer_id here]
    refine ⟨ended.bounded, ?_⟩
    intro last
    cases known : calls.heap.timerMap (adding.heap.timerId + 1) with
    | none => rfl
    | some ptr =>
        obtain ⟨timer, found, identity⟩ := (ended.numbered.indexed.mapped _ ptr).mp known
        have remaining := ended.remaining ptr timer found identity
        omega

def removalInCallback : List (TimerEvent Unit) :=
  [.addTimer ⟨0, 0⟩ 1 () 2, .addTimer ⟨0, 0⟩ 1 () 2, .checkTimeout ⟨0, 5000000⟩, .removeTimer 1,
    .callbackReturns, .callbackReturns]

theorem cancelled_and_finite_inCallback :
    ∃ calls, run TimerCalls.step start removalInCallback = some calls ∧
      (∃ removing later, run TimerCalls.step start (removalInCallback.take 3) = some removing ∧
        calls.fired = removing.fired ++ later ∧ ∀ firing ∈ later, firing.timerId ≠ 1) ∧
      ∃ adding : TimerCalls Unit,
        run TimerCalls.step start (removalInCallback.take 1) = some adding ∧
        let timerId := (adding.heap.addTimer ⟨0, 0⟩ 1 () 2).1
        (calls.calledTimes timerId : Int) ≤ 2 ∧
          (calls.calledTimes timerId = (2 : Int) → calls.heap.timerMap timerId = none) := by
  have ran : ∃ calls, run TimerCalls.step start removalInCallback = some calls := ⟨_, rfl⟩
  obtain ⟨calls, reached⟩ := ran
  have left : Along TimerCalls.step IdsLeft start removalInCallback := by decide
  have returned : Returned (removalInCallback.take 3) 1 :=
    ⟨[], ⟨0, 0⟩, 1, (), 2, _, start, rfl, rfl, by decide⟩
  have both := cancelled_and_finite reached left
  exact ⟨calls, reached, both.1 _ _ 1 rfl returned,
    both.2 (removalInCallback.take 1) _ ⟨0, 0⟩ 1 () 2 rfl (by decide)⟩

end TimerCalls

end ZBlueNet
