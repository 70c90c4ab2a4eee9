import ZBlueNet.TimerAccess

/-!
The timers of a `TcpService` after `createService`. The service inherits the timer
heap of `IOService` and owns an `EpollService` with another one. `startTimer` fills
the heap that the event loop checks, `stopTimer` searches the inherited one.
-/

namespace ZBlueNet

open Runs TimerHeap

structure IOService (Callback : Type) where
  quit : Bool
  timerHeap : TimerHeap Callback

namespace IOService

variable {Callback : Type}

def create : IOService Callback := { quit := false, timerHeap := .empty }

def startTimer (service : IOService Callback) (now : Timestamp) (timeoutMs : Int)
    (timerCb : Callback) (callTimes : Int := -1) : TimerId × IOService Callback :=
  let added := service.timerHeap.addTimer now timeoutMs timerCb callTimes
  (added.1, { service with timerHeap := added.2 })

def stopTimer (service : IOService Callback) (timerId : TimerId) : IOService Callback :=
  { service with timerHeap := service.timerHeap.removeTimer timerId }

end IOService

structure TcpServiceTimers (Callback : Type) where
  ioService : IOService Callback
  epollService : IOService Callback

namespace TcpServiceTimers

variable {Callback : Type}

def createService : TcpServiceTimers Callback := { ioService := .create, epollService := .create }

def startTimer (service : TcpServiceTimers Callback) (now : Timestamp) (timeoutMs : Int)
    (timerCb : Callback) (callTimes : Int := -1) : TimerId × TcpServiceTimers Callback :=
  let started := service.epollService.startTimer now timeoutMs timerCb callTimes
  (started.1, { service with epollService := started.2 })

def stopTimer (service : TcpServiceTimers Callback) (timerId : TimerId) :
    TcpServiceTimers Callback :=
  { service with ioService := service.ioService.stopTimer timerId }

end TcpServiceTimers

/-- The callback of a timer is its position in `started`, the list of the returned ids. `stopped`
has the timers whose id was given to `stopTimer`, `late` those of them that were called later. -/
structure ServiceTimerRun where
  service : TcpServiceTimers Nat
  checking : Option Timestamp
  started : List TimerId
  stopped : List Nat
  late : List Nat

inductive ServiceTimerEvent
  | startTimer (now : Timestamp) (timeoutMs callTimes : Int)
  | stopTimer (timerId : TimerId)
  | loop (failed : Bool) (now : Timestamp)
  | callbackReturns
deriving DecidableEq, Repr

namespace ServiceTimerRun

def start : ServiceTimerRun :=
  { service := .createService, checking := none, started := [], stopped := [], late := [] }

def setHeap (s : ServiceTimerRun) (heap : TimerHeap Nat) : ServiceTimerRun :=
  { s with service :=
      { s.service with epollService := { s.service.epollService with timerHeap := heap } } }

/-- `checkTimeout` of the epoll service up to its next callback, or to its return. -/
def turn (s : ServiceTimerRun) (now : Timestamp) : ServiceTimerRun :=
  match s.service.epollService.timerHeap.checkTurn now with
  | none => { s with checking := none }
  | some (firing, heap) =>
      { s.setHeap heap with
        checking := some now
        late := if firing.timerCb ∈ s.stopped then s.late ++ [firing.timerCb] else s.late }

def step (s : ServiceTimerRun) : ServiceTimerEvent → Option ServiceTimerRun
  | .startTimer now timeoutMs callTimes =>
      let result := s.service.startTimer now timeoutMs s.started.length callTimes
      some { s with service := result.2, started := s.started ++ [result.1] }
  | .stopTimer timerId =>
      some { s with
        service := s.service.stopTimer timerId
        stopped := s.stopped ++
          (List.range s.started.length).filter fun timer => s.started[timer]? = some timerId }
  | .loop failed now =>
      if s.checking = none ∧ s.service.epollService.quit = false then
        if failed then
          some { s with service :=
            { s.service with epollService := { s.service.epollService with quit := true } } }
        else some (s.turn now)
      else none
  | .callbackReturns =>
      match s.checking with
      | none => none
      | some now => some (s.turn now)

def Cancelled (s : ServiceTimerRun) : Prop := s.late = []

/-- A timer is only stopped when it has had its last call. -/
def StopsEnded (s : ServiceTimerRun) : ServiceTimerEvent → Prop
  | .stopTimer timerId => s.service.epollService.timerHeap.timerMap timerId = none
  | _ => True

structure Unstopped (s : ServiceTimerRun) : Prop where
  indexed : Indexed s.service.epollService.timerHeap
  named : ∀ ptr timer, s.service.epollService.timerHeap.live ptr = some timer →
    s.started[timer.timerCb]? = some timer.timerId
  running : ∀ ptr timer, s.service.epollService.timerHeap.live ptr = some timer →
    timer.timerCb ∉ s.stopped
  known : ∀ timer ∈ s.stopped, timer < s.started.length
  cancelled : Cancelled s

variable {s next : ServiceTimerRun} {event : ServiceTimerEvent}

theorem Unstopped.turn (unstopped : Unstopped s) (now : Timestamp) : Unstopped (s.turn now) := by
  simp only [ServiceTimerRun.turn]
  cases turned : s.service.epollService.timerHeap.checkTurn now with
  | none =>
      exact ⟨unstopped.indexed, unstopped.named, unstopped.running, unstopped.known,
        unstopped.cancelled⟩
  | some result =>
      obtain ⟨ptr, timer, fired⟩ := unstopped.indexed.checkTurn_some turned
      have before (other : TimerPtr) (otherTimer : Timer Nat)
          (found : result.2.live other = some otherTimer) :
          ∃ same, s.service.epollService.timerHeap.live other = some same ∧
            same.timerCb = otherTimer.timerCb ∧ same.timerId = otherTimer.timerId := by
        rcases rearmed_cases fired.live found with ⟨rfl, -, rfl⟩ | ⟨-, old⟩
        · exact ⟨timer, fired.found, rfl, rfl⟩
        · exact ⟨otherTimer, old, rfl, rfl⟩
      have called : result.1.timerCb = timer.timerCb := by rw [fired.firing]
      have silent : result.1.timerCb ∉ s.stopped := by
        rw [called]
        exact unstopped.running ptr timer fired.found
      refine ⟨fired.indexed, ?_, ?_, unstopped.known, ?_⟩
      · intro other otherTimer found
        obtain ⟨same, old, callback, identity⟩ := before other otherTimer found
        rw [← callback, ← identity]
        exact unstopped.named other same old
      · intro other otherTimer found
        obtain ⟨same, old, callback, -⟩ := before other otherTimer found
        rw [← callback]
        exact unstopped.running other same old
      · simp only [Cancelled]
        rw [if_neg silent]
        exact unstopped.cancelled

theorem Unstopped.startTimer (unstopped : Unstopped s) (now : Timestamp)
    (timeoutMs callTimes : Int) (taken : s.step (.startTimer now timeoutMs callTimes) = some next) :
    Unstopped next := by
  obtain ⟨indexed, -, outcome⟩ := unstopped.indexed.addTimer now timeoutMs s.started.length callTimes
  have later (ptr : TimerPtr) (timer : Timer Nat) (id : TimerId)
      (old : s.service.epollService.timerHeap.live ptr = some timer) :
      (s.started ++ [id])[timer.timerCb]? = some timer.timerId := by
    have found := unstopped.named ptr timer old
    obtain ⟨bound, -⟩ := List.getElem?_eq_some_iff.mp found
    rw [List.getElem?_append_left bound, found]
  have known (id : TimerId) : ∀ timer ∈ s.stopped, timer < (s.started ++ [id]).length := by
    intro timer member
    have bound := unstopped.known timer member
    rw [List.length_append]
    omega
  cases taken
  obtain ⟨-, live, -⟩ | ⟨returned, -⟩ := outcome
  · refine ⟨indexed, ?_, ?_, known _, unstopped.cancelled⟩
    · intro ptr timer found
      exact later ptr timer _ (live ▸ found)
    · intro ptr timer found
      exact unstopped.running ptr timer (live ▸ found)
  · refine ⟨indexed, ?_, ?_, known _, unstopped.cancelled⟩
    · intro ptr timer found
      rcases unstopped.indexed.addTimer_live found with ⟨-, rfl⟩ | old
      · simp [TcpServiceTimers.startTimer, IOService.startTimer, returned, Timer.create,
          Timer.unplaced]
      · exact later ptr timer _ old
    · intro ptr timer found
      rcases unstopped.indexed.addTimer_live found with ⟨-, rfl⟩ | old
      · intro member
        exact absurd (unstopped.known _ member) (lt_irrefl _)
      · exact unstopped.running ptr timer old

theorem Unstopped.stopTimer (unstopped : Unstopped s) {timerId : TimerId}
    (ended : StopsEnded s (.stopTimer timerId))
    (taken : s.step (.stopTimer timerId) = some next) : Unstopped next := by
  cases taken
  refine ⟨unstopped.indexed, unstopped.named, ?_, ?_, unstopped.cancelled⟩
  · intro ptr timer found
    rw [List.mem_append, List.mem_filter, decide_eq_true_eq]
    rintro (old | ⟨-, stopped⟩)
    · exact unstopped.running ptr timer found old
    · rw [unstopped.named ptr timer found, Option.some.injEq] at stopped
      have present := (unstopped.indexed.mapped timerId ptr).mpr ⟨timer, found, stopped⟩
      rw [show s.service.epollService.timerHeap.timerMap timerId = none from ended] at present
      cases present
  · intro timer member
    rw [List.mem_append, List.mem_filter, List.mem_range] at member
    rcases member with old | new
    · exact unstopped.known timer old
    · exact new.1

theorem Unstopped.step (unstopped : Unstopped s) (ended : StopsEnded s event)
    (taken : s.step event = some next) : Unstopped next := by
  cases event with
  | startTimer now timeoutMs callTimes => exact unstopped.startTimer now timeoutMs callTimes taken
  | stopTimer timerId => exact unstopped.stopTimer ended taken
  | loop failed now =>
      simp only [ServiceTimerRun.step] at taken
      split at taken
      · split at taken
        · cases taken
          exact ⟨unstopped.indexed, unstopped.named, unstopped.running, unstopped.known,
            unstopped.cancelled⟩
        · cases taken
          exact unstopped.turn now
      · cases taken
  | callbackReturns =>
      simp only [ServiceTimerRun.step] at taken
      split at taken
      · cases taken
      · cases taken
        exact unstopped.turn _

/-- `stopTimer` has no effect on the event loop, so a run is fine when it stops only timers that
have ended by themselves. -/
theorem cancelled_every (events : List ServiceTimerEvent)
    (ended : Along step StopsEnded start events) : Every step Cancelled start events := by
  have initial : Unstopped start :=
    ⟨empty_indexed, by simp [start, TcpServiceTimers.createService, IOService.create, live,
      TimerHeap.empty], by simp [start], by simp [start], rfl⟩
  have every : Every step Unstopped start events :=
    every_of_invariant (fun unstopped ended taken => unstopped.step ended taken) initial ended
  exact every.mono fun unstopped => unstopped.cancelled

instance : DecidablePred Cancelled := fun s => inferInstanceAs (Decidable (s.late = []))

instance (s : ServiceTimerRun) : DecidablePred (StopsEnded s)
  | .stopTimer timerId =>
      inferInstanceAs (Decidable (s.service.epollService.timerHeap.timerMap timerId = none))
  | .startTimer .. | .loop .. | .callbackReturns => .isTrue trivial

theorem cancelled_every_ended :
    Every step Cancelled start
      [.startTimer ⟨0, 0⟩ 10 1, .loop false ⟨1, 0⟩, .callbackReturns, .stopTimer 1,
        .loop false ⟨2, 0⟩] :=
  cancelled_every _ (by decide)

theorem stoppedTimer_breaks :
    ¬Every step Cancelled start
      [.startTimer ⟨0, 0⟩ 10 1, .stopTimer 1, .loop false ⟨1, 0⟩] := by
  decide

end ServiceTimerRun

end ZBlueNet
