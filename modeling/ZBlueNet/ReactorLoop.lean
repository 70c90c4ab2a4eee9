import ZBlueNet.NetThreadCore
import ZBlueNet.ReceiveStream
import ZBlueNet.Lib.Runs

/-!
`EpollReactor::loop` in the thread of a `NetThread`, while other threads push commands
and attach sockets. `IOService` and `Reactor` each have a flag `quit_`: `quit` sets the
first, the loop tests the second.
-/

namespace ZBlueNet

open Runs

inductive LoopPoint
  | entered
  | guard
  | waiting
  | dispatching
  | popping
  | timers
  | exited
deriving DecidableEq, Repr

/-- `quitCalled` notes that `onNetCommand` has popped the null pointer. -/
structure LoopRun (Callback Message : Type) where
  thread : NetThread Callback Message
  point : LoopPoint
  quitCalled : Bool

inductive LoopEvent (Message : Type)
  | enter
  | guard
  | doEvent (failed : Bool)
  | onSocketRead (socketId : SocketId) (answers : List EpollReactor.RecvAnswer)
  | onSocketWrite (socketId : SocketId) (env : SendEnv)
  | onSocketError (socketId : SocketId) (socketError : Int)
  | pipeReadCallback
  | onNetCommand (env : SocketId → SendEnv)
  | dispatched
  | checkTimeout (now : Timestamp)
  | push (cmd : Option (NetCommand Message))
  | attach (socketId : SocketId) (granted : Bool)

namespace EpollReactor

def flags (r : EpollReactor) : Bool × Bool := (r.ioServiceQuit, r.quit)

variable {r : EpollReactor} {id : SocketId}

@[simp] theorem detachIOService_flags : (r.detachIOService id).flags = r.flags := by
  simp only [detachIOService]
  split
  · rfl
  · split <;> rfl

@[simp] theorem closeSocket_flags : (r.closeSocket id).flags = r.flags := by
  simp only [closeSocket]
  split
  · rfl
  · exact detachIOService_flags

@[simp] theorem attachSocket_flags (socket : TcpSocket) (granted : Bool) :
    (r.attachSocket id socket granted).2.flags = r.flags := by
  simp only [attachSocket]
  split
  · rfl
  · split <;> rfl

@[simp] theorem runSendComplete_flags (sendCompleteCb : Option SendCompleteCallback) :
    (r.runSendComplete id sendCompleteCb).1.flags = r.flags := by
  rcases sendCompleteCb with _ | close | token
  · rfl
  · exact closeSocket_flags
  · rfl

@[simp] theorem bufferRemaining_flags (connection : TcpConnection) (buffer : List UInt8)
    (remainSize : Nat) (sendCompleteCb : Option SendCompleteCallback) (now : Timestamp) :
    (r.bufferRemaining connection buffer remainSize sendCompleteCb now).2.1.flags = r.flags := by
  simp only [bufferRemaining]
  split
  · split <;> rfl
  · exact runSendComplete_flags sendCompleteCb

@[simp] theorem sendMessage_flags (buffer : List UInt8)
    (sendCompleteCb : Option SendCompleteCallback) (env : SendEnv) :
    (r.sendMessage id buffer sendCompleteCb env).2.1.flags = r.flags := by
  simp only [sendMessage]
  split
  · rfl
  · simp only [sendConnection]
    split
    · rfl
    · split
      · split
        · split
          · rfl
          · exact bufferRemaining_flags ..
        · exact bufferRemaining_flags ..
      · exact bufferRemaining_flags ..

@[simp] theorem onSocketWrite_flags (env : SendEnv) :
    (r.onSocketWrite id env).1.flags = r.flags := by
  simp only [onSocketWrite]
  split
  · rfl
  · split
    · split <;> rfl
    · split
      · exact runSendComplete_flags _
      · rfl

@[simp] theorem onSendMessageError_flags (timerId : TimerId) :
    (r.onSendMessageError timerId).1.flags = r.flags := by
  simp only [onSendMessageError]
  split
  · rfl
  · split <;> rfl

@[simp] theorem onSocketError_flags (socketError : Int) :
    (r.onSocketError id socketError).1.flags = r.flags := by
  simp only [onSocketError]
  split <;> rfl

@[simp] theorem onSocketReadPeerClose_flags : (r.onSocketReadPeerClose id).1.flags = r.flags := by
  simp only [onSocketReadPeerClose]
  split <;> rfl

theorem onSocketReadLoop_flags {answers : List RecvAnswer}
    {outcome : ReadEnd × EpollReactor × List ReactorCall}
    (ended : r.onSocketReadLoop id answers = some outcome) : outcome.2.1.flags = r.flags := by
  simp only [onSocketReadLoop] at ended
  split at ended
  · cases ended
  · split at ended
    · cases ended
    · cases ended
      rfl
    · cases ended
      rfl

end EpollReactor

namespace NetThread

variable {Callback Message : Type} {thread : NetThread Callback Message} {id : SocketId}
  {outcome : NetThread Callback Message × Handed Callback Message}

theorem attach_flags {granted : Bool} (attached : thread.attach id granted = some outcome) :
    outcome.1.reactor.flags = thread.reactor.flags := by
  simp only [attach, Option.map_eq_some_iff] at attached
  rcases attached with ⟨handed, -, rfl⟩
  exact EpollReactor.attachSocket_flags .create granted

theorem closeSocket_flags (closed : thread.closeSocket id = some outcome) :
    outcome.1.reactor.flags = thread.reactor.flags := by
  simp only [closeSocket, Option.map_eq_some_iff] at closed
  rcases closed with ⟨handed, -, rfl⟩
  exact EpollReactor.closeSocket_flags

theorem broadcast_flags (env : SocketId → SendEnv) (ids : List SocketId) :
    (ids.foldl (fun t id => t.sendEncoded env id) thread).reactor.flags =
      thread.reactor.flags := by
  induction ids generalizing thread with
  | nil => rfl
  | cons id ids ih =>
      rw [List.foldl_cons, ih]
      exact EpollReactor.sendMessage_flags ..

variable [BaseStruct Message] {server : GameServer Message}

theorem handleNetCommand_flags {env : SocketId → SendEnv} {cmd : NetCommand Message}
    (handled : thread.handleNetCommand env cmd = some outcome) :
    outcome.1.reactor.flags = thread.reactor.flags := by
  cases handleNetCommand_turn handled with
  | broadcast message => exact broadcast_flags env thread.broadcastList
  | close => exact EpollReactor.closeSocket_flags
  | send message => exact EpollReactor.sendMessage_flags ..
  | lose message type connected carried unwritten closed =>
      have flags := closeSocket_flags closed
      exact flags
  | unwritten | unconnected | enable | disable | new => rfl

theorem onRecvMessage_flags (received : thread.onRecvMessage server id = some outcome) :
    outcome.1.reactor.flags = thread.reactor.flags := by
  simp only [onRecvMessage] at received
  split at received
  · cases received
    rfl
  · split at received
    · cases received
      rfl
    · rw [Option.map_eq_some_iff] at received
      rcases received with ⟨closed, closing, rfl⟩
      have unchanged := closeSocket_flags closing
      exact unchanged
    · cases received
    · cases received

theorem onReactorCalls_flags {calls : List ReactorCall}
    (called : thread.onReactorCalls server calls = some outcome) :
    outcome.1.reactor.flags = thread.reactor.flags := by
  induction calls generalizing thread outcome with
  | nil =>
      cases called
      rfl
  | cons call calls ih =>
      simp only [onReactorCalls, Option.bind_eq_some_iff, Option.map_eq_some_iff] at called
      rcases called with ⟨first, now, rest, later, rfl⟩
      have once : first.1.reactor.flags = thread.reactor.flags := by
        cases call with
        | errorCb => exact closeSocket_flags now
        | peerCloseCb => exact closeSocket_flags now
        | recvMessageCb => exact onRecvMessage_flags now
        | sendCompleteCb =>
            cases now
            rfl
      exact (ih later).trans once

theorem afterReactor_flags {returned : EpollReactor × List ReactorCall}
    (called : thread.afterReactor server returned = some outcome) :
    outcome.1.reactor.flags = returned.1.flags :=
  onReactorCalls_flags called

theorem onSocketRead_flags {answers : List EpollReactor.RecvAnswer}
    (read : thread.onSocketRead server id answers = some outcome) :
    outcome.1.reactor.flags = thread.reactor.flags := by
  simp only [onSocketRead, Option.bind_eq_some_iff] at read
  rcases read with ⟨ended, loop, received, called, finish⟩
  have looped := EpollReactor.onSocketReadLoop_flags loop
  have handed := afterReactor_flags called
  split at finish
  · rw [Option.map_eq_some_iff] at finish
    rcases finish with ⟨closed, closing, rfl⟩
    rw [afterReactor_flags closing, EpollReactor.onSocketReadPeerClose_flags, handed, looped]
  · cases finish
    rw [handed, looped]
  · cases finish
    rw [handed, looped]

end NetThread

namespace LoopRun

variable {Callback Message : Type}

def start (thread : NetThread Callback Message) : LoopRun Callback Message :=
  { thread := thread, point := .entered, quitCalled := false }

def setReactor (s : LoopRun Callback Message) (reactor : EpollReactor) :
    LoopRun Callback Message :=
  { s with thread := { s.thread with reactor := reactor } }

/-- The test of `while (!quit_)`, by the flag that this name means in `EpollReactor`. -/
def guardHolds (s : LoopRun Callback Message) : Bool := !s.thread.reactor.quit

/-- A device callback of `doEvent` that returned; `none` is one that did not. -/
def dispatch (s : LoopRun Callback Message)
    (outcome : Option (NetThread Callback Message × NetThread.Handed Callback Message)) :
    Option (LoopRun Callback Message) :=
  match s.point with
  | .dispatching => outcome.map fun returned => { s with thread := returned.1 }
  | _ => none

/-- Inside the loop the flag that the guard tests is down, whatever `quit` has set. -/
structure Running (s : LoopRun Callback Message) : Prop where
  quit : s.point ≠ .entered → s.point ≠ .exited → s.thread.reactor.quit = false
  told : s.quitCalled = true → s.thread.reactor.ioServiceQuit = true

section Flags

variable {s next : LoopRun Callback Message}

theorem Running.of_flags (running : Running s)
    (flags : next.thread.reactor.flags = s.thread.reactor.flags)
    (inside : next.point ≠ .entered → next.point ≠ .exited →
      s.point ≠ .entered ∧ s.point ≠ .exited)
    (quitCalled : next.quitCalled = s.quitCalled) : Running next := by
  rw [EpollReactor.flags, EpollReactor.flags, Prod.mk.injEq] at flags
  constructor
  · intro notEntered notExited
    rw [flags.2]
    exact running.quit (inside notEntered notExited).1 (inside notEntered notExited).2
  · rw [quitCalled, flags.1]
    exact running.told

theorem Running.dispatch (running : Running s)
    {outcome : Option (NetThread Callback Message × NetThread.Handed Callback Message)}
    (flags : ∀ returned, outcome = some returned →
      returned.1.reactor.flags = s.thread.reactor.flags)
    (taken : s.dispatch outcome = some next) : Running next := by
  simp only [LoopRun.dispatch] at taken
  split at taken
  · rw [Option.map_eq_some_iff] at taken
    rcases taken with ⟨returned, found, rfl⟩
    exact running.of_flags (flags returned found) (fun entered exited => ⟨entered, exited⟩) rfl
  · cases taken

end Flags

section Steps

variable [BaseStruct Message]

def popCommand (s : LoopRun Callback Message) (env : SocketId → SendEnv) :
    Option (LoopRun Callback Message) :=
  match s.thread.commandQueue.pop with
  | none => some { s with point := .dispatching }
  | some (none, rest) =>
      some { thread := { s.thread with commandQueue := rest }.quit
             point := .dispatching
             quitCalled := true }
  | some (some cmd, rest) =>
      let taken := { s.thread with commandQueue := rest }
      (taken.handleNetCommand env cmd).map fun handled => { s with thread := handled.1 }

def timerTurn (server : GameServer Message) (s : LoopRun Callback Message) (now : Timestamp) :
    Option (LoopRun Callback Message) :=
  match s.thread.reactor.timerHeap.checkTurn now with
  | none => some { s with point := .guard }
  | some (firing, heap) =>
      let fired := s.setReactor { s.thread.reactor with timerHeap := heap }
      match firing.timerCb with
      | .sendMessageError =>
          (fired.thread.afterReactor server
            (fired.thread.reactor.onSendMessageError firing.timerId)).map fun returned =>
              { fired with thread := returned.1 }
      | .user _ => some fired

def step (server : GameServer Message) (pipeCapacity : Nat) (s : LoopRun Callback Message) :
    LoopEvent Message → Option (LoopRun Callback Message)
  | .enter =>
      match s.point with
      | .entered => some { s.setReactor { s.thread.reactor with quit := false } with point := .guard }
      | _ => none
  | .guard =>
      match s.point with
      | .guard => some { s with point := if s.guardHolds then .waiting else .exited }
      | _ => none
  | .doEvent failed =>
      match s.point with
      | .waiting =>
          if failed then
            some { s.setReactor { s.thread.reactor with quit := true } with point := .exited }
          else some { s with point := .dispatching }
      | _ => none
  | .onSocketRead socketId answers =>
      s.dispatch (s.thread.onSocketRead server socketId answers)
  | .onSocketWrite socketId env =>
      s.dispatch (s.thread.afterReactor server (s.thread.reactor.onSocketWrite socketId env))
  | .onSocketError socketId socketError =>
      s.dispatch (s.thread.afterReactor server
        (s.thread.reactor.onSocketError socketId socketError))
  | .pipeReadCallback =>
      match s.point with
      | .dispatching =>
          if s.thread.commandQueue.pipe > 0 then
            some { s with
              thread := { s.thread with commandQueue := { s.thread.commandQueue with pipe := 0 } }
              point := .popping }
          else none
      | _ => none
  | .onNetCommand env =>
      match s.point with
      | .popping => s.popCommand env
      | _ => none
  | .dispatched =>
      match s.point with
      | .dispatching => some { s with point := .timers }
      | _ => none
  | .checkTimeout now =>
      match s.point with
      | .timers => s.timerTurn server now
      | _ => none
  | .push cmd =>
      some { s with thread :=
        { s.thread with commandQueue := s.thread.commandQueue.push pipeCapacity cmd } }
  | .attach socketId granted =>
      (s.thread.attach socketId granted).map fun attached => { s with thread := attached.1 }

variable {server : GameServer Message} {pipeCapacity : Nat} {s next : LoopRun Callback Message}
  {event : LoopEvent Message}

theorem Running.popCommand (running : Running s) (popping : s.point = .popping)
    {env : SocketId → SendEnv} (taken : s.popCommand env = some next) : Running next := by
  simp only [LoopRun.popCommand] at taken
  split at taken
  · cases taken
    exact running.of_flags rfl (fun _ _ => by simp [popping]) rfl
  · cases taken
    refine ⟨?_, fun _ => rfl⟩
    intro _ _
    exact running.quit (by simp [popping]) (by simp [popping])
  · rw [Option.map_eq_some_iff] at taken
    rcases taken with ⟨handled, found, rfl⟩
    have flags := NetThread.handleNetCommand_flags found
    exact running.of_flags flags (fun entered exited => ⟨entered, exited⟩) rfl

theorem Running.timerTurn (running : Running s) (timers : s.point = .timers) {now : Timestamp}
    (taken : s.timerTurn server now = some next) : Running next := by
  simp only [LoopRun.timerTurn] at taken
  split at taken
  · cases taken
    exact running.of_flags rfl (fun _ _ => by simp [timers]) rfl
  · split at taken
    · rw [Option.map_eq_some_iff] at taken
      rcases taken with ⟨returned, found, rfl⟩
      have flags := NetThread.afterReactor_flags found
      rw [EpollReactor.onSendMessageError_flags] at flags
      exact running.of_flags flags (fun entered exited => ⟨entered, exited⟩) rfl
    · cases taken
      exact running.of_flags rfl (fun entered exited => ⟨entered, exited⟩) rfl

theorem Running.step (running : Running s)
    (taken : s.step server pipeCapacity event = some next) : Running next := by
  cases event with
  | enter =>
      simp only [LoopRun.step] at taken
      split at taken
      · cases taken
        exact ⟨fun _ _ => rfl, running.told⟩
      · cases taken
  | guard =>
      simp only [LoopRun.step] at taken
      split at taken
      · rename_i guard
        cases taken
        exact running.of_flags rfl (fun _ _ => by simp [guard]) rfl
      · cases taken
  | doEvent failed =>
      simp only [LoopRun.step] at taken
      split at taken
      · rename_i waiting
        split at taken
        · cases taken
          exact ⟨fun _ exited => absurd rfl exited, running.told⟩
        · cases taken
          exact running.of_flags rfl (fun _ _ => by simp [waiting]) rfl
      · cases taken
  | onSocketRead socketId answers =>
      exact running.dispatch (fun _ found => NetThread.onSocketRead_flags found) taken
  | onSocketWrite socketId env =>
      refine running.dispatch (fun _ found => ?_) taken
      rw [NetThread.afterReactor_flags found, EpollReactor.onSocketWrite_flags]
  | onSocketError socketId socketError =>
      refine running.dispatch (fun _ found => ?_) taken
      rw [NetThread.afterReactor_flags found, EpollReactor.onSocketError_flags]
  | pipeReadCallback =>
      simp only [LoopRun.step] at taken
      split at taken
      · rename_i dispatching
        split at taken
        · cases taken
          exact running.of_flags rfl (fun _ _ => by simp [dispatching]) rfl
        · cases taken
      · cases taken
  | onNetCommand env =>
      simp only [LoopRun.step] at taken
      split at taken
      · rename_i popping
        exact running.popCommand popping taken
      · cases taken
  | dispatched =>
      simp only [LoopRun.step] at taken
      split at taken
      · rename_i dispatching
        cases taken
        exact running.of_flags rfl (fun _ _ => by simp [dispatching]) rfl
      · cases taken
  | checkTimeout now =>
      simp only [LoopRun.step] at taken
      split at taken
      · rename_i timers
        exact running.timerTurn timers taken
      · cases taken
  | push cmd =>
      cases taken
      exact running.of_flags rfl (fun entered exited => ⟨entered, exited⟩) rfl
  | attach socketId granted =>
      simp only [LoopRun.step, Option.map_eq_some_iff] at taken
      rcases taken with ⟨attached, found, rfl⟩
      exact running.of_flags (NetThread.attach_flags found)
        (fun entered exited => ⟨entered, exited⟩) rfl

/-- Whenever the guard is tested after `quit`, the loop goes on; only the other flag is up. -/
theorem quit_ignored (server : GameServer Message) (pipeCapacity : Nat)
    {thread : NetThread Callback Message} {events : List (LoopEvent Message)}
    (reached : run (LoopRun.step server pipeCapacity) (start thread) events = some s)
    (quitCalled : s.quitCalled = true) (guard : s.point = .guard) :
    s.guardHolds = true ∧ s.thread.reactor.ioServiceQuit = true ∧
      ∃ next, s.step server pipeCapacity .guard = some next ∧ next.point = .waiting := by
  have running : Running s := by
    refine run_invariant (fun running _ taken => Running.step running taken) ?_
      (along_always _ events) reached
    exact ⟨fun entered => absurd rfl entered, fun told => nomatch told⟩
  have down : s.thread.reactor.quit = false := running.quit (by simp [guard]) (by simp [guard])
  have holds : s.guardHolds = true := by rw [guardHolds, down]; rfl
  refine ⟨holds, running.told quitCalled, { s with point := .waiting }, ?_, rfl⟩
  simp only [LoopRun.step, guard, holds, if_true]

theorem exit_cause (taken : s.step server pipeCapacity event = some next)
    (exited : next.point = .exited) :
    s.point = .exited ∨ (s.point = .guard ∧ s.guardHolds = false) ∨ event = .doEvent true := by
  cases event with
  | guard =>
      simp only [LoopRun.step] at taken
      grind
  | doEvent failed =>
      cases failed
      · simp only [LoopRun.step] at taken
        grind
      · exact .inr (.inr rfl)
  | onNetCommand env =>
      simp only [LoopRun.step, popCommand] at taken
      grind [Option.map_eq_some_iff]
  | checkTimeout now =>
      simp only [LoopRun.step, timerTurn, setReactor] at taken
      grind [Option.map_eq_some_iff]
  | _ =>
      simp only [LoopRun.step, LoopRun.dispatch, setReactor] at taken
      grind [Option.map_eq_some_iff]

theorem never_exits {thread : NetThread Callback Message} {events : List (LoopEvent Message)}
    (working : ∀ event ∈ events, event ≠ .doEvent true)
    (reached : run (LoopRun.step server pipeCapacity) (start thread) events = some s) :
    s.point ≠ .exited := by
  have preserved {s next : LoopRun Callback Message} {event : LoopEvent Message}
      (inside : Running s ∧ s.point ≠ .exited) (works : event ≠ .doEvent true)
      (taken : s.step server pipeCapacity event = some next) :
      Running next ∧ next.point ≠ .exited := by
    refine ⟨inside.1.step taken, ?_⟩
    intro exited
    rcases exit_cause taken exited with left | ⟨guard, down⟩ | failed
    · exact inside.2 left
    · rw [guardHolds, inside.1.quit (by simp [guard]) inside.2] at down
      cases down
    · exact works failed
  have start : Running (start thread : LoopRun Callback Message) ∧
      (start thread : LoopRun Callback Message).point ≠ .exited :=
    ⟨⟨fun entered => absurd rfl entered, fun told => nomatch told⟩, fun exited => nomatch exited⟩
  exact (run_invariant preserved start (Along.of_forall working _) reached).2

def idleThread : NetThread Unit RawMessage :=
  ((NetThread.create 40960 40960 (rawServer 40960).netProtocol.createMessageFunc).init 0 81920 409600
    (some ()) true).2

def stopRun : List (LoopEvent RawMessage) :=
  [.enter, .push none, .guard, .doEvent false, .pipeReadCallback,
    .onNetCommand fun _ => { result := .count 0, now := ⟨0, 0⟩ }, .dispatched, .checkTimeout ⟨0, 0⟩]

theorem stopRun_goesOn :
    ((run (LoopRun.step (rawServer 40960) 65536) (start idleThread) stopRun).map fun s =>
      (s.quitCalled, s.point, s.guardHolds)) = some (true, .guard, true) := by
  decide +kernel

theorem quit_ignored_stopRun :
    ∃ s, run (LoopRun.step (rawServer 40960) 65536) (start idleThread) stopRun = some s ∧
      s.guardHolds = true ∧ s.thread.reactor.ioServiceQuit = true ∧
        ∃ next, s.step (rawServer 40960) 65536 .guard = some next ∧ next.point = .waiting := by
  have ended : ∃ s, run (LoopRun.step (rawServer 40960) 65536) (start idleThread) stopRun = some s ∧
      s.quitCalled = true ∧ s.point = .guard := ⟨_, rfl, rfl, rfl⟩
  rcases ended with ⟨s, reached, quitCalled, guard⟩
  exact ⟨s, reached, quit_ignored (rawServer 40960) 65536 reached quitCalled guard⟩

end Steps

end LoopRun

end ZBlueNet
