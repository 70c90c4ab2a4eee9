import ZBlueNet.NetThreadDeeds
import ZBlueNet.Lib.Runs

/-!
The command queue of a `NetThread`: any number of threads push commands, and the
reactor thread drains the pipe and then takes commands until the queue is empty or
the null pointer ends its loop. The steps of all threads interleave.
-/

namespace ZBlueNet

open Runs

inductive CommandReader (Message : Type)
  | idle
  | draining
  | popping
  | handling (cmd : NetCommand Message)

/-- `pushing` tells which threads are between the halves of `push`, `quitting` that the null pointer
has been popped. -/
structure CommandRun (Thread Callback Message : Type) where
  thread : NetThread Callback Message
  pushing : Thread → Bool
  reader : CommandReader Message
  quitting : Bool

inductive CommandEvent (Thread Message : Type)
  | enqueue (thread : Thread) (cmd : Option (NetCommand Message))
  | pipeWrite (thread : Thread)
  | wake
  | pipeRead
  | pop
  | handle (env : SocketId → SendEnv)

namespace CommandRun

variable {Thread Callback Message : Type}

def start (thread : NetThread Callback Message) : CommandRun Thread Callback Message :=
  { thread := thread, pushing := fun _ => false, reader := .idle, quitting := false }

def setCommandQueue (s : CommandRun Thread Callback Message)
    (commandQueue : MessageQueue (Option (NetCommand Message))) :
    CommandRun Thread Callback Message :=
  { s with thread := { s.thread with commandQueue := commandQueue } }

def step [DecidableEq Thread] [BaseStruct Message] (capacity : Nat)
    (s : CommandRun Thread Callback Message) :
    CommandEvent Thread Message → Option (CommandRun Thread Callback Message)
  | .enqueue thread cmd =>
      if s.pushing thread then none
      else some { s.setCommandQueue (s.thread.commandQueue.enqueue cmd) with
        pushing := Function.update s.pushing thread true }
  | .pipeWrite thread =>
      if s.pushing thread then some { s.setCommandQueue (s.thread.commandQueue.pipeWrite capacity) with
        pushing := Function.update s.pushing thread false }
      else none
  | .wake =>
      match s.reader with
      | .idle => if s.thread.commandQueue.pipe > 0 then some { s with reader := .draining } else none
      | _ => none
  | .pipeRead =>
      match s.reader with
      | .draining =>
          if s.thread.commandQueue.pipeRead.1 > 0 then
            some (s.setCommandQueue s.thread.commandQueue.pipeRead.2)
          else some { s with reader := .popping }
      | _ => none
  | .pop =>
      match s.reader with
      | .popping =>
          match s.thread.commandQueue.pop with
          | none => some { s with reader := .idle }
          | some (none, rest) =>
              let popped := s.setCommandQueue rest
              some { popped with thread := popped.thread.quit, reader := .idle, quitting := true }
          | some (some cmd, rest) => some { s.setCommandQueue rest with reader := .handling cmd }
      | _ => none
  | .handle env =>
      match s.reader with
      | .handling cmd =>
          (s.thread.handleNetCommand env cmd).map fun outcome =>
            { s with thread := outcome.1, reader := .popping }
      | _ => none

/-- Between pushes and outside the callback, waiting commands have a byte in the pipe; the null
pointer ends this. -/
def Awake (s : CommandRun Thread Callback Message) : Prop :=
  s.quitting = false → (∀ thread, s.pushing thread = false) → s.reader = .idle →
    s.thread.commandQueue.queue ≠ [] → 0 < s.thread.commandQueue.pipe

variable {s next : CommandRun Thread Callback Message} {capacity : Nat}

theorem awake_of_pushing {thread : Thread} (pushing : s.pushing thread = true) : Awake s := by
  intro _ settled
  rw [settled thread] at pushing
  cases pushing

theorem awake_of_busy (busy : s.reader ≠ .idle) : Awake s := by
  intro _ _ idle
  exact absurd idle busy

theorem step_awake [DecidableEq Thread] [BaseStruct Message] (positive : 0 < capacity)
    {event : CommandEvent Thread Message} (taken : s.step capacity event = some next) :
    Awake next := by
  cases event with
  | enqueue thread cmd =>
      simp only [step] at taken
      split at taken
      · cases taken
      · cases taken
        exact awake_of_pushing (Function.update_self thread true s.pushing)
  | pipeWrite thread =>
      simp only [step] at taken
      split at taken
      · cases taken
        intro _ _ _ _
        exact QueueRun.pipeWrite_positive positive s.thread.commandQueue
      · cases taken
  | wake =>
      simp only [step] at taken
      split at taken
      · split at taken
        · cases taken
          exact awake_of_busy (by simp)
        · cases taken
      · cases taken
  | pipeRead =>
      simp only [step] at taken
      split at taken
      · rename_i draining
        split at taken
        · cases taken
          exact awake_of_busy (by simp [setCommandQueue, draining])
        · cases taken
          exact awake_of_busy (by simp)
      · cases taken
  | pop =>
      simp only [step] at taken
      split at taken
      · split at taken
        · rename_i empty
          cases taken
          intro _ _ _ waiting
          exact absurd (MessageQueue.pop_none empty) waiting
        · cases taken
          intro running
          cases running
        · cases taken
          exact awake_of_busy (by simp)
      · cases taken
  | handle env =>
      simp only [step] at taken
      split at taken
      · simp only [Option.map_eq_some_iff] at taken
        obtain ⟨outcome, handled, rfl⟩ := taken
        exact awake_of_busy (by simp)
      · cases taken

theorem awake_every [DecidableEq Thread] [BaseStruct Message] (positive : 0 < capacity)
    {createMessageFunc : Int → Option Message} {newNetCmdCb : Option Callback}
    {thread : NetThread Callback Message} {maxRecvPacketLength id : Int}
    {maxSendPacketLength maxRecvBufferSize maxSendBufferSize : Nat}
    (init : (NetThread.create maxRecvPacketLength maxSendPacketLength createMessageFunc).init id
      maxRecvBufferSize maxSendBufferSize newNetCmdCb true = (true, thread))
    (events : List (CommandEvent Thread Message)) :
    Every (step capacity) Awake (start thread) events := by
  have initial : Awake (start thread : CommandRun Thread Callback Message) := by
    cases init
    intro _ _ _ waiting
    exact absurd rfl waiting
  exact every_of_invariant (fun _ _ taken => step_awake positive taken) initial
    (along_always _ events)

theorem awake_every_latePush :
    Every (step 65536) Awake (start (rawThread 0))
      ([.enqueue true (some (.plain .close ⟨0, 7⟩)), .pipeWrite true, .wake, .pipeRead,
        .enqueue false (some (.plain .close ⟨0, 8⟩)), .pipeRead, .pop,
        .handle fun _ => ⟨.count 0, ⟨0, 0⟩⟩, .pop, .handle fun _ => ⟨.count 0, ⟨0, 0⟩⟩, .pop,
        .pipeWrite false] : List (CommandEvent Bool RawMessage)) :=
  awake_every (by decide) (rawThread_init 0) _

end CommandRun

end ZBlueNet
