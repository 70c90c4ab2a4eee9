import ZBlueNet.CommandQueue
import ZBlueNet.ClientReconnect

/-!
The command queue of a `NetClientThread`. It is the queue of the base class, with the
client's `onNetCommand`: a message that cannot be encoded or sent closes the connection
and ends the callback, whatever else is in the queue.
-/

namespace ZBlueNet

open Runs

variable {Thread Callback Message : Type}

namespace NetClientThread

def goesOn [BaseStruct Message] (client : NetClientThread Callback Message) (env : SendEnv)
    (cmd : NetCommand Message) : Bool :=
  match cmd.type, cmd.message with
  | .message, some message =>
      let written := NetProtocol.writeMessage cmd.messageId message client.netThread.encodeBuffer
      written.1 &&
        (client.netThread.reactor.sendMessage client.socketId written.2.content none env).1
  | _, _ => true

def commandQueue (client : NetClientThread Callback Message) :
    MessageQueue (Option (NetCommand Message)) :=
  client.netThread.commandQueue

def withQueueOf (other client : NetClientThread Callback Message) :
    NetClientThread Callback Message :=
  { other with netThread := { other.netThread with commandQueue := client.commandQueue } }

theorem onClose_commandQueue {client closed : NetClientThread Callback Message}
    {clock : Timestamp} {handed : NetThread.Handed Callback Message}
    (done : client.onClose clock = some (closed, handed)) :
    closed.commandQueue = client.commandQueue := by
  have started (other : NetClientThread Callback Message) :
      (other.startConnectTimer clock).commandQueue = other.commandQueue := by
    unfold startConnectTimer stopConnectTimer commandQueue
    split <;> rfl
  rw [onClose, Option.map_eq_some_iff] at done
  obtain ⟨⟨disconnected, commands⟩, gone, same⟩ := done
  cases same
  rw [started]
  rw [disconnect] at gone
  split at gone
  · rw [NetThread.closeSocket, Option.map_map, Option.map_eq_some_iff] at gone
    obtain ⟨sent, -, same⟩ := gone
    cases same
    rfl
  · cases gone
    rfl

theorem onNetCommand_commandQueue [BaseStruct Message]
    {client next : NetClientThread Callback Message}
    {clock : Timestamp} {env : SendEnv} {cmd : NetCommand Message}
    {handed : NetThread.Handed Callback Message}
    (handled : client.onNetCommand clock env (some cmd) = some (next, handed)) :
    next.commandQueue = client.commandQueue := by
  rw [onNetCommand] at handled
  split at handled
  · split at handled
    · cases handled
    · dsimp only at handled
      split at handled
      · split at handled
        · cases handled
          rfl
        · exact (onClose_commandQueue handled).trans rfl
      · exact (onClose_commandQueue handled).trans rfl
  · cases handled
    rfl

end NetClientThread

structure ClientCommandRun (Thread Callback Message : Type) where
  client : NetClientThread Callback Message
  pushing : Thread → Bool
  reader : CommandReader Message
  quitting : Bool

/-- `elsewhere` is what other handlers of the reactor's loop do to the client. -/
inductive ClientCommandEvent (Thread Callback Message : Type)
  | enqueue (thread : Thread) (cmd : Option (NetCommand Message))
  | pipeWrite (thread : Thread)
  | wake
  | pipeRead
  | pop
  | handle (clock : Timestamp) (env : SendEnv)
  | elsewhere (client : NetClientThread Callback Message)

namespace ClientCommandRun

def start (client : NetClientThread Callback Message) :
    ClientCommandRun Thread Callback Message :=
  { client := client, pushing := fun _ => false, reader := .idle, quitting := false }

def base (s : ClientCommandRun Thread Callback Message) : CommandRun Thread Callback Message :=
  { thread := s.client.netThread, pushing := s.pushing, reader := s.reader, quitting := s.quitting }

def inherited [DecidableEq Thread] [BaseStruct Message] (capacity : Nat)
    (s : ClientCommandRun Thread Callback Message) (event : CommandEvent Thread Message) :
    Option (ClientCommandRun Thread Callback Message) :=
  (s.base.step capacity event).map fun next =>
    { client := { s.client with netThread := next.thread }
      pushing := next.pushing
      reader := next.reader
      quitting := next.quitting }

def step [DecidableEq Thread] [BaseStruct Message] (capacity : Nat)
    (s : ClientCommandRun Thread Callback Message) :
    ClientCommandEvent Thread Callback Message → Option (ClientCommandRun Thread Callback Message)
  | .enqueue thread cmd => s.inherited capacity (.enqueue thread cmd)
  | .pipeWrite thread => s.inherited capacity (.pipeWrite thread)
  | .wake => s.inherited capacity .wake
  | .pipeRead => s.inherited capacity .pipeRead
  | .pop => s.inherited capacity .pop
  | .handle clock env =>
      match s.reader with
      | .handling cmd =>
          (s.client.onNetCommand clock env (some cmd)).map fun outcome =>
            { s with
              client := outcome.1
              reader := if s.client.goesOn env cmd then .popping else .idle }
      | _ => none
  | .elsewhere client =>
      match s.reader with
      | .idle => some { s with client := client.withQueueOf s.client }
      | _ => none

/-- Between pushes and outside the callback, waiting commands have a byte in the pipe; the null
pointer ends this. -/
def Awake (s : ClientCommandRun Thread Callback Message) : Prop :=
  s.quitting = false → (∀ thread, s.pushing thread = false) → s.reader = .idle →
    s.client.commandQueue.queue ≠ [] → 0 < s.client.commandQueue.pipe

instance [Fintype Thread] :
    DecidablePred (Awake : ClientCommandRun Thread Callback Message → Prop)
  | ⟨client, pushing, .idle, quitting⟩ =>
      decidable_of_iff
        (quitting = false → (∀ thread, pushing thread = false) → client.commandQueue.queue ≠ [] →
          0 < client.commandQueue.pipe)
        ⟨fun awake running settled _ => awake running settled,
          fun awake running settled => awake running settled rfl⟩
  | ⟨_, _, .draining, _⟩ | ⟨_, _, .popping, _⟩ | ⟨_, _, .handling _, _⟩ =>
      .isTrue (by intro _ _ idle; cases idle)

/-- A callback that a failed message ends leaves an empty queue, a byte or an unfinished push. -/
def ExitCovered [BaseStruct Message] (s : ClientCommandRun Thread Callback Message) :
    ClientCommandEvent Thread Callback Message → Prop
  | .handle clock env => ∀ cmd, s.reader = .handling cmd → s.client.goesOn env cmd = false →
      (s.client.onNetCommand clock env (some cmd)).isSome →
        s.quitting = true ∨ s.client.commandQueue.queue = [] ∨ 0 < s.client.commandQueue.pipe ∨
          ∃ thread, s.pushing thread = true
  | _ => True

variable [DecidableEq Thread] [BaseStruct Message]
  {s next : ClientCommandRun Thread Callback Message} {capacity : Nat}

theorem inherited_awake (positive : 0 < capacity) {event : CommandEvent Thread Message}
    (taken : s.inherited capacity event = some next) : Awake next := by
  obtain ⟨base, stepped, same⟩ := Option.map_eq_some_iff.mp taken
  cases same
  exact CommandRun.step_awake positive stepped

theorem step_awake_iff (positive : 0 < capacity)
    {event : ClientCommandEvent Thread Callback Message} (awake : Awake s)
    (taken : s.step capacity event = some next) : Awake next ↔ ExitCovered s event := by
  cases event with
  | enqueue thread cmd => exact iff_of_true (inherited_awake positive taken) trivial
  | pipeWrite thread => exact iff_of_true (inherited_awake positive taken) trivial
  | wake => exact iff_of_true (inherited_awake positive taken) trivial
  | pipeRead => exact iff_of_true (inherited_awake positive taken) trivial
  | pop => exact iff_of_true (inherited_awake positive taken) trivial
  | elsewhere client =>
      simp only [step] at taken
      split at taken
      · rename_i idle
        cases taken
        apply iff_of_true ?_ trivial
        intro running settled _ waiting
        exact awake running settled idle waiting
      · cases taken
  | handle clock env =>
      simp only [step] at taken
      split at taken
      · rename_i cmd handling
        obtain ⟨outcome, handled, same⟩ := Option.map_eq_some_iff.mp taken
        cases same
        have queue := NetClientThread.onNetCommand_commandQueue handled
        cases goes : s.client.goesOn env cmd with
        | true =>
            apply iff_of_true
            · intro _ _ idle
              cases idle
            · intro other same returns
              rw [handling] at same
              cases same
              rw [goes] at returns
              cases returns
        | false =>
            constructor
            · intro covered other _ _ _
              by_contra missed
              simp only [not_or, not_exists, Bool.not_eq_true] at missed
              obtain ⟨running, waiting, silent, settled⟩ := missed
              rw [← queue] at waiting silent
              exact silent (covered running settled rfl waiting)
            · intro covered running settled _ waiting
              dsimp only at running settled waiting ⊢
              rw [queue] at waiting ⊢
              rcases covered cmd handling goes (by rw [handled]; rfl) with
                quit | none | byte | ⟨thread, pushing⟩
              · rw [running] at quit
                cases quit
              · exact absurd none waiting
              · exact byte
              · rw [settled thread] at pushing
                cases pushing
      · cases taken

/-- From the thread that `init` leaves, no wake-up is lost exactly as long as every early end of a
callback is covered. -/
theorem clientAwake_every_iff (positive : 0 < capacity) {createMessageFunc : Int → Option Message}
    {newNetCmdCb : Option Callback} {client : NetClientThread Callback Message}
    {maxRecvPacketLength reconnectIntervalMs id : Int}
    {maxSendPacketLength maxRecvBufferSize maxSendBufferSize : Nat}
    (init : (NetClientThread.create maxRecvPacketLength maxSendPacketLength createMessageFunc
      reconnectIntervalMs).init id maxRecvBufferSize maxSendBufferSize newNetCmdCb true =
        (true, client))
    (events : List (ClientCommandEvent Thread Callback Message)) :
    Every (step capacity) Awake (start client) events ↔
      Along (step capacity) ExitCovered (start client) events := by
  have initial : Awake (start client : ClientCommandRun Thread Callback Message) := by
    cases init
    intro _ _ _ waiting
    exact absurd rfl waiting
  apply every_iff_along_of_kept (fun _ _ _ _ => trivial) ?_ ?_ trivial initial
    (along_always (start client) events)
  · intro s event next _ _ awake taken
    exact step_awake_iff positive awake taken
  · intro s event _ _ stuck
    cases event with
    | handle clock env =>
        intro cmd handling _ returns
        simp only [step, handling, Option.map_eq_none_iff] at stuck
        rw [stuck] at returns
        cases returns
    | _ => trivial

def sendCommand : Option (NetCommand RawMessage) :=
  some { type := .message, id := ⟨0, -1⟩, messageId := 7, message := some ⟨[5]⟩ }

def twoSends : List (ClientCommandEvent Unit Unit RawMessage) :=
  [.enqueue () sendCommand, .pipeWrite (), .enqueue () sendCommand, .pipeWrite (), .wake,
    .pipeRead, .pipeRead, .pop, .handle ⟨0, 0⟩ ⟨.count 0, ⟨0, 0⟩⟩]

theorem clientAwake_every_iff_oneSend :
    Every (step 65536) Awake (start ReconnectRun.shortClient)
        (.enqueue () sendCommand :: .pipeWrite () :: twoSends.drop 4) ↔
      Along (step 65536) ExitCovered (start ReconnectRun.shortClient)
        (.enqueue () sendCommand :: .pipeWrite () :: twoSends.drop 4) := by
  have init : (NetClientThread.create 40960 16 (rawServer 40960).netProtocol.createMessageFunc
      1000).init 0 81920 409600 (some ()) true = (true, ReconnectRun.shortClient) := rfl
  exact clientAwake_every_iff (by decide) init _

theorem twoSends_strand : ¬Every (step 65536) Awake (start ReconnectRun.shortClient) twoSends := by
  decide +kernel

end ClientCommandRun

end ZBlueNet
