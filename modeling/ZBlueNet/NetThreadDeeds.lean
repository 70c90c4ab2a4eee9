import ZBlueNet.NetThreadCore
import ZBlueNet.ReactorEdits
import ZBlueNet.ReceiveStream

/-!
The handlers of a `NetThread` between two turns of its loop, and what each of them can
do: edits of the reactor, messages handed over, and connections given up.
-/

namespace ZBlueNet

open EpollReactor TimerHeap Relation

inductive NetThreadEvent (Message : Type)
  | onSocketRead (socketId : SocketId) (answers : List RecvAnswer)
  | onSocketWrite (socketId : SocketId) (env : SendEnv)
  | onSocketError (socketId : SocketId) (socketError : Int)
  | onNetCommand (cmd : Option (NetCommand Message)) (env : SocketId → SendEnv)
  | checkTimeout (now : Timestamp)

namespace NetThread

variable {Callback Message : Type}

def setReactor (thread : NetThread Callback Message) (reactor : EpollReactor) :
    NetThread Callback Message :=
  { thread with reactor := reactor }

def setEncodeBuffer (thread : NetThread Callback Message) (encodeBuffer : DynamicBuffer) :
    NetThread Callback Message :=
  { thread with encodeBuffer := encodeBuffer }

def push (pipeCapacity : Nat) (thread : NetThread Callback Message)
    (cmd : Option (NetCommand Message)) : NetThread Callback Message :=
  { thread with commandQueue := thread.commandQueue.push pipeCapacity cmd }

section Handle

variable [BaseStruct Message]

def checkTimeoutTurn (server : GameServer Message) (thread : NetThread Callback Message)
    (now : Timestamp) : Option (NetThread Callback Message × Handed Callback Message) :=
  match thread.reactor.timerHeap.checkTurn now with
  | none => some (thread, [])
  | some (firing, heap) =>
      let fired := thread.setReactor { thread.reactor with timerHeap := heap }
      match firing.timerCb with
      | .sendMessageError =>
          fired.afterReactor server (fired.reactor.onSendMessageError firing.timerId)
      | .user _ => some (fired, [])

def handle (server : GameServer Message) (thread : NetThread Callback Message) :
    NetThreadEvent Message → Option (NetThread Callback Message × Handed Callback Message)
  | .onSocketRead socketId answers =>
      match thread.reactor.connections socketId with
      | none => some (thread, [])
      | some _ => thread.onSocketRead server socketId answers
  | .onSocketWrite socketId env =>
      thread.afterReactor server (thread.reactor.onSocketWrite socketId env)
  | .onSocketError socketId socketError =>
      thread.afterReactor server (thread.reactor.onSocketError socketId socketError)
  | .onNetCommand none _ => some (thread.quit, [])
  | .onNetCommand (some cmd) env => thread.handleNetCommand env cmd
  | .checkTimeout now => thread.checkTimeoutTurn server now

end Handle

def netId (thread : NetThread Callback Message) (socketId : SocketId) : NetId :=
  ⟨thread.id, socketId⟩

/-- An elementary change of a thread, with the commands handed over in it. -/
inductive Deed (thread : NetThread Callback Message) :
    NetThread Callback Message → Handed Callback Message → Prop
  | edit {reactor : EpollReactor} (edit : Edit thread.reactor reactor) :
      Deed thread (thread.setReactor reactor) []
  | fire {now : Timestamp} {firing : Firing ReactorTimer} {heap : TimerHeap ReactorTimer}
      (turned : thread.reactor.timerHeap.checkTurn now = some (firing, heap)) :
      Deed thread (thread.setReactor { thread.reactor with timerHeap := heap }) []
  | encode (encodeBuffer : DynamicBuffer) : Deed thread (thread.setEncodeBuffer encodeBuffer) []
  | listen (broadcastList : List SocketId) :
      Deed thread { thread with broadcastList := broadcastList } []
  | quit : Deed thread thread.quit []
  | message {callback : Callback} {cmd : NetCommand Message} {socketId : SocketId}
      (present : thread.reactor.connections socketId ≠ none) (type : cmd.type = .message)
      (id : cmd.id = thread.netId socketId) : Deed thread thread [(callback, cmd)]
  | lose {socketId : SocketId} {next : NetThread Callback Message}
      {handed : Handed Callback Message} (present : thread.reactor.connections socketId ≠ none)
      (closing : thread.closeSocket socketId = some (next, handed)) : Deed thread next handed

inductive Deeds : NetThread Callback Message → NetThread Callback Message →
    Handed Callback Message → Prop
  | done (thread : NetThread Callback Message) : Deeds thread thread []
  | more {thread middle last : NetThread Callback Message}
      {first later : Handed Callback Message} (deed : Deed thread middle first)
      (rest : Deeds middle last later) : Deeds thread last (first ++ later)

variable {thread middle next : NetThread Callback Message} {socketId : SocketId}
  {first later handed : Handed Callback Message}
  {outcome : NetThread Callback Message × Handed Callback Message}

theorem Deed.deeds (deed : Deed thread next handed) : Deeds thread next handed := by
  have rest := Deeds.more deed (.done next)
  rwa [List.append_nil] at rest

theorem Deeds.append (before : Deeds thread middle first) (after : Deeds middle next later) :
    Deeds thread next (first ++ later) := by
  induction before with
  | done thread => exact after
  | more deed rest ih =>
      rw [List.append_assoc]
      exact .more deed (ih after)

theorem Deeds.edits {reactor : EpollReactor} (edits : Edits thread.reactor reactor) :
    Deeds thread (thread.setReactor reactor) [] := by
  induction edits with
  | refl => exact .done thread
  | tail _ edit ih =>
      rename_i middle reactor _
      have deed : Deed (thread.setReactor middle) (thread.setReactor reactor) [] := .edit edit
      exact ih.append deed.deeds

/-! What every deed keeps. -/

theorem closeSocket_some (closing : thread.closeSocket socketId = some (next, handed)) :
    next = thread.setReactor (thread.reactor.closeSocket socketId) ∧
      ∃ callback, thread.newNetCmdCb = some callback ∧
        handed = [(callback, .plain .close (thread.netId socketId))] := by
  simp only [closeSocket, sendNetCommand, Option.map_map, Option.map_eq_some_iff] at closing
  obtain ⟨callback, found, same⟩ := closing
  cases same
  exact ⟨rfl, callback, found, rfl⟩

theorem attach_some {granted : Bool}
    (attached : thread.attach socketId granted = some (next, handed)) :
    next = thread.setReactor (thread.reactor.attachSocket socketId .create granted).2 ∧
      ∃ callback, thread.newNetCmdCb = some callback ∧
        handed = [(callback, .plain .new (thread.netId socketId))] := by
  simp only [attach, sendNetCommand, Option.map_map, Option.map_eq_some_iff] at attached
  obtain ⟨callback, found, same⟩ := attached
  cases same
  exact ⟨rfl, callback, found, rfl⟩

theorem Deed.id (deed : Deed thread next handed) :
    next.id = thread.id ∧ next.newNetCmdCb = thread.newNetCmdCb := by
  cases deed with
  | lose present closing =>
      obtain ⟨rfl, -⟩ := closeSocket_some closing
      exact ⟨rfl, rfl⟩
  | _ => exact ⟨rfl, rfl⟩

theorem Deed.commandQueue (deed : Deed thread next handed) :
    next.commandQueue = thread.commandQueue := by
  cases deed with
  | lose present closing =>
      obtain ⟨rfl, -⟩ := closeSocket_some closing
      rfl
  | _ => rfl

theorem Deed.netId (deed : Deed thread next handed) (socketId : SocketId) :
    next.netId socketId = thread.netId socketId := by
  rw [NetThread.netId, deed.id.1]
  rfl

theorem Deed.served (deed : Deed thread next handed) (served : Served thread.reactor) :
    Served next.reactor := by
  cases deed with
  | edit edit => exact edit.served served
  | fire turned => exact served.of_tables rfl rfl
  | quit => exact served.of_tables rfl rfl
  | lose present closing =>
      obtain ⟨rfl, -⟩ := closeSocket_some closing
      exact served.closeSocket _
  | _ => exact served

theorem Deeds.id (deeds : Deeds thread next handed) :
    next.id = thread.id ∧ next.newNetCmdCb = thread.newNetCmdCb := by
  induction deeds with
  | done thread => exact ⟨rfl, rfl⟩
  | more deed rest ih => exact ⟨ih.1.trans deed.id.1, ih.2.trans deed.id.2⟩

theorem Deeds.commandQueue (deeds : Deeds thread next handed) :
    next.commandQueue = thread.commandQueue := by
  induction deeds with
  | done thread => rfl
  | more deed rest ih => exact ih.trans deed.commandQueue

theorem Deeds.served (deeds : Deeds thread next handed) (served : Served thread.reactor) :
    Served next.reactor := by
  induction deeds with
  | done thread => exact served
  | more deed rest ih => exact ih (deed.served served)

/-! What the main thread is told. -/

def closesOf (id : NetId) (handed : Handed Callback Message) : Nat :=
  handed.countP fun item => item.2.type = .close ∧ item.2.id = id

theorem closesOf_append (id : NetId) (first later : Handed Callback Message) :
    closesOf id (first ++ later) = closesOf id first + closesOf id later :=
  List.countP_append

/-- What becomes of a connection, and how many CLOSE commands are handed over for it. -/
inductive Report (before after : Option ConnectionStatus) (closes : Nat) : Prop
  | stays (same : after = before) (silent : closes = 0)
  | fails (connected : before = some .connected) (pending : after = some .pendingError)
      (silent : closes = 0)
  | leaves (present : before ≠ none) (gone : after = none) (once : closes = 1)

theorem Report.trans {before between after : Option ConnectionStatus} {closes more : Nat}
    (first : Report before between closes) (second : Report between after more) :
    Report before after (closes + more) := by
  cases first with
  | stays same silent =>
      rw [silent, Nat.zero_add]
      exact same ▸ second
  | fails connected pending silent =>
      rw [silent, Nat.zero_add]
      cases second with
      | stays same silent => exact .fails connected (same.trans pending) silent
      | fails again later silent => exact .fails connected later silent
      | leaves present gone once => exact .leaves (by simp [connected]) gone once
  | leaves present gone once =>
      cases second with
      | stays same silent => exact .leaves present (same.trans gone) (by rw [once, silent])
      | fails again later silent => cases gone.symm.trans again
      | leaves again later twice => exact absurd gone again

theorem Deed.report (deed : Deed thread next handed) (served : Served thread.reactor)
    (socketId : SocketId) : Report (thread.reactor.statusOf socketId)
      (next.reactor.statusOf socketId) (closesOf (thread.netId socketId) handed) := by
  cases deed with
  | edit edit =>
      rcases edit.statusOf served socketId with same | ⟨connected, pending⟩
      · exact .stays same rfl
      · exact .fails connected pending rfl
  | message present type id => exact .stays rfl (by simp [closesOf, type])
  | lose present closing =>
      rename_i lost
      obtain ⟨rfl, callback, -, rfl⟩ := closeSocket_some closing
      have after : ((thread.setReactor (thread.reactor.closeSocket lost)).reactor).statusOf socketId =
          Function.update thread.reactor.statusOf lost none socketId :=
        congrFun (served.closeSocket_statusOf lost) socketId
      by_cases same : socketId = lost
      · rw [same, Function.update_self] at after
        rw [same]
        refine .leaves (fun absent => present (statusOf_none.mp absent)) after ?_
        simp [closesOf, NetCommand.plain, NetCommand.create]
      · rw [Function.update_of_ne same] at after
        apply Report.stays after
        simp [closesOf, NetCommand.plain, NetCommand.create, NetThread.netId, Ne.symm same]
  | _ => exact .stays rfl rfl

theorem Deeds.report (deeds : Deeds thread next handed) (served : Served thread.reactor)
    (socketId : SocketId) : Report (thread.reactor.statusOf socketId)
      (next.reactor.statusOf socketId) (closesOf (thread.netId socketId) handed) := by
  induction deeds with
  | done thread => exact .stays rfl rfl
  | more deed rest ih =>
      have later := ih (deed.served served)
      rw [deed.netId] at later
      rw [closesOf_append]
      exact (deed.report served socketId).trans later

theorem Deeds.handed_own (deeds : Deeds thread next handed) :
    ∀ item ∈ handed, (item.2.type = .message ∨ item.2.type = .close) ∧
      ∃ socketId, item.2.id = thread.netId socketId := by
  induction deeds with
  | done thread => simp
  | more deed rest ih =>
      intro item member
      rw [List.mem_append] at member
      rcases member with here | later
      · cases deed with
        | message present type id =>
            rw [List.mem_singleton] at here
            exact here ▸ ⟨.inl type, _, id⟩
        | lose present closing =>
            obtain ⟨-, callback, -, rfl⟩ := closeSocket_some closing
            rw [List.mem_singleton] at here
            exact here ▸ ⟨.inr rfl, _, rfl⟩
        | _ => cases here
      · obtain ⟨type, socketId, id⟩ := ih item later
        exact ⟨type, socketId, id.trans (deed.netId socketId)⟩

/-! The handlers are deeds. -/

theorem Deeds.messages (present : thread.reactor.connections socketId ≠ none)
    (handed : Handed Callback Message)
    (messages : ∀ item ∈ handed, item.2.type = .message ∧ item.2.id = thread.netId socketId) :
    Deeds thread thread handed := by
  induction handed with
  | nil => exact .done thread
  | cons item rest ih =>
      rw [List.forall_mem_cons] at messages
      exact .more (.message present messages.1.1 messages.1.2) (ih messages.2)

theorem sendEncoded_deeds (thread : NetThread Callback Message) (served : Served thread.reactor)
    (env : SocketId → SendEnv) (socketId : SocketId) :
    Deeds thread (thread.sendEncoded env socketId) [] :=
  .edits (served.sendMessage socketId thread.encodeBuffer.content (env socketId)).1

theorem broadcast_deeds (thread : NetThread Callback Message) (served : Served thread.reactor)
    (env : SocketId → SendEnv) (ids : List SocketId) :
    Deeds thread (ids.foldl (fun t id => t.sendEncoded env id) thread) [] := by
  induction ids generalizing thread with
  | nil => exact .done thread
  | cons id ids ih =>
      have sent := sendEncoded_deeds thread served env id
      exact sent.append (ih _ (sent.served served))

section Handlers

variable [BaseStruct Message] {server : GameServer Message}

theorem recvLoop_handed {protocol : NetProtocol Message} {newNetCmd : Option Callback} {id : NetId}
    {fuel : Nat} {buffer : DynamicBuffer} :
    ∀ handed ∈ (recvLoop protocol newNetCmd id fuel buffer).handed,
      handed.2.type = .message ∧ handed.2.id = id := by
  induction fuel generalizing buffer with
  | zero => simp [recvLoop]
  | succ fuel ih =>
      simp only [recvLoop]
      split
      · simp
      · simp
      · split
        · simp
        · rw [List.forall_mem_cons]
          exact ⟨⟨rfl, rfl⟩, ih⟩

theorem onRecvMessage_deeds (served : Served thread.reactor)
    (received : thread.onRecvMessage server socketId = some outcome) :
    Deeds thread outcome.1 outcome.2 := by
  simp only [onRecvMessage] at received
  split at received
  · cases received
    exact .done thread
  · rename_i connection found
    let run := server.onRecvMessage thread.id socketId thread.newNetCmdCb connection.readBuffer
    let reactor := thread.reactor.setConnection socketId { connection with readBuffer := run.buffer }
    have stored : Edit thread.reactor reactor :=
      .rewrite found rfl rfl (served.silent socketId connection found)
    have present : reactor.connections socketId ≠ none := by simp [reactor, setConnection]
    have parsed : Deeds thread (thread.setReactor reactor) run.handed :=
      (Deed.edit stored).deeds.append (Deeds.messages present _ recvLoop_handed)
    split at received
    · cases received
      exact parsed
    · simp only [Option.map_eq_some_iff] at received
      obtain ⟨⟨closed, last⟩, closing, rfl⟩ := received
      exact parsed.append (Deed.lose present closing).deeds
    · cases received
    · cases received

theorem onRecvMessage_returns (server : GameServer Message) {callback : Callback}
    (given : thread.newNetCmdCb = some callback)
    (valid : ∀ connection, thread.reactor.connections socketId = some connection →
      connection.readBuffer.Valid) :
    ∃ outcome, thread.onRecvMessage server socketId = some outcome := by
  simp only [onRecvMessage]
  split
  · exact ⟨_, rfl⟩
  · rename_i connection found
    have run := recvLoop_simulates server.netProtocol callback (thread.netId socketId)
      (recvTurns connection.readBuffer) connection.readBuffer (valid connection found)
      (by rw [(valid connection found).content_length, recvTurns]; omega)
    have ended : (server.onRecvMessage thread.id socketId thread.newNetCmdCb
        connection.readBuffer).exit = .waiting ∨ (server.onRecvMessage thread.id socketId
          thread.newNetCmdCb connection.readBuffer).exit = .closed := by
      rw [given]
      cases pending : (StreamParser.drain server.netProtocol.parser
          connection.readBuffer.content).pending with
      | none => exact .inr (run.failed pending)
      | some rest => exact .inl (run.pending rest pending).1
    rcases ended with waiting | closed
    · rw [waiting]
      exact ⟨_, rfl⟩
    · rw [closed]
      simp only [closeSocket, sendNetCommand, given]
      exact ⟨_, rfl⟩

theorem afterReactor_deeds {returned : EpollReactor × List ReactorCall}
    (effect : Returned thread.reactor returned)
    (called : thread.afterReactor server returned = some outcome) :
    Deeds thread outcome.1 outcome.2 := by
  cases effect with
  | quiet edits =>
      cases called
      exact .edits edits
  | lost edits present closes loses =>
      rename_i reactor next socketId call
      simp only [afterReactor, onReactorCalls, Option.map_some, Option.bind_eq_some_iff,
        Option.some.injEq] at called
      obtain ⟨⟨closed, last⟩, calling, rfl⟩ := called
      have same : (thread.setReactor next).closeSocket socketId =
          (thread.setReactor reactor).closeSocket socketId := by
        simp only [closeSocket, setReactor, closes, sendNetCommand]
      have lost : (thread.setReactor reactor).closeSocket socketId = some (closed, last) := by
        rw [← same]
        cases call with
        | errorCb id errorCode => exact loses ▸ calling
        | peerCloseCb id => exact loses ▸ calling
        | recvMessageCb id => exact loses.elim
        | sendCompleteCb id token => exact loses.elim
      rw [List.append_nil]
      exact (Deeds.edits edits).append (Deed.lose present lost).deeds

theorem onSocketRead_deeds (served : Served thread.reactor) {answers : List RecvAnswer}
    (read : thread.onSocketRead server socketId answers = some outcome) :
    Deeds thread outcome.1 outcome.2 := by
  simp only [onSocketRead, Option.bind_eq_some_iff] at read
  obtain ⟨⟨ending, marked, calls⟩, loop, received, called, finish⟩ := read
  rcases served.onSocketReadLoop loop with
    ⟨⟨errno, rfl⟩, returned⟩ | ⟨unfailed, edits, waiting⟩
  · cases finish
    exact afterReactor_deeds returned called
  · have deeds : Deeds thread received.1 received.2 := by
      have stored : Deeds thread (thread.setReactor marked) [] := .edits edits
      rcases waiting with rfl | rfl
      · cases called
        exact stored
      · simp only [afterReactor, onReactorCalls, onReactorCall, Option.map_some,
          Option.bind_eq_some_iff, Option.some.injEq] at called
        obtain ⟨first, calling, rfl⟩ := called
        have parsed := onRecvMessage_deeds (stored.served served) calling
        rw [List.append_nil]
        exact stored.append parsed
    cases ending with
    | drained =>
        cases finish
        exact deeds
    | failed errno => exact absurd rfl (unfailed errno)
    | peerClose =>
        simp only [Option.map_eq_some_iff] at finish
        obtain ⟨closed, closing, rfl⟩ := finish
        have returned := (deeds.served served).onSocketReadPeerClose socketId
        have later := afterReactor_deeds returned closing
        exact deeds.append later

theorem handleNetCommand_close {env : SocketId → SendEnv} {cmd : NetCommand Message}
    (close : cmd.type = .close) (handled : thread.handleNetCommand env cmd = some outcome) :
    outcome = (if thread.reactor.isConnected cmd.id.socketId then
      thread.setReactor (thread.reactor.closeSocket cmd.id.socketId) else thread, []) := by
  simp only [handleNetCommand, close, reduceCtorEq, if_false] at handled
  split at handled
  · rename_i missing
    cases handled
    simp [missing]
  · rename_i connected
    cases handled
    simp [connected, setReactor]

theorem handleNetCommand_deeds (served : Served thread.reactor) {env : SocketId → SendEnv}
    {cmd : NetCommand Message} (other : cmd.type ≠ .close)
    (handled : thread.handleNetCommand env cmd = some outcome) :
    Deeds thread outcome.1 outcome.2 := by
  have written (message : Message) : Deeds thread (thread.encodeFor cmd message) [] :=
    (Deed.encode _).deeds
  cases handleNetCommand_turn handled with
  | broadcast message =>
      exact (written message).append (broadcast_deeds (thread.encodeFor cmd message) served env _)
  | unwritten message => exact written message
  | close type => exact absurd type other
  | send message =>
      exact (written message).append (sendEncoded_deeds (thread.encodeFor cmd message) served env _)
  | lose message type connected carried unwritten closed =>
      obtain ⟨next, last⟩ := outcome
      have present : thread.reactor.connections cmd.id.socketId ≠ none := by
        intro absent
        simp [isConnected, absent] at connected
      have lost : Deed (thread.encodeFor cmd message) next last := .lose present closed
      exact (written message).append lost.deeds
  | enable | disable => exact (Deed.listen _).deeds
  | unconnected | new => exact .done thread

theorem checkTimeoutTurn_deeds {now : Timestamp}
    (turned : thread.checkTimeoutTurn server now = some outcome) :
    Deeds thread outcome.1 outcome.2 := by
  simp only [checkTimeoutTurn] at turned
  split at turned
  · cases turned
    exact .done thread
  · rename_i firing heap turn
    have fired := (Deed.fire turn).deeds
    split at turned
    · have later := afterReactor_deeds (onSendMessageError_returned _ firing.timerId) turned
      exact fired.append later
    · cases turned
      exact fired

theorem handle_deeds (served : Served thread.reactor) {event : NetThreadEvent Message}
    (other : ∀ cmd env, event = .onNetCommand (some cmd) env → cmd.type ≠ .close)
    (handled : thread.handle server event = some outcome) : Deeds thread outcome.1 outcome.2 := by
  cases event with
  | onSocketRead socketId answers =>
      simp only [handle] at handled
      split at handled
      · cases handled
        exact .done thread
      · exact onSocketRead_deeds served handled
  | onSocketWrite socketId env =>
      exact afterReactor_deeds (served.onSocketWrite socketId env) handled
  | onSocketError socketId socketError =>
      exact afterReactor_deeds (served.onSocketError socketId socketError) handled
  | onNetCommand cmd env =>
      cases cmd with
      | none =>
          cases handled
          exact Deed.quit.deeds
      | some cmd => exact handleNetCommand_deeds served (other cmd env rfl) handled
  | checkTimeout now => exact checkTimeoutTurn_deeds handled

/-- A CLOSE command is obeyed in silence; everything else is a matter of deeds. -/
theorem handle_cases (served : Served thread.reactor) {event : NetThreadEvent Message}
    (handled : thread.handle server event = some outcome) :
    (∃ cmd : NetCommand Message, outcome =
      (if thread.reactor.isConnected cmd.id.socketId then
        thread.setReactor (thread.reactor.closeSocket cmd.id.socketId) else thread, [])) ∨
      Deeds thread outcome.1 outcome.2 := by
  by_cases command : ∃ cmd env, event = .onNetCommand (some cmd) env ∧ cmd.type = .close
  · obtain ⟨cmd, env, rfl, close⟩ := command
    exact .inl ⟨cmd, handleNetCommand_close close handled⟩
  · right
    apply handle_deeds served ?_ handled
    intro cmd env same close
    exact command ⟨cmd, env, same, close⟩

theorem handle_kept (served : Served thread.reactor) {event : NetThreadEvent Message}
    (handled : thread.handle server event = some outcome) :
    Served outcome.1.reactor ∧ outcome.1.newNetCmdCb = thread.newNetCmdCb := by
  rcases handle_cases served handled with ⟨cmd, rfl⟩ | deeds
  · dsimp only
    split
    · exact ⟨served.closeSocket _, rfl⟩
    · exact ⟨served, rfl⟩
  · exact ⟨deeds.served served, deeds.id.2⟩

end Handlers

end NetThread

def rawThread (id : Int) : NetThread Unit RawMessage :=
  ((NetThread.create 40960 16 (rawServer 40960).netProtocol.createMessageFunc).init id 81920 409600
    (some ()) true).2

theorem rawThread_init (id : Int) :
    (NetThread.create 40960 16 (rawServer 40960).netProtocol.createMessageFunc).init id 81920 409600
      (some ()) true = (true, rawThread id) :=
  rfl

end ZBlueNet
