import ZBlueNet.ReadBuffers
import ZBlueNet.ServiceAgreement

/-!
The way of a message through a server: `recv` returns the bytes of a connection, the
receive callback of its net thread parses them, and the main thread takes the commands
from its queue and calls the message handlers.
-/

namespace ZBlueNet

open Runs EpollReactor StreamParser

namespace EpollReactor

/-- A connection that is there was there before, with the same read buffer. -/
structure KeepsBuffer (socketId : SocketId) (r next : EpollReactor) : Prop where
  expandSize : next.connReadBufferExpandSize = r.connReadBufferExpandSize
  initSize : next.connReadBufferInitSize = r.connReadBufferInitSize
  maxSize : next.connReadBufferMaxSize = r.connReadBufferMaxSize
  buffer : ∀ connection, next.connections socketId = some connection →
    ∃ old, r.connections socketId = some old ∧ connection.readBuffer = old.readBuffer

variable {r middle next : EpollReactor} {socketId id : SocketId}

theorem KeepsReads.keepsBuffer (keeps : KeepsReads r next) (socketId : SocketId) :
    KeepsBuffer socketId r next :=
  ⟨keeps.expandSize, keeps.initSize, keeps.maxSize, keeps.buffers socketId⟩

theorem KeepsBuffer.refl (socketId : SocketId) (r : EpollReactor) : KeepsBuffer socketId r r :=
  (KeepsReads.refl r).keepsBuffer socketId

theorem KeepsBuffer.trans (first : KeepsBuffer socketId r middle)
    (later : KeepsBuffer socketId middle next) : KeepsBuffer socketId r next := by
  refine ⟨later.expandSize.trans first.expandSize, later.initSize.trans first.initSize,
    later.maxSize.trans first.maxSize, ?_⟩
  intro connection found
  obtain ⟨between, there, same⟩ := later.buffer connection found
  obtain ⟨old, before, kept⟩ := first.buffer between there
  exact ⟨old, before, same.trans kept⟩

theorem KeepsBuffer.setConnection (r : EpollReactor) (other : id ≠ socketId)
    (connection : TcpConnection) : KeepsBuffer socketId r (r.setConnection id connection) := by
  refine ⟨rfl, rfl, rfl, ?_⟩
  intro found present
  have same : (r.setConnection id connection).connections socketId = r.connections socketId :=
    Function.update_of_ne (Ne.symm other) ..
  exact ⟨found, same ▸ present, rfl⟩

theorem attachSocket_connections (fresh : r.connections id = none) {socket : TcpSocket}
    {granted : Bool} (succeeds : (r.attachSocket id socket granted).1 = true) :
    (r.attachSocket id socket granted).2.connections =
        Function.update r.connections id (some (r.newConnection id)) ∧
      (r.attachSocket id socket granted).2.connReadBufferInitSize = r.connReadBufferInitSize ∧
      (r.attachSocket id socket granted).2.connReadBufferExpandSize = r.connReadBufferExpandSize ∧
      (r.attachSocket id socket granted).2.connReadBufferMaxSize = r.connReadBufferMaxSize := by
  simp only [EpollReactor.attachSocket] at succeeds ⊢
  split at succeeds
  · cases succeeds
  · split at succeeds
    · rename_i added
      rw [if_pos added]
      refine ⟨?_, rfl, rfl, rfl⟩
      have inserted : (r.connections id).or (some (r.newConnection id)) =
          some (r.newConnection id) := by
        rw [fresh]
        rfl
      exact congrArg (Function.update r.connections id) inserted
    · cases succeeds

end EpollReactor

namespace NetThread

variable {Callback Message : Type} {thread middle : NetThread Callback Message}
  {socketId id : SocketId} {outcome : NetThread Callback Message × Handed Callback Message}
  {first later : Handed Callback Message}

structure Spares (socketId : SocketId) (thread : NetThread Callback Message)
    (outcome : NetThread Callback Message × Handed Callback Message) : Prop where
  id : outcome.1.id = thread.id
  keeps : KeepsBuffer socketId thread.reactor outcome.1.reactor
  silent : ∀ item ∈ outcome.2, item.2.type = .message → item.2.id ≠ thread.netId socketId

theorem Spares.of_keeps {next : NetThread Callback Message} (id : next.id = thread.id)
    (keeps : KeepsBuffer socketId thread.reactor next.reactor) :
    Spares socketId thread (next, []) :=
  ⟨id, keeps, fun _ member => absurd member List.not_mem_nil⟩

theorem Spares.trans (before : Spares socketId thread (middle, first))
    (after : Spares socketId middle outcome) :
    Spares socketId thread (outcome.1, first ++ outcome.2) := by
  refine ⟨after.id.trans before.id, before.keeps.trans after.keeps, ?_⟩
  intro item member isMessage
  rcases List.mem_append.mp member with early | late
  · exact before.silent item early isMessage
  · have same : middle.netId socketId = thread.netId socketId := by
      rw [netId, netId]
      exact congrArg (NetId.mk · socketId) before.id
    exact same ▸ after.silent item late isMessage

theorem closeSocket_spares (closing : thread.closeSocket id = some outcome) :
    Spares socketId thread outcome := by
  obtain ⟨next, handed⟩ := outcome
  obtain ⟨rfl, callback, -, rfl⟩ := closeSocket_some closing
  refine ⟨rfl, (KeepsReads.closeSocket thread.reactor id).keepsBuffer socketId, ?_⟩
  intro item member isMessage
  rw [List.mem_singleton] at member
  subst member
  cases isMessage

section Handlers

variable [BaseStruct Message] {server : GameServer Message}

theorem onRecvMessage_spares (other : id ≠ socketId)
    (received : thread.onRecvMessage server id = some outcome) :
    Spares socketId thread outcome := by
  simp only [NetThread.onRecvMessage] at received
  split at received
  · cases received
    exact .of_keeps rfl (.refl ..)
  · rename_i connection found
    let run := server.onRecvMessage thread.id id thread.newNetCmdCb connection.readBuffer
    let stored := thread.setReactor
      (thread.reactor.setConnection id { connection with readBuffer := run.buffer })
    have parsed : Spares socketId thread (stored, run.handed) := by
      refine ⟨rfl, .setConnection _ other _, ?_⟩
      intro item member _ same
      have named := (recvLoop_handed item member).2
      rw [named] at same
      exact other (congrArg NetId.socketId same)
    split at received
    · cases received
      exact parsed
    · rw [Option.map_eq_some_iff] at received
      obtain ⟨closed, closing, rfl⟩ := received
      have closes : stored.closeSocket id = some closed := closing
      exact parsed.trans (closeSocket_spares closes)
    · cases received
    · cases received

theorem onReactorCall_spares {call : ReactorCall} (other : call ≠ .recvMessageCb socketId)
    (called : thread.onReactorCall server call = some outcome) :
    Spares socketId thread outcome := by
  cases call with
  | errorCb id errorCode => exact closeSocket_spares called
  | peerCloseCb id => exact closeSocket_spares called
  | recvMessageCb id =>
      refine onRecvMessage_spares ?_ called
      rintro rfl
      exact other rfl
  | sendCompleteCb id token =>
      cases called
      exact .of_keeps rfl (.refl ..)

theorem onReactorCalls_spares {calls : List ReactorCall}
    (other : .recvMessageCb socketId ∉ calls)
    (called : thread.onReactorCalls server calls = some outcome) :
    Spares socketId thread outcome := by
  induction calls generalizing thread outcome with
  | nil =>
      cases called
      exact .of_keeps rfl (.refl ..)
  | cons call calls ih =>
      simp only [onReactorCalls, Option.bind_eq_some_iff, Option.map_eq_some_iff] at called
      obtain ⟨first, here, rest, later, rfl⟩ := called
      rw [List.mem_cons, not_or] at other
      have before := onReactorCall_spares (Ne.symm other.1) here
      exact before.trans (ih other.2 later)

theorem afterReactor_spares {returned : EpollReactor × List ReactorCall}
    (keeps : KeepsBuffer socketId thread.reactor returned.1)
    (other : .recvMessageCb socketId ∉ returned.2)
    (called : thread.afterReactor server returned = some outcome) :
    Spares socketId thread outcome := by
  have stored : Spares socketId thread (thread.setReactor returned.1, []) := .of_keeps rfl keeps
  exact stored.trans (onReactorCalls_spares other called)

theorem returned_quiet (socketId : SocketId) {r : EpollReactor}
    {returned : EpollReactor × List ReactorCall} (effect : Returned r returned) :
    .recvMessageCb socketId ∉ returned.2 := by
  cases effect with
  | quiet edits => exact List.not_mem_nil
  | lost edits present closes loses =>
      rintro member
      rw [List.mem_singleton] at member
      subst member
      exact loses

omit [BaseStruct Message] in
theorem sendEncoded_keeps (served : Served thread.reactor) (env : SocketId → SendEnv)
    (id : SocketId) : KeepsReads thread.reactor (thread.sendEncoded env id).reactor :=
  KeepsReads.sendMessage served ..

omit [BaseStruct Message] in
theorem broadcast_keeps (served : Served thread.reactor) (env : SocketId → SendEnv)
    (ids : List SocketId) :
    KeepsReads thread.reactor (ids.foldl (fun t id => t.sendEncoded env id) thread).reactor ∧
      (ids.foldl (fun t id => t.sendEncoded env id) thread).id = thread.id := by
  induction ids generalizing thread with
  | nil => exact ⟨.refl _, rfl⟩
  | cons id ids ih =>
      have sent := (sendEncoded_deeds thread served env id).served served
      obtain ⟨keeps, same⟩ := ih sent
      exact ⟨(sendEncoded_keeps served env id).trans keeps, same⟩

theorem handleNetCommand_spares (served : Served thread.reactor) {env : SocketId → SendEnv}
    {cmd : NetCommand Message} (handled : thread.handleNetCommand env cmd = some outcome) :
    Spares socketId thread outcome := by
  cases handleNetCommand_turn handled with
  | broadcast message type =>
      have encoded : Served (thread.encodeFor cmd message).reactor := served
      obtain ⟨keeps, same⟩ := broadcast_keeps encoded env thread.broadcastList
      exact .of_keeps same (keeps.keepsBuffer socketId)
  | close => exact .of_keeps rfl ((KeepsReads.closeSocket ..).keepsBuffer socketId)
  | send message =>
      have encoded : Served (thread.encodeFor cmd message).reactor := served
      exact .of_keeps rfl ((sendEncoded_keeps encoded env _).keepsBuffer socketId)
  | lose message type connected carried unwritten closed =>
      have spares : Spares socketId (thread.encodeFor cmd message) outcome :=
        closeSocket_spares closed
      exact ⟨spares.id, spares.keeps, spares.silent⟩
  | unwritten | unconnected | enable | disable | new => exact .of_keeps rfl (.refl ..)

theorem checkTimeoutTurn_spares {now : Timestamp}
    (turned : thread.checkTimeoutTurn server now = some outcome) :
    Spares socketId thread outcome := by
  simp only [checkTimeoutTurn] at turned
  split at turned
  · cases turned
    exact .of_keeps rfl (.refl ..)
  · rename_i firing heap _
    let fired := thread.setReactor { thread.reactor with timerHeap := heap }
    have kept : Spares socketId thread (fired, []) := .of_keeps rfl ⟨rfl, rfl, rfl, fun connection
      found => ⟨connection, found, rfl⟩⟩
    split at turned
    · have keeps := KeepsReads.onSendMessageError fired.reactor firing.timerId
      have quiet := onSendMessageError_returned fired.reactor firing.timerId
      exact kept.trans
        (afterReactor_spares (keeps.keepsBuffer socketId) (returned_quiet socketId quiet) turned)
    · cases turned
      exact kept

theorem onSocketReadLoop_spares {r next : EpollReactor} (other : id ≠ socketId)
    {answers : List RecvAnswer} {ending : ReadEnd} {calls : List ReactorCall}
    (ended : r.onSocketReadLoop id answers = some (ending, next, calls)) :
    KeepsBuffer socketId r next ∧ .recvMessageCb socketId ∉ calls := by
  simp only [EpollReactor.onSocketReadLoop] at ended
  split at ended
  · cases ended
  · split at ended
    · cases ended
    · cases ended
      exact ⟨.setConnection _ other _, by simp⟩
    · cases ended
      refine ⟨.setConnection _ other _, ?_⟩
      split
      · simp [Ne.symm other]
      · exact List.not_mem_nil

theorem onSocketReadPeerClose_spares
    (closed : thread.afterReactor server (thread.reactor.onSocketReadPeerClose id) = some outcome) :
    Spares socketId thread outcome := by
  have quiet : .recvMessageCb socketId ∉ (thread.reactor.onSocketReadPeerClose id).2 := by
    simp only [EpollReactor.onSocketReadPeerClose]
    split <;> simp
  have keeps := KeepsReads.onSocketReadPeerClose thread.reactor id
  exact afterReactor_spares (keeps.keepsBuffer socketId) quiet closed

theorem onSocketRead_spares (other : id ≠ socketId) {answers : List RecvAnswer}
    (read : thread.onSocketRead server id answers = some outcome) :
    Spares socketId thread outcome := by
  simp only [NetThread.onSocketRead, Option.bind_eq_some_iff] at read
  obtain ⟨⟨ending, reactor, calls⟩, ended, received, called, finish⟩ := read
  obtain ⟨keeps, apart⟩ := onSocketReadLoop_spares other ended
  have looped := afterReactor_spares keeps apart called
  cases ending with
  | peerClose =>
      simp only [Option.map_eq_some_iff] at finish
      obtain ⟨closed, closing, rfl⟩ := finish
      exact looped.trans (onSocketReadPeerClose_spares closing)
  | drained =>
      cases finish
      exact looped
  | failed errno =>
      cases finish
      exact looped

def Reads (socketId : SocketId) : NetThreadEvent Message → Prop
  | .onSocketRead id _ => id = socketId
  | _ => False

theorem handle_spares (served : Served thread.reactor) {event : NetThreadEvent Message}
    (other : ¬Reads socketId event) (handled : thread.handle server event = some outcome) :
    Spares socketId thread outcome := by
  cases event with
  | onSocketRead id answers =>
      simp only [NetThread.handle] at handled
      split at handled
      · cases handled
        exact .of_keeps rfl (.refl ..)
      · exact onSocketRead_spares other handled
  | onSocketWrite id env =>
      have keeps := KeepsReads.onSocketWrite thread.reactor id env
      have quiet := returned_quiet socketId (served.onSocketWrite id env)
      exact afterReactor_spares (keeps.keepsBuffer socketId) quiet handled
  | onSocketError id socketError =>
      have keeps := KeepsReads.onSocketError thread.reactor id socketError
      have quiet := returned_quiet socketId (served.onSocketError id socketError)
      exact afterReactor_spares (keeps.keepsBuffer socketId) quiet handled
  | onNetCommand cmd env =>
      cases cmd with
      | none =>
          cases handled
          exact .of_keeps rfl ⟨rfl, rfl, rfl, fun connection found => ⟨connection, found, rfl⟩⟩
      | some cmd => exact handleNetCommand_spares served handled
  | checkTimeout now => exact checkTimeoutTurn_spares handled

end Handlers

end NetThread

/-! Reading a connection. -/

section Messages

variable {Callback Message : Type}

def messagesFor (id : NetId) (commands : List (NetCommand Message)) :
    List (Int × Option Message) :=
  commands.filterMap fun cmd =>
    if cmd.type = .message ∧ cmd.id = id then some (cmd.messageId, cmd.message) else none

def parsedFrom [BaseStruct Message] (protocol : NetProtocol Message) (bytes : List UInt8) :
    List (Int × Option Message) :=
  (drain protocol.parser bytes).items.map fun item => (item.1, some item.2)

theorem messagesFor_append (id : NetId) (first later : List (NetCommand Message)) :
    messagesFor id (first ++ later) = messagesFor id first ++ messagesFor id later :=
  List.filterMap_append

theorem messagesFor_cons_other {id : NetId} {cmd : NetCommand Message}
    (other : cmd.type = .message → cmd.id ≠ id) (rest : List (NetCommand Message)) :
    messagesFor id (cmd :: rest) = messagesFor id rest :=
  List.filterMap_cons_none (if_neg fun both => other both.1 both.2)

theorem messagesFor_cons_same {id : NetId} {cmd : NetCommand Message}
    (isMessage : cmd.type = .message) (named : cmd.id = id) (rest : List (NetCommand Message)) :
    messagesFor id (cmd :: rest) = (cmd.messageId, cmd.message) :: messagesFor id rest :=
  List.filterMap_cons_some (if_pos ⟨isMessage, named⟩)

theorem messagesFor_nil {id : NetId} {commands : List (NetCommand Message)}
    (silent : ∀ cmd ∈ commands, cmd.type = .message → cmd.id ≠ id) :
    messagesFor id commands = [] := by
  induction commands with
  | nil => rfl
  | cons cmd rest ih =>
      rw [messagesFor_cons_other (silent cmd List.mem_cons_self)]
      exact ih fun later member => silent later (List.mem_cons_of_mem cmd member)

theorem messagesFor_commands (callback : Callback) (id : NetId) (items : List (Int × Message)) :
    messagesFor id ((items.map (commandOf callback id)).map Prod.snd) =
      items.map fun item => (item.1, some item.2) := by
  induction items with
  | nil => rfl
  | cons item rest ih =>
      have isMessage : (commandOf callback id item).2.type = .message := rfl
      have named : (commandOf callback id item).2.id = id := rfl
      rw [List.map_cons, List.map_cons, messagesFor_cons_same isMessage named, ih]
      rfl

theorem parsedFrom_append [BaseStruct Message] (protocol : NetProtocol Message)
    {bytes waiting : List UInt8}
    (pending : (drain protocol.parser bytes).pending = some waiting) (more : List UInt8) :
    parsedFrom protocol (bytes ++ more) =
        parsedFrom protocol bytes ++ parsedFrom protocol (waiting ++ more) ∧
      (drain protocol.parser (bytes ++ more)).pending =
        (drain protocol.parser (waiting ++ more)).pending := by
  rw [parsedFrom, drain_append, feed, pending]
  exact ⟨List.map_append, rfl⟩

theorem parsedFrom_mono [BaseStruct Message] (protocol : NetProtocol Message)
    (bytes more : List UInt8) :
    parsedFrom protocol bytes <+: parsedFrom protocol (bytes ++ more) := by
  cases pending : (drain protocol.parser bytes).pending with
  | none =>
      rw [parsedFrom, parsedFrom, drain_append, feed, pending]
  | some waiting =>
      rw [(parsedFrom_append protocol pending more).1]
      exact List.prefix_append ..

end Messages

namespace NetThread

variable {Callback Message : Type} [BaseStruct Message] {server : GameServer Message}
  {thread : NetThread Callback Message} {callback : Callback} {socketId : SocketId}
  {connection : TcpConnection} {outcome : NetThread Callback Message × Handed Callback Message}

/-- What a read handed over and left: all the messages of what has been received, or a part of them
and no connection. -/
structure Received (server : GameServer Message) (socketId : SocketId)
    (thread : NetThread Callback Message) (received : List UInt8) (expandSize : Nat)
    (before : List (Int × Option Message))
    (outcome : NetThread Callback Message × Handed Callback Message) : Prop where
  part : before ++ messagesFor (thread.netId socketId) (outcome.2.map Prod.snd) <+:
    parsedFrom server.netProtocol received
  whole : ∀ connection, outcome.1.reactor.connections socketId = some connection →
    before ++ messagesFor (thread.netId socketId) (outcome.2.map Prod.snd) =
        parsedFrom server.netProtocol received ∧
      (drain server.netProtocol.parser received).pending = some connection.readBuffer.content ∧
      connection.readBuffer.Valid ∧ connection.readBuffer.expandSize = expandSize

omit [BaseStruct Message] in
theorem closeSocket_gone (served : Served thread.reactor)
    (present : thread.reactor.connections socketId ≠ none) (change : TcpConnection)
    (closing : (thread.setReactor (thread.reactor.setConnection socketId change)).closeSocket
      socketId = some outcome) :
    outcome.1.reactor.connections socketId = none ∧
      messagesFor (thread.netId socketId) (outcome.2.map Prod.snd) = [] := by
  have attached : (thread.reactor.sockets socketId).isSome := by
    rw [served.attached]
    exact Option.isSome_iff_ne_none.mpr present
  obtain ⟨closed, handed⟩ := outcome
  obtain ⟨rfl, callback, -, rfl⟩ := closeSocket_some closing
  constructor
  · simp only [setReactor]
    rw [closeSocket_setConnection attached, served.closeSocket_connections, Function.update_self]
  · rfl

theorem onRecvMessage_receives (served : Served thread.reactor)
    (called : thread.newNetCmdCb = some callback)
    (found : thread.reactor.connections socketId = some connection)
    (valid : connection.readBuffer.Valid)
    (received : thread.onRecvMessage server socketId = some outcome) :
    Received server socketId thread connection.readBuffer.content connection.readBuffer.expandSize
      [] outcome := by
  have enough : connection.readBuffer.content.length / 4 < recvTurns connection.readBuffer := by
    rw [valid.content_length, recvTurns]
    omega
  have same := recvLoop_simulates server.netProtocol callback ⟨thread.id, socketId⟩
    (recvTurns connection.readBuffer) connection.readBuffer valid enough
  rw [← called] at same
  have parsed : messagesFor (thread.netId socketId) ((server.onRecvMessage thread.id socketId
      thread.newNetCmdCb connection.readBuffer).handed.map Prod.snd) =
        parsedFrom server.netProtocol connection.readBuffer.content := by
    have handed := same.handed
    rw [GameServer.onRecvMessage, handed]
    exact messagesFor_commands callback (thread.netId socketId) _
  simp only [NetThread.onRecvMessage, found] at received
  split at received
  · rename_i waiting
    cases received
    refine ⟨parsed ▸ List.prefix_refl _, ?_⟩
    intro left there
    have here : left = { connection with readBuffer := (server.onRecvMessage thread.id socketId
        thread.newNetCmdCb connection.readBuffer).buffer } := by
      simp only [EpollReactor.setConnection, Function.update_self, Option.some.injEq] at there
      exact there.symm
    subst here
    refine ⟨parsed, ?_⟩
    cases pending : (drain server.netProtocol.parser connection.readBuffer.content).pending with
    | none =>
        have closed : RecvExit.waiting = .closed := waiting.symm.trans (same.failed pending)
        cases closed
    | some rest =>
        obtain ⟨-, content, stays, expands⟩ := same.pending rest pending
        exact ⟨congrArg some content.symm, stays, expands⟩
  · simp only [Option.map_eq_some_iff] at received
    obtain ⟨closed, closing, rfl⟩ := received
    have present : thread.reactor.connections socketId ≠ none := by simp [found]
    obtain ⟨gone, silent⟩ := closeSocket_gone served present _ closing
    constructor
    · rw [List.map_append, messagesFor_append, silent, List.append_nil, parsed]
      exact List.prefix_refl _
    · intro left there
      cases gone.symm.trans there
  · cases received
  · cases received

omit [BaseStruct Message] in
theorem Spares.messages {middle : NetThread Callback Message} (spares : Spares socketId middle outcome)
    (id : middle.id = thread.id) :
    messagesFor (thread.netId socketId) (outcome.2.map Prod.snd) = [] := by
  have same : middle.netId socketId = thread.netId socketId :=
    congrArg (NetId.mk · socketId) id
  apply messagesFor_nil
  intro cmd member isMessage
  obtain ⟨item, handed, rfl⟩ := List.mem_map.mp member
  exact same ▸ spares.silent item handed isMessage

theorem peerClose_gone (served : Served thread.reactor)
    (closed : thread.afterReactor server (thread.reactor.onSocketReadPeerClose socketId) =
      some outcome) : outcome.1.reactor.connections socketId = none := by
  simp only [EpollReactor.onSocketReadPeerClose] at closed
  split at closed
  · rename_i absent
    cases closed
    exact absent
  · rename_i connection found
    rw [afterReactor_single] at closed
    have present : thread.reactor.connections socketId ≠ none := by simp [found]
    exact (closeSocket_gone served present _ closed).1

theorem afterRead_receives (served : Served thread.reactor)
    (called : thread.newNetCmdCb = some callback)
    (found : thread.reactor.connections socketId = some connection)
    {bytes more : List UInt8} {last : DynamicBuffer} {arrived : Bool}
    (waiting : (drain server.netProtocol.parser bytes).pending = some connection.readBuffer.content)
    (valid : last.Valid) (expands : last.expandSize = connection.readBuffer.expandSize)
    (content : last.content = connection.readBuffer.content ++ more)
    (quiet : arrived = false → more = [])
    (called' : thread.afterReactor server (thread.reactor.setConnection socketId
      { connection with readBuffer := last }, if arrived then [.recvMessageCb socketId] else []) =
        some outcome) :
    Served outcome.1.reactor ∧ outcome.1.id = thread.id ∧
      Received server socketId thread (bytes ++ more) connection.readBuffer.expandSize
        (parsedFrom server.netProtocol bytes) outcome := by
  let stored := thread.setReactor (thread.reactor.setConnection socketId
    { connection with readBuffer := last })
  have there : stored.reactor.connections socketId = some { connection with readBuffer := last } :=
    Function.update_self ..
  have rewritten : Edits thread.reactor stored.reactor :=
    .single (.rewrite found rfl rfl (served.silent socketId connection found))
  have kept : Served stored.reactor := rewritten.served served
  obtain ⟨total, pending⟩ := parsedFrom_append server.netProtocol waiting more
  rw [← content] at total pending
  cases arrived with
  | false =>
      cases called'
      have nothing := quiet rfl
      subst nothing
      rw [List.append_nil] at content total pending ⊢
      refine ⟨kept, rfl, ?_, ?_⟩
      · exact (List.append_nil _).symm ▸ List.prefix_refl _
      · intro left found'
        cases there.symm.trans found'
        exact ⟨List.append_nil _, content ▸ waiting, valid, expands⟩
  | true =>
      rw [if_pos rfl, afterReactor_single] at called'
      have parsing : stored.onRecvMessage server socketId = some outcome := called'
      have deeds := onRecvMessage_deeds kept parsing
      obtain ⟨part, whole⟩ := onRecvMessage_receives kept called there valid parsing
      refine ⟨deeds.served kept, deeds.id.1, ?_, ?_⟩
      · rw [total]
        exact (List.prefix_append_right_inj _).mpr part
      · intro left found'
        obtain ⟨all, rest, stays, expanded⟩ := whole left found'
        refine ⟨?_, pending.trans rest, stays, expanded.trans expands⟩
        rw [total]
        exact congrArg _ all

theorem onSocketRead_receives (served : Served thread.reactor)
    (called : thread.newNetCmdCb = some callback)
    (found : thread.reactor.connections socketId = some connection)
    (valid : connection.readBuffer.Valid) {answers : List RecvAnswer}
    (fit : ReadsFit thread.reactor.connReadBufferMaxSize answers connection.readBuffer)
    {bytes : List UInt8}
    (waiting : (drain server.netProtocol.parser bytes).pending = some connection.readBuffer.content)
    (read : thread.onSocketRead server socketId answers = some outcome) :
    Received server socketId thread (bytes ++ receivedBytes thread.reactor.connReadBufferMaxSize
      answers false connection.readBuffer) connection.readBuffer.expandSize
      (parsedFrom server.netProtocol bytes) outcome := by
  have present : thread.reactor.connections socketId ≠ none := by simp [found]
  simp only [NetThread.onSocketRead, Option.bind_eq_some_iff] at read
  obtain ⟨⟨ending, reactor, calls⟩, ended, received, calling, finish⟩ := read
  simp only [EpollReactor.onSocketReadLoop, found] at ended
  split at ended
  · cases ended
  · rename_i errno arrived last loop
    cases ended
    cases finish
    rw [afterReactor_single] at calling
    obtain ⟨gone, silent⟩ := closeSocket_gone served present _ calling
    constructor
    · rw [silent, List.append_nil]
      exact parsedFrom_mono ..
    · intro left there
      cases gone.symm.trans there
  · rename_i ending arrived last unfailed loop
    cases ended
    obtain ⟨stays, expands, content, arrives⟩ := readLoop_content valid fit loop
    have quiet (silent : arrived = false) : receivedBytes thread.reactor.connReadBufferMaxSize
        answers false connection.readBuffer = [] := by
      subst silent
      exact readLoop_nothing valid fit loop
    obtain ⟨kept, id, looped⟩ :=
      afterRead_receives served called found waiting stays expands content quiet calling
    cases ending with
    | drained =>
        cases finish
        exact looped
    | failed errno => exact absurd rfl (unfailed errno)
    | peerClose =>
        simp only [Option.map_eq_some_iff] at finish
        obtain ⟨closed, closing, rfl⟩ := finish
        have spares : Spares socketId received.1 closed := onSocketReadPeerClose_spares closing
        have silent := spares.messages id
        constructor
        · rw [List.map_append, messagesFor_append, silent, List.append_nil]
          exact looped.part
        · intro left there
          cases (peerClose_gone kept closing).symm.trans there

end NetThread

end ZBlueNet
