import ZBlueNet.NetThreadDeeds
import ZBlueNet.ReadLoop

/-!
The read buffers of a `NetThread`'s connections. Only reading changes them, and they
stay well formed in every handler.
-/

namespace ZBlueNet

open EpollReactor

namespace EpollReactor

/-- No connection got another read buffer or another limit, and none is new. -/
structure KeepsReads (r next : EpollReactor) : Prop where
  initSize : next.connReadBufferInitSize = r.connReadBufferInitSize
  expandSize : next.connReadBufferExpandSize = r.connReadBufferExpandSize
  maxSize : next.connReadBufferMaxSize = r.connReadBufferMaxSize
  buffers : ∀ id connection, next.connections id = some connection →
    ∃ old, r.connections id = some old ∧ connection.readBuffer = old.readBuffer

structure Readable (r : EpollReactor) : Prop where
  initSize : r.connReadBufferInitSize < sizeModulus
  expandSize : 0 < r.connReadBufferExpandSize
  valid : ∀ id connection, r.connections id = some connection → connection.readBuffer.Valid
  expands : ∀ id connection, r.connections id = some connection →
    connection.readBuffer.expandSize = r.connReadBufferExpandSize

variable {r middle next : EpollReactor} {id : SocketId} {connection : TcpConnection}

theorem readable_create (maxRecvBufferSize maxSendBufferSize : Nat) :
    Readable (EpollReactor.create.setBufferSizes maxRecvBufferSize maxSendBufferSize) := by
  refine ⟨show 1024 < sizeModulus by decide, show 0 < 1024 by decide, ?_, ?_⟩
  · intro id connection found
    cases found
  · intro id connection found
    cases found

theorem KeepsReads.refl (r : EpollReactor) : KeepsReads r r :=
  ⟨rfl, rfl, rfl, fun _ connection found => ⟨connection, found, rfl⟩⟩

theorem KeepsReads.trans (first : KeepsReads r middle) (later : KeepsReads middle next) :
    KeepsReads r next := by
  refine ⟨later.initSize.trans first.initSize, later.expandSize.trans first.expandSize,
    later.maxSize.trans first.maxSize, ?_⟩
  intro id connection found
  obtain ⟨between, foundBetween, same⟩ := later.buffers id connection found
  obtain ⟨old, foundOld, sameOld⟩ := first.buffers id between foundBetween
  exact ⟨old, foundOld, same.trans sameOld⟩

theorem KeepsReads.readable (keeps : KeepsReads r next) (readable : Readable r) :
    Readable next := by
  refine ⟨?_, ?_, ?_, ?_⟩
  · rw [keeps.initSize]
    exact readable.initSize
  · rw [keeps.expandSize]
    exact readable.expandSize
  · intro id connection found
    obtain ⟨old, foundOld, same⟩ := keeps.buffers id connection found
    rw [same]
    exact readable.valid id old foundOld
  · intro id connection found
    obtain ⟨old, foundOld, same⟩ := keeps.buffers id connection found
    rw [same, keeps.expandSize]
    exact readable.expands id old foundOld

theorem KeepsReads.setConnection {old : TcpConnection} (found : r.connections id = some old)
    (same : connection.readBuffer = old.readBuffer) :
    KeepsReads r (r.setConnection id connection) := by
  refine ⟨rfl, rfl, rfl, ?_⟩
  intro other placed foundPlaced
  rcases update_connection foundPlaced with ⟨rfl, rfl⟩ | before
  · exact ⟨old, found, same⟩
  · exact ⟨placed, before, rfl⟩

theorem KeepsReads.of_connections (initSize : next.connReadBufferInitSize = r.connReadBufferInitSize)
    (expandSize : next.connReadBufferExpandSize = r.connReadBufferExpandSize)
    (maxSize : next.connReadBufferMaxSize = r.connReadBufferMaxSize)
    (connections : next.connections = r.connections) : KeepsReads r next :=
  ⟨initSize, expandSize, maxSize, fun _ connection found =>
    ⟨connection, connections ▸ found, rfl⟩⟩

theorem KeepsReads.modifySocket (r : EpollReactor) (id : SocketId)
    (change : TcpSocket → TcpSocket) : KeepsReads r (r.modifySocket id change) :=
  .of_connections rfl rfl rfl rfl

theorem KeepsReads.failSend (named : connection.socket = id)
    (found : r.connections id = some connection) (now : Timestamp) (errorCode : Int) :
    KeepsReads r (r.failSend now connection errorCode) := by
  rw [← named] at found
  have marked : KeepsReads r (r.setConnection connection.socket (connection.setError errorCode)) :=
    .setConnection found rfl
  exact marked.trans (.of_connections rfl rfl rfl rfl)

theorem KeepsReads.closeSocket (r : EpollReactor) (id : SocketId) :
    KeepsReads r (r.closeSocket id) := by
  have detached : KeepsReads r (r.detachIOService id) := by
    unfold detachIOService
    split
    · exact .refl r
    · split
      · exact .of_connections rfl rfl rfl rfl
      · exact .refl r
  unfold EpollReactor.closeSocket
  split
  · exact .refl r
  · refine ⟨detached.initSize, detached.expandSize, detached.maxSize, ?_⟩
    intro other connection found
    apply detached.buffers other connection
    by_cases same : other = id
    · rw [same] at found
      simp at found
    · simpa [same] using found

theorem KeepsReads.runSendComplete (r : EpollReactor) (id : SocketId)
    (sendCompleteCb : Option SendCompleteCallback) :
    KeepsReads r (r.runSendComplete id sendCompleteCb).1 := by
  unfold EpollReactor.runSendComplete
  split
  · exact .refl r
  · exact .closeSocket r id
  · exact .refl r

theorem KeepsReads.bufferRemaining (named : connection.socket = id)
    (found : r.connections id = some connection) (buffer : List UInt8) (remainSize : Nat)
    (sendCompleteCb : Option SendCompleteCallback) (now : Timestamp) :
    KeepsReads r (r.bufferRemaining connection buffer remainSize sendCompleteCb now).2.1 := by
  unfold EpollReactor.bufferRemaining
  split
  · split
    · exact .failSend named found now enobufs
    · dsimp only
      rw [named]
      have stored (writeBuffer : DynamicBuffer) : KeepsReads r (r.setConnection id
          { connection with
            socket := id, writeBuffer := writeBuffer, sendCompleteCb := sendCompleteCb }) :=
        .setConnection found rfl
      exact (stored _).trans (.modifySocket _ id _)
  · exact .runSendComplete r _ sendCompleteCb

theorem KeepsReads.sendMessage (served : Served r) (id : SocketId) (buffer : List UInt8)
    (sendCompleteCb : Option SendCompleteCallback) (env : SendEnv) :
    KeepsReads r (r.sendMessage id buffer sendCompleteCb env).2.1 := by
  unfold EpollReactor.sendMessage
  split
  · exact .refl r
  · rename_i connection found
    have named := served.named id connection found
    unfold sendConnection
    split
    · exact .refl r
    · split
      · split
        · split
          · exact .failSend named found env.now _
          · exact .bufferRemaining named found _ _ _ _
        · rename_i bytes _
          refine (KeepsReads.modifySocket r connection.socket (.send (buffer.take bytes))).trans ?_
          exact .bufferRemaining (r := r.modifySocket _ _) named found _ _ _ _
      · exact .bufferRemaining named found _ _ _ _

theorem KeepsReads.onSocketWrite (r : EpollReactor) (id : SocketId) (env : SendEnv) :
    KeepsReads r (r.onSocketWrite id env).1 := by
  unfold EpollReactor.onSocketWrite
  split
  · exact .refl r
  · rename_i connection found
    dsimp only
    split
    · split
      · exact .setConnection found rfl
      · exact .refl r
    · rename_i bytes _
      have sent := KeepsReads.modifySocket r id (.send (connection.writeBuffer.content.take bytes))
      split
      · refine .trans ?_ (.runSendComplete _ id connection.sendCompleteCb)
        refine sent.trans ((KeepsReads.modifySocket _ id (.setWriteCallback false)).trans ?_)
        exact .setConnection found rfl
      · exact sent.trans (.setConnection found rfl)

theorem KeepsReads.onSendMessageError (r : EpollReactor) (timerId : TimerId) :
    KeepsReads r (r.onSendMessageError timerId).1 := by
  unfold EpollReactor.onSendMessageError
  split
  · exact .refl r
  · dsimp only
    split <;> exact .of_connections rfl rfl rfl rfl

theorem KeepsReads.onSocketError (r : EpollReactor) (id : SocketId) (socketError : Int) :
    KeepsReads r (r.onSocketError id socketError).1 := by
  unfold EpollReactor.onSocketError
  split
  · exact .refl r
  · rename_i found
    exact .setConnection found rfl

theorem KeepsReads.onSocketReadPeerClose (r : EpollReactor) (id : SocketId) :
    KeepsReads r (r.onSocketReadPeerClose id).1 := by
  unfold EpollReactor.onSocketReadPeerClose
  split
  · exact .refl r
  · rename_i found
    exact .setConnection found rfl

theorem Readable.setConnection (readable : Readable r) (valid : connection.readBuffer.Valid)
    (expands : connection.readBuffer.expandSize = r.connReadBufferExpandSize) :
    Readable (r.setConnection id connection) := by
  refine ⟨readable.initSize, readable.expandSize, ?_, ?_⟩
  · intro other placed found
    rcases update_connection found with ⟨-, rfl⟩ | before
    · exact valid
    · exact readable.valid other placed before
  · intro other placed found
    rcases update_connection found with ⟨-, rfl⟩ | before
    · exact expands
    · exact readable.expands other placed before

theorem Readable.insertConnection (readable : Readable r) (valid : connection.readBuffer.Valid)
    (expands : connection.readBuffer.expandSize = r.connReadBufferExpandSize) :
    Readable (r.insertConnection id connection) := by
  cases found : r.connections id with
  | none =>
      have inserted : Readable (r.setConnection id connection) :=
        readable.setConnection valid expands
      simpa [EpollReactor.insertConnection, EpollReactor.setConnection, found] using inserted
  | some old =>
      have same : (r.insertConnection id connection).connections = r.connections := by
        simp [EpollReactor.insertConnection, found, Function.update_eq_self_iff]
      have kept : KeepsReads r (r.insertConnection id connection) :=
        .of_connections rfl rfl rfl same
      exact kept.readable readable

theorem Readable.attachSocket (readable : Readable r) (id : SocketId) (socket : TcpSocket)
    (granted : Bool) : Readable (r.attachSocket id socket granted).2 := by
  unfold EpollReactor.attachSocket
  split
  · exact readable
  · dsimp only
    split
    · have prepared (epoller : Epoller) (attached : TcpSocket) :
          Readable ({ r with epoller := epoller }.setSocket id attached) :=
        KeepsReads.readable (r := r) (.of_connections rfl rfl rfl rfl) readable
      have created := DynamicBuffer.create_valid r.connReadBufferInitSize
        r.connReadBufferExpandSize readable.initSize readable.expandSize
      apply (prepared _ _).insertConnection
      · exact created
      · rfl
    · exact KeepsReads.readable (r := r) (.of_connections rfl rfl rfl rfl) readable

end EpollReactor

namespace NetThread

variable {Callback Message : Type} {thread : NetThread Callback Message} {socketId : SocketId}
  {outcome : NetThread Callback Message × Handed Callback Message}

theorem closeSocket_readable (readable : Readable thread.reactor)
    (closing : thread.closeSocket socketId = some outcome) : Readable outcome.1.reactor := by
  obtain ⟨closed, handed⟩ := outcome
  obtain ⟨rfl, -⟩ := closeSocket_some closing
  exact (KeepsReads.closeSocket thread.reactor socketId).readable readable

theorem sendEncoded_readable (served : Served thread.reactor) (readable : Readable thread.reactor)
    (env : SocketId → SendEnv) (socketId : SocketId) :
    Readable (thread.sendEncoded env socketId).reactor :=
  (KeepsReads.sendMessage served socketId thread.encodeBuffer.content none
    (env socketId)).readable readable

theorem broadcast_readable (served : Served thread.reactor) (readable : Readable thread.reactor)
    (env : SocketId → SendEnv) (ids : List SocketId) :
    Readable (ids.foldl (fun t id => t.sendEncoded env id) thread).reactor := by
  induction ids generalizing thread with
  | nil => exact readable
  | cons id ids ih =>
      have sent := sendEncoded_deeds thread served env id
      exact ih (sent.served served) (sendEncoded_readable served readable env id)

theorem attach_kept (served : Served thread.reactor) {granted : Bool}
    (attached : thread.attach socketId granted = some outcome) :
    Served outcome.1.reactor ∧ outcome.1.newNetCmdCb = thread.newNetCmdCb := by
  obtain ⟨next, handed⟩ := outcome
  obtain ⟨rfl, -⟩ := attach_some attached
  refine ⟨?_, rfl⟩
  cases present : thread.reactor.connections socketId with
  | none => exact (served.attachSocket .create granted present).1
  | some connection =>
      have used : thread.reactor.connections socketId ≠ none := by simp [present]
      rw [setReactor, served.attachSocket_known used]
      exact served

section Handlers

variable [BaseStruct Message] {server : GameServer Message}

theorem afterReactor_single (server : GameServer Message) (thread : NetThread Callback Message)
    (reactor : EpollReactor) (call : ReactorCall) :
    thread.afterReactor server (reactor, [call]) =
      (thread.setReactor reactor).onReactorCall server call := by
  simp only [afterReactor, onReactorCalls, setReactor]
  cases NetThread.onReactorCall server _ call <;> simp

theorem recvMessage_buffer (protocol : NetProtocol Message) (buffer : DynamicBuffer)
    (retMessageId : Int) (retMessage : Option Message) :
    ∃ size, (protocol.recvMessage buffer retMessageId retMessage).buffer = buffer ∨
      (protocol.recvMessage buffer retMessageId retMessage).buffer = buffer.read size := by
  unfold NetProtocol.recvMessage
  split
  · exact ⟨0, .inl rfl⟩
  · split
    · exact ⟨0, .inl rfl⟩
    · rename_i messageLength _
      refine ⟨messageLength + 4, ?_⟩
      split_ifs
      · exact .inl rfl
      · exact .inl rfl
      · split
        · exact .inl rfl
        · dsimp only
          split_ifs
          · exact .inl rfl
          · exact .inr rfl

theorem recvMessage_valid (protocol : NetProtocol Message) {buffer : DynamicBuffer}
    (valid : buffer.Valid) (retMessageId : Int) (retMessage : Option Message) :
    (protocol.recvMessage buffer retMessageId retMessage).buffer.Valid ∧
      (protocol.recvMessage buffer retMessageId retMessage).buffer.expandSize =
        buffer.expandSize := by
  obtain ⟨size, same | read⟩ := recvMessage_buffer protocol buffer retMessageId retMessage
  · rw [same]
    exact ⟨valid, rfl⟩
  · rw [read]
    exact ⟨valid.read size, DynamicBuffer.read_expandSize size⟩

theorem recvLoop_valid {protocol : NetProtocol Message} {newNetCmd : Option Callback} {id : NetId}
    {fuel : Nat} {buffer : DynamicBuffer} (valid : buffer.Valid) :
    (recvLoop protocol newNetCmd id fuel buffer).buffer.Valid ∧
      (recvLoop protocol newNetCmd id fuel buffer).buffer.expandSize = buffer.expandSize := by
  induction fuel generalizing buffer with
  | zero => exact ⟨valid, rfl⟩
  | succ fuel ih =>
      have received := recvMessage_valid protocol valid 0 none
      simp only [recvLoop]
      split
      · exact received
      · exact received
      · split
        · exact received
        · have rest := ih received.1
          exact ⟨rest.1, rest.2.trans received.2⟩

/-! The handlers. -/

theorem onRecvMessage_readable (readable : Readable thread.reactor)
    (called : thread.onRecvMessage server socketId = some outcome) :
    Readable outcome.1.reactor := by
  unfold NetThread.onRecvMessage at called
  split at called
  · cases called
    exact readable
  · rename_i connection found
    let parsed := (server.onRecvMessage thread.id socketId thread.newNetCmdCb
      connection.readBuffer).buffer
    have valid : parsed.Valid ∧ parsed.expandSize = connection.readBuffer.expandSize :=
      recvLoop_valid (readable.valid socketId connection found)
    let received := thread.setReactor
      (thread.reactor.setConnection socketId { connection with readBuffer := parsed })
    have stored : Readable received.reactor :=
      readable.setConnection valid.1 (valid.2.trans (readable.expands socketId connection found))
    dsimp only at called
    split at called
    · cases called
      exact stored
    · simp only [Option.map_eq_some_iff] at called
      obtain ⟨closed, closing, rfl⟩ := called
      have closes : received.closeSocket socketId = some closed := closing
      have kept := closeSocket_readable stored closes
      exact kept
    · cases called
    · cases called

theorem onReactorCall_readable (readable : Readable thread.reactor) {call : ReactorCall}
    (called : thread.onReactorCall server call = some outcome) : Readable outcome.1.reactor := by
  cases call with
  | errorCb id errorCode => exact closeSocket_readable readable called
  | peerCloseCb id => exact closeSocket_readable readable called
  | recvMessageCb id => exact onRecvMessage_readable readable called
  | sendCompleteCb id token =>
      cases called
      exact readable

theorem onReactorCalls_readable {calls : List ReactorCall} (readable : Readable thread.reactor)
    (called : thread.onReactorCalls server calls = some outcome) : Readable outcome.1.reactor := by
  induction calls generalizing thread outcome with
  | nil =>
      cases called
      exact readable
  | cons call calls ih =>
      simp only [onReactorCalls, Option.bind_eq_some_iff, Option.map_eq_some_iff] at called
      obtain ⟨first, here, rest, later, rfl⟩ := called
      have kept := ih (onReactorCall_readable readable here) later
      exact kept

theorem afterReactor_readable {returned : EpollReactor × List ReactorCall}
    (readable : Readable returned.1)
    (called : thread.afterReactor server returned = some outcome) :
    Readable outcome.1.reactor := by
  have start : Readable (thread.setReactor returned.1).reactor := readable
  exact onReactorCalls_readable start called

theorem handleNetCommand_readable (served : Served thread.reactor)
    (readable : Readable thread.reactor) {env : SocketId → SendEnv} {cmd : NetCommand Message}
    (handled : thread.handleNetCommand env cmd = some outcome) : Readable outcome.1.reactor := by
  have encoded (buffer : DynamicBuffer) : Served (thread.setEncodeBuffer buffer).reactor ∧
      Readable (thread.setEncodeBuffer buffer).reactor := ⟨served, readable⟩
  cases handleNetCommand_turn handled with
  | broadcast message => exact broadcast_readable (encoded _).1 (encoded _).2 env _
  | close => exact (KeepsReads.closeSocket thread.reactor _).readable readable
  | send message => exact sendEncoded_readable (encoded _).1 (encoded _).2 env _
  | lose message type connected carried unwritten closed =>
      exact closeSocket_readable (encoded _).2 closed
  | unwritten | unconnected | enable | disable | new => exact readable

theorem checkTimeoutTurn_readable (readable : Readable thread.reactor) {now : Timestamp}
    (turned : thread.checkTimeoutTurn server now = some outcome) : Readable outcome.1.reactor := by
  simp only [checkTimeoutTurn] at turned
  split at turned
  · cases turned
    exact readable
  · rename_i heap _
    have fired : Readable { thread.reactor with timerHeap := heap } :=
      KeepsReads.readable (r := thread.reactor) (.of_connections rfl rfl rfl rfl) readable
    split at turned
    · exact afterReactor_readable ((KeepsReads.onSendMessageError _ _).readable fired) turned
    · cases turned
      exact fired

def ReadAnswered (thread : NetThread Callback Message) : NetThreadEvent Message → Prop
  | .onSocketRead socketId answers =>
      ∀ connection, thread.reactor.connections socketId = some connection →
        ReadsFit thread.reactor.connReadBufferMaxSize answers connection.readBuffer
  | _ => True

theorem onSocketRead_readable (readable : Readable thread.reactor) {connection : TcpConnection}
    (found : thread.reactor.connections socketId = some connection) {answers : List RecvAnswer}
    (fit : ReadsFit thread.reactor.connReadBufferMaxSize answers connection.readBuffer)
    (read : thread.onSocketRead server socketId answers = some outcome) :
    Readable outcome.1.reactor := by
  have valid := readable.valid socketId connection found
  have stored {ending : ReadEnd} {arrived : Bool} {last : DynamicBuffer} {changed : TcpConnection}
      (loop : readLoop thread.reactor.connReadBufferMaxSize answers false connection.readBuffer =
        some (ending, arrived, last)) (same : changed.readBuffer = last) :
      Readable (thread.reactor.setConnection socketId changed) := by
    obtain ⟨lastValid, expands, -⟩ := readLoop_content valid fit loop
    subst same
    exact readable.setConnection lastValid
      (expands.trans (readable.expands socketId connection found))
  simp only [NetThread.onSocketRead, Option.bind_eq_some_iff] at read
  obtain ⟨⟨ending, reactor, calls⟩, ended, received, called, finish⟩ := read
  have looped : Readable reactor := by
    simp only [EpollReactor.onSocketReadLoop, found] at ended
    split at ended
    · cases ended
    · rename_i loop
      cases ended
      exact stored loop rfl
    · rename_i loop
      cases ended
      exact stored loop rfl
  have kept := afterReactor_readable looped called
  cases ending with
  | peerClose =>
      simp only [Option.map_eq_some_iff] at finish
      obtain ⟨closed, closing, rfl⟩ := finish
      have gone := afterReactor_readable ((KeepsReads.onSocketReadPeerClose _ _).readable kept)
        closing
      exact gone
  | drained =>
      cases finish
      exact kept
  | failed errno =>
      cases finish
      exact kept

theorem handle_readable (served : Served thread.reactor) (readable : Readable thread.reactor)
    {event : NetThreadEvent Message} (answered : thread.ReadAnswered event)
    (handled : thread.handle server event = some outcome) : Readable outcome.1.reactor := by
  cases event with
  | onSocketRead socketId answers =>
      simp only [handle] at handled
      split at handled
      · cases handled
        exact readable
      · rename_i connection found
        exact onSocketRead_readable readable found (answered connection found) handled
  | onSocketWrite socketId env =>
      exact afterReactor_readable ((KeepsReads.onSocketWrite _ socketId env).readable readable)
        handled
  | onSocketError socketId socketError =>
      exact afterReactor_readable
        ((KeepsReads.onSocketError _ socketId socketError).readable readable) handled
  | onNetCommand cmd env =>
      cases cmd with
      | none =>
          cases handled
          exact KeepsReads.readable (r := thread.reactor) (.of_connections rfl rfl rfl rfl) readable
      | some cmd => exact handleNetCommand_readable served readable handled
  | checkTimeout now => exact checkTimeoutTurn_readable readable handled

end Handlers

end NetThread

end ZBlueNet
