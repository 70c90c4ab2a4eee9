import ZBlueNet.BroadcastAudience
import ZBlueNet.ClientCommandQueue
import ZBlueNet.Framing
import ZBlueNet.SendCompletion

/-!
The way of a message out of a `TcpClient`: the main thread pushes it to the command
queue of the net thread, which encodes it and sends it on the connection of that
moment. What a socket does not take at once waits in the write buffer.
-/

namespace ZBlueNet

open Runs EpollReactor TimerHeap

namespace EpollReactor

/-- A connection that is there was there before, with the same bytes behind what its socket took. -/
structure KeepsSent (id : SocketId) (r next : EpollReactor) : Prop where
  initSize : next.connWriteBufferInitSize = r.connWriteBufferInitSize
  expandSize : next.connWriteBufferExpandSize = r.connWriteBufferExpandSize
  maxSize : next.connWriteBufferMaxSize = r.connWriteBufferMaxSize
  sent : ∀ after, next.connections id = some after → ∃ before, r.connections id = some before ∧
    after.writeBuffer = before.writeBuffer ∧ ∀ socket, r.sockets id = some socket →
      ∃ device, next.sockets id = some device ∧ device.accepted = socket.accepted

variable {r middle next : EpollReactor} {id other : SocketId} {connection : TcpConnection}

theorem KeepsSent.trans (first : KeepsSent id r middle) (later : KeepsSent id middle next) :
    KeepsSent id r next := by
  refine ⟨later.initSize.trans first.initSize, later.expandSize.trans first.expandSize,
    later.maxSize.trans first.maxSize, ?_⟩
  intro after found
  obtain ⟨between, there, same, taken⟩ := later.sent after found
  obtain ⟨before, here, kept, given⟩ := first.sent between there
  refine ⟨before, here, same.trans kept, ?_⟩
  intro socket open_
  obtain ⟨half, present, accepted⟩ := given socket open_
  obtain ⟨device, still, equal⟩ := taken half present
  exact ⟨device, still, equal.trans accepted⟩

theorem KeepsSent.of_tables (initSize : next.connWriteBufferInitSize = r.connWriteBufferInitSize)
    (expandSize : next.connWriteBufferExpandSize = r.connWriteBufferExpandSize)
    (maxSize : next.connWriteBufferMaxSize = r.connWriteBufferMaxSize)
    (connections : next.connections id = r.connections id)
    (sockets : next.sockets id = r.sockets id) : KeepsSent id r next := by
  refine ⟨initSize, expandSize, maxSize, ?_⟩
  intro after found
  refine ⟨after, connections ▸ found, rfl, ?_⟩
  intro socket open_
  exact ⟨socket, sockets ▸ open_, rfl⟩

theorem KeepsSent.refl (id : SocketId) (r : EpollReactor) : KeepsSent id r r :=
  .of_tables rfl rfl rfl rfl rfl

theorem KeepsSent.setConnection {old : TcpConnection} (found : r.connections other = some old)
    (same : connection.writeBuffer = old.writeBuffer) :
    KeepsSent id r (r.setConnection other connection) := by
  refine ⟨rfl, rfl, rfl, ?_⟩
  intro after placed
  have sockets (socket : TcpSocket) (open_ : r.sockets id = some socket) :
      ∃ device, (r.setConnection other connection).sockets id = some device ∧
        device.accepted = socket.accepted := ⟨socket, open_, rfl⟩
  rcases update_connection placed with ⟨rfl, rfl⟩ | before
  · exact ⟨old, found, same, sockets⟩
  · exact ⟨after, before, rfl, sockets⟩

theorem KeepsSent.closeSocket (r : EpollReactor) (other : SocketId) :
    KeepsSent id r (r.closeSocket other) := by
  rw [EpollReactor.closeSocket]
  cases found : r.sockets other with
  | none => exact .refl id r
  | some device =>
      have detached : KeepsSent id r (r.detachIOService other) := by
        simp only [detachIOService, found]
        split
        · refine ⟨rfl, rfl, rfl, ?_⟩
          intro after there
          refine ⟨after, there, rfl, ?_⟩
          intro socket open_
          by_cases mine : id = other
          · subst mine
            cases found.symm.trans open_
            exact ⟨_, Function.update_self .., rfl⟩
          · exact ⟨socket, (Function.update_of_ne mine ..).trans open_, rfl⟩
        · exact .refl id r
      apply detached.trans
      by_cases mine : id = other
      · refine ⟨rfl, rfl, rfl, ?_⟩
        intro after there
        simp [mine] at there
      · exact .of_tables rfl rfl rfl (Function.update_of_ne mine ..) (Function.update_of_ne mine ..)

theorem agreeAt_closeSocket (r : EpollReactor) (apart : id ≠ other) :
    AgreeAt id r (r.closeSocket other) := by
  refine ⟨?_, ?_, ?_⟩
  · rw [EpollReactor.closeSocket]
    split
    · rfl
    · rename_i device found
      have detached : (r.detachIOService other).connections = r.connections := by
        simp only [detachIOService, found]
        split <;> rfl
      dsimp only
      rw [Function.update_of_ne apart, detached]
  · rw [closeSocket_sockets, Function.update_of_ne apart]
  · have keeps : KeepsSent id r (r.closeSocket other) := .closeSocket r other
    exact keeps.maxSize.symm

theorem agreeAt_onSocketWrite (r : EpollReactor) (apart : id ≠ other) (env : SendEnv) :
    AgreeAt id r (r.onSocketWrite other env).1 := by
  rw [EpollReactor.onSocketWrite]
  split
  · exact .refl id r
  · rename_i connection found
    dsimp only
    split
    · split
      · exact agreeAt_setConnection apart _
      · exact .refl id r
    · have sent (change : TcpSocket → TcpSocket) : AgreeAt id r (r.modifySocket other change) :=
        agreeAt_modifySocket apart change
      split
      · have flushed (change : TcpSocket → TcpSocket) (after : TcpConnection) :
            AgreeAt id r (((r.modifySocket other change).modifySocket other
              (.setWriteCallback false)).setConnection other after) :=
          (sent change).trans
            ((agreeAt_modifySocket apart _).trans (agreeAt_setConnection apart after))
        rcases connection.sendCompleteCb with _ | close | token
        · exact flushed _ _
        · exact (flushed _ _).trans (agreeAt_closeSocket _ apart)
        · exact flushed _ _
      · exact (sent _).trans (agreeAt_setConnection apart _)

theorem KeepsSent.onSendMessageError (r : EpollReactor) (timerId : TimerId) :
    KeepsSent id r (r.onSendMessageError timerId).1 := by
  unfold EpollReactor.onSendMessageError
  split
  · exact .refl id r
  · dsimp only
    split <;> exact .of_tables rfl rfl rfl rfl rfl

theorem KeepsSent.onSocketError (r : EpollReactor) (other : SocketId) (socketError : Int) :
    KeepsSent id r (r.onSocketError other socketError).1 := by
  unfold EpollReactor.onSocketError
  split
  · exact .refl id r
  · rename_i found
    exact .setConnection found rfl

theorem KeepsSent.onSocketReadPeerClose (r : EpollReactor) (other : SocketId) :
    KeepsSent id r (r.onSocketReadPeerClose other).1 := by
  unfold EpollReactor.onSocketReadPeerClose
  split
  · exact .refl id r
  · rename_i found
    exact .setConnection found rfl

theorem KeepsSent.onSocketReadLoop {answers : List RecvAnswer} {ending : ReadEnd}
    {calls : List ReactorCall}
    (ended : r.onSocketReadLoop other answers = some (ending, next, calls)) :
    KeepsSent id r next := by
  simp only [EpollReactor.onSocketReadLoop] at ended
  split at ended
  · cases ended
  · rename_i connection found
    split at ended
    · cases ended
    · cases ended
      exact .setConnection found rfl
    · cases ended
      exact .setConnection found rfl

/-! The connection itself. -/

/-- What the socket has accepted, as long as there is a socket. -/
def acceptedOf (r : EpollReactor) (id : SocketId) (accepted : List UInt8) : List UInt8 :=
  (r.sockets id).elim accepted TcpSocket.accepted

structure Holds (r : EpollReactor) (id : SocketId) (accepted total : List UInt8)
    (connection : TcpConnection) : Prop where
  valid : connection.writeBuffer.Valid
  expandSize : connection.writeBuffer.expandSize = 1024
  bounded : connection.writeBuffer.readableBytes ≤ 409600
  device : ∃ socket, r.sockets id = some socket ∧ socket.accepted = accepted
  whole : accepted ++ connection.writeBuffer.content = total

/-- `total` is sent on a connection: all of it is on its way, as long as the connection is there. -/
structure Sends (r : EpollReactor) (id : SocketId) (accepted total : List UInt8) : Prop where
  part : accepted <+: total
  holds : ∀ connection, r.connections id = some connection → Holds r id accepted total connection

section Sends

variable {accepted total buffer : List UInt8} {env : SendEnv}

theorem acceptedOf_some {socket : TcpSocket} (open_ : r.sockets id = some socket) :
    r.acceptedOf id accepted = socket.accepted := by
  rw [acceptedOf, open_]
  rfl

theorem acceptedOf_none (closed : r.sockets id = none) : r.acceptedOf id accepted = accepted := by
  rw [acceptedOf, closed]
  rfl

theorem Sends.gone (part : accepted <+: total) (gone : r.connections id = none) :
    Sends r id accepted total := by
  refine ⟨part, ?_⟩
  intro connection there
  cases gone.symm.trans there

theorem Sends.of_device {device : TcpSocket} (open_ : r.sockets id = some device)
    (found : r.connections id = some connection) (valid : connection.writeBuffer.Valid)
    (expandSize : connection.writeBuffer.expandSize = 1024)
    (bounded : connection.writeBuffer.readableBytes ≤ 409600)
    (whole : device.accepted ++ connection.writeBuffer.content = total) :
    Sends r id (r.acceptedOf id accepted) total := by
  rw [acceptedOf_some open_]
  refine ⟨⟨connection.writeBuffer.content, whole⟩, ?_⟩
  intro other there
  cases found.symm.trans there
  exact ⟨valid, expandSize, bounded, ⟨device, open_, rfl⟩, whole⟩

theorem Sends.runSendComplete {device : TcpSocket} (open_ : r.sockets id = some device)
    (part : accepted <+: total) (sends : Sends r id (r.acceptedOf id accepted) total)
    (sendCompleteCb : Option SendCompleteCallback) :
    Sends (r.runSendComplete id sendCompleteCb).1 id
      ((r.runSendComplete id sendCompleteCb).1.acceptedOf id accepted) total := by
  rcases sendCompleteCb with _ | close | token
  · exact sends
  · have closed : (r.closeSocket id).sockets id = none := by
      rw [closeSocket_sockets, Function.update_self]
    simp only [EpollReactor.runSendComplete]
    rw [acceptedOf_none closed]
    exact .gone part (SendRun.closeSocket_connections open_)
  · exact sends

theorem KeepsSent.sends (keeps : KeepsSent id r next) (sends : Sends r id accepted total) :
    Sends next id accepted total := by
  refine ⟨sends.part, ?_⟩
  intro after found
  obtain ⟨before, there, same, given⟩ := keeps.sent after found
  obtain ⟨valid, expandSize, bounded, ⟨socket, open_, taken⟩, whole⟩ := sends.holds before there
  obtain ⟨device, still, equal⟩ := given socket open_
  rw [← same] at valid expandSize bounded whole
  exact ⟨valid, expandSize, bounded, ⟨device, still, equal.trans taken⟩, whole⟩

theorem Sends.onSocketWrite (served : Served r) (sends : Sends r id accepted total)
    (env : SendEnv) :
    Sends (r.onSocketWrite id env).1 id
      ((r.onSocketWrite id env).1.acceptedOf id accepted) total := by
  cases found : r.connections id with
  | none =>
      have same : r.onSocketWrite id env = (r, []) := by
        rw [EpollReactor.onSocketWrite, found]
      rw [same, acceptedOf_none (served.sockets_none.mpr found)]
      exact sends
  | some connection =>
      obtain ⟨valid, expandSize, bounded, ⟨socket, open_, rfl⟩, whole⟩ :=
        sends.holds connection found
      rw [EpollReactor.onSocketWrite, found]
      cases result : env.result with
      | error errno =>
          dsimp only
          split
          · exact .of_device open_ (Function.update_self ..) valid expandSize bounded whole
          · exact .of_device open_ found valid expandSize bounded whole
      | count bytes =>
          let device := socket.send (connection.writeBuffer.content.take bytes)
          let sent := r.modifySocket id (.send (connection.writeBuffer.content.take bytes))
          have present : sent.sockets id = some device := by
            simp [sent, EpollReactor.modifySocket, open_, device]
          have moved : device.accepted ++ (connection.writeBuffer.read bytes).content = total := by
            have bytesOf : device.accepted =
              socket.accepted ++ connection.writeBuffer.content.take bytes := rfl
            rw [valid.read_content, bytesOf, List.append_assoc, List.take_append_drop, whole]
          have smaller := (read_readableBytes_le connection.writeBuffer bytes).trans bounded
          have expands : (connection.writeBuffer.read bytes).expandSize = 1024 :=
            (DynamicBuffer.read_expandSize bytes).trans expandSize
          dsimp only
          split
          · have flushed : (sent.modifySocket id (.setWriteCallback false)).sockets id =
                some (device.setWriteCallback false) := by
              rw [EpollReactor.modifySocket, present]
              exact Function.update_self ..
            let written := (sent.modifySocket id (.setWriteCallback false)).setConnection id
              { connection with
                writeBuffer := connection.writeBuffer.read bytes, sendCompleteCb := none }
            have open' : written.sockets id = some (device.setWriteCallback false) := flushed
            have reached : Sends written id (written.acceptedOf id socket.accepted) total :=
              .of_device open' (Function.update_self ..) (valid.read bytes) expands smaller moved
            exact reached.runSendComplete open' sends.part connection.sendCompleteCb
          · have open' : (sent.setConnection id { connection with
                writeBuffer := connection.writeBuffer.read bytes }).sockets id = some device :=
              present
            exact .of_device open' (Function.update_self ..) (valid.read bytes) expands smaller moved

theorem Holds.sentDirectly (holds : Holds r id accepted total connection)
    (named : connection.socket = id) {result : SendResult} {sent : EpollReactor} {taken : Nat}
    (direct : SentDirectly r connection buffer result sent taken) :
    (∃ device, sent.sockets id = some device ∧ device.accepted = accepted ++ buffer.take taken) ∧
      (taken = 0 ∨ connection.writeBuffer.content = [] ∧ result = .count taken) := by
  obtain ⟨socket, open_, accepts⟩ := holds.device
  rcases direct with ⟨rfl, rfl⟩ | ⟨empty, counted, rfl⟩
  · refine ⟨⟨socket, open_, ?_⟩, .inl rfl⟩
    rw [List.take_zero, List.append_nil, accepts]
  · refine ⟨⟨socket.send (buffer.take taken), ?_, ?_⟩, .inr ⟨?_, counted⟩⟩
    · simp [EpollReactor.modifySocket, named, open_]
    · rw [TcpSocket.send, accepts]
    · exact holds.valid.content_eq_nil.mpr empty

/-- What the socket has taken, with what waits, is a beginning of what is sent. -/
theorem Holds.part (holds : Holds r id accepted total connection) {device : TcpSocket} {taken : Nat}
    {result : SendResult} (accepts : device.accepted = accepted ++ buffer.take taken)
    (level : taken = 0 ∨ connection.writeBuffer.content = [] ∧ result = .count taken) :
    device.accepted ++ connection.writeBuffer.content <+: total ++ buffer := by
  rw [accepts]
  rcases level with rfl | ⟨empty, -⟩
  · rw [List.take_zero, List.append_nil, holds.whole]
    exact List.prefix_append ..
  · have all := holds.whole
    rw [empty, List.append_nil] at all
    rw [all, empty, List.append_nil]
    exact List.prefix_append_right_inj total |>.mpr (List.take_prefix ..)

theorem Holds.failSend (holds : Holds r id accepted total connection)
    (named : connection.socket = id) {sent : EpollReactor} {device : TcpSocket}
    (present : sent.sockets id = some device) (now : Timestamp) (errorCode : Int) :
    Sends (sent.failSend now connection errorCode) id
      ((sent.failSend now connection errorCode).acceptedOf id accepted)
      (device.accepted ++ connection.writeBuffer.content) := by
  have still : (sent.failSend now connection errorCode).sockets id = some device := present
  have marked : (sent.failSend now connection errorCode).connections id =
      some (connection.setError errorCode) := by
    rw [EpollReactor.failSend, named]
    exact Function.update_self ..
  exact .of_device still marked holds.valid holds.expandSize holds.bounded rfl

theorem Holds.append (holds : Holds r id accepted total connection) {device : TcpSocket}
    {taken : Nat} {result : SendResult}
    (accepts : device.accepted = accepted ++ buffer.take taken)
    (level : taken = 0 ∨ connection.writeBuffer.content = [] ∧ result = .count taken)
    (rest : connection.writeBuffer.content = [] → result = .count taken →
      buffer.take (buffer.length - taken) = buffer.drop taken)
    (grows : connection.writeBuffer.Grows (buffer.take (buffer.length - taken)).length) :
    device.accepted ++
        (connection.writeBuffer.append (buffer.take (buffer.length - taken))).content =
      total ++ buffer := by
  rw [accepts, holds.valid.append_content _ grows, ← holds.whole]
  rcases level with rfl | ⟨empty, counted⟩
  · rw [Nat.sub_zero, List.take_length, List.take_zero, List.append_nil, List.append_assoc]
  · rw [rest empty counted, empty]
    simp

theorem Sends.sendMessage (served : Served r) (sends : Sends r id accepted total)
    (limit : r.connWriteBufferMaxSize = 409600) (small : buffer.length ≤ 40960) {sentBefore : List UInt8}
    (rest : SendRun.RestIsPrefix id ⟨r, sentBefore⟩ (.sendMessage buffer none env)) :
    let outcome := r.sendMessage id buffer none env
    ∃ reached, reached <+: total ++ buffer ∧ (outcome.1 = true → reached = total ++ buffer) ∧
      Sends outcome.2.1 id (outcome.2.1.acceptedOf id accepted) reached := by
  intro outcome
  have longer : total <+: total ++ buffer := List.prefix_append ..
  have refused (same : outcome = (false, r, [])) (kept : r.acceptedOf id accepted = accepted) :
      ∃ reached, reached <+: total ++ buffer ∧ (outcome.1 = true → reached = total ++ buffer) ∧
        Sends outcome.2.1 id (outcome.2.1.acceptedOf id accepted) reached := by
    rw [same]
    refine ⟨total, longer, ?_, kept.symm ▸ sends⟩
    intro accepts
    cases accepts
  cases found : r.connections id with
  | none =>
      apply refused
      · simp only [outcome, EpollReactor.sendMessage, found]
      · exact acceptedOf_none (served.sockets_none.mpr found)
  | some connection =>
      have named := served.named id connection found
      have holds := sends.holds connection found
      obtain ⟨socket, open_, accepts⟩ := holds.device
      have called : outcome = r.sendConnection connection buffer none env := by
        simp only [outcome, EpollReactor.sendMessage, found]
      by_cases connected : connection.status = .connected
      · obtain ⟨sent, taken, direct, ending⟩ := sendConnection_cases r buffer none env connected
        obtain ⟨⟨device, present, accepts⟩, level⟩ := holds.sentDirectly named direct
        have failed (errorCode : Int)
            (same : outcome = (false, sent.failSend env.now connection errorCode, [])) :
            ∃ reached, reached <+: total ++ buffer ∧ (outcome.1 = true → reached = total ++ buffer) ∧
              Sends outcome.2.1 id (outcome.2.1.acceptedOf id accepted) reached := by
          rw [same]
          refine ⟨_, holds.part accepts level, ?_, holds.failSend named present env.now errorCode⟩
          intro accepts
          cases accepts
        rcases ending with ⟨errno, -, -, same⟩ | goesOn
        · exact failed errno (called.trans same)
        · obtain ⟨-, -, -, same⟩ | ⟨remaining, room, same⟩ | ⟨nothing, same⟩ :=
            bufferRemaining_cases sent connection buffer (buffer.length - taken) none env.now
          · exact failed enobufs (called.trans (goesOn.trans same))
          · let left := buffer.take (buffer.length - taken)
            have size : left.length = buffer.length - taken := List.length_take_of_le (Nat.sub_le ..)
            have bounded := holds.bounded
            have expands := holds.expandSize
            have grows : connection.writeBuffer.Grows left.length := by
              apply holds.valid.grows
              rw [DynamicBuffer.Fits, expands, sizeModulus]
              omega
            have whole : device.accepted ++ (connection.writeBuffer.append left).content =
                total ++ buffer := by
              apply holds.append accepts level ?_ grows
              intro empty counted
              exact (SendRun.restIsPrefix_iff found).mp rest taken
                (holds.valid.content_eq_nil.mp empty) counted
            have reached := called.trans (goesOn.trans same)
            have limited := room (by rw [direct.connWriteBufferMaxSize, limit]; decide)
            rw [direct.connWriteBufferMaxSize, limit, sizeAdd, sizeModulus,
              Nat.mod_eq_of_lt (by omega)] at limited
            have open' : outcome.2.1.sockets id = some (device.setWriteCallback true) := by
              rw [reached]
              simp [EpollReactor.modifySocket, EpollReactor.setConnection, named, present]
            have found' : outcome.2.1.connections id = some { connection with
                writeBuffer := connection.writeBuffer.append left, sendCompleteCb := none } := by
              rw [reached]
              simp [EpollReactor.modifySocket, EpollReactor.setConnection, named, left]
            refine ⟨total ++ buffer, List.prefix_refl _, fun _ => rfl, ?_⟩
            refine .of_device open' found' (holds.valid.append left grows)
              ((DynamicBuffer.append_expandSize left).trans expands) ?_ whole
            have longest := append_readableBytes_le connection.writeBuffer left
            rw [size] at longest
            exact longest.trans (by omega)
          · have reached := called.trans (goesOn.trans same)
            have open' : outcome.2.1.sockets id = some device := by
              rw [reached]
              exact present
            have found' : outcome.2.1.connections id = some connection := by
              rw [reached]
              exact (congrFun direct.connections id).trans found
            refine ⟨total ++ buffer, List.prefix_refl _, fun _ => rfl, ?_⟩
            refine .of_device open' found' holds.valid holds.expandSize holds.bounded ?_
            have every : buffer.take taken = buffer := List.take_of_length_le (by omega)
            rw [accepts, every, ← holds.whole]
            rcases level with rfl | ⟨empty, -⟩
            · rw [← every]
              simp
            · simp [empty]
      · apply refused
        · rw [called, sendConnection, if_pos connected]
        · rw [acceptedOf_some open_, accepts]

end Sends

end EpollReactor

namespace NetClientThread

variable {Callback Message : Type} {client middle next : NetClientThread Callback Message}
  {clock : Timestamp} {id : SocketId}
  {result : NetClientThread Callback Message × NetThread.Handed Callback Message}

/-- A handler that sends nothing. The client keeps its connection, or it is disconnected. -/
structure Aside (client next : NetClientThread Callback Message) : Prop where
  keeps : ∀ id, KeepsSent id client.netThread.reactor next.netThread.reactor
  room : next.netThread.encodeBuffer.buffer.length = client.netThread.encodeBuffer.buffer.length
  commandQueue : next.commandQueue = client.commandQueue
  identity : next.connected = client.connected ∧ next.socketId = client.socketId ∨
    next.connected = false

theorem Aside.refl (client : NetClientThread Callback Message) : Aside client client :=
  ⟨fun id => .refl id _, rfl, rfl, .inl ⟨rfl, rfl⟩⟩

theorem Aside.trans (first : Aside client middle) (later : Aside middle next) :
    Aside client next := by
  refine ⟨fun id => (first.keeps id).trans (later.keeps id),
    later.room.trans first.room, later.commandQueue.trans first.commandQueue, ?_⟩
  rcases later.identity with ⟨connected, socketId⟩ | closed
  · rcases first.identity with ⟨before, named⟩ | closed
    · exact .inl ⟨connected.trans before, socketId.trans named⟩
    · exact .inr (connected.trans closed)
  · exact .inr closed

theorem Aside.setReactor {reactor : EpollReactor}
    (keeps : ∀ id, KeepsSent id client.netThread.reactor reactor) :
    Aside client (client.setReactor reactor) :=
  ⟨keeps, rfl, rfl, .inl ⟨rfl, rfl⟩⟩

theorem Aside.startConnectTimer (client : NetClientThread Callback Message) (clock : Timestamp) :
    Aside client (client.startConnectTimer clock) := by
  have stopped : Aside client client.stopConnectTimer := by
    rw [stopConnectTimer]
    split
    · exact .setReactor fun id => .of_tables rfl rfl rfl rfl rfl
    · exact .refl client
  apply stopped.trans
  exact ⟨fun id => .of_tables rfl rfl rfl rfl rfl, rfl, rfl, .inl ⟨rfl, rfl⟩⟩

theorem Aside.disconnect (closed : client.disconnect = some result) : Aside client result.1 := by
  rw [NetClientThread.disconnect] at closed
  split at closed
  · simp only [NetThread.closeSocket, Option.map_map, Option.map_eq_some_iff] at closed
    obtain ⟨handed, -, rfl⟩ := closed
    exact ⟨fun id => .closeSocket _ _, rfl, rfl, .inr rfl⟩
  · cases closed
    exact .refl client

theorem Aside.onClose (closed : client.onClose clock = some result) : Aside client result.1 := by
  simp only [NetClientThread.onClose, Option.map_eq_some_iff] at closed
  obtain ⟨disconnected, gone, rfl⟩ := closed
  exact (Aside.disconnect gone).trans (.startConnectTimer _ clock)

theorem Aside.setReadBuffer (client : NetClientThread Callback Message) (id : SocketId)
    (readBuffer : DynamicBuffer) : Aside client (client.setReadBuffer id readBuffer) := by
  rw [NetClientThread.setReadBuffer]
  split
  · exact .refl client
  · rename_i found
    exact .setReactor fun other => .setConnection found rfl

section Handlers

variable [BaseStruct Message]

theorem Aside.recvMessageCb (received : client.recvMessageCb clock id = some result) :
    Aside client result.1 := by
  simp only [NetClientThread.recvMessageCb] at received
  split at received
  · cases received
    exact .refl client
  · rename_i connection found
    have loop : Aside client
        (client.onRecvMessage clock id connection.readBuffer client.netThread.newNetCmdCb).client := by
      rcases onRecvMessage_client client clock id connection.readBuffer
        client.netThread.newNetCmdCb with same | ⟨handed, closed⟩
      · rw [same]
        exact .refl client
      · exact .onClose closed
    split at received
    · cases received
    · cases received
    all_goals
      cases received
      exact loop.trans (.setReadBuffer _ id _)

theorem Aside.onReactorCalls {calls : List ReactorCall}
    (called : client.onReactorCalls clock calls = some result) : Aside client result.1 := by
  induction calls generalizing client result with
  | nil =>
      cases called
      exact .refl client
  | cons call calls ih =>
      simp only [NetClientThread.onReactorCalls, Option.bind_eq_some_iff, Option.map_eq_some_iff]
        at called
      obtain ⟨first, now, rest, later, rfl⟩ := called
      have once : Aside client first.1 := by
        cases call with
        | errorCb lost errorCode => exact .onClose now
        | peerCloseCb lost => exact .onClose now
        | recvMessageCb id => exact .recvMessageCb now
        | sendCompleteCb id token =>
            cases now
            exact .refl client
      have others : Aside first.1 rest.1 := ih later
      exact once.trans others

theorem Aside.afterReactor {outcome : EpollReactor × List ReactorCall}
    (keeps : ∀ id, KeepsSent id client.netThread.reactor outcome.1)
    (called : client.afterReactor clock outcome = some result) : Aside client result.1 :=
  (Aside.setReactor keeps).trans (.onReactorCalls called)

theorem Aside.onSocketRead {answers : List RecvAnswer}
    (read : client.onSocketRead clock id answers = some result) : Aside client result.1 := by
  simp only [NetClientThread.onSocketRead, Option.bind_eq_some_iff] at read
  obtain ⟨⟨ending, next, calls⟩, loop, received, called, finish⟩ := read
  have first : Aside client received.1 := .afterReactor (fun other => .onSocketReadLoop loop) called
  split at finish
  · rw [Option.map_eq_some_iff] at finish
    obtain ⟨closed, closing, rfl⟩ := finish
    have last : Aside received.1 closed.1 :=
      .afterReactor (fun other => .onSocketReadPeerClose _ id) closing
    exact first.trans last
  · cases finish
    exact first
  · cases finish
    exact first

end Handlers

end NetClientThread

/-! The messages that a client sends. -/

namespace EpollReactor

structure WriteSized (r : EpollReactor) : Prop where
  initSize : r.connWriteBufferInitSize = 1024
  expandSize : r.connWriteBufferExpandSize = 1024
  maxSize : r.connWriteBufferMaxSize = 409600

variable {r next : EpollReactor} {id : SocketId}

theorem KeepsSent.writeSized (keeps : KeepsSent id r next) (sized : WriteSized r) :
    WriteSized next :=
  ⟨keeps.initSize.trans sized.initSize, keeps.expandSize.trans sized.expandSize,
    keeps.maxSize.trans sized.maxSize⟩

theorem WriteSized.keepsSent (before : WriteSized r) (after : WriteSized next)
    (agree : AgreeAt id r next) : KeepsSent id r next :=
  .of_tables (after.initSize.trans before.initSize.symm)
    (after.expandSize.trans before.expandSize.symm) agree.maxSize.symm agree.connection.symm
    agree.socket.symm

theorem WriteSized.onSocketWrite (sized : WriteSized r) (id : SocketId) (env : SendEnv) :
    WriteSized (r.onSocketWrite id env).1 := by
  have close {middle : EpollReactor} (between : WriteSized middle) :
      WriteSized (middle.closeSocket id) := by
    have keeps : KeepsSent id middle (middle.closeSocket id) := .closeSocket middle id
    exact keeps.writeSized between
  simp only [EpollReactor.onSocketWrite, runSendComplete]
  repeat' split
  all_goals first
    | exact close ⟨sized.initSize, sized.expandSize, sized.maxSize⟩
    | exact ⟨sized.initSize, sized.expandSize, sized.maxSize⟩

theorem WriteSized.sendMessage (sized : WriteSized r) (id : SocketId) (buffer : List UInt8)
    (env : SendEnv) : WriteSized (r.sendMessage id buffer none env).2.1 := by
  simp only [EpollReactor.sendMessage, sendConnection, bufferRemaining, runSendComplete]
  repeat' split
  all_goals exact ⟨sized.initSize, sized.expandSize, sized.maxSize⟩

theorem Served.acceptedOf (served : Served r) {accepted total : List UInt8}
    (sends : Sends r id accepted total) : r.acceptedOf id accepted = accepted := by
  cases found : r.connections id with
  | none => exact acceptedOf_none (served.sockets_none.mpr found)
  | some connection =>
      obtain ⟨socket, open_, taken⟩ := (sends.holds connection found).device
      rw [acceptedOf_some open_, taken]

theorem Sends.attachSocket (sized : WriteSized r) (absent : r.connections id = none)
    (granted : Bool) : Sends (r.attachSocket id .create granted).2 id [] [] := by
  cases entered : r.attachSocket id .create granted with
  | mk succeeds attached =>
      cases succeeds with
      | true =>
          have initSize : r.connWriteBufferInitSize < sizeModulus := by
            rw [sized.initSize, sizeModulus]
            decide
          have expandSize : 0 < r.connWriteBufferExpandSize := by
            rw [sized.expandSize]
            decide
          have sending := SendRun.sending_attached absent initSize expandSize entered
          have empty : (r.newConnection id).writeBuffer.content = [] :=
            DynamicBuffer.create_content ..
          refine ⟨List.nil_prefix, ?_⟩
          intro connection found
          cases sending.found.symm.trans found
          refine ⟨sending.valid, sized.expandSize, ?_, ⟨_, sending.device, rfl⟩, empty⟩
          rw [← sending.valid.content_length, empty]
          decide
      | false =>
          have same : attached.connections = r.connections := by
            simp only [EpollReactor.attachSocket] at entered
            split at entered
            · cases entered
              rfl
            · split at entered
              · cases entered
              · cases entered
                rfl
          exact .gone List.nil_prefix (same ▸ absent)

theorem KeepsSent.attachSocket (r : EpollReactor) {other : SocketId} (apart : id ≠ other)
    (socket : TcpSocket) (granted : Bool) :
    KeepsSent id r (r.attachSocket other socket granted).2 := by
  simp only [EpollReactor.attachSocket]
  split
  · exact .refl id r
  · split
    · exact .of_tables rfl rfl rfl (Function.update_of_ne apart ..) (Function.update_of_ne apart ..)
    · exact .of_tables rfl rfl rfl rfl rfl

end EpollReactor

def messageOf {Message : Type} (cmd : Option (NetCommand Message)) : Option (Int × Message) :=
  cmd.bind fun cmd =>
    if cmd.type = .message then cmd.message.map fun message => (cmd.messageId, message) else none

theorem messagesOf_cons {Message : Type} (cmd : Option (NetCommand Message))
    (rest : List (Option (NetCommand Message))) :
    (cmd :: rest).filterMap messageOf = (messageOf cmd).toList ++ rest.filterMap messageOf := by
  cases found : messageOf cmd with
  | none => rw [List.filterMap_cons_none found, Option.toList_none, List.nil_append]
  | some entry => rw [List.filterMap_cons_some found, Option.toList_some, List.singleton_append]

def wireOf {Message : Type} [BaseStruct Message] (size : Nat) (messages : List (Int × Message)) :
    List UInt8 :=
  messages.flatMap fun entry => frameBytes entry.1 (BaseStruct.encode entry.2 (size - 4)).2

namespace NetClientThread

variable {Callback Message : Type} {client next : NetClientThread Callback Message}
  {clock : Timestamp} {id : SocketId} {env : SendEnv} {cmd : Option (NetCommand Message)}
  {result : NetClientThread Callback Message × NetThread.Handed Callback Message}

def push (pipeCapacity : Nat) (client : NetClientThread Callback Message)
    (cmd : Option (NetCommand Message)) : NetClientThread Callback Message :=
  { client with netThread := client.netThread.push pipeCapacity cmd }

def setCommandQueue (client : NetClientThread Callback Message)
    (commandQueue : MessageQueue (Option (NetCommand Message))) :
    NetClientThread Callback Message :=
  { client with netThread := { client.netThread with commandQueue := commandQueue } }

theorem onClose_closes (closed : client.onClose clock = some result) :
    result.1.connected = false := by
  have started (other : NetClientThread Callback Message) :
      (other.startConnectTimer clock).connected = other.connected := by
    unfold startConnectTimer stopConnectTimer
    split <;> rfl
  cases connected : client.connected with
  | true =>
      rw [onClose_connected connected closed, started]
      rfl
  | false => rw [onClose_disconnected connected closed, started, connected]

section Sending

variable [BaseStruct Message]

def encodedAs (client : NetClientThread Callback Message) (entry : Int × Message) : List UInt8 :=
  (NetProtocol.writeMessage entry.1 entry.2 client.netThread.encodeBuffer).2.content

def given (client : NetClientThread Callback Message) (cmd : Option (NetCommand Message)) :
    Option (Int × Message) :=
  (messageOf cmd).filter fun entry =>
    (NetProtocol.writeMessage entry.1 entry.2 client.netThread.encodeBuffer).1

/-- The reactor right behind `sendMessage`, before a failure closes the connection. -/
def afterSend (client : NetClientThread Callback Message) (env : SendEnv)
    (cmd : Option (NetCommand Message)) : EpollReactor :=
  match client.given cmd with
  | none => client.netThread.reactor
  | some entry =>
      (client.netThread.reactor.sendMessage client.socketId (client.encodedAs entry) none env).2.1

def sentOn (client : NetClientThread Callback Message) (id : SocketId)
    (cmd : Option (NetCommand Message)) : List (Int × Message) :=
  if client.connected ∧ id = client.socketId then (client.given cmd).toList else []

theorem writeMessage_room {buffer : DynamicBuffer} (enough : 4 ≤ buffer.buffer.length)
    (bounded : buffer.buffer.length < sizeModulus) (messageId : Int) (message : Message) :
    (NetProtocol.writeMessage messageId message buffer).2.buffer.length = buffer.buffer.length := by
  have written := writeMessage_eq enough bounded messageId message
  rw [written]
  have first (bytes : List UInt8) :
      (Bytes.overwrite buffer.buffer 0 bytes).length = buffer.buffer.length :=
    Bytes.overwrite_length _ _ _ (Nat.zero_le _)
  have second (bytes more : List UInt8) :
      (Bytes.overwrite (Bytes.overwrite buffer.buffer 0 bytes) 4 more).length =
        buffer.buffer.length := by
    rw [Bytes.overwrite_length _ _ _ (by rw [first]; exact enough), first]
  split
  · exact second _ _
  · rw [Bytes.overwrite_length _ _ _ (by rw [second]; omega), second]

theorem onNetCommand_sends (enough : 4 ≤ client.netThread.encodeBuffer.buffer.length)
    (bounded : client.netThread.encodeBuffer.buffer.length < sizeModulus)
    (taken : client.onNetCommand clock env cmd = some result) :
    (client.given cmd = none ∧ Aside client result.1 ∧
        (messageOf cmd = none ∨ result.1.connected = false)) ∨
      ∃ entry encoded, messageOf cmd = some entry ∧ client.given cmd = some entry ∧
        Aside client encoded ∧ encoded.netThread.reactor = client.netThread.reactor ∧
        encoded.connected = client.connected ∧ encoded.socketId = client.socketId ∧
        let sent := client.netThread.reactor.sendMessage client.socketId (client.encodedAs entry) none
          env
        (sent.1 = true ∧ result.1 = encoded.setReactor sent.2.1 ∨
          sent.1 = false ∧ (encoded.setReactor sent.2.1).onClose clock = some result) := by
  cases cmd with
  | none =>
      cases taken
      refine .inl ⟨rfl, ⟨fun id => .of_tables rfl rfl rfl rfl rfl, rfl, rfl, .inl ⟨rfl, rfl⟩⟩, ?_⟩
      exact .inl rfl
  | some cmd =>
      simp only [onNetCommand] at taken
      split at taken
      · rename_i isMessage
        split at taken
        · cases taken
        · rename_i message carried
          have carries : messageOf (some cmd) = some (cmd.messageId, message) := by
            simp [messageOf, isMessage, carried]
          let written := NetProtocol.writeMessage cmd.messageId message client.netThread.encodeBuffer
          have encoded : Aside client (client.setEncodeBuffer written.2) :=
            ⟨fun id => .refl id _, writeMessage_room enough bounded cmd.messageId message,
              rfl, .inl ⟨rfl, rfl⟩⟩
          split at taken
          · rename_i accepts
            have gives : client.given (some cmd) = some (cmd.messageId, message) := by
              rw [given, carries]
              simp [accepts]
            refine .inr ⟨_, _, carries, gives, encoded, rfl, rfl, rfl, ?_⟩
            split at taken
            · rename_i succeeds
              cases taken
              exact .inl ⟨succeeds, rfl⟩
            · rename_i fails
              exact .inr ⟨Bool.eq_false_iff.mpr fails, taken⟩
          · rename_i refuses
            have gives : client.given (some cmd) = none := by
              rw [given, carries]
              simp [refuses]
            refine .inl ⟨gives, encoded.trans (.onClose taken), .inr (onClose_closes taken)⟩
      · rename_i other
        cases taken
        have nothing : messageOf (some cmd) = none := by simp [messageOf, other]
        refine .inl ⟨?_, .refl client, .inl nothing⟩
        rw [given, nothing]
        rfl

end Sending

end NetClientThread

/-- A client with what its main thread pushed, what it sent on each connection, and what the
kernel accepted of that. -/
structure SentRun (Callback Message : Type) where
  run : ReconnectRun Callback Message
  opened : List SocketId
  pushed : List (Int × Message)
  sent : SocketId → List (Int × Message)
  accepted : SocketId → List UInt8

inductive SentEvent (Message : Type)
  | push (cmd : Option (NetCommand Message))
  | onNetCommand (env : SendEnv) (clock : Timestamp)
  | handle (event : ReconnectEvent Message)

def ReconnectEvent.opened {Message : Type} : ReconnectEvent Message → Option SocketId
  | .startRun opened _ _ | .checkTimeout _ opened _ _ => opened
  | .onSocketRead _ _ _ | .onSocketWrite _ _ _ | .onSocketError _ _ _ | .onNetCommand _ _ _ => none

namespace SentRun

variable {Callback Message : Type}

def start (client : NetClientThread Callback Message) : SentRun Callback Message :=
  { run := .start client
    opened := []
    pushed := []
    sent := fun _ => []
    accepted := fun _ => [] }

def setClient (run : ReconnectRun Callback Message) (client : NetClientThread Callback Message) :
    ReconnectRun Callback Message :=
  { run with client := client }

def afterWrite (r : EpollReactor) : ReconnectEvent Message → EpollReactor
  | .onSocketWrite socketId env _ => (r.onSocketWrite socketId env).1
  | _ => r

/-- The net thread takes its commands out of the queue one at a time. A connection gets a new
socket each time. -/
def step [BaseStruct Message] (pipeCapacity : Nat) (s : SentRun Callback Message) :
    SentEvent Message → Option (SentRun Callback Message)
  | .push cmd =>
      some { s with
        run := setClient s.run (s.run.client.push pipeCapacity cmd)
        pushed := s.pushed ++ (messageOf cmd).toList }
  | .onNetCommand env clock =>
      s.run.client.commandQueue.pop.bind fun popped =>
        let client := s.run.client.setCommandQueue popped.2
        ((setClient s.run client).step (.onNetCommand popped.1 env clock)).map fun next =>
          { s with
            run := next
            sent := fun id => s.sent id ++ client.sentOn id popped.1
            accepted := fun id => (client.afterSend env popped.1).acceptedOf id (s.accepted id) }
  | .handle event =>
      match event with
      | .onNetCommand _ _ _ => none
      | _ =>
          if ∀ id ∈ event.opened, id ∉ s.opened then
            (s.run.step event).map fun next =>
              { s with
                run := next
                opened := s.opened ++ event.opened.toList
                accepted := fun id =>
                  (afterWrite s.run.client.netThread.reactor event).acceptedOf id (s.accepted id) }
          else none

/-- Where the socket takes a part of a frame, the bytes behind that part are those at the beginning
of the frame. -/
def RestIsPrefix [BaseStruct Message] (s : SentRun Callback Message) : SentEvent Message → Prop
  | .onNetCommand env _ => ∀ popped ∈ s.run.client.commandQueue.pop,
      ∀ entry ∈ s.run.client.given popped.1,
        SendRun.RestIsPrefix s.run.client.socketId ⟨s.run.client.netThread.reactor, []⟩
          (.sendMessage (s.run.client.encodedAs entry) none env)
  | _ => True

/-- `pushed` is what was taken out of the queue and what waits in it. What is sent on a connection
was taken out in one piece, up to now while the connection is there. -/
def InOrder (pushed : List (Int × Message)) (sent : SocketId → List (Int × Message))
    (client : NetClientThread Callback Message) : Prop :=
  ∃ popped, popped ++ client.commandQueue.queue.filterMap messageOf = pushed ∧
    (∀ id, sent id <:+: popped) ∧
    (client.connected = true → sent client.socketId <:+ popped)

structure Sound [BaseStruct Message] (size : Nat) (s : SentRun Callback Message) : Prop where
  client : s.run.client.Sound
  unstarted : s.run.started = false →
    s.run.client.connected = false ∧ s.run.client.reconnectTimer = -1
  sized : s.run.client.netThread.reactor.WriteSized
  capacity : 4 ≤ size ∧ size ≤ 40960
  room : s.run.client.netThread.encodeBuffer.buffer.length = size
  sends : ∀ id, s.run.client.netThread.reactor.Sends id (s.accepted id) (wireOf size (s.sent id))
  encodes : ∀ id, ∀ entry ∈ s.sent id, 0 ≤ (BaseStruct.encode entry.2 (size - 4)).1
  order : InOrder s.pushed s.sent s.run.client
  opened : s.run.client.connected = true → s.run.client.socketId ∈ s.opened
  unopened : ∀ id, id ∉ s.opened → s.sent id = [] ∧ s.accepted id = []

theorem InOrder.aside {pushed : List (Int × Message)} {sent : SocketId → List (Int × Message)}
    {before client : NetClientThread Callback Message} (order : InOrder pushed sent before)
    (aside : NetClientThread.Aside before client) : InOrder pushed sent client := by
  obtain ⟨popped, whole, parts, current⟩ := order
  refine ⟨popped, aside.commandQueue ▸ whole, parts, ?_⟩
  intro connected
  rcases aside.identity with ⟨same, socketId⟩ | closed
  · rw [socketId]
    exact current (same ▸ connected)
  · cases closed.symm.trans connected

theorem InOrder.take {pushed : List (Int × Message)} {sent now : SocketId → List (Int × Message)}
    {before client : NetClientThread Callback Message} (order : InOrder pushed sent before)
    {popped : Option (NetCommand Message) × MessageQueue (Option (NetCommand Message))}
    (popping : before.commandQueue.pop = some popped) (queue : client.commandQueue = popped.2)
    (sends : ∀ id, now id = [] ∨
      before.connected = true ∧ id = before.socketId ∧ now id = (messageOf popped.1).toList)
    (current : client.connected = true → before.connected = true ∧
      client.socketId = before.socketId ∧ now before.socketId = (messageOf popped.1).toList) :
    InOrder pushed (fun id => sent id ++ now id) client := by
  obtain ⟨earlier, whole, parts, last⟩ := order
  have suffix (connected : before.connected = true) :
      sent before.socketId ++ (messageOf popped.1).toList <:+
        earlier ++ (messageOf popped.1).toList := by
    obtain ⟨older, same⟩ := last connected
    exact ⟨older, by rw [← List.append_assoc, same]⟩
  refine ⟨earlier ++ (messageOf popped.1).toList, ?_, ?_, ?_⟩
  · rw [← whole, queue, MessageQueue.pop_some popping, messagesOf_cons, List.append_assoc]
  · intro id
    dsimp only
    rcases sends id with nothing | ⟨connected, rfl, gives⟩
    · rw [nothing, List.append_nil]
      exact (parts id).trans (List.prefix_append ..).isInfix
    · rw [gives]
      exact (suffix connected).isInfix
  · intro connected
    obtain ⟨still, socketId, gives⟩ := current connected
    dsimp only
    rw [socketId, gives]
    exact suffix still

section Steps

variable [BaseStruct Message] {size : Nat} {s next : SentRun Callback Message}
  {client : NetClientThread Callback Message} {middle : EpollReactor} {clock : Timestamp}

theorem Sound.handled (sound : Sound size s) {run : ReconnectRun Callback Message}
    (more : List SocketId) (client : run.client.Sound) (started : run.started = true)
    (sized : middle.WriteSized)
    (sends : ∀ id, middle.Sends id (middle.acceptedOf id (s.accepted id)) (wireOf size (s.sent id)))
    (aside : NetClientThread.Aside (s.run.client.setReactor middle) run.client) :
    Sound size { s with
      run := run
      opened := s.opened ++ more
      accepted := fun id => middle.acceptedOf id (s.accepted id) } := by
  have order : InOrder s.pushed s.sent (s.run.client.setReactor middle) := sound.order
  refine ⟨client, ?_, (aside.keeps 0).writeSized sized, sound.capacity, aside.room.trans sound.room,
    fun id => (aside.keeps id).sends (sends id), sound.encodes, order.aside aside, ?_, ?_⟩
  · intro unstarted
    cases started.symm.trans unstarted
  · intro connected
    rcases aside.identity with ⟨same, socketId⟩ | closed
    · rw [socketId]
      exact List.mem_append_left _ (sound.opened (same ▸ connected))
    · cases closed.symm.trans connected
  · intro id unopened
    obtain ⟨unsent, -⟩ := sound.unopened id fun member => unopened (List.mem_append_left _ member)
    have part := (sends id).part
    rw [unsent] at part
    exact ⟨unsent, List.prefix_nil.mp part⟩

theorem Sound.push (sound : Sound size s) (pipeCapacity : Nat) (cmd : Option (NetCommand Message)) :
    Sound size { s with
      run := setClient s.run (s.run.client.push pipeCapacity cmd)
      pushed := s.pushed ++ (messageOf cmd).toList } := by
  obtain ⟨popped, whole, parts, current⟩ := sound.order
  have served := sound.client
  refine ⟨⟨served.served, served.timed, served.owned, served.idle⟩, sound.unstarted, sound.sized,
    sound.capacity, sound.room, sound.sends, sound.encodes, ⟨popped, ?_, parts, current⟩,
    sound.opened, sound.unopened⟩
  have queue : (s.run.client.push pipeCapacity cmd).commandQueue.queue =
      s.run.client.commandQueue.queue ++ [cmd] := MessageQueue.push_queue ..
  dsimp only [setClient]
  rw [queue, List.filterMap_append, ← List.append_assoc, whole, messagesOf_cons]
  simp

theorem written_frame (reports : ∀ message : Message, EncodesWhatItReports message)
    (capacity : 4 ≤ size ∧ size ≤ 40960) {buffer : DynamicBuffer} (room : buffer.buffer.length = size)
    {entry : Int × Message} (accepts : (NetProtocol.writeMessage entry.1 entry.2 buffer).1 = true) :
    (NetProtocol.writeMessage entry.1 entry.2 buffer).2.content = wireOf size [entry] ∧
      (NetProtocol.writeMessage entry.1 entry.2 buffer).2.content.length ≤ size ∧
      0 ≤ (BaseStruct.encode entry.2 (size - 4)).1 := by
  have enough : 4 ≤ buffer.buffer.length := by omega
  have bounded : buffer.buffer.length < 2 ^ 16 := by omega
  have content := writeMessage_content enough bounded entry.1 entry.2 (reports entry.2) accepts
  rw [room] at content
  obtain ⟨accepted, short, frame, -⟩ := content
  have wire : (NetProtocol.writeMessage entry.1 entry.2 buffer).2.content = wireOf size [entry] := by
    rw [frame, wireOf, List.flatMap_singleton]
  refine ⟨wire, ?_, accepted⟩
  rw [wire, wireOf, List.flatMap_singleton, frameBytes]
  simp only [List.length_append, Bytes.integerBytes_length]
  omega

theorem given_frame (reports : ∀ message : Message, EncodesWhatItReports message)
    (capacity : 4 ≤ size ∧ size ≤ 40960)
    (room : client.netThread.encodeBuffer.buffer.length = size)
    {cmd : Option (NetCommand Message)} {entry : Int × Message}
    (gives : client.given cmd = some entry) :
    client.encodedAs entry = wireOf size [entry] ∧ (client.encodedAs entry).length ≤ size ∧
      0 ≤ (BaseStruct.encode entry.2 (size - 4)).1 := by
  obtain ⟨-, accepts⟩ := Option.filter_eq_some_iff.mp gives
  exact written_frame reports capacity room accepts

theorem wireOf_append (size : Nat) (first later : List (Int × Message)) :
    wireOf size (first ++ later) = wireOf size first ++ wireOf size later :=
  List.flatMap_append

theorem Sound.afterSend (reports : ∀ message : Message, EncodesWhatItReports message)
    (sound : Sound size s) {env : SendEnv} {cmd : Option (NetCommand Message)} {entry : Int × Message}
    (gives : s.run.client.given cmd = some entry)
    (rest : SendRun.RestIsPrefix s.run.client.socketId ⟨s.run.client.netThread.reactor, []⟩
      (.sendMessage (s.run.client.encodedAs entry) none env)) (id : SocketId) :
    let sent := s.run.client.netThread.reactor.sendMessage s.run.client.socketId
      (s.run.client.encodedAs entry) none env
    let total := wireOf size (s.sent id ++ s.run.client.sentOn id cmd)
    sent.2.1.acceptedOf id (s.accepted id) <+: total ∧
      (sent.1 = true → s.run.client.connected = true ∧
        sent.2.1.Sends id (sent.2.1.acceptedOf id (s.accepted id)) total) := by
  intro sent total
  have served := sound.client.served
  obtain ⟨frame, small, -⟩ := given_frame reports sound.capacity sound.room gives
  have small := small.trans sound.capacity.2
  cases connected : s.run.client.connected with
  | false =>
      have absent : s.run.client.netThread.reactor.connections s.run.client.socketId = none := by
        by_contra present
        cases connected.symm.trans (sound.client.owned _ present).1
      have refused : sent = (false, s.run.client.netThread.reactor, []) := by
        simp only [sent, EpollReactor.sendMessage, absent]
      have unsent : total = wireOf size (s.sent id) := by
        simp only [total, NetClientThread.sentOn, connected, Bool.false_eq_true, false_and, if_false,
          List.append_nil]
      rw [refused, unsent]
      dsimp only
      rw [served.acceptedOf (sound.sends id)]
      refine ⟨(sound.sends id).part, ?_⟩
      intro succeeds
      cases succeeds
  | true =>
      by_cases mine : id = s.run.client.socketId
      · subst mine
        have more : total =
            wireOf size (s.sent s.run.client.socketId) ++ s.run.client.encodedAs entry := by
          simp only [total, NetClientThread.sentOn, connected, true_and, if_true, gives]
          rw [wireOf_append, frame, Option.toList_some]
        rw [more]
        obtain ⟨reached, part, whole, sends⟩ :=
          (sound.sends _).sendMessage served sound.sized.maxSize small rest
        exact ⟨sends.part.trans part, fun succeeds => ⟨rfl, whole succeeds ▸ sends⟩⟩
      · have unsent : total = wireOf size (s.sent id) := by
          simp only [total, NetClientThread.sentOn, mine, and_false, if_false, List.append_nil]
        have agree := agreeAt_sendMessage mine served (s.run.client.encodedAs entry) env
        have sized := sound.sized.sendMessage s.run.client.socketId
          (s.run.client.encodedAs entry) env
        have keeps : KeepsSent id s.run.client.netThread.reactor sent.2.1 :=
          sound.sized.keepsSent sized agree
        have edits := (served.sendMessage s.run.client.socketId
          (s.run.client.encodedAs entry) env).1
        have sends := keeps.sends (sound.sends id)
        rw [unsent, (edits.served served).acceptedOf sends]
        exact ⟨sends.part, fun _ => ⟨rfl, sends⟩⟩

theorem Sound.onSilentCommand (sound : Sound size s) {env : SendEnv}
    {popped : Option (NetCommand Message) × MessageQueue (Option (NetCommand Message))}
    (popping : s.run.client.commandQueue.pop = some popped)
    {outcome : NetClientThread Callback Message × NetThread.Handed Callback Message}
    (after : outcome.1.Sound) (started : s.run.started = true)
    (nothing : s.run.client.given popped.1 = none)
    (aside : NetClientThread.Aside (s.run.client.setCommandQueue popped.2) outcome.1)
    (silent : messageOf popped.1 = none ∨ outcome.1.connected = false) :
    Sound size { s with
      run := (setClient s.run (s.run.client.setCommandQueue popped.2)).handled clock outcome
      sent := fun id => s.sent id ++ s.run.client.sentOn id popped.1
      accepted := fun id =>
        (s.run.client.afterSend env popped.1).acceptedOf id (s.accepted id) } := by
  have before := sound.client
  have room : (s.run.client.setCommandQueue popped.2).netThread.encodeBuffer.buffer.length = size :=
    sound.room
  have unsent (id : SocketId) : s.run.client.sentOn id popped.1 = [] := by
    rw [NetClientThread.sentOn, nothing]
    split <;> rfl
  have untouched : s.run.client.afterSend env popped.1 = s.run.client.netThread.reactor := by
    rw [NetClientThread.afterSend, nothing]
  have accepts (id : SocketId) :
      (s.run.client.afterSend env popped.1).acceptedOf id (s.accepted id) = s.accepted id := by
    rw [untouched, before.served.acceptedOf (sound.sends id)]
  have identity (connected : outcome.1.connected = true) :
      s.run.client.connected = true ∧ outcome.1.socketId = s.run.client.socketId := by
    rcases aside.identity with ⟨same, socketId⟩ | closed
    · exact ⟨same ▸ connected, socketId⟩
    · cases closed.symm.trans connected
  refine ⟨after, ?_, (aside.keeps 0).writeSized sound.sized, sound.capacity,
    aside.room.trans room, ?_, ?_,
    sound.order.take popping aside.commandQueue (fun id => .inl (unsent id)) ?_, ?_, ?_⟩
  · intro unstarted
    cases started.symm.trans unstarted
  · intro id
    dsimp only
    rw [unsent, List.append_nil, accepts]
    exact (aside.keeps id).sends (sound.sends id)
  · intro id
    dsimp only
    rw [unsent, List.append_nil]
    exact sound.encodes id
  · intro connected
    obtain ⟨still, socketId⟩ := identity connected
    rcases silent with none_carried | closed
    · exact ⟨still, socketId, by rw [unsent, none_carried]; rfl⟩
    · cases closed.symm.trans connected
  · intro connected
    obtain ⟨still, socketId⟩ := identity connected
    exact socketId.symm ▸ sound.opened still
  · intro id unopened
    dsimp only
    rw [unsent, List.append_nil, accepts]
    exact sound.unopened id unopened

theorem Sound.onSentCommand (reports : ∀ message : Message, EncodesWhatItReports message)
    (sound : Sound size s) {env : SendEnv}
    {popped : Option (NetCommand Message) × MessageQueue (Option (NetCommand Message))}
    (popping : s.run.client.commandQueue.pop = some popped)
    {outcome : NetClientThread Callback Message × NetThread.Handed Callback Message}
    (after : outcome.1.Sound) (started : s.run.started = true) {entry : Int × Message}
    {encoded : NetClientThread Callback Message}
    (rest : SendRun.RestIsPrefix s.run.client.socketId ⟨s.run.client.netThread.reactor, []⟩
      (.sendMessage (s.run.client.encodedAs entry) none env))
    (carries : messageOf popped.1 = some entry) (gives : s.run.client.given popped.1 = some entry)
    (aside : NetClientThread.Aside (s.run.client.setCommandQueue popped.2) encoded)
    (socketId : encoded.socketId = s.run.client.socketId)
    (ending :
      let sent := s.run.client.netThread.reactor.sendMessage s.run.client.socketId
        (s.run.client.encodedAs entry) none env
      sent.1 = true ∧ outcome.1 = encoded.setReactor sent.2.1 ∨
        sent.1 = false ∧ (encoded.setReactor sent.2.1).onClose clock = some outcome) :
    Sound size { s with
      run := (setClient s.run (s.run.client.setCommandQueue popped.2)).handled clock outcome
      sent := fun id => s.sent id ++ s.run.client.sentOn id popped.1
      accepted := fun id =>
        (s.run.client.afterSend env popped.1).acceptedOf id (s.accepted id) } := by
  have room : (s.run.client.setCommandQueue popped.2).netThread.encodeBuffer.buffer.length = size :=
    sound.room
  let sent := s.run.client.netThread.reactor.sendMessage s.run.client.socketId
    (s.run.client.encodedAs entry) none env
  have each (id : SocketId) :
      sent.2.1.acceptedOf id (s.accepted id) <+:
          wireOf size (s.sent id ++ s.run.client.sentOn id popped.1) ∧
        (sent.1 = true → s.run.client.connected = true ∧
          sent.2.1.Sends id (sent.2.1.acceptedOf id (s.accepted id))
            (wireOf size (s.sent id ++ s.run.client.sentOn id popped.1))) :=
    sound.afterSend reports gives rest id
  have reached : s.run.client.afterSend env popped.1 = sent.2.1 := by
    rw [NetClientThread.afterSend, gives]
  have sized : sent.2.1.WriteSized := sound.sized.sendMessage _ _ env
  have sendsOn (id : SocketId) : s.run.client.sentOn id popped.1 = [] ∨
      s.run.client.connected = true ∧ id = s.run.client.socketId ∧
        s.run.client.sentOn id popped.1 = (messageOf popped.1).toList := by
    rw [NetClientThread.sentOn]
    split
    · rename_i here
      exact .inr ⟨here.1, here.2, by rw [gives, carries]⟩
    · exact .inl rfl
  have closing : NetClientThread.Aside (encoded.setReactor sent.2.1) outcome.1 ∧
      (outcome.1.connected = true → sent.1 = true) := by
    rcases ending with ⟨succeeds, sends⟩ | ⟨-, closed⟩
    · rw [sends]
      exact ⟨.refl _, fun _ => succeeds⟩
    · refine ⟨.onClose closed, ?_⟩
      intro connected
      cases (NetClientThread.onClose_closes closed).symm.trans connected
  obtain ⟨beside, succeeds⟩ := closing
  have identity (connected : outcome.1.connected = true) :
      s.run.client.connected = true ∧ outcome.1.socketId = s.run.client.socketId := by
    refine ⟨((each 0).2 (succeeds connected)).1, ?_⟩
    rcases beside.identity with ⟨-, named⟩ | closed
    · exact named.trans socketId
    · cases closed.symm.trans connected
  refine ⟨after, ?_, (beside.keeps 0).writeSized sized, sound.capacity,
    beside.room.trans (aside.room.trans room), ?_, ?_,
    sound.order.take popping (beside.commandQueue.trans aside.commandQueue) sendsOn ?_, ?_, ?_⟩
  · intro unstarted
    cases started.symm.trans unstarted
  · intro id
    dsimp only
    rw [reached]
    cases connected : outcome.1.connected with
    | true => exact (beside.keeps id).sends ((each id).2 (succeeds connected)).2
    | false =>
        apply Sends.gone (each id).1
        by_contra present
        cases connected.symm.trans (after.owned id present).1
  · intro id other member
    rcases List.mem_append.mp member with earlier | new
    · exact sound.encodes id other earlier
    · rw [NetClientThread.sentOn] at new
      split at new
      · rw [gives, Option.toList_some, List.mem_singleton] at new
        rw [new]
        exact (given_frame reports sound.capacity sound.room gives).2.2
      · cases new
  · intro connected
    obtain ⟨still, named⟩ := identity connected
    refine ⟨still, named, ?_⟩
    rw [NetClientThread.sentOn, if_pos ⟨still, rfl⟩, gives, carries]
  · intro connected
    obtain ⟨still, named⟩ := identity connected
    exact named.symm ▸ sound.opened still
  · intro id unopened
    have unsent : s.sent id ++ s.run.client.sentOn id popped.1 = [] := by
      rw [(sound.unopened id unopened).1, List.nil_append]
      rcases sendsOn id with nothing | ⟨connected, rfl, -⟩
      · exact nothing
      · exact absurd (sound.opened connected) unopened
    have part := (each id).1
    rw [unsent] at part
    dsimp only
    rw [reached]
    exact ⟨unsent, List.prefix_nil.mp part⟩

theorem Sound.onNetCommand (reports : ∀ message : Message, EncodesWhatItReports message)
    (sound : Sound size s) {env : SendEnv}
    (rest : RestIsPrefix s (.onNetCommand env clock))
    {popped : Option (NetCommand Message) × MessageQueue (Option (NetCommand Message))}
    (popping : s.run.client.commandQueue.pop = some popped)
    {outcome : NetClientThread Callback Message × NetThread.Handed Callback Message}
    (called : (s.run.client.setCommandQueue popped.2).onNetCommand clock env popped.1 =
      some outcome) (started : s.run.started = true) :
    Sound size { s with
      run := (setClient s.run (s.run.client.setCommandQueue popped.2)).handled clock outcome
      sent := fun id => s.sent id ++ s.run.client.sentOn id popped.1
      accepted := fun id =>
        (s.run.client.afterSend env popped.1).acceptedOf id (s.accepted id) } := by
  have before := sound.client
  have client : (s.run.client.setCommandQueue popped.2).Sound :=
    ⟨before.served, before.timed, before.owned, before.idle⟩
  have after : outcome.1.Sound := (client.onNetCommand called).sound
  have room : (s.run.client.setCommandQueue popped.2).netThread.encodeBuffer.buffer.length = size :=
    sound.room
  have enough := room ▸ sound.capacity.1
  have bounded : (s.run.client.setCommandQueue popped.2).netThread.encodeBuffer.buffer.length <
      sizeModulus := by
    have small := sound.capacity.2
    rw [room, sizeModulus]
    omega
  rcases NetClientThread.onNetCommand_sends enough bounded called with
    ⟨nothing, aside, silent⟩ | ⟨entry, encoded, carries, gives, aside, reactor, same, socketId, ending⟩
  · exact sound.onSilentCommand popping after started nothing aside silent
  · exact sound.onSentCommand reports popping after started (rest popped popping entry gives)
      carries gives aside socketId ending

theorem Sound.acceptedOf (sound : Sound size s) :
    (fun id => s.run.client.netThread.reactor.acceptedOf id (s.accepted id)) = s.accepted := by
  funext id
  exact sound.client.served.acceptedOf (sound.sends id)

theorem Sound.beside (sound : Sound size s) {run : ReconnectRun Callback Message}
    (more : List SocketId) (client : run.client.Sound) (started : run.started = true)
    (aside : NetClientThread.Aside s.run.client run.client) :
    Sound size { s with
      run := run
      opened := s.opened ++ more
      accepted := fun id => s.run.client.netThread.reactor.acceptedOf id (s.accepted id) } := by
  apply sound.handled more client started sound.sized ?_ aside
  intro id
  rw [sound.client.served.acceptedOf (sound.sends id)]
  exact sound.sends id

theorem Sound.connect (sound : Sound size s) (aside : NetClientThread.Aside s.run.client client)
    (closed : client.connected = false) (client_sound : client.Sound)
    (idle : client.reconnectTimer = -1) {opened : Option SocketId} {granted : Bool}
    (fresh : ∀ id ∈ opened, id ∉ s.opened)
    {result : Bool × NetClientThread Callback Message × NetThread.Handed Callback Message}
    (tried : client.connect clock opened granted = some result) :
    Sound size { s with
      run := ReconnectRun.attempted clock result.2.1
      opened := s.opened ++ opened.toList
      accepted := fun id => s.run.client.netThread.reactor.acceptedOf id (s.accepted id) } := by
  have after := (client_sound.connect closed idle tried).1
  cases opened with
  | none =>
      cases tried
      exact sound.beside [] after rfl (aside.trans (.startConnectTimer client clock))
  | some socketId =>
      simp only [NetClientThread.connect, NetThread.attach, Option.map_map, Option.map_eq_some_iff]
        at tried
      obtain ⟨handed, -, rfl⟩ := tried
      have sized : client.netThread.reactor.WriteSized := (aside.keeps 0).writeSized sound.sized
      have absent : client.netThread.reactor.connections socketId = none := by
        by_contra present
        cases closed.symm.trans (client_sound.owned socketId present).1
      have unopened := sound.unopened socketId (fresh socketId rfl)
      have next : socketId + 1 ≠ socketId := by simp
      have keeps := KeepsSent.attachSocket client.netThread.reactor next .create granted
      rw [sound.acceptedOf]
      refine ⟨after, ?_, keeps.writeSized sized, sound.capacity, aside.room.trans sound.room, ?_,
        sound.encodes, ?_, ?_, ?_⟩
      · intro unstarted
        cases unstarted
      · intro id
        by_cases mine : id = socketId
        · subst mine
          dsimp only
          rw [unopened.1, unopened.2]
          exact .attachSocket sized absent granted
        · have still := KeepsSent.attachSocket client.netThread.reactor mine .create granted
          exact still.sends ((aside.keeps id).sends (sound.sends id))
      · obtain ⟨popped, whole, parts, -⟩ := sound.order.aside aside
        refine ⟨popped, whole, parts, fun _ => ?_⟩
        change s.sent socketId <:+ popped
        rw [unopened.1]
        exact List.nil_suffix
      · intro _
        exact List.mem_append_right _ (List.mem_singleton.mpr rfl)
      · intro id unopened
        exact sound.unopened id fun member => unopened (List.mem_append_left _ member)

theorem Sound.timerTurn (sound : Sound size s) {now : Timestamp} {opened : Option SocketId}
    {granted : Bool} (started : s.run.started = true) (fresh : ∀ id ∈ opened, id ∉ s.opened)
    {run : ReconnectRun Callback Message}
    (taken : s.run.timerTurn now opened granted clock = some run) :
    Sound size { s with
      run := run
      opened := s.opened ++ opened.toList
      accepted := fun id => s.run.client.netThread.reactor.acceptedOf id (s.accepted id) } := by
  simp only [ReconnectRun.timerTurn] at taken
  cases turned : s.run.client.netThread.reactor.timerHeap.checkTurn now with
  | none =>
      rw [turned] at taken
      cases taken
      exact sound.beside opened.toList sound.client started (.refl _)
  | some result =>
      obtain ⟨firing, heap⟩ := result
      obtain ⟨client_sound, nonneg, -⟩ := sound.client.fired turned
      have fired : NetClientThread.Aside s.run.client (s.run.setHeap heap).client :=
        .setReactor fun id => .of_tables rfl rfl rfl rfl rfl
      rw [turned] at taken
      simp only at taken
      split at taken
      · simp only [Option.map_eq_some_iff] at taken
        obtain ⟨outcome, called, rfl⟩ := taken
        have moves := client_sound.afterReactor (onSendMessageError_returned _ _) called
        have aside := NetClientThread.Aside.afterReactor
          (fun id => .onSendMessageError _ firing.timerId) called
        exact sound.beside opened.toList (client_sound.moves moves).sound started
          (fired.trans aside)
      · simp only [Option.map_eq_some_iff, NetClientThread.onTimer] at taken
        obtain ⟨outcome, called, rfl⟩ := taken
        split
        · rename_i here
          rw [if_pos here, Option.map_eq_some_iff] at called
          obtain ⟨result, tried, rfl⟩ := called
          have closed : s.run.client.connected = false := by
            by_contra connected
            have idle := sound.client.idle (by simpa using connected)
            rw [here.trans idle] at nonneg
            exact absurd nonneg (by decide)
          have tables :
              NetClientThread.Sound { (s.run.setHeap heap).client with reconnectTimer := -1 } :=
            ⟨client_sound.served, client_sound.timed, client_sound.owned, fun _ => rfl⟩
          have stopped : NetClientThread.Aside (s.run.setHeap heap).client
              { (s.run.setHeap heap).client with reconnectTimer := -1 } :=
            ⟨fun id => .refl id _, rfl, rfl, .inl ⟨rfl, rfl⟩⟩
          exact sound.connect (fired.trans stopped) closed tables rfl fresh tried
        · rename_i another
          rw [if_neg another] at called
          cases called
          exact sound.beside opened.toList client_sound started fired

theorem Sound.handle (sound : Sound size s) {event : ReconnectEvent Message}
    (fresh : ∀ id ∈ event.opened, id ∉ s.opened) (silent : ∀ cmd env clock,
      event ≠ .onNetCommand cmd env clock)
    {run : ReconnectRun Callback Message} (taken : s.run.step event = some run) :
    Sound size { s with
      run := run
      opened := s.opened ++ event.opened.toList
      accepted := fun id =>
        (afterWrite s.run.client.netThread.reactor event).acceptedOf id (s.accepted id) } := by
  simp only [ReconnectRun.step] at taken
  cases started : s.run.started with
  | false =>
      rw [started] at taken
      cases event with
      | startRun opened granted clock =>
          obtain ⟨closed, idle⟩ := sound.unstarted started
          simp only [Option.map_eq_some_iff] at taken
          obtain ⟨outcome, tried, rfl⟩ := taken
          exact sound.connect (.refl _) closed sound.client idle fresh tried
      | _ => cases taken
  | true =>
      rw [started] at taken
      cases event with
      | startRun opened granted clock => cases taken
      | onSocketRead socketId answers clock =>
          simp only [Option.map_eq_some_iff] at taken
          obtain ⟨outcome, read, rfl⟩ := taken
          have moves := sound.client.onSocketRead read
          exact sound.beside [] (sound.client.moves moves).sound started (.onSocketRead read)
      | onSocketWrite socketId env clock =>
          simp only [Option.map_eq_some_iff] at taken
          obtain ⟨outcome, called, rfl⟩ := taken
          have served := sound.client.served
          have moves := sound.client.afterReactor (served.onSocketWrite socketId env) called
          have sends (id : SocketId) :
              (s.run.client.netThread.reactor.onSocketWrite socketId env).1.Sends id
                ((s.run.client.netThread.reactor.onSocketWrite socketId env).1.acceptedOf id
                  (s.accepted id)) (wireOf size (s.sent id)) := by
            by_cases mine : id = socketId
            · subst mine
              exact (sound.sends id).onSocketWrite served env
            · have agree := agreeAt_onSocketWrite s.run.client.netThread.reactor mine env
              have keeps := sound.sized.keepsSent (sound.sized.onSocketWrite socketId env) agree
              have same : (s.run.client.netThread.reactor.onSocketWrite socketId env).1.acceptedOf id
                  (s.accepted id) = s.accepted id := by
                rw [EpollReactor.acceptedOf, ← agree.socket]
                exact served.acceptedOf (sound.sends id)
              rw [same]
              exact keeps.sends (sound.sends id)
          have aside : NetClientThread.Aside (s.run.client.setReactor
              (s.run.client.netThread.reactor.onSocketWrite socketId env).1) outcome.1 :=
            .onReactorCalls called
          exact sound.handled [] (sound.client.moves moves).sound started
            (sound.sized.onSocketWrite socketId env) sends aside
      | onSocketError socketId socketError clock =>
          simp only [Option.map_eq_some_iff] at taken
          obtain ⟨outcome, called, rfl⟩ := taken
          have returned := sound.client.served.onSocketError socketId socketError
          have moves := sound.client.afterReactor returned called
          have aside : NetClientThread.Aside s.run.client outcome.1 :=
            .afterReactor (fun id => .onSocketError _ socketId socketError) called
          exact sound.beside [] (sound.client.moves moves).sound started aside
      | onNetCommand cmd env clock => exact absurd rfl (silent cmd env clock)
      | checkTimeout now opened granted clock => exact sound.timerTurn started fresh taken

theorem Sound.step (reports : ∀ message : Message, EncodesWhatItReports message) {pipeCapacity : Nat}
    {event : SentEvent Message} (sound : Sound size s) (rest : RestIsPrefix s event)
    (taken : s.step pipeCapacity event = some next) : Sound size next := by
  cases event with
  | push cmd =>
      cases taken
      exact sound.push pipeCapacity cmd
  | onNetCommand env clock =>
      simp only [SentRun.step, Option.bind_eq_some_iff, Option.map_eq_some_iff] at taken
      obtain ⟨popped, popping, run, stepped, rfl⟩ := taken
      cases started : s.run.started with
      | false => simp [ReconnectRun.step, setClient, started] at stepped
      | true =>
          simp only [ReconnectRun.step, setClient, started, Option.map_eq_some_iff] at stepped
          obtain ⟨outcome, called, rfl⟩ := stepped
          have reached := sound.onNetCommand reports rest popping called started
          rw [setClient, started] at reached
          exact reached
  | handle event =>
      have guarded (silent : ∀ cmd env clock, event ≠ .onNetCommand cmd env clock)
          (stepped : (if ∀ id ∈ event.opened, id ∉ s.opened then
            (s.run.step event).map fun run => { s with
              run := run
              opened := s.opened ++ event.opened.toList
              accepted := fun id =>
                (afterWrite s.run.client.netThread.reactor event).acceptedOf id (s.accepted id) }
            else none) = some next) : Sound size next := by
        split at stepped
        · rename_i fresh
          obtain ⟨run, handled, rfl⟩ := Option.map_eq_some_iff.mp stepped
          exact sound.handle fresh silent handled
        · cases stepped
      cases event with
      | onNetCommand cmd env clock => cases taken
      | _ =>
          simp only [SentRun.step] at taken
          apply guarded ?_ taken
          intro cmd env clock same
          cases same

theorem step_grows {pipeCapacity : Nat} {event : SentEvent Message}
    (taken : s.step pipeCapacity event = some next) :
    (∀ id, s.sent id <+: next.sent id) ∧
      ∀ entry ∈ next.pushed, entry ∈ s.pushed ∨ ∃ cmd, event = .push cmd ∧ entry ∈ messageOf cmd := by
  cases event with
  | push cmd =>
      cases taken
      refine ⟨fun id => List.prefix_refl _, ?_⟩
      intro entry member
      rcases List.mem_append.mp member with old | new
      · exact .inl old
      · exact .inr ⟨cmd, rfl, Option.mem_toList.mp new⟩
  | onNetCommand env clock =>
      simp only [SentRun.step, Option.bind_eq_some_iff, Option.map_eq_some_iff] at taken
      obtain ⟨popped, popping, run, stepped, rfl⟩ := taken
      exact ⟨fun id => List.prefix_append .., fun entry member => .inl member⟩
  | handle event =>
      have kept : next.sent = s.sent ∧ next.pushed = s.pushed := by
        simp only [SentRun.step] at taken
        split at taken
        · cases taken
        · split at taken
          · obtain ⟨run, handled, rfl⟩ := Option.map_eq_some_iff.mp taken
            exact ⟨rfl, rfl⟩
          · cases taken
      rw [kept.1, kept.2]
      exact ⟨fun id => List.prefix_refl _, fun entry member => .inl member⟩

/-- On every connection the kernel has a beginning of the frames of what was sent on it, and what was
sent is a piece of what was pushed. -/
structure Delivers (size : Nat) (s : SentRun Callback Message) : Prop where
  part : ∀ id, s.accepted id <+: wireOf size (s.sent id)
  piece : ∀ id, s.sent id <:+: s.pushed
  flushed : ∀ id connection, s.run.client.netThread.reactor.connections id = some connection →
    connection.writeBuffer.content = [] → s.accepted id = wireOf size (s.sent id)
  latest : s.run.client.connected = true → s.run.client.commandQueue.queue = [] →
    s.sent s.run.client.socketId <:+ s.pushed

theorem Sound.delivers (sound : Sound size s) : Delivers size s := by
  obtain ⟨popped, whole, parts, current⟩ := sound.order
  refine ⟨fun id => (sound.sends id).part, ?_, ?_, ?_⟩
  · intro id
    rw [← whole]
    exact (parts id).trans (List.prefix_append ..).isInfix
  · intro id connection found empty
    have all := ((sound.sends id).holds connection found).whole
    rwa [empty, List.append_nil] at all
  · intro connected taken
    rw [← whole, taken, List.filterMap_nil, List.append_nil]
    exact current connected

theorem Sound.initial {createMessageFunc : Int → Option Message} {callback : Option Callback}
    {maxRecvPacketLength reconnectIntervalMs id : Int} {maxRecvBufferSize : Nat}
    (init : (NetClientThread.create maxRecvPacketLength size createMessageFunc
      reconnectIntervalMs).init id maxRecvBufferSize 409600 callback true = (true, client))
    (capacity : 4 ≤ size ∧ size ≤ 40960) : Sound size (start client) := by
  cases init
  refine ⟨.of_empty (fun _ => rfl) (fun _ => rfl) rfl rfl, fun _ => ⟨rfl, rfl⟩, ⟨rfl, rfl, rfl⟩,
    capacity, ?_, fun id => .gone List.nil_prefix rfl, nofun,
    ⟨[], rfl, fun _ => List.nil_infix, ?_⟩, ?_, fun _ _ => ⟨rfl, rfl⟩⟩
  · exact List.length_replicate
  · intro connected
    cases connected
  · intro connected
    cases connected

/-- However often the connection is lost and opened again. -/
theorem sent_in_order (reports : ∀ message : Message, EncodesWhatItReports message)
    {createMessageFunc : Int → Option Message} {callback : Option Callback}
    {maxRecvPacketLength reconnectIntervalMs id : Int} {maxRecvBufferSize : Nat}
    (init : (NetClientThread.create maxRecvPacketLength size createMessageFunc
      reconnectIntervalMs).init id maxRecvBufferSize 409600 callback true = (true, client))
    (capacity : 4 ≤ size ∧ size ≤ 40960) (pipeCapacity : Nat) (events : List (SentEvent Message))
    (rest : Along (step pipeCapacity) RestIsPrefix (start client) events) :
    Every (step pipeCapacity) (Delivers size) (start client) events := by
  have every : Every (step pipeCapacity) (Sound size) (start client) events :=
    every_of_invariant (fun sound rest taken => sound.step reports rest taken)
      (.initial init capacity) rest
  exact every.mono fun sound => sound.delivers

end Steps

def pushRaw (bytes : List UInt8) : SentEvent RawMessage :=
  .push (some { (NetCommand.create .message : NetCommand RawMessage) with
    messageId := 7, message := some ⟨bytes⟩ })

def busySocket : SendEnv := { result := .error eagain, now := ⟨0, 0⟩ }

def tornWrites : List (SentEvent RawMessage) :=
  [.handle (.startRun (some 9) true ⟨0, 0⟩), pushRaw [5], pushRaw [],
    .onNetCommand busySocket ⟨0, 0⟩,
    .handle (.onSocketWrite 9 { busySocket with result := .count 3 } ⟨0, 0⟩),
    .onNetCommand busySocket ⟨0, 0⟩,
    .handle (.onSocketWrite 9 { busySocket with result := .count 6 } ⟨0, 0⟩)]

theorem sent_in_order_tornWrites :
    Every (step 16) (Delivers 16) (start ReconnectRun.shortClient) tornWrites ∧
      (Runs.run (step 16) (start ReconnectRun.shortClient) tornWrites).map
        (fun s => s.accepted 9) = some [0, 7, 0, 1, 5, 0, 7, 0, 0] := by
  constructor
  · apply sent_in_order rawMessage_reports rfl (by decide)
    have waits : ∀ event ∈ tornWrites, ∀ s : SentRun Unit RawMessage, RestIsPrefix s event := by
      intro event member s
      simp only [tornWrites, pushRaw, List.mem_cons, List.not_mem_nil, or_false] at member
      rcases member with rfl | rfl | rfl | rfl | rfl | rfl | rfl
      all_goals first
        | exact trivial
        | exact fun _ _ _ _ => trivial
    exact (Along.of_forall waits _).mono fun fine => fine _
  · decide +kernel

end SentRun

end ZBlueNet
