import ZBlueNet.BroadcastAudience

/-!
The broadcast list against the connections of the reactor. A connection is removed on
several paths, and none of them looks at the list.
-/

namespace ZBlueNet

open Runs EpollReactor TimerHeap

namespace EpollReactor

def Drops (r next : EpollReactor) (gone : Option SocketId) : Prop :=
  ∀ id, next.connections id = none ↔ r.connections id = none ∨ gone = some id

/-- The connection that a callback of the owner gives up. -/
def givenUp : List ReactorCall → Option SocketId
  | [.errorCb id _] | [.peerCloseCb id] => some id
  | _ => none

variable {r middle next : EpollReactor} {id : SocketId} {gone : Option SocketId}

theorem Drops.of_connections (same : next.connections = r.connections) : Drops r next none := by
  intro id
  rw [same]
  simp

theorem Drops.absent (drops : Drops r next none) (absent : r.connections id = none) :
    Drops r next (some id) := by
  intro other
  rw [drops other]
  constructor
  · rintro (missing | same)
    · exact .inl missing
    · cases same
  · rintro (missing | same)
    · exact .inl missing
    · cases same
      exact .inl absent

theorem Edits.drops (edits : Edits r next) (served : Served r) : Drops r next none := by
  intro id
  rw [← statusOf_none, ← statusOf_none]
  rcases edits.statusOf served id with same | ⟨connected, pending⟩
  · simp [same]
  · simp [connected, pending]

theorem Served.closeSocket_drops (served : Served r) (id : SocketId) :
    Drops r (r.closeSocket id) (some id) := by
  intro other
  rw [served.closeSocket_connections id]
  by_cases same : other = id
  · simp [same]
  · simp [same, Ne.symm same]

theorem Drops.after (first : Drops r middle none) (later : Drops middle next gone) :
    Drops r next gone := by
  intro id
  rw [later id, first id]
  simp

theorem Served.sendEach_drops (served : Served r) (env : SocketId → SendEnv) (buffer : List UInt8)
    (ids : List SocketId) : Drops r (sendEach env buffer ids r) none := by
  induction ids generalizing r with
  | nil => exact .of_connections rfl
  | cons id ids ih =>
      have sent := (served.sendMessage id buffer (env id)).1
      exact (sent.drops served).after (ih (sent.served served))

theorem Drops.again {also : Option SocketId} (first : Drops r middle also)
    (later : Drops middle next (some id)) (same : ∀ other, also = some other → other = id) :
    Drops r next (some id) := by
  intro other
  rw [later other, first other]
  constructor
  · rintro ((absent | both) | here)
    · exact .inl absent
    · exact .inr (congrArg some (same other both).symm)
    · exact .inr here
  · rintro (absent | here)
    · exact .inl (.inl absent)
    · exact .inr here

/-! What the functions of the reactor give up. -/

theorem onSocketError_givenUp (r : EpollReactor) (id : SocketId) (socketError : Int) :
    givenUp (r.onSocketError id socketError).2 = some id ∨
      givenUp (r.onSocketError id socketError).2 = none ∧ r.connections id = none := by
  rw [onSocketError]
  cases found : r.connections id with
  | none => exact .inr ⟨rfl, rfl⟩
  | some connection => exact .inl rfl

theorem onSocketReadPeerClose_givenUp (r : EpollReactor) (id : SocketId) :
    givenUp (r.onSocketReadPeerClose id).2 = some id ∨
      givenUp (r.onSocketReadPeerClose id).2 = none ∧ r.connections id = none := by
  rw [onSocketReadPeerClose]
  cases found : r.connections id with
  | none => exact .inr ⟨rfl, rfl⟩
  | some connection => exact .inl rfl

theorem onSocketWrite_givenUp {env : SendEnv} {errno : Int} (failed : env.result = .error errno)
    (final : errno ≠ eagain) :
    givenUp (r.onSocketWrite id env).2 = some id ∨
      givenUp (r.onSocketWrite id env).2 = none ∧ r.connections id = none := by
  rw [onSocketWrite]
  cases found : r.connections id with
  | none => exact .inr ⟨rfl, rfl⟩
  | some connection =>
      simp only [failed, if_pos final]
      exact .inl rfl

theorem Served.onSocketWrite_quiet (served : Served r) {env : SendEnv}
    (fine : ∀ errno, env.result = .error errno → errno = eagain) :
    givenUp (r.onSocketWrite id env).2 = none := by
  rw [EpollReactor.onSocketWrite]
  cases found : r.connections id with
  | none => rfl
  | some connection =>
      cases result : env.result with
      | error errno => simp [fine errno result, givenUp]
      | count bytes =>
          simp only [served.silent id connection found]
          split <;> rfl

theorem Served.onSendMessageError_givenUp (served : Served r) {timerId : TimerId}
    (mapped : r.timerToSocketMap timerId = some id) :
    givenUp (r.onSendMessageError timerId).2 = some id ∨
      givenUp (r.onSendMessageError timerId).2 = none ∧ r.connections id = none := by
  simp only [onSendMessageError, mapped]
  cases known : r.sockets id with
  | none => exact .inr ⟨rfl, served.sockets_none.mp known⟩
  | some socket =>
      cases found : r.connections id with
      | none => exact .inr ⟨rfl, rfl⟩
      | some connection => exact .inl rfl

end EpollReactor

namespace NetThread

variable {Callback Message : Type}

section Handlers

variable [BaseStruct Message]

def removes (server : GameServer Message) (thread : NetThread Callback Message) :
    NetThreadEvent Message → Option SocketId
  | .onSocketRead socketId answers =>
      match thread.reactor.connections socketId with
      | none => none
      | some connection =>
          match readLoop thread.reactor.connReadBufferMaxSize answers false
            connection.readBuffer with
          | none => none
          | some (.drained, dataArrive, readBuffer) =>
              if dataArrive ∧ (server.onRecvMessage thread.id socketId thread.newNetCmdCb
                readBuffer).exit = .closed then some socketId else none
          | some _ => some socketId
  | .onSocketWrite socketId env =>
      match env.result with
      | .error errno => if errno = eagain then none else some socketId
      | .count _ => none
  | .onSocketError socketId _ => some socketId
  | .onNetCommand none _ => none
  | .onNetCommand (some cmd) _ =>
      if thread.reactor.isConnected cmd.id.socketId then
        match cmd.type, cmd.message with
        | .close, _ => some cmd.id.socketId
        | .message, some message =>
            if (NetProtocol.writeMessage cmd.messageId message thread.encodeBuffer).1 then none
            else some cmd.id.socketId
        | _, _ => none
      else none
  | .checkTimeout now =>
      match thread.reactor.timerHeap.checkTurn now with
      | none => none
      | some (firing, _) =>
          match firing.timerCb with
          | .sendMessageError => thread.reactor.timerToSocketMap firing.timerId
          | .user _ => none

variable {server : GameServer Message} {thread : NetThread Callback Message} {socketId : SocketId}
  {outcome : NetThread Callback Message × Handed Callback Message}

omit [BaseStruct Message] in
theorem closeSocket_drops (served : Served thread.reactor)
    (closing : thread.closeSocket socketId = some outcome) :
    Drops thread.reactor outcome.1.reactor (some socketId) := by
  obtain ⟨next, handed⟩ := outcome
  obtain ⟨rfl, -⟩ := closeSocket_some closing
  exact served.closeSocket_drops socketId

theorem afterReactor_drops (served : Served thread.reactor)
    {returned : EpollReactor × List ReactorCall} (effect : Returned thread.reactor returned)
    (called : thread.afterReactor server returned = some outcome) :
    Drops thread.reactor outcome.1.reactor (givenUp returned.2) := by
  cases effect with
  | quiet edits =>
      cases called
      exact edits.drops served
  | lost edits present closes loses =>
      rename_i reactor next lost call
      simp only [afterReactor, onReactorCalls, Option.map_some, Option.bind_eq_some_iff,
        Option.some.injEq] at called
      obtain ⟨⟨closed, last⟩, calling, rfl⟩ := called
      have closing : (thread.setReactor next).closeSocket lost = some (closed, last) := by
        cases call with
        | errorCb id errorCode => exact loses ▸ calling
        | peerCloseCb id => exact loses ▸ calling
        | recvMessageCb id => exact loses.elim
        | sendCompleteCb id token => exact loses.elim
      obtain ⟨rfl, -⟩ := closeSocket_some closing
      have removed : Drops thread.reactor (next.closeSocket lost) (some lost) := by
        rw [closes]
        exact (edits.drops served).after ((edits.served served).closeSocket_drops lost)
      cases call with
      | errorCb id errorCode => exact loses ▸ removed
      | peerCloseCb id => exact loses ▸ removed
      | recvMessageCb id => exact loses.elim
      | sendCompleteCb id token => exact loses.elim

theorem afterReactor_removes (served : Served thread.reactor)
    {returned : EpollReactor × List ReactorCall} (effect : Returned thread.reactor returned)
    (given : givenUp returned.2 = some socketId ∨
      givenUp returned.2 = none ∧ thread.reactor.connections socketId = none)
    (called : thread.afterReactor server returned = some outcome) :
    Drops thread.reactor outcome.1.reactor (some socketId) := by
  have drops := afterReactor_drops served effect called
  rcases given with given | ⟨quiet, absent⟩
  · rwa [given] at drops
  · rw [quiet] at drops
    exact drops.absent absent

theorem onSocketWrite_drops (served : Served thread.reactor) {env : SendEnv}
    (called : thread.handle server (.onSocketWrite socketId env) = some outcome) :
    Drops thread.reactor outcome.1.reactor
      (thread.removes server (.onSocketWrite socketId env)) := by
  have effect := served.onSocketWrite socketId env
  have drops := afterReactor_drops served effect called
  rw [removes]
  cases result : env.result with
  | count bytes =>
      have fine (errno : Int) (failed : env.result = .error errno) : errno = eagain := by
        cases result.symm.trans failed
      rwa [served.onSocketWrite_quiet fine] at drops
  | error errno =>
      by_cases blocked : errno = eagain
      · have fine (other : Int) (failed : env.result = .error other) : other = eagain := by
          cases result.symm.trans failed
          exact blocked
        rw [served.onSocketWrite_quiet fine] at drops
        simpa [blocked] using drops
      · have removed :=
          afterReactor_removes served effect (onSocketWrite_givenUp result blocked) called
        simpa [blocked] using removed

theorem checkTimeout_drops (served : Served thread.reactor) {now : Timestamp}
    (turned : thread.handle server (.checkTimeout now) = some outcome) :
    Drops thread.reactor outcome.1.reactor (thread.removes server (.checkTimeout now)) := by
  simp only [handle, checkTimeoutTurn] at turned
  rw [removes]
  cases turn : thread.reactor.timerHeap.checkTurn now with
  | none =>
      rw [turn] at turned
      cases turned
      exact .of_connections rfl
  | some fired =>
      obtain ⟨firing, heap⟩ := fired
      simp only [turn] at turned
      let fired := thread.setReactor { thread.reactor with timerHeap := heap }
      have still : Served fired.reactor := served.of_tables rfl rfl
      have same : Drops thread.reactor fired.reactor none := .of_connections rfl
      cases timer : firing.timerCb with
      | user token =>
          rw [timer] at turned
          cases turned
          simp only [timer]
          exact same
      | sendMessageError =>
          rw [timer] at turned
          have effect := onSendMessageError_returned fired.reactor firing.timerId
          simp only [timer]
          apply same.after
          cases mapped : thread.reactor.timerToSocketMap firing.timerId with
          | none =>
              have drops := afterReactor_drops still effect turned
              have quiet : givenUp (fired.reactor.onSendMessageError firing.timerId).2 = none := by
                rw [onSendMessageError]
                simp only [fired, setReactor, mapped]
                rfl
              rwa [quiet] at drops
          | some lost =>
              exact afterReactor_removes still effect (still.onSendMessageError_givenUp mapped)
                turned

theorem onRecvMessage_drops (served : Served thread.reactor) {connection : TcpConnection}
    (found : thread.reactor.connections socketId = some connection)
    (received : thread.onRecvMessage server socketId = some outcome) :
    Drops thread.reactor outcome.1.reactor
      (if (server.onRecvMessage thread.id socketId thread.newNetCmdCb connection.readBuffer).exit =
        .closed then some socketId else none) := by
  simp only [onRecvMessage, found] at received
  have stored : Edits thread.reactor (thread.reactor.setConnection socketId { connection with
      readBuffer := (server.onRecvMessage thread.id socketId thread.newNetCmdCb
        connection.readBuffer).buffer }) :=
    .single (.rewrite found rfl rfl (served.silent socketId connection found))
  have kept := stored.drops served
  split at received
  · rename_i waiting
    cases received
    simpa [waiting] using kept
  · rename_i closed
    rw [Option.map_eq_some_iff] at received
    obtain ⟨next, closing, rfl⟩ := received
    rw [if_pos closed]
    exact kept.after (closeSocket_drops (stored.served served) closing)
  · cases received
  · cases received

theorem received_drops (served : Served thread.reactor) {connection : TcpConnection}
    (found : thread.reactor.connections socketId = some connection) {dataArrive : Bool}
    {readBuffer : DynamicBuffer}
    (called : thread.afterReactor server (thread.reactor.setConnection socketId
        { connection with readBuffer := readBuffer },
      if dataArrive then [.recvMessageCb socketId] else []) = some outcome) :
    Served outcome.1.reactor ∧ Drops thread.reactor outcome.1.reactor
      (if dataArrive ∧ (server.onRecvMessage thread.id socketId thread.newNetCmdCb
        readBuffer).exit = .closed then some socketId else none) := by
  let stored := thread.reactor.setConnection socketId { connection with readBuffer := readBuffer }
  have edit : Edits thread.reactor stored :=
    .single (.rewrite found rfl rfl (served.silent socketId connection found))
  have kept := edit.drops served
  cases dataArrive with
  | false =>
      cases called
      exact ⟨edit.served served, by simpa using kept⟩
  | true =>
      simp only [afterReactor, onReactorCalls, onReactorCall, if_true, Option.map_some,
        Option.bind_eq_some_iff, Option.some.injEq] at called
      obtain ⟨first, received, rfl⟩ := called
      have still : Served (thread.setReactor stored).reactor := edit.served served
      have here : (thread.setReactor stored).reactor.connections socketId =
          some { connection with readBuffer := readBuffer } := Function.update_self ..
      have drops := onRecvMessage_drops still here received
      refine ⟨(onRecvMessage_deeds still received).served still, ?_⟩
      simp only [true_and]
      exact kept.after drops

theorem onSocketRead_drops (served : Served thread.reactor) {answers : List RecvAnswer}
    (read : thread.handle server (.onSocketRead socketId answers) = some outcome) :
    Drops thread.reactor outcome.1.reactor
      (thread.removes server (.onSocketRead socketId answers)) := by
  rw [removes]
  rw [handle] at read
  cases found : thread.reactor.connections socketId with
  | none =>
      rw [found] at read
      cases read
      exact .of_connections rfl
  | some connection =>
      simp only [found, onSocketRead, onSocketReadLoop] at read ⊢
      cases loop : readLoop thread.reactor.connReadBufferMaxSize answers false
        connection.readBuffer with
      | none =>
          rw [loop] at read
          cases read
      | some ended =>
          obtain ⟨ending, dataArrive, readBuffer⟩ := ended
          simp only [loop] at read
          cases ending with
          | failed errno =>
              simp only [Option.bind_some, Option.bind_eq_some_iff, Option.some.injEq] at read
              obtain ⟨received, called, rfl⟩ := read
              have lost : Loses socketId (.errorCb socketId errno) := rfl
              have effect := served.returned_marked found
                ({ connection with readBuffer := readBuffer }.setError errno) lost
              exact afterReactor_drops served effect called
          | drained =>
              simp only [Option.bind_some, Option.bind_eq_some_iff, Option.some.injEq] at read
              obtain ⟨received, called, rfl⟩ := read
              exact (received_drops served found called).2
          | peerClose =>
              simp only [Option.bind_some, Option.bind_eq_some_iff, Option.map_eq_some_iff] at read
              obtain ⟨received, called, closed, closing, rfl⟩ := read
              obtain ⟨still, drops⟩ := received_drops served found called
              have later := afterReactor_removes still (still.onSocketReadPeerClose socketId)
                (onSocketReadPeerClose_givenUp _ socketId) closing
              apply drops.again later
              intro other same
              split at same
              · exact (Option.some.inj same).symm
              · cases same

theorem handleNetCommand_drops (served : Served thread.reactor) {env : SocketId → SendEnv}
    {cmd : NetCommand Message} (handled : thread.handleNetCommand env cmd = some outcome) :
    Drops thread.reactor outcome.1.reactor
      (thread.removes server (.onNetCommand (some cmd) env)) := by
  rw [removes]
  cases handleNetCommand_turn handled with
  | broadcast message type =>
      rw [type, broadcast_setReactor]
      dsimp only
      rw [ite_self]
      exact served.sendEach_drops env _ thread.broadcastList
  | unwritten message type =>
      rw [type]
      dsimp only
      rw [ite_self]
      exact .of_connections rfl
  | unconnected type missing =>
      rw [missing, if_neg Bool.false_ne_true]
      exact .of_connections rfl
  | close type connected =>
      rw [if_pos connected, type]
      exact served.closeSocket_drops cmd.id.socketId
  | send message type connected carried written =>
      rw [if_pos connected, type, carried]
      dsimp only
      rw [if_pos written]
      exact (served.sendMessage ..).1.drops served
  | lose message type connected carried unwritten closed =>
      rw [if_pos connected, type, carried]
      dsimp only
      rw [unwritten, if_neg Bool.false_ne_true]
      have still : Served (thread.encodeFor cmd message).reactor := served
      have drops := closeSocket_drops still closed
      exact drops
  | enable type connected | disable type connected | new type connected =>
      rw [if_pos connected, type]
      exact .of_connections rfl

theorem handle_drops (served : Served thread.reactor) {event : NetThreadEvent Message}
    (handled : thread.handle server event = some outcome) :
    Drops thread.reactor outcome.1.reactor (thread.removes server event) := by
  cases event with
  | onSocketRead socketId answers => exact onSocketRead_drops served handled
  | onSocketWrite socketId env => exact onSocketWrite_drops served handled
  | onSocketError socketId socketError =>
      exact afterReactor_removes served (served.onSocketError socketId socketError)
        (onSocketError_givenUp ..) handled
  | onNetCommand cmd env =>
      cases cmd with
      | none =>
          cases handled
          exact .of_connections rfl
      | some cmd => exact handleNetCommand_drops served handled
  | checkTimeout now => exact checkTimeout_drops served handled

end Handlers

def Live (thread : NetThread Callback Message) : Prop :=
  ∀ id ∈ thread.broadcastList, thread.reactor.connections id ≠ none

instance decidableLive : DecidablePred (Live : NetThread Callback Message → Prop) :=
  fun thread => inferInstanceAs (Decidable (∀ id ∈ thread.broadcastList,
    thread.reactor.connections id ≠ none))

theorem live_of_drops {thread next : NetThread Callback Message} {gone : Option SocketId}
    (live : thread.Live) (list : next.broadcastList = thread.broadcastList)
    (drops : Drops thread.reactor next.reactor gone) :
    next.Live ↔ ∀ id, gone = some id → id ∉ thread.broadcastList := by
  rw [Live, list]
  constructor
  · intro still id same listed
    exact still id listed ((drops id).mpr (.inr same))
  · intro kept id listed absent
    rcases (drops id).mp absent with missing | same
    · exact live id listed missing
    · exact kept id same listed

section Steps

variable [BaseStruct Message]

/-- Any socket may be attached; it may fail. -/
def broadcastStep (server : GameServer Message) (thread : NetThread Callback Message) :
    BroadcastEvent Message → Option (NetThread Callback Message)
  | .attach socketId granted => (thread.attach socketId granted).map Prod.fst
  | .handle event => (thread.handle server event).map Prod.fst

def KeepsListed (server : GameServer Message) (thread : NetThread Callback Message) :
    BroadcastEvent Message → Prop
  | .attach _ _ => True
  | .handle event => thread.handle server event ≠ none →
      ∀ id, thread.removes server event = some id → id ∉ thread.broadcastList

variable {server : GameServer Message} {thread next : NetThread Callback Message}

theorem attach_live (served : Served thread.reactor) (live : thread.Live) {socketId : SocketId}
    {granted : Bool} (taken : thread.broadcastStep server (.attach socketId granted) = some next) :
    Served next.reactor ∧ next.Live := by
  simp only [broadcastStep, Option.map_eq_some_iff] at taken
  obtain ⟨⟨attached, handed⟩, taken, rfl⟩ := taken
  obtain ⟨rfl, -⟩ := attach_some taken
  cases absent : thread.reactor.connections socketId with
  | none =>
      obtain ⟨still, -, status⟩ := served.attachSocket .create granted absent
      refine ⟨still, ?_⟩
      intro id listed
      have present := live id listed
      have other : id ≠ socketId := by
        rintro rfl
        exact present absent
      dsimp only [setReactor]
      rwa [ne_eq, ← statusOf_none, status, Function.update_of_ne other, statusOf_none]
  | some connection =>
      have used : thread.reactor.connections socketId ≠ none := by simp [absent]
      rw [setReactor, served.attachSocket_known used]
      exact ⟨served, live⟩

theorem removes_listing (server : GameServer Message) (thread : NetThread Callback Message)
    (env : SocketId → SendEnv) {cmd : NetCommand Message}
    (list : cmd.type = .enableBroadcast ∨ cmd.type = .disableBroadcast) :
    thread.removes server (.onNetCommand (some cmd) env) = none := by
  rw [removes]
  rcases list with type | type <;> simp [type]

theorem enable_live (live : thread.Live) {env : SocketId → SendEnv} {cmd : NetCommand Message}
    (enable : cmd.type = .enableBroadcast)
    {outcome : NetThread Callback Message × Handed Callback Message}
    (handled : thread.handleNetCommand env cmd = some outcome) : outcome.1.Live := by
  simp only [handleNetCommand, enable, reduceCtorEq, if_false] at handled
  split at handled
  · cases handled
    exact live
  · rename_i connected
    cases handled
    intro id listed
    dsimp only at listed ⊢
    split at listed
    · exact live id listed
    · rw [List.mem_orderedInsert] at listed
      rcases listed with rfl | before
      · intro absent
        simp [isConnected, absent] at connected
      · exact live id before

theorem disable_live (live : thread.Live) {env : SocketId → SendEnv} {cmd : NetCommand Message}
    (disable : cmd.type = .disableBroadcast)
    {outcome : NetThread Callback Message × Handed Callback Message}
    (handled : thread.handleNetCommand env cmd = some outcome) : outcome.1.Live := by
  simp only [handleNetCommand, disable, reduceCtorEq, if_false] at handled
  split at handled
  · cases handled
    exact live
  · cases handled
    intro id listed
    exact live id (List.mem_of_mem_erase listed)

theorem broadcastStep_live (served : Served thread.reactor) (live : thread.Live)
    {event : BroadcastEvent Message} (taken : thread.broadcastStep server event = some next) :
    Served next.reactor ∧ (next.Live ↔ thread.KeepsListed server event) := by
  cases event with
  | attach socketId granted =>
      obtain ⟨still, kept⟩ := attach_live served live taken
      exact ⟨still, iff_of_true kept trivial⟩
  | handle event =>
      simp only [broadcastStep, Option.map_eq_some_iff] at taken
      obtain ⟨outcome, handled, rfl⟩ := taken
      refine ⟨(handle_kept served handled).1, ?_⟩
      have returned : thread.handle server event ≠ none := by
        rw [handled]
        exact Option.some_ne_none outcome
      by_cases command : ∃ cmd env, event = .onNetCommand (some cmd) env ∧
          (cmd.type = .enableBroadcast ∨ cmd.type = .disableBroadcast)
      · obtain ⟨cmd, env, rfl, list⟩ := command
        have kept : outcome.1.Live := by
          rcases list with enable | disable
          · exact enable_live live enable handled
          · exact disable_live live disable handled
        apply iff_of_true kept
        intro _ id same
        rw [removes_listing server thread env list] at same
        cases same
      · have list : outcome.1.broadcastList = thread.broadcastList := by
          apply handle_broadcastList ?_ ?_ handled
          · intro cmd env same enables
            exact command ⟨cmd, env, same, .inl enables⟩
          · intro cmd env same disables
            exact command ⟨cmd, env, same, .inr disables⟩
        rw [live_of_drops live list (handle_drops served handled), KeepsListed,
          forall_prop_of_true returned]

theorem stuck_keepsListed {event : BroadcastEvent Message}
    (stuck : thread.broadcastStep server event = none) : thread.KeepsListed server event := by
  cases event with
  | attach socketId granted => trivial
  | handle event =>
      intro returned
      simp only [broadcastStep, Option.map_eq_none_iff] at stuck
      exact absurd stuck returned

/-- Only live connections are in the list, exactly as long as no handler removes one that is. -/
theorem live_every_iff (server : GameServer Message) (createMessageFunc : Int → Option Message)
    (maxRecvPacketLength id : Int) (maxSendPacketLength maxRecvBufferSize maxSendBufferSize : Nat)
    (callback : Option Callback) (attached : Bool) (events : List (BroadcastEvent Message)) :
    let thread := ((NetThread.create maxRecvPacketLength maxSendPacketLength
      createMessageFunc).init id maxRecvBufferSize maxSendBufferSize callback attached).2
    Every (broadcastStep server) Live thread events ↔
      Along (broadcastStep server) (KeepsListed server) thread events := by
  intro thread
  have served : Served thread.reactor := by
    cases attached with
    | false => exact .of_empty (fun _ => rfl) (fun _ => rfl)
    | true => exact .of_empty (fun _ => rfl) (fun _ => rfl)
  have live : thread.Live := by
    cases attached with
    | false => exact List.forall_mem_nil _
    | true => exact List.forall_mem_nil _
  have preserved {thread next : NetThread Callback Message} {event : BroadcastEvent Message}
      (kept : Served thread.reactor ∧ thread.Live)
      (_ : (fun _ _ => True : NetThread Callback Message → BroadcastEvent Message → Prop) thread
        event)
      (taken : thread.broadcastStep server event = some next) (still : next.Live) :
      Served next.reactor ∧ next.Live :=
    ⟨(broadcastStep_live kept.1 kept.2 taken).1, still⟩
  apply every_iff_along_of_kept preserved ?_ ?_ ⟨served, live⟩ live (along_always thread events)
  · intro thread event next kept _ live taken
    exact (broadcastStep_live kept.1 live taken).2
  · intro thread event _ _ stuck
    exact stuck_keepsListed stuck

end Steps

/-- A listed client is told to go. -/
def closedListener : List (BroadcastEvent RawMessage) :=
  [.attach 9 true,
    .handle (.onNetCommand (some (.plain .enableBroadcast ⟨0, 9⟩)) fun _ => ⟨.count 0, ⟨0, 0⟩⟩),
    .handle (.onNetCommand (some (.plain .close ⟨0, 9⟩)) fun _ => ⟨.count 0, ⟨0, 0⟩⟩)]

theorem closedListener_stays :
    ¬Every (broadcastStep (rawServer 40960)) Live (rawThread 0) closedListener := by
  decide +kernel

end NetThread

end ZBlueNet
