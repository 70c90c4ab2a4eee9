import ZBlueNet.BroadcastAudience
import ZBlueNet.ReadBuffers
import ZBlueNet.SendLimit

/-!
What the handlers of a `NetThread` do to its reactor, the expiry of timers apart: no
timer is forgotten, and one is started only for a connection whose send failed.
-/

namespace ZBlueNet

open EpollReactor Relation

namespace EpollReactor

inductive Effect (r : EpollReactor) : EpollReactor → Prop
  | rewrite {id : SocketId} {old new : TcpConnection} (found : r.connections id = some old)
      (socket : new.socket = old.socket) (status : new.status = old.status)
      (silent : new.sendCompleteCb = none) : Effect r (r.setConnection id new)
  | modify (id : SocketId) (change : TcpSocket → TcpSocket) : Effect r (r.modifySocket id change)
  | fail {id : SocketId} {old : TcpConnection} (now : Timestamp) (errorCode : Int)
      (found : r.connections id = some old) (status : old.status = .connected) :
      Effect r (r.failSend now old errorCode)
  | close (id : SocketId) : Effect r (r.closeSocket id)
  | quit : Effect r r.quitIOService

abbrev Effects : EpollReactor → EpollReactor → Prop := ReflTransGen Effect

variable {r next : EpollReactor} {id : SocketId} {connection : TcpConnection}

theorem Effect.served (effect : Effect r next) (served : Served r) : Served next := by
  cases effect with
  | rewrite found socket status silent =>
      exact (Edit.rewrite found socket status silent).served served
  | modify id change => exact served.modifySocket change
  | fail now errorCode found status => exact (Edit.fail now errorCode found status).served served
  | close id => exact served.closeSocket id
  | quit => exact served.of_tables rfl rfl

theorem Effects.served (effects : Effects r next) (served : Served r) : Served next := by
  induction effects with
  | refl => exact served
  | tail _ effect ih => exact effect.served ih

theorem Served.bufferRemaining_effects (served : Served r)
    (found : r.connections id = some connection) (connected : connection.status = .connected)
    (buffer : List UInt8) (remainSize : Nat) (now : Timestamp) :
    Effects r (r.bufferRemaining connection buffer remainSize none now).2.1 := by
  have named := served.named id connection found
  subst named
  obtain ⟨-, -, -, outcome⟩ | ⟨-, -, outcome⟩ | ⟨-, outcome⟩ :=
    bufferRemaining_cases r connection buffer remainSize none now
  · rw [outcome]
    exact .single (.fail now enobufs found connected)
  · rw [outcome]
    have stored : Effect r (r.setConnection connection.socket { connection with
        writeBuffer := connection.writeBuffer.append (buffer.take remainSize)
        sendCompleteCb := none }) :=
      .rewrite found rfl rfl rfl
    exact .tail (.single stored) (.modify connection.socket _)
  · rw [outcome]
    exact .refl

theorem Served.sendMessage_effects (served : Served r) (id : SocketId) (buffer : List UInt8)
    (env : SendEnv) : Effects r (r.sendMessage id buffer none env).2.1 := by
  rw [EpollReactor.sendMessage]
  cases found : r.connections id with
  | none => exact .refl
  | some connection =>
      dsimp only
      by_cases connected : connection.status = .connected
      · obtain ⟨sent, taken, direct, outcome⟩ := sendConnection_cases r buffer none env connected
        have begun : Effects r sent := by
          rcases direct with ⟨rfl, -⟩ | ⟨-, -, rfl⟩
          · exact .refl
          · exact .single (.modify connection.socket _)
        rw [← direct.connections] at found
        rcases outcome with ⟨errno, -, -, failed⟩ | goesOn
        · rw [failed]
          exact begun.tail (.fail env.now errno found connected)
        · rw [goesOn]
          have later := (Effects.served begun served).bufferRemaining_effects found connected buffer
            (buffer.length - taken) env.now
          exact begun.trans later
      · rw [sendConnection, if_pos connected]

theorem Served.sendEach_effects (served : Served r) (env : SocketId → SendEnv)
    (buffer : List UInt8) (ids : List SocketId) : Effects r (sendEach env buffer ids r) := by
  induction ids generalizing r with
  | nil => exact .refl
  | cons id ids ih =>
      have sent := served.sendMessage_effects id buffer (env id)
      exact sent.trans (ih (Effects.served sent served))

/-- What a function has done when it returns to its owner, who closes what it gives up. -/
inductive Yielded (r : EpollReactor) : EpollReactor × List ReactorCall → Prop
  | quiet {next : EpollReactor} (effects : Effects r next) : Yielded r (next, [])
  | lost {next : EpollReactor} {id : SocketId} {call : ReactorCall}
      (closes : next.closeSocket id = r.closeSocket id) (loses : Loses id call) :
      Yielded r (next, [call])

theorem Served.yielded_marked (served : Served r) (found : r.connections id = some connection)
    (marked : TcpConnection) {call : ReactorCall} (loses : Loses id call) :
    Yielded r (r.setConnection id marked, [call]) := by
  have attached : (r.sockets id).isSome := by rw [served.attached, found]; rfl
  exact .lost (closeSocket_setConnection attached marked) loses

theorem Served.onSocketWrite_yielded (served : Served r) (id : SocketId) (env : SendEnv) :
    Yielded r (r.onSocketWrite id env) := by
  rw [EpollReactor.onSocketWrite]
  cases found : r.connections id with
  | none => exact .quiet .refl
  | some connection =>
      cases env.result with
      | error errno =>
          dsimp only
          split
          · exact served.yielded_marked found _ rfl
          · exact .quiet .refl
      | count bytes =>
          have silent := served.silent id connection found
          have sent : Effect r
              (r.modifySocket id (.send (connection.writeBuffer.content.take bytes))) :=
            .modify id _
          dsimp only
          split
          · have stopped : Effects r ((r.modifySocket id _).modifySocket id
                (.setWriteCallback false)) :=
              .tail (.single sent) (.modify id _)
            rw [silent]
            exact .quiet (stopped.tail (.rewrite found rfl rfl rfl))
          · exact .quiet (.tail (.single sent) (.rewrite found rfl rfl silent))

theorem Served.onSocketError_yielded (served : Served r) (id : SocketId) (socketError : Int) :
    Yielded r (r.onSocketError id socketError) := by
  rw [EpollReactor.onSocketError]
  cases found : r.connections id with
  | none => exact .quiet .refl
  | some connection => exact served.yielded_marked found _ rfl

theorem Served.onSocketReadPeerClose_yielded (served : Served r) (id : SocketId) :
    Yielded r (r.onSocketReadPeerClose id) := by
  rw [EpollReactor.onSocketReadPeerClose]
  cases found : r.connections id with
  | none => exact .quiet .refl
  | some connection => exact served.yielded_marked found _ rfl

end EpollReactor

namespace NetThread

variable {Callback Message : Type} [BaseStruct Message] {server : GameServer Message}
  {thread : NetThread Callback Message} {socketId : SocketId}
  {outcome : NetThread Callback Message × Handed Callback Message}

omit [BaseStruct Message] in
theorem closeSocket_effects (closing : thread.closeSocket socketId = some outcome) :
    Effects thread.reactor outcome.1.reactor := by
  obtain ⟨closed, handed⟩ := outcome
  obtain ⟨rfl, -⟩ := closeSocket_some closing
  exact .single (.close socketId)

theorem afterReactor_effects {returned : EpollReactor × List ReactorCall}
    (yielded : Yielded thread.reactor returned)
    (called : thread.afterReactor server returned = some outcome) :
    Effects thread.reactor outcome.1.reactor := by
  cases yielded with
  | quiet effects =>
      cases called
      exact effects
  | lost closes loses =>
      rename_i next lost call
      rw [afterReactor_single] at called
      obtain ⟨closed, handed⟩ := outcome
      have closing : (thread.setReactor next).closeSocket lost = some (closed, handed) := by
        cases call with
        | errorCb id errorCode => exact loses ▸ called
        | peerCloseCb id => exact loses ▸ called
        | recvMessageCb id => exact loses.elim
        | sendCompleteCb id token => exact loses.elim
      obtain ⟨rfl, -⟩ := closeSocket_some closing
      dsimp only [setReactor]
      rw [closes]
      exact .single (.close lost)

theorem onRecvMessage_effects (served : Served thread.reactor)
    (received : thread.onRecvMessage server socketId = some outcome) :
    Effects thread.reactor outcome.1.reactor := by
  rw [onRecvMessage] at received
  split at received
  · cases received
    exact .refl
  · rename_i connection found
    have stored : Effect thread.reactor (thread.reactor.setConnection socketId { connection with
        readBuffer := (server.onRecvMessage thread.id socketId thread.newNetCmdCb
          connection.readBuffer).buffer }) :=
      .rewrite found rfl rfl (served.silent socketId connection found)
    dsimp only at received
    split at received
    · cases received
      exact .single stored
    · rw [Option.map_eq_some_iff] at received
      obtain ⟨closed, closing, rfl⟩ := received
      have closes : Effects _ closed.1.reactor := closeSocket_effects closing
      exact .head stored closes
    · cases received
    · cases received

theorem onSocketRead_effects (served : Served thread.reactor) {answers : List RecvAnswer}
    (read : thread.onSocketRead server socketId answers = some outcome) :
    Effects thread.reactor outcome.1.reactor := by
  simp only [onSocketRead, Option.bind_eq_some_iff] at read
  obtain ⟨⟨ending, stored, calls⟩, loop, received, called, finish⟩ := read
  rw [onSocketReadLoop] at loop
  split at loop
  · cases loop
  · rename_i connection found
    split at loop
    · cases loop
    · rename_i errno _ readBuffer _
      cases loop
      cases finish
      have loses : Loses socketId (.errorCb socketId errno) := rfl
      exact afterReactor_effects (served.yielded_marked found _ loses) called
    · rename_i dataArrive readBuffer unfailed _
      cases loop
      have rewritten : Effect thread.reactor (thread.reactor.setConnection socketId
          { connection with readBuffer := readBuffer }) :=
        .rewrite found rfl rfl (served.silent socketId connection found)
      have parsed : Effects thread.reactor received.1.reactor := by
        cases dataArrive with
        | false =>
            cases called
            exact .single rewritten
        | true =>
            simp only [if_true, afterReactor_single] at called
            have still : Served (thread.setReactor (thread.reactor.setConnection socketId
                { connection with readBuffer := readBuffer })).reactor :=
              rewritten.served served
            exact .head rewritten (onRecvMessage_effects still called)
      cases ending with
      | drained =>
          cases finish
          exact parsed
      | failed errno => exact (unfailed errno rfl).elim
      | peerClose =>
          rw [Option.map_eq_some_iff] at finish
          obtain ⟨closed, closing, rfl⟩ := finish
          have still := Effects.served parsed served
          have later := afterReactor_effects (still.onSocketReadPeerClose_yielded socketId) closing
          exact parsed.trans later

theorem handleNetCommand_effects (served : Served thread.reactor) {env : SocketId → SendEnv}
    {cmd : NetCommand Message} (handled : thread.handleNetCommand env cmd = some outcome) :
    Effects thread.reactor outcome.1.reactor := by
  cases handleNetCommand_turn handled with
  | broadcast message =>
      rw [broadcast_setReactor]
      exact served.sendEach_effects env _ thread.broadcastList
  | close => exact .single (.close cmd.id.socketId)
  | send message => exact served.sendMessage_effects cmd.id.socketId _ (env cmd.id.socketId)
  | lose message type connected carried unwritten closed =>
      have effects := closeSocket_effects closed
      exact effects
  | unwritten | unconnected | enable | disable | new => exact .refl

theorem handle_effects (served : Served thread.reactor) {event : NetThreadEvent Message}
    (timeless : ∀ now, event ≠ .checkTimeout now)
    (handled : thread.handle server event = some outcome) :
    Effects thread.reactor outcome.1.reactor := by
  cases event with
  | onSocketRead socketId answers =>
      rw [handle] at handled
      split at handled
      · cases handled
        exact .refl
      · exact onSocketRead_effects served handled
  | onSocketWrite socketId env =>
      exact afterReactor_effects (served.onSocketWrite_yielded socketId env) handled
  | onSocketError socketId socketError =>
      exact afterReactor_effects (served.onSocketError_yielded socketId socketError) handled
  | onNetCommand cmd env =>
      cases cmd with
      | none =>
          cases handled
          exact .single .quit
      | some cmd => exact handleNetCommand_effects served handled
  | checkTimeout now => exact absurd rfl (timeless now)

end NetThread

end ZBlueNet
