import ZBlueNet.SentMessages
import ZBlueNet.WrittenFrames

/-!
The way of a message from the service to its connections: the main thread pushes it to
the command queue of a net thread, for one connection or for all that listen to
broadcasts, and the thread sends it to each of them.
-/

namespace ZBlueNet

open Runs EpollReactor

namespace EpollReactor

variable {r other : EpollReactor} {id : SocketId} {accepted total buffer : List UInt8}
  {ids : List SocketId} {env : SocketId → SendEnv}

theorem AgreeAt.acceptedOf (agree : AgreeAt id r other) (accepted : List UInt8) :
    r.acceptedOf id accepted = other.acceptedOf id accepted := by
  rw [EpollReactor.acceptedOf, EpollReactor.acceptedOf, agree.socket]

theorem AgreeAt.isConnected (agree : AgreeAt id r other) :
    r.isConnected id = other.isConnected id := by
  rw [EpollReactor.isConnected, EpollReactor.isConnected, agree.connection]

theorem AgreeAt.sends (agree : AgreeAt id r other) (sends : Sends r id accepted total) :
    Sends other id accepted total := by
  refine ⟨sends.part, ?_⟩
  intro connection found
  rw [← agree.connection] at found
  obtain ⟨valid, expandSize, bounded, device, whole⟩ := sends.holds connection found
  rw [agree.socket] at device
  exact ⟨valid, expandSize, bounded, device, whole⟩

theorem WriteSized.sendEach (sized : WriteSized r) (env : SocketId → SendEnv)
    (buffer : List UInt8) (ids : List SocketId) : WriteSized (sendEach env buffer ids r) := by
  induction ids generalizing r with
  | nil => exact sized
  | cons id ids ih => exact ih (sized.sendMessage id buffer (env id))

theorem Served.sendMessage_connected (served : Served r) {answer : SendEnv}
    (connected : (r.sendMessage id buffer none answer).2.1.isConnected id = true) :
    (r.sendMessage id buffer none answer).1 = true := by
  by_contra refused
  rw [Bool.not_eq_true] at refused
  rcases SendLimitRun.sendMessage_refused served.named refused with
    ⟨unconnected, nothing⟩ | ⟨connection, errorCode, -, after⟩
  · rw [nothing, unconnected] at connected
    cases connected
  · simp [EpollReactor.isConnected, after, TcpConnection.setError] at connected

/-- `sent` is sent on a connection: a beginning of it is on its way, and all of it as long as no
send failed. -/
def SendsUpTo (r : EpollReactor) (id : SocketId) (accepted sent : List UInt8) : Prop :=
  ∃ total, total <+: sent ∧ (r.isConnected id = true → total = sent) ∧ Sends r id accepted total

variable {sent : List UInt8}

theorem SendsUpTo.part (sends : SendsUpTo r id accepted sent) : accepted <+: sent := by
  obtain ⟨total, part, -, sending⟩ := sends
  exact sending.part.trans part

theorem SendsUpTo.acceptedOf (served : Served r) (sends : SendsUpTo r id accepted sent) :
    r.acceptedOf id accepted = accepted := by
  obtain ⟨total, -, -, sending⟩ := sends
  exact served.acceptedOf sending

theorem SendsUpTo.flushed (sends : SendsUpTo r id accepted sent)
    (connected : r.isConnected id = true) {connection : TcpConnection}
    (found : r.connections id = some connection) (empty : connection.writeBuffer.content = []) :
    accepted = sent := by
  obtain ⟨total, -, all, sending⟩ := sends
  have whole := (sending.holds connection found).whole
  rw [empty, List.append_nil] at whole
  exact whole.trans (all connected)

theorem SendsUpTo.beside (sends : SendsUpTo r id accepted sent) {next : EpollReactor}
    (keeps : KeepsSent id r next)
    (connected : next.isConnected id = true → r.isConnected id = true) :
    SendsUpTo next id accepted sent := by
  obtain ⟨total, part, all, sending⟩ := sends
  exact ⟨total, part, fun still => all (connected still), keeps.sends sending⟩

theorem SendsUpTo.onSocketWrite (served : Served r) (sends : SendsUpTo r id accepted sent)
    (answer : SendEnv) {next : EpollReactor}
    (keeps : KeepsSent id (r.onSocketWrite id answer).1 next)
    (connected : next.isConnected id = true → r.isConnected id = true) :
    SendsUpTo next id ((r.onSocketWrite id answer).1.acceptedOf id accepted) sent := by
  obtain ⟨total, part, all, sending⟩ := sends
  exact ⟨total, part, fun still => all (connected still),
    keeps.sends (sending.onSocketWrite served answer)⟩

theorem SendsUpTo.sendEach (served : Served r) (sized : WriteSized r)
    (sends : SendsUpTo r id accepted sent) (connected : r.isConnected id = true)
    (nodup : ids.Nodup) (member : id ∈ ids) (small : buffer.length ≤ 40960)
    (rest : SendRun.RestIsPrefix id ⟨r, []⟩ (.sendMessage buffer none (env id))) :
    SendsUpTo (sendEach env buffer ids r) id
      ((sendEach env buffer ids r).acceptedOf id accepted) (sent ++ buffer) := by
  obtain ⟨total, -, all, sending⟩ := sends
  have all := all connected
  subst all
  obtain ⟨reached, part, whole, sends⟩ := sending.sendMessage served sized.maxSize small rest
  have agree := sendEach_own env buffer served nodup member
  rw [← agree.acceptedOf]
  refine ⟨reached, part, ?_, agree.sends sends⟩
  intro still
  rw [← agree.isConnected] at still
  exact whole (served.sendMessage_connected still)

theorem sendEach_silent (served : Served r) (nodup : ids.Nodup)
    (silent : id ∉ ids ∨ r.isConnected id = false) : AgreeAt id r (sendEach env buffer ids r) := by
  by_cases member : id ∈ ids
  · have own := sendEach_own env buffer served nodup member
    rw [sendMessage_unconnected (silent.resolve_left (not_not_intro member))] at own
    exact own
  · exact sendEach_absent env buffer served member

end EpollReactor

namespace NetThread

variable {Callback Message : Type} {thread next : NetThread Callback Message}
  {socketId id : SocketId} {handed : Handed Callback Message}
  {outcome : NetThread Callback Message × Handed Callback Message}

theorem Deeds.connected (deeds : Deeds thread next handed) (served : Served thread.reactor)
    (connected : next.reactor.isConnected id = true) : thread.reactor.isConnected id = true := by
  rw [isConnected_iff] at connected ⊢
  cases deeds.report served id with
  | stays same silent => exact same.symm.trans connected
  | fails before pending silent => exact before
  | leaves present gone once => cases gone.symm.trans connected

theorem closeSocket_keeps (closing : thread.closeSocket socketId = some outcome) :
    KeepsSent id thread.reactor outcome.1.reactor := by
  obtain ⟨next, handed⟩ := outcome
  obtain ⟨rfl, -⟩ := closeSocket_some closing
  exact .closeSocket thread.reactor socketId

theorem connected_closeSocket {r : EpollReactor} (served : Served r)
    (connected : (r.closeSocket socketId).isConnected id = true) :
    id ≠ socketId ∧ r.isConnected id = true := by
  rw [isConnected_iff, served.closeSocket_statusOf] at connected
  by_cases mine : id = socketId
  · rw [mine, Function.update_self] at connected
    cases connected
  · rw [Function.update_of_ne mine] at connected
    exact ⟨mine, isConnected_iff.mpr connected⟩

section Handlers

variable [BaseStruct Message] {server : GameServer Message} {event : NetThreadEvent Message}
  {env : SocketId → SendEnv} {cmd : NetCommand Message}

theorem onRecvMessage_keeps (received : thread.onRecvMessage server socketId = some outcome) :
    KeepsSent id thread.reactor outcome.1.reactor := by
  simp only [onRecvMessage] at received
  split at received
  · cases received
    exact .refl id _
  · rename_i connection found
    have stored (readBuffer : DynamicBuffer) : KeepsSent id thread.reactor
        (thread.reactor.setConnection socketId { connection with readBuffer := readBuffer }) :=
      .setConnection found rfl
    split at received
    · cases received
      exact stored _
    · rw [Option.map_eq_some_iff] at received
      obtain ⟨closed, closing, rfl⟩ := received
      exact (stored _).trans (closeSocket_keeps closing)
    · cases received
    · cases received

theorem onReactorCalls_keeps {calls : List ReactorCall}
    (called : thread.onReactorCalls server calls = some outcome) :
    KeepsSent id thread.reactor outcome.1.reactor := by
  induction calls generalizing thread outcome with
  | nil =>
      cases called
      exact .refl id _
  | cons call calls ih =>
      simp only [onReactorCalls, Option.bind_eq_some_iff, Option.map_eq_some_iff] at called
      obtain ⟨first, now, rest, later, rfl⟩ := called
      have once : KeepsSent id thread.reactor first.1.reactor := by
        cases call with
        | errorCb lost errorCode => exact closeSocket_keeps now
        | peerCloseCb lost => exact closeSocket_keeps now
        | recvMessageCb id => exact onRecvMessage_keeps now
        | sendCompleteCb id token =>
            cases now
            exact .refl _ _
      have others : KeepsSent id first.1.reactor rest.1.reactor := ih later
      exact once.trans others

theorem afterReactor_keeps {returned : EpollReactor × List ReactorCall}
    (called : thread.afterReactor server returned = some outcome) :
    KeepsSent id returned.1 outcome.1.reactor := by
  have keeps : KeepsSent id (thread.setReactor returned.1).reactor outcome.1.reactor :=
    onReactorCalls_keeps called
  exact keeps

theorem onSocketRead_keeps {answers : List RecvAnswer}
    (read : thread.onSocketRead server socketId answers = some outcome) :
    KeepsSent id thread.reactor outcome.1.reactor := by
  simp only [onSocketRead, Option.bind_eq_some_iff] at read
  obtain ⟨⟨ending, marked, calls⟩, loop, received, called, finish⟩ := read
  have first : KeepsSent id thread.reactor received.1.reactor :=
    (KeepsSent.onSocketReadLoop loop).trans (afterReactor_keeps called)
  split at finish
  · rw [Option.map_eq_some_iff] at finish
    obtain ⟨closed, closing, rfl⟩ := finish
    have last : KeepsSent id received.1.reactor closed.1.reactor :=
      (KeepsSent.onSocketReadPeerClose _ socketId).trans (afterReactor_keeps closing)
    exact first.trans last
  · cases finish
    exact first
  · cases finish
    exact first

/-- The reactor right behind a write, before a callback can close the connection. -/
def afterWrite (r : EpollReactor) : NetThreadEvent Message → EpollReactor
  | .onSocketWrite socketId env => (r.onSocketWrite socketId env).1
  | _ => r

theorem handle_keeps (other : ∀ cmd env, event ≠ .onNetCommand cmd env)
    (handled : thread.handle server event = some outcome) :
    (∃ reactor, outcome.1 = thread.setReactor reactor) ∧
      ∀ id, KeepsSent id (afterWrite thread.reactor event) outcome.1.reactor := by
  cases event with
  | onSocketRead socketId answers =>
      simp only [handle] at handled
      split at handled
      · cases handled
        exact ⟨⟨_, rfl⟩, fun id => .refl id _⟩
      · exact ⟨onSocketRead_setReactor handled, fun id => onSocketRead_keeps handled⟩
  | onSocketWrite socketId env =>
      exact ⟨afterReactor_setReactor handled, fun id => afterReactor_keeps handled⟩
  | onSocketError socketId socketError =>
      refine ⟨afterReactor_setReactor handled, fun id => ?_⟩
      have marked : KeepsSent id thread.reactor
          (thread.reactor.onSocketError socketId socketError).1 := .onSocketError _ _ _
      exact marked.trans (afterReactor_keeps handled)
  | onNetCommand cmd env => exact absurd rfl (other cmd env)
  | checkTimeout now =>
      simp only [handle, checkTimeoutTurn] at handled
      split at handled
      · cases handled
        exact ⟨⟨_, rfl⟩, fun id => .refl id _⟩
      · rename_i firing heap turn
        have fired (id : SocketId) : KeepsSent id thread.reactor
            { thread.reactor with timerHeap := heap } := .of_tables rfl rfl rfl rfl rfl
        split at handled
        · refine ⟨afterReactor_setReactor handled, fun id => (fired id).trans ?_⟩
          exact (KeepsSent.onSendMessageError _ firing.timerId).trans (afterReactor_keeps handled)
        · cases handled
          exact ⟨⟨_, rfl⟩, fired⟩

theorem handle_connected (served : Served thread.reactor)
    (handled : thread.handle server event = some outcome)
    (connected : outcome.1.reactor.isConnected id = true) :
    thread.reactor.isConnected id = true := by
  rcases handle_cases served handled with ⟨cmd, rfl⟩ | deeds
  · dsimp only at connected
    split at connected
    · exact (connected_closeSocket served connected).2
    · exact connected
  · exact deeds.connected served connected

theorem handle_absent (served : Served thread.reactor)
    (handled : thread.handle server event = some outcome)
    (absent : thread.reactor.connections id = none) : outcome.1.reactor.connections id = none := by
  rw [← statusOf_none] at absent ⊢
  rcases handle_cases served handled with ⟨cmd, rfl⟩ | deeds
  · dsimp only
    split
    · rw [setReactor, served.closeSocket_statusOf]
      by_cases mine : id = cmd.id.socketId
      · rw [mine, Function.update_self]
      · rw [Function.update_of_ne mine, absent]
    · exact absent
  · cases deeds.report served id with
    | stays still silent => exact still.trans absent
    | fails before pending silent => cases absent.symm.trans before
    | leaves present gone once => exact gone

end Handlers

theorem afterWrite_sized {r : EpollReactor} (sized : r.WriteSized) (event : NetThreadEvent Message) :
    (afterWrite r event).WriteSized := by
  cases event with
  | onSocketWrite socketId env => exact sized.onSocketWrite socketId env
  | onSocketRead | onSocketError | onNetCommand | checkTimeout => exact sized

theorem sends_afterWrite {r next : EpollReactor} {accepted sent : List UInt8} (served : Served r)
    (sized : r.WriteSized) (sends : SendsUpTo r id accepted sent) (event : NetThreadEvent Message)
    (keeps : KeepsSent id (afterWrite r event) next)
    (connected : next.isConnected id = true → r.isConnected id = true) :
    SendsUpTo next id ((afterWrite r event).acceptedOf id accepted) sent := by
  have untouched (keeps : KeepsSent id r next) : SendsUpTo next id (r.acceptedOf id accepted) sent := by
    rw [sends.acceptedOf served]
    exact sends.beside keeps connected
  cases event with
  | onSocketWrite socketId env =>
      by_cases mine : id = socketId
      · subst mine
        exact sends.onSocketWrite served env keeps connected
      · have agree : AgreeAt id r (r.onSocketWrite socketId env).1 := agreeAt_onSocketWrite r mine env
        have written := sized.keepsSent (sized.onSocketWrite socketId env) agree
        rw [afterWrite, ← agree.acceptedOf]
        exact untouched (written.trans keeps)
  | onSocketRead | onSocketError | onNetCommand | checkTimeout => exact untouched keeps

end NetThread

/-! What the commands of a thread ask for. -/

section Replies

variable {Message : Type}

def listensAfter (id : SocketId) (listens : Bool) : Option (NetCommand Message) → Bool
  | none => listens
  | some cmd =>
      match cmd.type with
      | .enableBroadcast => if cmd.id.socketId = id then true else listens
      | .disableBroadcast => if cmd.id.socketId = id then false else listens
      | .new | .close | .message | .broadcast => listens

theorem listensAfter_other {cmd : NetCommand Message} {id : SocketId} {listens : Bool}
    (other : cmd.type = .enableBroadcast ∨ cmd.type = .disableBroadcast → cmd.id.socketId ≠ id) :
    listensAfter id listens (some cmd) = listens := by
  simp only [listensAfter]
  split
  · rename_i enables
    exact if_neg (other (.inl enables))
  · rename_i disables
    exact if_neg (other (.inr disables))
  all_goals rfl

variable [BaseStruct Message]

/-- What a command asks to send on a connection. A broadcast that does not fit into an encode buffer
of `size` bytes is left out. -/
def addressedTo (size : Nat) (id : SocketId) (listens : Bool) :
    Option (NetCommand Message) → List (Int × Message)
  | none => []
  | some cmd =>
      match cmd.type, cmd.message with
      | .broadcast, some message =>
          if listens = true ∧ 0 ≤ (BaseStruct.encode message (size - 4)).1 then
            [(cmd.messageId, message)]
          else []
      | .message, some message =>
          if cmd.id.socketId = id then [(cmd.messageId, message)] else []
      | _, _ => []

def hear (size : Nat) (id : SocketId) (heard : Bool × List (Int × Message))
    (cmd : Option (NetCommand Message)) : Bool × List (Int × Message) :=
  (listensAfter id heard.1 cmd, heard.2 ++ addressedTo size id heard.1 cmd)

def repliesTo (size : Nat) (id : SocketId) (commands : List (Option (NetCommand Message))) :
    Bool × List (Int × Message) :=
  commands.foldl (hear size id) (false, [])

theorem addressedTo_other {cmd : NetCommand Message} {size : Nat} {id : SocketId} {listens : Bool}
    (type : cmd.type ≠ .broadcast) (other : cmd.type = .message → cmd.id.socketId ≠ id) :
    addressedTo size id listens (some cmd) = [] := by
  simp only [addressedTo]
  split
  · rename_i broadcasts _
    exact absurd broadcasts type
  · rename_i sends _
    exact if_neg (other sends)
  · rfl

theorem repliesTo_snoc (size : Nat) (id : SocketId) (commands : List (Option (NetCommand Message)))
    (cmd : Option (NetCommand Message)) :
    repliesTo size id (commands ++ [cmd]) = hear size id (repliesTo size id commands) cmd :=
  List.foldl_append

end Replies

namespace NetThread

variable {Callback Message : Type} {thread next : NetThread Callback Message}
  {env : SocketId → SendEnv} {cmd : NetCommand Message} {id : SocketId} {size : Nat}
  {outcome : NetThread Callback Message × Handed Callback Message}

def targets (thread : NetThread Callback Message) : Option (NetCommand Message) → List SocketId
  | none => []
  | some cmd =>
      if cmd.type = .broadcast then thread.broadcastList
      else if cmd.type = .message ∧ thread.reactor.isConnected cmd.id.socketId = true then
        [cmd.id.socketId]
      else []

theorem targets_nodup (nodup : thread.broadcastList.Nodup) (cmd : Option (NetCommand Message)) :
    (thread.targets cmd).Nodup := by
  cases cmd with
  | none => exact List.nodup_nil
  | some cmd =>
      rw [targets]
      split
      · exact nodup
      · split
        · exact List.nodup_singleton _
        · exact List.nodup_nil

theorem targets_other (type : cmd.type ≠ .broadcast)
    (unsent : cmd.type = .message → thread.reactor.isConnected cmd.id.socketId = false) :
    thread.targets (some cmd) = [] := by
  rw [targets, if_neg type, if_neg]
  rintro ⟨sends, connected⟩
  rw [unsent sends] at connected
  cases connected

variable [BaseStruct Message]

def encodedOf (thread : NetThread Callback Message) (cmd : Option (NetCommand Message)) :
    Option (Int × Message) :=
  cmd.bind fun cmd =>
    (cmd.message.map fun message => (cmd.messageId, message)).filter fun entry =>
      (NetProtocol.writeMessage entry.1 entry.2 thread.encodeBuffer).1

def encodedAs (thread : NetThread Callback Message) (entry : Int × Message) : List UInt8 :=
  (NetProtocol.writeMessage entry.1 entry.2 thread.encodeBuffer).2.content

def afterSends (thread : NetThread Callback Message) (env : SocketId → SendEnv)
    (cmd : Option (NetCommand Message)) : EpollReactor :=
  match thread.encodedOf cmd with
  | none => thread.reactor
  | some entry => sendEach env (thread.encodedAs entry) (thread.targets cmd) thread.reactor

def sentOn (thread : NetThread Callback Message) (id : SocketId)
    (cmd : Option (NetCommand Message)) : List (Int × Message) :=
  if id ∈ thread.targets cmd ∧ thread.reactor.isConnected id = true then
    (thread.encodedOf cmd).toList
  else []

structure AfterSends (sent next : EpollReactor) (id : SocketId) : Prop where
  keeps : KeepsSent id sent next
  connected : next.isConnected id = true → sent.isConnected id = true

theorem AfterSends.same {sent next : EpollReactor} (same : next = sent) : AfterSends sent next id :=
  ⟨same ▸ .refl id sent, fun connected => same ▸ connected⟩

theorem AfterSends.closed {sent r : EpollReactor} (served : Served r) (same : sent = r)
    (socketId : SocketId) : AfterSends sent (r.closeSocket socketId) id := by
  subst same
  exact ⟨.closeSocket sent socketId, fun connected => (connected_closeSocket served connected).2⟩

/-- What a command has done: a connection gets what the command asks for, or it is lost. -/
structure Obeyed (size : Nat) (thread : NetThread Callback Message) (env : SocketId → SendEnv)
    (cmd : Option (NetCommand Message)) (next : NetThread Callback Message) : Prop where
  room : next.encodeBuffer.buffer.length = thread.encodeBuffer.buffer.length
  commandQueue : next.commandQueue = thread.commandQueue
  nodup : next.broadcastList.Nodup
  known : ∀ id ∈ next.broadcastList, id ∈ thread.broadcastList ∨ thread.reactor.isConnected id = true
  reactor : ∀ id, AfterSends (thread.afterSends env cmd) next.reactor id
  heard : ∀ id, thread.reactor.isConnected id = true →
    thread.sentOn id cmd = addressedTo size id (decide (id ∈ thread.broadcastList)) cmd ∧
        (id ∈ next.broadcastList ↔
          listensAfter id (decide (id ∈ thread.broadcastList)) cmd = true) ∨
      thread.sentOn id cmd = [] ∧ next.reactor.isConnected id = false

theorem silent_command (env : SocketId → SendEnv)
    (silent : thread.encodedOf (some cmd) = none ∨ thread.targets (some cmd) = []) :
    (∀ id, thread.sentOn id (some cmd) = []) ∧
      thread.afterSends env (some cmd) = thread.reactor := by
  rcases silent with none_encoded | no_target
  · refine ⟨fun id => ?_, ?_⟩
    · rw [sentOn, none_encoded]
      split <;> rfl
    · rw [afterSends, none_encoded]
  · refine ⟨fun id => ?_, ?_⟩
    · rw [sentOn, no_target]
      exact if_neg fun here => List.not_mem_nil here.1
    · rw [afterSends, no_target]
      split <;> rfl

theorem enabled_list {list : List SocketId} (nodup : list.Nodup) (socketId : SocketId) :
    (if socketId ∈ list then list else list.orderedInsert (· ≤ ·) socketId).Nodup ∧
      ∀ id, id ∈ (if socketId ∈ list then list else list.orderedInsert (· ≤ ·) socketId) ↔
        id = socketId ∨ id ∈ list := by
  have inserted : (list.orderedInsert (· ≤ ·) socketId).Perm (socketId :: list) :=
    List.perm_orderedInsert ..
  split
  · rename_i before
    refine ⟨nodup, ?_⟩
    intro id
    constructor
    · exact .inr
    · rintro (rfl | member)
      · exact before
      · exact member
  · rename_i outside
    refine ⟨inserted.nodup_iff.mpr (List.nodup_cons.mpr ⟨outside, nodup⟩), ?_⟩
    intro id
    rw [inserted.mem_iff, List.mem_cons]

theorem broadcast_obeyed (enough : 4 ≤ thread.encodeBuffer.buffer.length)
    (bounded : thread.encodeBuffer.buffer.length < sizeModulus)
    (room : thread.encodeBuffer.buffer.length = size) (nodup : thread.broadcastList.Nodup)
    (type : cmd.type = .broadcast) (handled : thread.handleNetCommand env cmd = some outcome) :
    Obeyed size thread env (some cmd) outcome.1 := by
  simp only [handleNetCommand, type, if_true, Option.map_eq_some_iff] at handled
  obtain ⟨message, carried, rfl⟩ := handled
  have targeted : thread.targets (some cmd) = thread.broadcastList := if_pos type
  have kept := NetClientThread.writeMessage_room enough bounded cmd.messageId message
  have accepts := writeMessage_accepts enough bounded cmd.messageId message
  have listens (id : SocketId) : listensAfter id (decide (id ∈ thread.broadcastList)) (some cmd) =
      decide (id ∈ thread.broadcastList) := listensAfter_other (by simp [type])
  rw [room] at accepts
  split
  · rename_i written
    have entry : thread.encodedOf (some cmd) = some (cmd.messageId, message) := by
      simp [encodedOf, carried, written]
    rw [broadcast_setReactor]
    refine ⟨kept, rfl, nodup, fun id member => .inl member, fun id => .same ?_, ?_⟩
    · rw [afterSends, entry, targeted]
      rfl
    · intro id connected
      refine .inl ⟨?_, by rw [listens, decide_eq_true_iff]; rfl⟩
      rw [sentOn, targeted, entry]
      simp [addressedTo, type, carried, accepts.mp written, connected]
  · rename_i unwritten
    have entry : thread.encodedOf (some cmd) = none := by simp [encodedOf, carried, unwritten]
    have silent := silent_command env (.inl entry)
    refine ⟨kept, rfl, nodup, fun id member => .inl member, fun id => .same silent.2.symm, ?_⟩
    intro id connected
    refine .inl ⟨?_, by rw [listens, decide_eq_true_iff]⟩
    rw [silent.1]
    simp [addressedTo, type, carried, mt accepts.mpr unwritten]

theorem handleNetCommand_obeyed (enough : 4 ≤ thread.encodeBuffer.buffer.length)
    (bounded : thread.encodeBuffer.buffer.length < sizeModulus)
    (room : thread.encodeBuffer.buffer.length = size) (served : Served thread.reactor)
    (nodup : thread.broadcastList.Nodup)
    (handled : thread.handleNetCommand env cmd = some outcome) :
    Obeyed size thread env (some cmd) outcome.1 := by
  by_cases type : cmd.type = .broadcast
  · exact broadcast_obeyed enough bounded room nodup type handled
  have quiet (silent : cmd.type ≠ .message) :
      (∀ id, thread.sentOn id (some cmd) = []) ∧
        thread.afterSends env (some cmd) = thread.reactor :=
    silent_command env (.inr (targets_other type (absurd · silent)))
  cases handleNetCommand_turn handled with
  | broadcast message broadcasts => exact absurd broadcasts type
  | unwritten message broadcasts => exact absurd broadcasts type
  | unconnected other missing =>
      have silent := silent_command env (.inr (targets_other type fun _ => missing))
      refine ⟨rfl, rfl, nodup, fun id member => .inl member, fun id => .same silent.2.symm, ?_⟩
      intro id connected
      have apart : cmd.id.socketId ≠ id := by
        rintro rfl
        cases missing.symm.trans connected
      refine .inl ⟨?_, ?_⟩
      · rw [silent.1, addressedTo_other type fun _ => apart]
      · rw [listensAfter_other fun _ => apart, decide_eq_true_iff]
  | close closes connected =>
      have silent := quiet (by simp [closes])
      refine ⟨rfl, rfl, nodup, fun id member => .inl member,
        fun id => .closed served silent.2 cmd.id.socketId, ?_⟩
      · intro id connected
        refine .inl ⟨?_, ?_⟩
        · rw [silent.1, addressedTo_other type (by simp [closes])]
        · rw [listensAfter_other (by simp [closes]), decide_eq_true_iff]
  | send message sends connected carried written =>
      have entry : thread.encodedOf (some cmd) = some (cmd.messageId, message) := by
        simp [encodedOf, carried, written]
      have targeted : thread.targets (some cmd) = [cmd.id.socketId] := by
        rw [targets, if_neg type, if_pos ⟨sends, connected⟩]
      refine ⟨NetClientThread.writeMessage_room enough bounded cmd.messageId message, rfl, nodup,
        fun id member => .inl member, fun id => .same ?_, ?_⟩
      · rw [afterSends, entry, targeted]
        rfl
      · intro id here
        refine .inl ⟨?_, ?_⟩
        · rw [sentOn, targeted, entry]
          by_cases mine : cmd.id.socketId = id
          · simp [addressedTo, sends, carried, mine, here]
          · simp [addressedTo, sends, carried, mine, Ne.symm mine]
        · rw [listensAfter_other (by simp [sends]), decide_eq_true_iff]
          rfl
  | lose message sends connected carried unwritten closed =>
      obtain ⟨next, handed⟩ := outcome
      obtain ⟨rfl, -⟩ := closeSocket_some closed
      have entry : thread.encodedOf (some cmd) = none := by simp [encodedOf, carried, unwritten]
      have silent := silent_command env (.inl entry)
      refine ⟨NetClientThread.writeMessage_room enough bounded cmd.messageId message, rfl, nodup,
        fun id member => .inl member, fun id => .closed served silent.2 cmd.id.socketId, ?_⟩
      · intro id here
        by_cases mine : cmd.id.socketId = id
        · refine .inr ⟨silent.1 id, ?_⟩
          rw [← mine, ← Bool.not_eq_true]
          intro still
          exact (connected_closeSocket served still).1 rfl
        · refine .inl ⟨?_, ?_⟩
          · rw [silent.1, addressedTo_other type fun _ => mine]
          · rw [listensAfter_other fun _ => mine, decide_eq_true_iff]
            rfl
  | enable enables connected =>
      have silent := quiet (by simp [enables])
      obtain ⟨distinct, members⟩ := enabled_list nodup cmd.id.socketId
      refine ⟨rfl, rfl, distinct, ?_, fun id => .same silent.2.symm, ?_⟩
      · intro id member
        rcases (members id).mp member with rfl | before
        · exact .inr connected
        · exact .inl before
      · intro id here
        refine .inl ⟨?_, ?_⟩
        · rw [silent.1, addressedTo_other type (by simp [enables])]
        · rw [members]
          by_cases mine : cmd.id.socketId = id
          · simp [listensAfter, enables, mine]
          · rw [listensAfter_other fun _ => mine, decide_eq_true_iff, or_iff_right (Ne.symm mine)]
  | disable disables connected =>
      have silent := quiet (by simp [disables])
      refine ⟨rfl, rfl, nodup.erase _, fun id member => .inl (List.mem_of_mem_erase member),
        fun id => .same silent.2.symm, ?_⟩
      intro id here
      refine .inl ⟨?_, ?_⟩
      · rw [silent.1, addressedTo_other type (by simp [disables])]
      · rw [nodup.mem_erase_iff]
        by_cases mine : cmd.id.socketId = id
        · simp [listensAfter, disables, mine]
        · rw [listensAfter_other fun _ => mine, decide_eq_true_iff, and_iff_right (Ne.symm mine)]
  | new opens connected =>
      have silent := quiet (by simp [opens])
      refine ⟨rfl, rfl, nodup, fun id member => .inl member, fun id => .same silent.2.symm, ?_⟩
      intro id here
      refine .inl ⟨?_, ?_⟩
      · rw [silent.1, addressedTo_other type (by simp [opens])]
      · rw [listensAfter_other (by simp [opens]), decide_eq_true_iff]

theorem onNetCommand_obeyed {server : GameServer Message} {command : Option (NetCommand Message)}
    (enough : 4 ≤ thread.encodeBuffer.buffer.length)
    (bounded : thread.encodeBuffer.buffer.length < sizeModulus)
    (room : thread.encodeBuffer.buffer.length = size) (served : Served thread.reactor)
    (nodup : thread.broadcastList.Nodup)
    (handled : thread.handle server (.onNetCommand command env) = some outcome) :
    Obeyed size thread env command outcome.1 := by
  cases command with
  | none =>
      cases handled
      refine ⟨rfl, rfl, nodup, fun id member => .inl member,
        fun id => ⟨.of_tables rfl rfl rfl rfl rfl, fun connected => connected⟩, ?_⟩
      · intro id connected
        exact .inl ⟨if_neg fun here => List.not_mem_nil here.1, decide_eq_true_iff.symm⟩
  | some cmd => exact handleNetCommand_obeyed enough bounded room served nodup handled

end NetThread

/-- A net thread with the commands that were pushed to it, and for each connection those that it took
since the connection was attached, what it sent on it, and what the kernel accepted of that. -/
structure RepliedRun (Callback Message : Type) where
  thread : NetThread Callback Message
  pushed : List (Option (NetCommand Message))
  attached : List SocketId
  taken : SocketId → List (Option (NetCommand Message))
  sent : SocketId → List (Int × Message)
  accepted : SocketId → List UInt8

inductive RepliedEvent (Message : Type)
  | push (cmd : Option (NetCommand Message))
  | attach (socketId : SocketId) (granted : Bool)
  | onNetCommand (env : SocketId → SendEnv)
  | handle (event : NetThreadEvent Message)

namespace RepliedRun

open NetThread

variable {Callback Message : Type}

def start (thread : NetThread Callback Message) : RepliedRun Callback Message :=
  { thread := thread
    pushed := []
    attached := []
    taken := fun _ => []
    sent := fun _ => []
    accepted := fun _ => [] }

def setThread (s : RepliedRun Callback Message) (thread : NetThread Callback Message)
    (between : EpollReactor) : RepliedRun Callback Message :=
  { s with
    thread := thread
    accepted := fun id => between.acceptedOf id (s.accepted id) }

def setCommandQueue (thread : NetThread Callback Message)
    (commandQueue : MessageQueue (Option (NetCommand Message))) : NetThread Callback Message :=
  { thread with commandQueue := commandQueue }

/-- The thread takes its commands out of the queue one at a time. Every attach is of a new socket; it
may fail. -/
def step [BaseStruct Message] (server : GameServer Message) (pipeCapacity : Nat)
    (s : RepliedRun Callback Message) : RepliedEvent Message → Option (RepliedRun Callback Message)
  | .push cmd =>
      some { s with thread := s.thread.push pipeCapacity cmd, pushed := s.pushed ++ [cmd] }
  | .attach socketId granted =>
      if socketId ∈ s.attached then none
      else
        (s.thread.attach socketId granted).map fun outcome =>
          { s.setThread outcome.1 s.thread.reactor with attached := s.attached ++ [socketId] }
  | .onNetCommand env =>
      s.thread.commandQueue.pop.bind fun popped =>
        ((setCommandQueue s.thread popped.2).handle server (.onNetCommand popped.1 env)).map
          fun outcome =>
            { s.setThread outcome.1 (s.thread.afterSends env popped.1) with
              taken := fun id => if id ∈ s.attached then s.taken id ++ [popped.1] else s.taken id
              sent := fun id => s.sent id ++ s.thread.sentOn id popped.1 }
  | .handle event =>
      match event with
      | .onNetCommand _ _ => none
      | _ =>
          (s.thread.handle server event).map fun outcome =>
            s.setThread outcome.1 (afterWrite s.thread.reactor event)

def RestIsPrefix [BaseStruct Message] (s : RepliedRun Callback Message) :
    RepliedEvent Message → Prop
  | .onNetCommand env => ∀ popped ∈ s.thread.commandQueue.pop,
      ∀ entry ∈ s.thread.encodedOf popped.1, ∀ id ∈ s.thread.targets popped.1,
        SendRun.RestIsPrefix id ⟨s.thread.reactor, []⟩
          (.sendMessage (s.thread.encodedAs entry) none (env id))
  | _ => True

/-- What is sent on a connection is what the commands taken since it was attached ask for, up to the
end or to where the connection was lost. -/
structure Replies [BaseStruct Message] (size : Nat) (s : RepliedRun Callback Message) : Prop where
  part : ∀ id, s.accepted id <+: wireOf size (s.sent id)
  order : ∀ id, s.sent id <+: (repliesTo size id (s.taken id)).2
  all : ∀ id, s.thread.reactor.isConnected id = true →
    s.sent id = (repliesTo size id (s.taken id)).2
  flushed : ∀ id connection, s.thread.reactor.isConnected id = true →
    s.thread.reactor.connections id = some connection → connection.writeBuffer.content = [] →
      s.accepted id = wireOf size (s.sent id)
  behind : ∀ id ∈ s.attached, s.taken id ++ s.thread.commandQueue.queue <:+ s.pushed

structure Reply [BaseStruct Message] (size : Nat) (r : EpollReactor) (listed : Prop)
    (taken : List (Option (NetCommand Message))) (sent : List (Int × Message))
    (accepted : List UInt8) (id : SocketId) : Prop where
  sends : SendsUpTo r id accepted (wireOf size sent)
  order : sent <+: (repliesTo size id taken).2
  current : r.isConnected id = true → sent = (repliesTo size id taken).2 ∧
    (listed ↔ (repliesTo size id taken).1 = true)

structure Sound [BaseStruct Message] (size : Nat) (s : RepliedRun Callback Message) : Prop where
  served : Served s.thread.reactor
  sized : s.thread.reactor.WriteSized
  capacity : 4 ≤ size ∧ size ≤ 40960
  room : s.thread.encodeBuffer.buffer.length = size
  nodup : s.thread.broadcastList.Nodup
  replies : ∀ id, Reply size s.thread.reactor (id ∈ s.thread.broadcastList) (s.taken id) (s.sent id)
    (s.accepted id) id
  unattached : ∀ id, id ∉ s.attached → s.thread.reactor.connections id = none ∧
    id ∉ s.thread.broadcastList ∧ s.sent id = [] ∧ s.accepted id = [] ∧ s.taken id = []
  queue : s.thread.commandQueue.queue <:+ s.pushed
  behind : ∀ id ∈ s.attached, s.taken id ++ s.thread.commandQueue.queue <:+ s.pushed

section Steps

variable [BaseStruct Message] {server : GameServer Message} {pipeCapacity size : Nat}
  {s next : RepliedRun Callback Message} {r middle after : EpollReactor} {listed : Prop}
  {taken : List (Option (NetCommand Message))} {sent : List (Int × Message)}
  {accepted accepted' : List UInt8} {id : SocketId} {env : SocketId → SendEnv}

theorem Reply.beside (reply : Reply size r listed taken sent accepted id)
    (sends : SendsUpTo after id accepted' (wireOf size sent))
    (connected : after.isConnected id = true → r.isConnected id = true) :
    Reply size after listed taken sent accepted' id :=
  ⟨sends, reply.order, fun still => reply.current (connected still)⟩

theorem suffix_snoc {α : Type} (first : List α) {later all : List α} (entry : α)
    (suffix : first ++ later <:+ all) :
    first ++ (later ++ [entry]) <:+ all ++ [entry] := by
  obtain ⟨older, rfl⟩ := suffix
  exact ⟨older, by simp only [List.append_assoc]⟩

theorem Sound.push (sound : Sound size s) (pipeCapacity : Nat) (cmd : Option (NetCommand Message)) :
    Sound size { s with
      thread := s.thread.push pipeCapacity cmd
      pushed := s.pushed ++ [cmd] } := by
  have queue : (s.thread.push pipeCapacity cmd).commandQueue.queue =
      s.thread.commandQueue.queue ++ [cmd] := MessageQueue.push_queue ..
  refine ⟨sound.served, sound.sized, sound.capacity, sound.room, sound.nodup, sound.replies,
    sound.unattached, ?_, ?_⟩
  · rw [queue]
    exact suffix_snoc [] cmd sound.queue
  · intro id member
    rw [queue]
    exact suffix_snoc (s.taken id) cmd (sound.behind id member)

theorem Sound.beside (sound : Sound size s) {reactor between : EpollReactor}
    (served : Served reactor) (sized : reactor.WriteSized)
    (sends : ∀ id, SendsUpTo reactor id (between.acceptedOf id (s.accepted id))
      (wireOf size (s.sent id)))
    (connected : ∀ id, reactor.isConnected id = true → s.thread.reactor.isConnected id = true)
    (absent : ∀ id, id ∉ s.attached → reactor.connections id = none) :
    Sound size (s.setThread (s.thread.setReactor reactor) between) := by
  refine ⟨served, sized, sound.capacity, sound.room, sound.nodup, ?_, ?_, sound.queue, sound.behind⟩
  · intro id
    exact (sound.replies id).beside (sends id) (connected id)
  · intro id unattached
    obtain ⟨-, unlisted, unsent, -, untaken⟩ := sound.unattached id unattached
    have part := (sends id).part
    rw [unsent] at part
    exact ⟨absent id unattached, unlisted, unsent, List.prefix_nil.mp part, untaken⟩

theorem Sound.attach (sound : Sound size s) {socketId : SocketId} {granted : Bool}
    (new : socketId ∉ s.attached)
    {outcome : NetThread Callback Message × Handed Callback Message}
    (attached : s.thread.attach socketId granted = some outcome) :
    Sound size { s.setThread outcome.1 s.thread.reactor with
      attached := s.attached ++ [socketId] } := by
  obtain ⟨thread, handed⟩ := outcome
  obtain ⟨rfl, -⟩ := attach_some attached
  obtain ⟨absent, unlisted, unsent, unaccepted, untaken⟩ := sound.unattached socketId new
  obtain ⟨served, -, status⟩ := sound.served.attachSocket .create granted absent
  have aside : socketId + 1 ≠ socketId := by simp
  have sized := (KeepsSent.attachSocket s.thread.reactor aside .create granted).writeSized sound.sized
  refine ⟨served, sized, sound.capacity, sound.room, sound.nodup, ?_, ?_, sound.queue, ?_⟩
  · intro id
    have accepts : s.thread.reactor.acceptedOf id (s.accepted id) = s.accepted id :=
      (sound.replies id).sends.acceptedOf sound.served
    by_cases mine : id = socketId
    · subst mine
      dsimp only [setThread]
      rw [accepts, unsent, unaccepted, untaken]
      refine ⟨⟨[], List.nil_prefix, fun _ => rfl, .attachSocket sound.sized absent granted⟩,
        List.nil_prefix, fun _ => ⟨rfl, iff_of_false unlisted ?_⟩⟩
      intro listens
      cases listens
    · dsimp only [setThread]
      rw [accepts]
      have connected (still : (s.thread.reactor.attachSocket socketId .create granted).2.isConnected id =
          true) : s.thread.reactor.isConnected id = true := by
        rw [isConnected_iff, status, Function.update_of_ne mine] at still
        exact isConnected_iff.mpr still
      exact (sound.replies id).beside ((sound.replies id).sends.beside
        (.attachSocket s.thread.reactor mine .create granted) connected) connected
  · intro id unattached
    rw [List.mem_append, List.mem_singleton, not_or] at unattached
    obtain ⟨gone, others⟩ := sound.unattached id unattached.1
    have accepts : s.thread.reactor.acceptedOf id (s.accepted id) = s.accepted id :=
      (sound.replies id).sends.acceptedOf sound.served
    refine ⟨?_, ?_⟩
    · rw [← statusOf_none, setThread, setReactor, status, Function.update_of_ne unattached.2]
      exact statusOf_none.mpr gone
    · dsimp only [setThread]
      rw [accepts]
      exact others
  · intro id member
    rcases List.mem_append.mp member with before | now
    · exact sound.behind id before
    · rw [List.mem_singleton.mp now]
      dsimp only [setThread]
      rw [untaken]
      exact sound.queue

theorem Sound.handle (sound : Sound size s) {event : NetThreadEvent Message}
    (other : ∀ cmd env, event ≠ .onNetCommand cmd env)
    {outcome : NetThread Callback Message × Handed Callback Message}
    (handled : s.thread.handle server event = some outcome) :
    Sound size (s.setThread outcome.1 (afterWrite s.thread.reactor event)) := by
  obtain ⟨⟨reactor, same⟩, keeps⟩ := handle_keeps other handled
  have connected (id : SocketId) : outcome.1.reactor.isConnected id = true →
      s.thread.reactor.isConnected id = true := handle_connected sound.served handled
  have served := (handle_kept sound.served handled).1
  have absent (id : SocketId) : s.thread.reactor.connections id = none →
      outcome.1.reactor.connections id = none := handle_absent sound.served handled
  have sized := (keeps 0).writeSized (afterWrite_sized sound.sized event)
  rw [same] at keeps connected served absent sized ⊢
  refine sound.beside served sized ?_ connected ?_
  · intro id
    exact sends_afterWrite sound.served sound.sized (sound.replies id).sends event (keeps id)
      (connected id)
  · intro id unattached
    exact absent id (sound.unattached id unattached).1

theorem sends_afterSends (reports : ∀ message : Message, EncodesWhatItReports message)
    (sound : Sound size s) {cmd : Option (NetCommand Message)}
    (rest : ∀ entry ∈ s.thread.encodedOf cmd, ∀ id ∈ s.thread.targets cmd,
      SendRun.RestIsPrefix id ⟨s.thread.reactor, []⟩
        (.sendMessage (s.thread.encodedAs entry) none (env id))) (id : SocketId) :
    SendsUpTo (s.thread.afterSends env cmd) id
      ((s.thread.afterSends env cmd).acceptedOf id (s.accepted id))
      (wireOf size (s.sent id ++ s.thread.sentOn id cmd)) := by
  have sends := (sound.replies id).sends
  have nodup := targets_nodup sound.nodup cmd
  have untouched {other : EpollReactor} (agree : AgreeAt id s.thread.reactor other)
      (sized : other.WriteSized) (unsent : s.thread.sentOn id cmd = []) :
      SendsUpTo other id (other.acceptedOf id (s.accepted id))
        (wireOf size (s.sent id ++ s.thread.sentOn id cmd)) := by
    rw [← agree.acceptedOf, sends.acceptedOf sound.served, unsent, List.append_nil]
    exact sends.beside (sound.sized.keepsSent sized agree) fun connected =>
      agree.isConnected ▸ connected
  cases entered : s.thread.encodedOf cmd with
  | none =>
      have unsent : s.thread.sentOn id cmd = [] := by
        rw [sentOn, entered]
        split <;> rfl
      simp only [afterSends, entered]
      exact untouched (.refl id _) sound.sized unsent
  | some entry =>
      have accepts : (NetProtocol.writeMessage entry.1 entry.2 s.thread.encodeBuffer).1 = true := by
        simp only [encodedOf, Option.bind_eq_some_iff] at entered
        obtain ⟨command, -, filtered⟩ := entered
        exact (Option.filter_eq_some_iff.mp filtered).2
      obtain ⟨frame, small, -⟩ := SentRun.written_frame reports sound.capacity sound.room accepts
      have frame : s.thread.encodedAs entry = wireOf size [entry] := frame
      simp only [afterSends, entered]
      by_cases here : id ∈ s.thread.targets cmd ∧ s.thread.reactor.isConnected id = true
      · have all : s.thread.sentOn id cmd = [entry] := by
          rw [sentOn, if_pos here, entered, Option.toList_some]
        rw [all, SentRun.wireOf_append, ← frame]
        exact sends.sendEach sound.served sound.sized here.2 nodup here.1
          (small.trans sound.capacity.2) (rest entry entered id here.1)
      · have silent : id ∉ s.thread.targets cmd ∨ s.thread.reactor.isConnected id = false := by
          rw [← Bool.not_eq_true]
          exact not_and_or.mp here
        exact untouched (sendEach_silent sound.served nodup silent)
          (sound.sized.sendEach env _ _) (if_neg here)

theorem Reply.command {thread next : NetThread Callback Message}
    (reply : Reply size thread.reactor (id ∈ thread.broadcastList) taken sent accepted id)
    {cmd : Option (NetCommand Message)} (obeyed : Obeyed size thread env cmd next)
    (sends : SendsUpTo (thread.afterSends env cmd) id accepted'
      (wireOf size (sent ++ thread.sentOn id cmd)))
    (connected : next.reactor.isConnected id = true → thread.reactor.isConnected id = true) :
    Reply size next.reactor (id ∈ next.broadcastList) (taken ++ [cmd])
      (sent ++ thread.sentOn id cmd) accepted' id := by
  have heard := repliesTo_snoc size id taken cmd
  have longer : (repliesTo size id taken).2 <+: (repliesTo size id (taken ++ [cmd])).2 := by
    rw [heard]
    exact List.prefix_append ..
  have exact_ (here : thread.reactor.isConnected id = true)
      (asked : thread.sentOn id cmd =
        addressedTo size id (decide (id ∈ thread.broadcastList)) cmd) :
      sent ++ thread.sentOn id cmd = (repliesTo size id (taken ++ [cmd])).2 ∧
        (repliesTo size id (taken ++ [cmd])).1 =
          listensAfter id (decide (id ∈ thread.broadcastList)) cmd := by
    obtain ⟨all, listed⟩ := reply.current here
    have listens : (repliesTo size id taken).1 = decide (id ∈ thread.broadcastList) := by
      rw [Bool.eq_iff_iff, decide_eq_true_iff, listed]
    rw [heard, hear, listens, asked, ← all]
    exact ⟨rfl, rfl⟩
  refine ⟨sends.beside (obeyed.reactor id).keeps (obeyed.reactor id).connected, ?_, ?_⟩
  · have quiet (unsent : thread.sentOn id cmd = []) :
        sent ++ thread.sentOn id cmd <+: (repliesTo size id (taken ++ [cmd])).2 := by
      rw [unsent, List.append_nil]
      exact reply.order.trans longer
    by_cases here : thread.reactor.isConnected id = true
    · rcases obeyed.heard id here with ⟨asked, -⟩ | ⟨unsent, -⟩
      · rw [(exact_ here asked).1]
      · exact quiet unsent
    · exact quiet (if_neg fun both => here both.2)
  · intro still
    have here := connected still
    rcases obeyed.heard id here with ⟨asked, listed⟩ | ⟨-, lost⟩
    · obtain ⟨all, listens⟩ := exact_ here asked
      exact ⟨all, listens ▸ listed⟩
    · cases still.symm.trans lost

theorem afterSends_sized {thread : NetThread Callback Message} (sized : thread.reactor.WriteSized)
    (env : SocketId → SendEnv) (cmd : Option (NetCommand Message)) :
    (thread.afterSends env cmd).WriteSized := by
  rw [afterSends]
  split
  · exact sized
  · exact sized.sendEach env _ _

theorem Sound.onNetCommand (reports : ∀ message : Message, EncodesWhatItReports message)
    (sound : Sound size s) (rest : RestIsPrefix s (.onNetCommand env))
    {popped : Option (NetCommand Message) × MessageQueue (Option (NetCommand Message))}
    (popping : s.thread.commandQueue.pop = some popped)
    {outcome : NetThread Callback Message × Handed Callback Message}
    (handled : (setCommandQueue s.thread popped.2).handle server (.onNetCommand popped.1 env) =
      some outcome) :
    Sound size { s.setThread outcome.1 (s.thread.afterSends env popped.1) with
      taken := fun id => if id ∈ s.attached then s.taken id ++ [popped.1] else s.taken id
      sent := fun id => s.sent id ++ s.thread.sentOn id popped.1 } := by
  have served : Served (setCommandQueue s.thread popped.2).reactor := sound.served
  have bounded : s.thread.encodeBuffer.buffer.length < sizeModulus := by
    have small := sound.capacity.2
    rw [sound.room, sizeModulus]
    omega
  have obeyed : Obeyed size (setCommandQueue s.thread popped.2) env popped.1 outcome.1 :=
    onNetCommand_obeyed (sound.room ▸ sound.capacity.1) bounded sound.room served sound.nodup handled
  have sends (id : SocketId) := sends_afterSends reports sound (rest popped popping) id
  have connected (id : SocketId) : outcome.1.reactor.isConnected id = true →
      (setCommandQueue s.thread popped.2).reactor.isConnected id = true :=
    handle_connected served handled
  have absent (id : SocketId) :
      (setCommandQueue s.thread popped.2).reactor.connections id = none →
        outcome.1.reactor.connections id = none := handle_absent served handled
  have queue : outcome.1.commandQueue = popped.2 := obeyed.commandQueue
  have order := MessageQueue.pop_some popping
  have lost (id : SocketId) (unattached : id ∉ s.attached) :
      s.thread.reactor.isConnected id ≠ true := by
    rw [EpollReactor.isConnected, (sound.unattached id unattached).1]
    exact Bool.false_ne_true
  refine ⟨(handle_kept served handled).1,
    (obeyed.reactor 0).keeps.writeSized (afterSends_sized sound.sized env popped.1),
    sound.capacity, obeyed.room.trans sound.room, obeyed.nodup, ?_, ?_, ?_, ?_⟩
  · intro id
    dsimp only [setThread]
    split
    · have reply : Reply size (setCommandQueue s.thread popped.2).reactor
          (id ∈ (setCommandQueue s.thread popped.2).broadcastList) (s.taken id) (s.sent id)
          (s.accepted id) id := sound.replies id
      exact reply.command obeyed (sends id) (connected id)
    · rename_i unattached
      have unsent : s.thread.sentOn id popped.1 = [] :=
        if_neg fun both => lost id unattached both.2
      have sends := (sends id).beside (obeyed.reactor id).keeps (obeyed.reactor id).connected
      rw [unsent, List.append_nil] at sends ⊢
      exact ⟨sends, (sound.replies id).order,
        fun still => absurd (connected id still) (lost id unattached)⟩
  · intro id unattached
    obtain ⟨gone, unlisted, unsent, -, untaken⟩ := sound.unattached id unattached
    have nothing : s.sent id ++ s.thread.sentOn id popped.1 = [] := by
      rw [unsent, List.nil_append]
      exact if_neg fun both => lost id unattached both.2
    have part := (sends id).part
    rw [nothing] at part
    refine ⟨absent id gone, ?_, nothing, List.prefix_nil.mp part, (if_neg unattached).trans untaken⟩
    intro member
    rcases obeyed.known id member with before | here
    · exact unlisted before
    · exact lost id unattached here
  · have suffix := sound.queue
    rw [order] at suffix
    rw [setThread, queue]
    exact (List.suffix_cons ..).trans suffix
  · intro id (member : id ∈ s.attached)
    have suffix := sound.behind id member
    rw [order] at suffix
    dsimp only [setThread]
    rw [queue, if_pos member, List.append_assoc]
    exact suffix

theorem Sound.step (reports : ∀ message : Message, EncodesWhatItReports message)
    {event : RepliedEvent Message} (sound : Sound size s) (rest : RestIsPrefix s event)
    (stepped : s.step server pipeCapacity event = some next) : Sound size next := by
  cases event with
  | push cmd =>
      cases stepped
      exact sound.push pipeCapacity cmd
  | attach socketId granted =>
      simp only [RepliedRun.step] at stepped
      split at stepped
      · cases stepped
      · rename_i new
        rw [Option.map_eq_some_iff] at stepped
        obtain ⟨outcome, attached, rfl⟩ := stepped
        exact sound.attach new attached
  | onNetCommand env =>
      simp only [RepliedRun.step, Option.bind_eq_some_iff, Option.map_eq_some_iff] at stepped
      obtain ⟨popped, popping, outcome, handled, rfl⟩ := stepped
      exact sound.onNetCommand reports rest popping handled
  | handle event =>
      have taken (other : ∀ cmd env, event ≠ .onNetCommand cmd env)
          (stepped : (s.thread.handle server event).map (fun outcome =>
            s.setThread outcome.1 (afterWrite s.thread.reactor event)) = some next) :
          Sound size next := by
        rw [Option.map_eq_some_iff] at stepped
        obtain ⟨outcome, handled, rfl⟩ := stepped
        exact sound.handle other handled
      cases event with
      | onNetCommand cmd env => cases stepped
      | onSocketRead | onSocketWrite | onSocketError | checkTimeout =>
          simp only [RepliedRun.step] at stepped
          exact taken (by simp) stepped

theorem Sound.answers (sound : Sound size s) : Replies size s := by
  refine ⟨fun id => (sound.replies id).sends.part, fun id => (sound.replies id).order, ?_, ?_,
    sound.behind⟩
  · intro id connected
    exact ((sound.replies id).current connected).1
  · intro id connection connected found empty
    exact (sound.replies id).sends.flushed connected found empty

theorem Sound.initial {createMessageFunc : Int → Option Message} {callback : Option Callback}
    {thread : NetThread Callback Message} {maxRecvPacketLength id : Int} {maxRecvBufferSize : Nat}
    (init : (NetThread.create maxRecvPacketLength size createMessageFunc).init id maxRecvBufferSize
      409600 callback true = (true, thread))
    (capacity : 4 ≤ size ∧ size ≤ 40960) : Sound size (start thread) := by
  cases init
  refine ⟨.of_empty (fun _ => rfl) (fun _ => rfl), ⟨rfl, rfl, rfl⟩, capacity, ?_, List.nodup_nil,
    ?_, ?_, List.suffix_refl _, ?_⟩
  · exact List.length_replicate
  · intro id
    refine ⟨⟨[], List.nil_prefix, fun _ => rfl, .gone List.nil_prefix rfl⟩, List.nil_prefix, ?_⟩
    intro connected
    cases connected
  · intro id unattached
    exact ⟨rfl, List.not_mem_nil, rfl, rfl, rfl⟩
  · intro id attached
    cases attached

/-- However the other connections fare. -/
theorem replied_in_order (reports : ∀ message : Message, EncodesWhatItReports message)
    (server : GameServer Message) {createMessageFunc : Int → Option Message}
    {callback : Option Callback} {thread : NetThread Callback Message}
    {maxRecvPacketLength id : Int} {maxRecvBufferSize : Nat}
    (init : (NetThread.create maxRecvPacketLength size createMessageFunc).init id maxRecvBufferSize
      409600 callback true = (true, thread))
    (capacity : 4 ≤ size ∧ size ≤ 40960) (pipeCapacity : Nat) (events : List (RepliedEvent Message))
    (rest : Along (step server pipeCapacity) RestIsPrefix (start thread) events) :
    Every (step server pipeCapacity) (Replies size) (start thread) events := by
  have every : Every (step server pipeCapacity) (Sound size) (start thread) events :=
    every_of_invariant (fun sound rest stepped => sound.step reports rest stepped)
      (.initial init capacity) rest
  exact every.mono fun sound => sound.answers

end Steps

def carrying (type : NetCommandType) (id : NetId) (bytes : List UInt8) : NetCommand RawMessage :=
  { (NetCommand.plain type id : NetCommand RawMessage) with
    messageId := 7, message := some ⟨bytes⟩ }

def broadcastAndReply : List (RepliedEvent RawMessage) :=
  [.attach 9 true, .attach 10 true, .push (some (.plain .enableBroadcast ⟨0, 9⟩)),
    .push (some (carrying .message ⟨0, 10⟩ [5])), .push (some (carrying .broadcast ⟨0, 0⟩ [6])),
    .onNetCommand fun _ => SentRun.busySocket, .onNetCommand fun _ => SentRun.busySocket,
    .onNetCommand fun _ => SentRun.busySocket,
    .handle (.onSocketWrite 9 { SentRun.busySocket with result := .count 3 }),
    .handle (.onSocketWrite 10 { SentRun.busySocket with result := .count 5 })]

theorem replied_in_order_broadcastAndReply :
    Every (step (rawServer 40960) 16) (Replies 16) (start (rawThread 0)) broadcastAndReply ∧
      (Runs.run (step (rawServer 40960) 16) (start (rawThread 0)) broadcastAndReply).map
        (fun s => (s.accepted 9, s.accepted 10)) = some ([0, 7, 0], [0, 7, 0, 1, 5]) := by
  constructor
  · apply replied_in_order rawMessage_reports (rawServer 40960) (rawThread_init 0) (by decide)
    have busy : ∀ event ∈ broadcastAndReply, ∀ s : RepliedRun Unit RawMessage,
        RestIsPrefix s event := by
      intro event member s
      simp only [broadcastAndReply, List.mem_cons, List.not_mem_nil, or_false] at member
      rcases member with rfl | rfl | rfl | rfl | rfl | rfl | rfl | rfl | rfl | rfl
      all_goals first
        | exact trivial
        | exact fun _ _ _ _ _ _ => trivial
    exact (Along.of_forall busy _).mono fun fine => fine _
  · decide +kernel

end RepliedRun

end ZBlueNet
