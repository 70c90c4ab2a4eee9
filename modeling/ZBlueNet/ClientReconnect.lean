import ZBlueNet.ClientReceive
import ZBlueNet.ReactorEdits

/-!
How a `NetClientThread` loses its connection and gets it back: the handlers that close
the connection, and the timer for the next attempt that they start. Every handler of
the reactor's loop is one step, with the clock that a new timer reads.
-/

namespace ZBlueNet

open Runs EpollReactor TimerHeap

variable {Callback Message : Type}

namespace NetClientThread

/-- `onTimer`; `opened` and `granted` are for the connection that it tries to open. -/
def onTimer (client : NetClientThread Callback Message) (timerId : TimerId) (clock : Timestamp)
    (opened : Option SocketId) (granted : Bool) :
    Option (NetClientThread Callback Message × NetThread.Handed Callback Message) :=
  if timerId = client.reconnectTimer then
    (NetClientThread.connect { client with reconnectTimer := -1 } clock opened granted).map (·.2)
  else some (client, [])

/-- The loop reads from the connection's own buffer, which is gone when it closes the connection. -/
def setReadBuffer (client : NetClientThread Callback Message) (socketId : SocketId)
    (readBuffer : DynamicBuffer) : NetClientThread Callback Message :=
  match client.netThread.reactor.connections socketId with
  | none => client
  | some connection =>
      client.setReactor (client.netThread.reactor.setConnection socketId
        { connection with readBuffer := readBuffer })

def reconnectDeadline (client : NetClientThread Callback Message) : Option Timestamp :=
  if client.reconnectTimer = -1 then none
  else
    (client.netThread.reactor.timerHeap.timerMap client.reconnectTimer).map
      client.netThread.reactor.timerHeap.valueOf

def setEncodeBuffer (client : NetClientThread Callback Message) (encodeBuffer : DynamicBuffer) :
    NetClientThread Callback Message :=
  { client with netThread := { client.netThread with encodeBuffer := encodeBuffer } }

section Handlers

variable [BaseStruct Message]

def onNetCommand (client : NetClientThread Callback Message) (clock : Timestamp) (env : SendEnv) :
    Option (NetCommand Message) →
      Option (NetClientThread Callback Message × NetThread.Handed Callback Message)
  | none => some ({ client with netThread := client.netThread.quit }, [])
  | some cmd =>
      if cmd.type = .message then
        match cmd.message with
        | none => none
        | some message =>
            let written :=
              NetProtocol.writeMessage cmd.messageId message client.netThread.encodeBuffer
            let encoded := client.setEncodeBuffer written.2
            if written.1 then
              let sent := client.netThread.reactor.sendMessage client.socketId written.2.content none
                env
              if sent.1 then some (encoded.setReactor sent.2.1, [])
              else (encoded.setReactor sent.2.1).onClose clock
            else encoded.onClose clock
      else some (client, [])

def recvMessageCb (client : NetClientThread Callback Message) (clock : Timestamp)
    (socketId : SocketId) :
    Option (NetClientThread Callback Message × NetThread.Handed Callback Message) :=
  match client.netThread.reactor.connections socketId with
  | none => some (client, [])
  | some connection =>
      let received := client.onRecvMessage clock socketId connection.readBuffer
        client.netThread.newNetCmdCb
      match received.run.exit with
      | .threw | .unfinished => none
      | .waiting | .closed =>
          some (received.client.setReadBuffer socketId received.run.buffer,
            received.run.handed ++ received.closing)

def onReactorCall (client : NetClientThread Callback Message) (clock : Timestamp) :
    ReactorCall → Option (NetClientThread Callback Message × NetThread.Handed Callback Message)
  | .errorCb _ _ | .peerCloseCb _ => client.onClose clock
  | .recvMessageCb socketId => client.recvMessageCb clock socketId
  | .sendCompleteCb _ _ => some (client, [])

def onReactorCalls (client : NetClientThread Callback Message) (clock : Timestamp) :
    List ReactorCall →
      Option (NetClientThread Callback Message × NetThread.Handed Callback Message)
  | [] => some (client, [])
  | call :: calls =>
      (client.onReactorCall clock call).bind fun first =>
        (first.1.onReactorCalls clock calls).map fun rest => (rest.1, first.2 ++ rest.2)

def afterReactor (client : NetClientThread Callback Message) (clock : Timestamp)
    (outcome : EpollReactor × List ReactorCall) :
    Option (NetClientThread Callback Message × NetThread.Handed Callback Message) :=
  (client.setReactor outcome.1).onReactorCalls clock outcome.2

def onSocketRead (client : NetClientThread Callback Message) (clock : Timestamp)
    (socketId : SocketId) (answers : List RecvAnswer) :
    Option (NetClientThread Callback Message × NetThread.Handed Callback Message) :=
  (client.netThread.reactor.onSocketReadLoop socketId answers).bind fun outcome =>
    (client.afterReactor clock outcome.2).bind fun received =>
      match outcome.1 with
      | .peerClose =>
          (received.1.afterReactor clock
            (received.1.netThread.reactor.onSocketReadPeerClose socketId)).map fun closed =>
              (closed.1, received.2 ++ closed.2)
      | .drained | .failed _ => some received

end Handlers

end NetClientThread

namespace NetClientThread

def DueAt (client : NetClientThread Callback Message) (deadline : Timestamp) : Prop :=
  client.reconnectTimer = -1 ∨ ∃ ptr timer,
    client.netThread.reactor.timerHeap.live ptr = some timer ∧
      timer.timerId = client.reconnectTimer ∧ timer.timerCb = .user 0 ∧ timer.value = deadline

def Scheduled (client : NetClientThread Callback Message) (bound : Timestamp) : Prop :=
  ∃ deadline, client.DueAt deadline ∧ deadline.key ≤ bound.key

/-- Between two handlers the only connection is that of a connected client, and the reconnect
timer is for a client that is not. -/
structure Sound (client : NetClientThread Callback Message) : Prop where
  served : Served client.netThread.reactor
  timed : Timed client.netThread.reactor.timerHeap
  owned : ∀ id, client.netThread.reactor.connections id ≠ none →
    client.connected = true ∧ id = client.socketId
  idle : client.connected = true → client.reconnectTimer = -1

theorem Sound.of_empty {client : NetClientThread Callback Message}
    (sockets : ∀ id, client.netThread.reactor.sockets id = none)
    (connections : ∀ id, client.netThread.reactor.connections id = none)
    (timers : client.netThread.reactor.timerHeap = .empty) (closed : client.connected = false) :
    Sound client := by
  refine ⟨.of_empty sockets connections, ?_, ?_, ?_⟩
  · rw [timers]
    exact empty_timed
  · intro id present
    exact absurd (connections id) present
  · intro connected
    cases closed.symm.trans connected

/-- What a handler does to the connection: it stays as it is, or it is lost and the timer starts.
Where `restart` holds, the timer of a disconnected client may start again. -/
structure Handled (client : NetClientThread Callback Message) (clock : Timestamp) (restart : Prop)
    (next : NetClientThread Callback Message) : Prop where
  sound : Sound next
  interval : next.reconnectIntervalMs = client.reconnectIntervalMs
  outcome : next.connected = client.connected ∧
      (∀ deadline, client.DueAt deadline → next.DueAt deadline) ∨
    next.connected = false ∧ next.DueAt (clock.add (max 0 client.reconnectIntervalMs)) ∧
      (client.connected = true ∨ restart)

variable {client next : NetClientThread Callback Message} {clock : Timestamp}
  {restart : Prop} {id : SocketId}

theorem DueAt.deadline {deadline : Timestamp} (due : client.DueAt deadline) (sound : Sound client) :
    client.reconnectDeadline =
      if client.reconnectTimer = -1 then none else some deadline := by
  rcases due with stopped | ⟨ptr, timer, live, named, -, value⟩
  · simp only [reconnectDeadline, stopped, if_true]
  · rw [reconnectDeadline, (sound.timed.indexed.mapped _ ptr).mpr ⟨timer, live, named⟩,
      Option.map_some, valueOf_eq_live, live, Option.map_some, value]
    rfl

theorem Sound.edits (sound : Sound client) {reactor : EpollReactor}
    (edits : Edits client.netThread.reactor reactor) :
    Handled client clock restart (client.setReactor reactor) := by
  have timers := edits.timers sound.timed
  refine ⟨⟨edits.served sound.served, timers.1, fun id present => sound.owned id ?_, sound.idle⟩,
    rfl, .inl ⟨rfl, ?_⟩⟩
  · rw [Ne, ← statusOf_none] at present ⊢
    rcases edits.statusOf sound.served id with same | failed
    · exact same ▸ present
    · simp [failed.1]
  · rintro deadline (stopped | ⟨ptr, timer, live, due⟩)
    · exact .inl stopped
    · exact .inr ⟨ptr, timer, timers.2 ptr timer live, due⟩

theorem Handled.refl (sound : Sound client) : Handled client clock restart client :=
  ⟨sound, rfl, .inl ⟨rfl, fun _ due => due⟩⟩

theorem Handled.mono {weaker : Prop} (handled : Handled client clock restart next)
    (weaken : restart → weaker) : Handled client clock weaker next :=
  ⟨handled.sound, handled.interval, handled.outcome.imp_right fun lost =>
    ⟨lost.1, lost.2.1, lost.2.2.imp_right weaken⟩⟩

theorem Handled.trans {middle : NetClientThread Callback Message}
    (first : Handled client clock False middle) (second : Handled middle clock restart next) :
    Handled client clock restart next := by
  refine ⟨second.sound, second.interval.trans first.interval, ?_⟩
  rcases first.outcome with ⟨same, kept⟩ | ⟨closed, due, lost⟩
  · rcases second.outcome with ⟨again, keeps⟩ | ⟨closed, due, lost⟩
    · exact .inl ⟨again.trans same, fun deadline before => keeps deadline (kept deadline before)⟩
    · exact .inr ⟨closed, first.interval ▸ due, same ▸ lost⟩
  · have lost : client.connected = true := lost.resolve_right id
    rcases second.outcome with ⟨again, keeps⟩ | ⟨closed, due, -⟩
    · exact .inr ⟨again.trans closed, keeps _ due, .inl lost⟩
    · exact .inr ⟨closed, first.interval ▸ due, .inl lost⟩

/-! The timer. -/

theorem Sound.stopConnectTimer (sound : Sound client) :
    ∃ heap, Timed heap ∧ client.stopConnectTimer =
      client.setReactor { client.netThread.reactor with timerHeap := heap } := by
  simp only [NetClientThread.stopConnectTimer]
  split
  · exact ⟨_, sound.timed.removeTimer client.reconnectTimer, rfl⟩
  · exact ⟨_, sound.timed, rfl⟩

theorem Sound.startConnectTimer (sound : Sound client) (closed : client.connected = false)
    (clock : Timestamp) :
    Sound (client.startConnectTimer clock) ∧
      (client.startConnectTimer clock).connected = false ∧
      (client.startConnectTimer clock).reconnectIntervalMs = client.reconnectIntervalMs ∧
      (client.startConnectTimer clock).DueAt
        (clock.add (max 0 client.reconnectIntervalMs)) := by
  obtain ⟨heap, timed, stopped⟩ := sound.stopConnectTimer
  have added := (timed.addTimer clock client.reconnectIntervalMs (.user 0) 1).1
  obtain ⟨-, -, outcome⟩ :=
    timed.indexed.addTimer clock client.reconnectIntervalMs (.user 0) 1
  rw [NetClientThread.startConnectTimer, stopped]
  refine ⟨⟨sound.served.of_tables rfl rfl, added, sound.owned, fun connected => ?_⟩, closed, rfl, ?_⟩
  · cases closed.symm.trans connected
  · rcases outcome with ⟨returned, -⟩ | ⟨returned, -, -, live⟩
    · exact .inl returned
    · exact .inr ⟨heap.nextPtr, _, (congrFun live heap.nextPtr).trans (if_pos rfl), returned.symm,
        rfl, rfl⟩

/-! Losing the connection. -/

def lost (client : NetClientThread Callback Message) (reactor : EpollReactor) :
    NetClientThread Callback Message :=
  { client.setReactor reactor with connected := false, socketId := -1 }

theorem Sound.lost (sound : Sound client) {middle : EpollReactor}
    (edits : Edits client.netThread.reactor middle) :
    Sound (client.lost (middle.closeSocket client.socketId)) := by
  have edited := (sound.edits edits : Handled client ⟨0, 0⟩ False _).sound
  refine ⟨edited.served.closeSocket _, ?_, ?_, nofun⟩
  · have timed := edited.timed
    rwa [← closeSocket_timerHeap] at timed
  · intro id present
    have closed := edited.served.closeSocket_connections client.socketId
    have here : Function.update middle.connections client.socketId none id ≠ none := closed ▸ present
    by_cases same : id = client.socketId
    · rw [same, Function.update_self] at here
      exact absurd rfl here
    · rw [Function.update_of_ne same] at here
      exact absurd (edited.owned id here).2 same

theorem onClose_connected (connected : client.connected = true) {reactor : EpollReactor}
    {result : NetClientThread Callback Message × NetThread.Handed Callback Message}
    (closed : (client.setReactor reactor).onClose clock = some result) :
    result.1 = (client.lost (reactor.closeSocket client.socketId)).startConnectTimer clock := by
  simp only [onClose, disconnect, setReactor, connected, if_true, NetThread.closeSocket,
    Option.map_map, Option.map_eq_some_iff] at closed
  obtain ⟨handed, -, rfl⟩ := closed
  rfl

theorem onClose_disconnected {client : NetClientThread Callback Message}
    (closed : client.connected = false)
    {result : NetClientThread Callback Message × NetThread.Handed Callback Message}
    (closing : client.onClose clock = some result) : result.1 = client.startConnectTimer clock := by
  simp only [onClose, disconnect, closed, Bool.false_eq_true, if_false, Option.map_some,
    Option.some.injEq] at closing
  rw [← closing]

inductive Move (clock : Timestamp) (client : NetClientThread Callback Message) :
    NetClientThread Callback Message → Prop
  | edits {reactor : EpollReactor} (edits : Edits client.netThread.reactor reactor) :
      Move clock client (client.setReactor reactor)
  | lost {middle : EpollReactor} (edits : Edits client.netThread.reactor middle)
      (connected : client.connected = true) (present : middle.connections client.socketId ≠ none) :
      Move clock client ((client.lost (middle.closeSocket client.socketId)).startConnectTimer clock)
  | aside {next : NetClientThread Callback Message}
      (sockets : next.netThread.reactor.sockets = client.netThread.reactor.sockets)
      (connections : next.netThread.reactor.connections = client.netThread.reactor.connections)
      (timerHeap : next.netThread.reactor.timerHeap = client.netThread.reactor.timerHeap)
      (connected : next.connected = client.connected) (socketId : next.socketId = client.socketId)
      (reconnectTimer : next.reconnectTimer = client.reconnectTimer)
      (interval : next.reconnectIntervalMs = client.reconnectIntervalMs) : Move clock client next

abbrev Moves (clock : Timestamp) :
    NetClientThread Callback Message → NetClientThread Callback Message → Prop :=
  Relation.ReflTransGen (Move clock)

theorem Sound.move (sound : Sound client) (move : Move clock client next) :
    Handled client clock restart next := by
  cases move with
  | edits edits => exact sound.edits edits
  | lost edits connected present =>
      obtain ⟨sound', closed, interval, due⟩ := (sound.lost edits).startConnectTimer rfl clock
      exact ⟨sound', interval, .inr ⟨closed, due, .inl connected⟩⟩
  | aside sockets connections timerHeap connected socketId reconnectTimer interval =>
      refine ⟨⟨sound.served.of_tables sockets connections, timerHeap ▸ sound.timed, ?_, ?_⟩, interval,
        .inl ⟨connected, ?_⟩⟩
      · rw [connections, connected, socketId]
        exact sound.owned
      · rw [connected, reconnectTimer]
        exact sound.idle
      · intro deadline due
        simpa only [DueAt, timerHeap, reconnectTimer] using due

theorem Sound.moves (sound : Sound client) (moves : Moves clock client next) :
    Handled client clock False next := by
  induction moves with
  | refl => exact .refl sound
  | tail _ move ih => exact ih.trans (ih.sound.move move)

theorem Sound.closeMarked (sound : Sound client) {middle marked : EpollReactor}
    (edits : Edits client.netThread.reactor middle) (present : middle.connections id ≠ none)
    (closes : marked.closeSocket id = middle.closeSocket id)
    {result : NetClientThread Callback Message × NetThread.Handed Callback Message}
    (closed : (client.setReactor marked).onClose clock = some result) :
    Moves clock client result.1 := by
  have edited := (sound.edits edits : Handled client clock False _).sound
  obtain ⟨connected, rfl⟩ := edited.owned id present
  rw [onClose_connected connected closed, closes]
  exact .single (.lost edits connected present)

theorem Sound.onClose (sound : Sound client)
    {result : NetClientThread Callback Message × NetThread.Handed Callback Message}
    (closed : client.onClose clock = some result) : Handled client clock True result.1 := by
  cases connected : client.connected with
  | true =>
      obtain ⟨sound', closed', interval, due⟩ := (sound.lost .refl).startConnectTimer rfl clock
      rw [onClose_connected connected closed]
      exact ⟨sound', interval, .inr ⟨closed', due, .inr trivial⟩⟩
  | false =>
      obtain ⟨sound', closed', interval, due⟩ := sound.startConnectTimer connected clock
      rw [onClose_disconnected connected closed]
      exact ⟨sound', interval, .inr ⟨closed', due, .inr trivial⟩⟩

/-! The handlers of the loop. -/

theorem Sound.setReadBuffer (sound : Sound client) (id : SocketId) (readBuffer : DynamicBuffer) :
    Moves clock client (client.setReadBuffer id readBuffer) := by
  simp only [NetClientThread.setReadBuffer]
  split
  · exact .refl
  · rename_i connection found
    have silent := sound.served.silent id connection found
    exact .single (.edits (.single (.rewrite found rfl rfl silent)))

section Handlers

variable [BaseStruct Message]
  {result : NetClientThread Callback Message × NetThread.Handed Callback Message}

theorem onRecvMessage_client (client : NetClientThread Callback Message) (clock : Timestamp)
    (id : SocketId) (buffer : DynamicBuffer) (callback : Option Callback) :
    (client.onRecvMessage clock id buffer callback).client = client ∨
      ∃ handed, client.onClose clock =
        some ((client.onRecvMessage clock id buffer callback).client, handed) := by
  simp only [onRecvMessage, NetClientThread.onClose]
  split
  · cases client.disconnect with
    | none => exact .inl rfl
    | some closed => exact .inr ⟨closed.2, rfl⟩
  · exact .inl rfl

theorem Sound.recvMessageCb (sound : Sound client)
    (received : client.recvMessageCb clock id = some result) : Moves clock client result.1 := by
  simp only [NetClientThread.recvMessageCb] at received
  split at received
  · cases received
    exact .refl
  · rename_i connection found
    have loop : Moves clock client
        (client.onRecvMessage clock id connection.readBuffer client.netThread.newNetCmdCb).client := by
      rcases onRecvMessage_client client clock id connection.readBuffer
        client.netThread.newNetCmdCb with same | ⟨handed, closed⟩
      · rw [same]
      · have present : client.netThread.reactor.connections id ≠ none := by simp [found]
        exact sound.closeMarked .refl present rfl closed
    split at received
    · cases received
    · cases received
    all_goals
      cases received
      exact loop.trans ((sound.moves loop).sound.setReadBuffer id _)

theorem Sound.afterReactor (sound : Sound client) {outcome : EpollReactor × List ReactorCall}
    (returned : Returned client.netThread.reactor outcome)
    (called : client.afterReactor clock outcome = some result) : Moves clock client result.1 := by
  cases returned with
  | quiet edits =>
      cases called
      exact .single (.edits edits)
  | lost edits present closes loses =>
      rename_i middle next id call
      simp only [NetClientThread.afterReactor, onReactorCalls, Option.map_some,
        Option.bind_eq_some_iff, Option.some.injEq] at called
      obtain ⟨closed, calling, rfl⟩ := called
      have moves : Moves clock client closed.1 := by
        cases call with
        | errorCb lost errorCode => exact sound.closeMarked edits present closes calling
        | peerCloseCb lost => exact sound.closeMarked edits present closes calling
        | recvMessageCb lost => exact loses.elim
        | sendCompleteCb lost token => exact loses.elim
      exact moves

theorem Sound.onSocketRead (sound : Sound client) {answers : List RecvAnswer}
    (read : client.onSocketRead clock id answers = some result) : Moves clock client result.1 := by
  simp only [NetClientThread.onSocketRead, Option.bind_eq_some_iff] at read
  obtain ⟨⟨ending, marked, calls⟩, loop, received, called, finish⟩ := read
  rcases sound.served.onSocketReadLoop loop with
    ⟨⟨errno, rfl⟩, returned⟩ | ⟨unfailed, edits, waiting⟩
  · cases finish
    exact sound.afterReactor returned called
  · have moves : Moves clock client received.1 := by
      have edited : Moves clock client (client.setReactor marked) := .single (.edits edits)
      rcases waiting with rfl | rfl
      · cases called
        exact edited
      · simp only [NetClientThread.afterReactor, onReactorCalls, onReactorCall, Option.map_some,
          Option.bind_eq_some_iff, Option.some.injEq] at called
        obtain ⟨first, calling, rfl⟩ := called
        have received := (sound.moves edited).sound.recvMessageCb calling
        exact edited.trans received
    cases ending with
    | drained =>
        cases finish
        exact moves
    | failed errno => exact absurd rfl (unfailed errno)
    | peerClose =>
        simp only [Option.map_eq_some_iff] at finish
        obtain ⟨closed, closing, rfl⟩ := finish
        have sound' := (sound.moves moves).sound
        have later := sound'.afterReactor (sound'.served.onSocketReadPeerClose id) closing
        exact moves.trans later

theorem Sound.onNetCommand_moves (sound : Sound client) {cmd : Option (NetCommand Message)}
    {env : SendEnv} (taken : client.onNetCommand clock env cmd = some result) :
    ∃ middle, Moves clock client middle ∧ middle.connected = client.connected ∧
      (result.1 = middle ∨ (∃ message, cmd = some message ∧ message.type = .message) ∧
        middle.onClose clock = some result) := by
  cases cmd with
  | none =>
      cases taken
      refine ⟨{ client with netThread := client.netThread.quit }, ?_, rfl, .inl rfl⟩
      exact .single (.aside rfl rfl rfl rfl rfl rfl rfl)
  | some cmd =>
      simp only [NetClientThread.onNetCommand] at taken
      split at taken
      · rename_i message
        split at taken
        · cases taken
        · rename_i content _
          let written := NetProtocol.writeMessage cmd.messageId content client.netThread.encodeBuffer
          have encoded : Moves clock client (client.setEncodeBuffer written.2) :=
            .single (.aside rfl rfl rfl rfl rfl rfl rfl)
          split at taken
          · have sent := sound.served.sendMessage client.socketId written.2.content env
            have moves : Moves clock client ((client.setEncodeBuffer written.2).setReactor
                (client.netThread.reactor.sendMessage client.socketId written.2.content none
                  env).2.1) :=
              encoded.tail (.edits sent.1)
            split at taken
            · cases taken
              exact ⟨_, moves, rfl, .inl rfl⟩
            · exact ⟨_, moves, rfl, .inr ⟨⟨cmd, rfl, message⟩, taken⟩⟩
          · exact ⟨_, encoded, rfl, .inr ⟨⟨cmd, rfl, message⟩, taken⟩⟩
      · cases taken
        exact ⟨client, .refl, rfl, .inl rfl⟩

theorem Sound.onNetCommand (sound : Sound client) {cmd : Option (NetCommand Message)} {env : SendEnv}
    (taken : client.onNetCommand clock env cmd = some result) :
    Handled client clock (∃ message, cmd = some message ∧ message.type = .message) result.1 := by
  obtain ⟨middle, moves, -, same | ⟨isMessage, closing⟩⟩ := sound.onNetCommand_moves taken
  · rw [same]
    exact (sound.moves moves).mono False.elim
  · have handled := sound.moves moves
    exact (handled.trans (handled.sound.onClose closing)).mono fun _ => isMessage

theorem Sound.onNetCommand_disconnected (sound : Sound client) (closed : client.connected = false)
    {cmd : NetCommand Message} {env : SendEnv} (isMessage : cmd.type = .message)
    (taken : client.onNetCommand clock env (some cmd) = some result) :
    result.1.reconnectDeadline = if result.1.reconnectTimer = -1 then none
      else some (clock.add (max 0 client.reconnectIntervalMs)) := by
  have absent : client.netThread.reactor.connections client.socketId = none := by
    by_contra present
    cases closed.symm.trans (sound.owned _ present).1
  simp only [NetClientThread.onNetCommand, isMessage, if_true, EpollReactor.sendMessage, absent,
    Bool.false_eq_true, if_false] at taken
  split at taken
  · cases taken
  · rename_i content _
    let written := NetProtocol.writeMessage cmd.messageId content client.netThread.encodeBuffer
    have encoded : Sound (client.setEncodeBuffer written.2) :=
      ⟨sound.served, sound.timed, sound.owned, sound.idle⟩
    obtain ⟨restarted, -, -, due⟩ := encoded.startConnectTimer closed clock
    have closing : (client.setEncodeBuffer written.2).onClose clock = some result := by
      split at taken <;> exact taken
    have still : (client.setEncodeBuffer written.2).connected = false := closed
    rw [onClose_disconnected still closing]
    exact due.deadline restarted

end Handlers

theorem Sound.connect (sound : Sound client) (closed : client.connected = false)
    (idle : client.reconnectTimer = -1) {opened : Option SocketId} {granted : Bool}
    {result : Bool × NetClientThread Callback Message × NetThread.Handed Callback Message}
    (tried : client.connect clock opened granted = some result) :
    Sound result.2.1 ∧ result.2.1.reconnectIntervalMs = client.reconnectIntervalMs ∧
      (result.2.1.connected = false →
        result.2.1.DueAt (clock.add (max 0 client.reconnectIntervalMs))) := by
  cases opened with
  | none =>
      cases tried
      obtain ⟨sound', -, interval, due⟩ := sound.startConnectTimer closed clock
      exact ⟨sound', interval, fun _ => due⟩
  | some socketId =>
      have fresh (id : SocketId) : client.netThread.reactor.connections id = none := by
        by_contra present
        cases closed.symm.trans (sound.owned id present).1
      simp only [NetClientThread.connect, NetThread.attach, Option.map_map, Option.map_eq_some_iff]
        at tried
      obtain ⟨handed, -, rfl⟩ := tried
      obtain ⟨served, heap, status⟩ :=
        sound.served.attachSocket .create granted (fresh socketId)
      refine ⟨⟨served, heap ▸ sound.timed, fun id present => ⟨rfl, ?_⟩, fun _ => idle⟩, rfl, ?_⟩
      · by_contra other
        change id ≠ socketId at other
        have unchanged := congrFun status id
        rw [Function.update_of_ne other, statusOf_none.mpr (fresh id), statusOf_none] at unchanged
        exact present unchanged
      · intro wrong
        cases wrong

theorem Sound.fired (sound : Sound client) {now : Timestamp} {firing : Firing ReactorTimer}
    {heap : TimerHeap ReactorTimer}
    (turned : client.netThread.reactor.timerHeap.checkTurn now = some (firing, heap)) :
    Sound (client.setReactor { client.netThread.reactor with timerHeap := heap }) ∧
      0 ≤ firing.timerId ∧
      (firing.timerCb = .sendMessageError ∨ firing.timerId ≠ client.reconnectTimer →
        ∀ deadline, client.DueAt deadline →
          (client.setReactor { client.netThread.reactor with timerHeap := heap }).DueAt
            deadline) := by
  obtain ⟨ptr, timer, fired⟩ := sound.timed.indexed.checkTurn_some turned
  refine ⟨⟨sound.served.of_tables rfl rfl, sound.timed.fired fired, sound.owned, sound.idle⟩, ?_,
    ?_⟩
  · rw [fired.firing]
    exact sound.timed.nonneg ptr timer fired.found
  · intro another deadline due
    rcases due with stopped | ⟨other, waiting, live, waitingId, waitingCb, value⟩
    · exact .inl stopped
    · have apart : other ≠ ptr := by
        rintro rfl
        rw [fired.found, Option.some.injEq] at live
        rw [fired.firing, live] at another
        rcases another with callback | different
        · cases callback.symm.trans waitingCb
        · exact different waitingId
      exact .inr ⟨other, waiting, (congrFun fired.live other).trans ((if_neg apart).trans live),
        waitingId, waitingCb, value⟩

end NetClientThread

/-- The client with the moment at which it last became disconnected or failed to connect. -/
structure ReconnectRun (Callback Message : Type) where
  client : NetClientThread Callback Message
  started : Bool
  startedAt : Option Timestamp

inductive ReconnectEvent (Message : Type)
  | startRun (opened : Option SocketId) (granted : Bool) (clock : Timestamp)
  | onSocketRead (socketId : SocketId) (answers : List RecvAnswer) (clock : Timestamp)
  | onSocketWrite (socketId : SocketId) (env : SendEnv) (clock : Timestamp)
  | onSocketError (socketId : SocketId) (socketError : Int) (clock : Timestamp)
  | onNetCommand (cmd : Option (NetCommand Message)) (env : SendEnv) (clock : Timestamp)
  | checkTimeout (now : Timestamp) (opened : Option SocketId) (granted : Bool) (clock : Timestamp)

def ReconnectEvent.clock : ReconnectEvent Message → Timestamp
  | .startRun _ _ clock | .onSocketRead _ _ clock | .onSocketWrite _ _ clock
  | .onSocketError _ _ clock | .onNetCommand _ _ clock | .checkTimeout _ _ _ clock => clock

namespace ReconnectRun

def start (client : NetClientThread Callback Message) : ReconnectRun Callback Message :=
  { client := client, started := false, startedAt := none }

def setHeap (s : ReconnectRun Callback Message) (heap : TimerHeap ReactorTimer) :
    ReconnectRun Callback Message :=
  { s with client := s.client.setReactor { s.client.netThread.reactor with timerHeap := heap } }

def handled (s : ReconnectRun Callback Message) (clock : Timestamp)
    (outcome : NetClientThread Callback Message × NetThread.Handed Callback Message) :
    ReconnectRun Callback Message :=
  { s with
    client := outcome.1
    startedAt :=
      if s.client.connected ∧ outcome.1.connected = false then some clock else s.startedAt }

def attempted (clock : Timestamp) (client : NetClientThread Callback Message) :
    ReconnectRun Callback Message :=
  { client := client
    started := true
    startedAt := if client.connected then none else some clock }

section Steps

variable [BaseStruct Message]

def timerTurn (s : ReconnectRun Callback Message) (now : Timestamp) (opened : Option SocketId)
    (granted : Bool) (clock : Timestamp) : Option (ReconnectRun Callback Message) :=
  match s.client.netThread.reactor.timerHeap.checkTurn now with
  | none => some s
  | some (firing, heap) =>
      let fired := s.setHeap heap
      match firing.timerCb with
      | .sendMessageError =>
          (fired.client.afterReactor clock
            (fired.client.netThread.reactor.onSendMessageError firing.timerId)).map
              (fired.handled clock)
      | .user _ =>
          (fired.client.onTimer firing.timerId clock opened granted).map fun outcome =>
            if firing.timerId = fired.client.reconnectTimer then attempted clock outcome.1
            else { fired with client := outcome.1 }

def step (s : ReconnectRun Callback Message) (event : ReconnectEvent Message) :
    Option (ReconnectRun Callback Message) :=
  match s.started, event with
  | false, .startRun opened granted clock =>
      (s.client.connect clock opened granted).map fun outcome => attempted clock outcome.2.1
  | true, .onSocketRead socketId answers clock =>
      (s.client.onSocketRead clock socketId answers).map (s.handled clock)
  | true, .onSocketWrite socketId env clock =>
      (s.client.afterReactor clock (s.client.netThread.reactor.onSocketWrite socketId env)).map
        (s.handled clock)
  | true, .onSocketError socketId socketError clock =>
      (s.client.afterReactor clock
        (s.client.netThread.reactor.onSocketError socketId socketError)).map (s.handled clock)
  | true, .onNetCommand cmd env clock =>
      (s.client.onNetCommand clock env cmd).map (s.handled clock)
  | true, .checkTimeout now opened granted clock => s.timerTurn now opened granted clock
  | _, _ => none

end Steps

def DeadlineKept (s : ReconnectRun Callback Message) : Prop :=
  ∀ t0 ∈ s.startedAt, ∀ deadline ∈ s.client.reconnectDeadline,
    (t0.add s.client.reconnectIntervalMs).less deadline = false

/-- While the client is disconnected, no message is handled later than the disconnection. -/
def Timely (s : ReconnectRun Callback Message) : ReconnectEvent Message → Prop
  | .onNetCommand (some cmd) _ clock =>
      cmd.type = .message → s.client.connected = false → ∀ t0 ∈ s.startedAt, t0.less clock = false
  | _ => True

structure Waiting (s : ReconnectRun Callback Message) : Prop where
  sound : s.client.Sound
  positive : 0 ≤ s.client.reconnectIntervalMs
  unstarted : s.started = false → s.client.connected = false ∧ s.client.reconnectTimer = -1
  since : s.started = true → s.client.connected = false → ∃ t0, s.startedAt = some t0 ∧
    t0.Normalised ∧ s.client.Scheduled (t0.add s.client.reconnectIntervalMs)

variable {s next : ReconnectRun Callback Message} {clock : Timestamp}

theorem Waiting.deadlineKept (waiting : Waiting s) : DeadlineKept s := by
  intro t0 started deadline due
  have stopped (idle : s.client.reconnectTimer = -1) : s.client.reconnectDeadline = none := if_pos idle
  cases running : s.started with
  | false =>
      rw [stopped (waiting.unstarted running).2] at due
      cases due
  | true =>
      cases connected : s.client.connected with
      | true =>
          rw [stopped (waiting.sound.idle connected)] at due
          cases due
      | false =>
          obtain ⟨since, same, -, scheduled⟩ := waiting.since running connected
          rw [same, Option.mem_some_iff] at started
          obtain ⟨dueAt, scheduled, early⟩ := scheduled
          rw [scheduled.deadline waiting.sound] at due
          split at due
          · cases due
          · rw [Option.mem_some_iff] at due
            rw [← started, Timestamp.less_eq_false_iff, ← due]
            exact early

theorem Waiting.handled (waiting : Waiting s) (started : s.started = true)
    (normal : clock.Normalised) {restart : Prop}
    {outcome : NetClientThread Callback Message × NetThread.Handed Callback Message}
    (result : s.client.Handled clock restart outcome.1)
    (timely : restart → s.client.connected = false → ∀ t0 ∈ s.startedAt, t0.less clock = false) :
    Waiting (s.handled clock outcome) := by
  have positive := waiting.positive
  refine ⟨result.sound, result.interval ▸ positive, ?_, ?_⟩
  · intro unstarted
    cases started.symm.trans unstarted
  · intro _ closed
    have disconnected : outcome.1.connected = false := closed
    simp only [ReconnectRun.handled, disconnected, and_true, result.interval]
    cases connected : s.client.connected with
    | true =>
        rcases result.outcome with ⟨same, -⟩ | ⟨-, due, -⟩
        · cases disconnected.symm.trans (same.trans connected)
        · rw [max_eq_right positive] at due
          exact ⟨clock, if_pos rfl, normal, _, due, le_rfl⟩
    | false =>
        obtain ⟨t0, since, t0Normal, scheduled⟩ := waiting.since started connected
        refine ⟨t0, (if_neg nofun).trans since, t0Normal, ?_⟩
        rcases result.outcome with ⟨-, kept⟩ | ⟨-, later, lost⟩
        · exact scheduled.imp fun _ due => ⟨kept _ due.1, due.2⟩
        · have early := timely (lost.resolve_left (by simp [connected])) connected t0 since
          rw [Timestamp.less_eq_false_iff,
            ← normal.add_key_le_add_iff t0Normal positive] at early
          rw [max_eq_right positive] at later
          exact ⟨_, later, early⟩

theorem Waiting.attempted {client : NetClientThread Callback Message} (sound : client.Sound)
    (positive : 0 ≤ client.reconnectIntervalMs) (closed : client.connected = false)
    (idle : client.reconnectTimer = -1) (normal : clock.Normalised) {opened : Option SocketId}
    {granted : Bool}
    {result : Bool × NetClientThread Callback Message × NetThread.Handed Callback Message}
    (tried : client.connect clock opened granted = some result) :
    Waiting (attempted clock result.2.1) := by
  obtain ⟨sound', interval, scheduled⟩ := sound.connect closed idle tried
  refine ⟨sound', interval ▸ positive, nofun, ?_⟩
  intro _ disconnected
  have due := scheduled disconnected
  rw [max_eq_right positive, ← interval] at due
  refine ⟨clock, if_neg (by simpa [ReconnectRun.attempted] using disconnected), normal, ?_⟩
  exact ⟨_, due, le_rfl⟩

section Steps

variable [BaseStruct Message] {event : ReconnectEvent Message}

theorem Waiting.timerTurn (waiting : Waiting s) (started : s.started = true) {now : Timestamp}
    {opened : Option SocketId} {granted : Bool} (normal : clock.Normalised)
    (taken : s.timerTurn now opened granted clock = some next) : Waiting next := by
  simp only [ReconnectRun.timerTurn] at taken
  cases turned : s.client.netThread.reactor.timerHeap.checkTurn now with
  | none =>
      rw [turned] at taken
      cases taken
      exact waiting
  | some result =>
      obtain ⟨firing, heap⟩ := result
      obtain ⟨sound, nonneg, kept⟩ := waiting.sound.fired turned
      have fired (another : firing.timerCb = .sendMessageError ∨
          firing.timerId ≠ s.client.reconnectTimer) : Waiting (s.setHeap heap) :=
        ⟨sound, waiting.positive, waiting.unstarted, fun running closed =>
          (waiting.since running closed).imp fun t0 since =>
            ⟨since.1, since.2.1, since.2.2.imp fun _ due => ⟨kept another _ due.1, due.2⟩⟩⟩
      rw [turned] at taken
      simp only at taken
      split at taken
      · rename_i callback
        simp only [Option.map_eq_some_iff] at taken
        obtain ⟨outcome, called, rfl⟩ := taken
        have moves := sound.afterReactor (onSendMessageError_returned _ _) called
        exact (fired (.inl callback)).handled started normal (sound.moves moves) nofun
      · simp only [Option.map_eq_some_iff, NetClientThread.onTimer] at taken
        obtain ⟨outcome, called, rfl⟩ := taken
        split
        · rename_i here
          rw [if_pos here, Option.map_eq_some_iff] at called
          obtain ⟨result, tried, rfl⟩ := called
          have closed : s.client.connected = false := by
            by_contra connected
            have idle := waiting.sound.idle (by simpa using connected)
            rw [here.trans idle] at nonneg
            exact absurd nonneg (by decide)
          have tables :
              NetClientThread.Sound { (s.setHeap heap).client with reconnectTimer := -1 } :=
            ⟨sound.served, sound.timed, sound.owned, fun _ => rfl⟩
          exact Waiting.attempted tables waiting.positive closed rfl normal tried
        · rename_i another
          rw [if_neg another] at called
          cases called
          exact fired (.inr another)

theorem Waiting.step (waiting : Waiting s) (normal : event.clock.Normalised)
    (timely : Timely s event) (taken : s.step event = some next) : Waiting next := by
  simp only [ReconnectRun.step] at taken
  cases started : s.started with
  | false =>
      rw [started] at taken
      cases event with
      | startRun opened granted clock =>
          obtain ⟨closed, idle⟩ := waiting.unstarted started
          simp only [Option.map_eq_some_iff] at taken
          obtain ⟨outcome, tried, rfl⟩ := taken
          exact Waiting.attempted waiting.sound waiting.positive closed idle normal tried
      | _ => cases taken
  | true =>
      rw [started] at taken
      cases event with
      | startRun opened granted clock => cases taken
      | onSocketRead socketId answers clock =>
          simp only [Option.map_eq_some_iff] at taken
          obtain ⟨outcome, read, rfl⟩ := taken
          have moves := waiting.sound.onSocketRead read
          exact waiting.handled started normal (waiting.sound.moves moves) nofun
      | onSocketWrite socketId env clock =>
          simp only [Option.map_eq_some_iff] at taken
          obtain ⟨outcome, called, rfl⟩ := taken
          have returned := waiting.sound.served.onSocketWrite socketId env
          have moves := waiting.sound.afterReactor returned called
          exact waiting.handled started normal (waiting.sound.moves moves) nofun
      | onSocketError socketId socketError clock =>
          simp only [Option.map_eq_some_iff] at taken
          obtain ⟨outcome, called, rfl⟩ := taken
          have returned := waiting.sound.served.onSocketError socketId socketError
          have moves := waiting.sound.afterReactor returned called
          exact waiting.handled started normal (waiting.sound.moves moves) nofun
      | onNetCommand cmd env clock =>
          simp only [Option.map_eq_some_iff] at taken
          obtain ⟨outcome, called, rfl⟩ := taken
          apply waiting.handled started normal (waiting.sound.onNetCommand called)
          rintro ⟨message, rfl, isMessage⟩
          exact timely isMessage
      | checkTimeout now opened granted clock => exact waiting.timerTurn started normal taken

theorem deadlineKept_every {createMessageFunc : Int → Option Message} {callback : Option Callback}
    {initialised : NetClientThread Callback Message}
    {maxRecvPacketLength reconnectIntervalMs id : Int}
    {maxSendPacketLength maxRecvBufferSize maxSendBufferSize : Nat} {attached : Bool}
    (init : (NetClientThread.create maxRecvPacketLength maxSendPacketLength createMessageFunc
      reconnectIntervalMs).init id maxRecvBufferSize maxSendBufferSize callback attached =
        (true, initialised))
    (positive : 0 ≤ reconnectIntervalMs) {events : List (ReconnectEvent Message)}
    (clocks : ∀ event ∈ events, event.clock.Normalised)
    (timely : Along step Timely (start initialised) events) :
    Every step DeadlineKept (start initialised) events := by
  have initial : Waiting (start initialised) := by
    cases attached with
    | false => cases congrArg Prod.fst init
    | true =>
        cases init
        exact ⟨.of_empty (fun _ => rfl) (fun _ => rfl) rfl rfl, positive, fun _ => ⟨rfl, rfl⟩,
          nofun⟩
  have along := (Along.of_forall clocks (start initialised)).and timely
  have every : Every step Waiting (start initialised) events :=
    every_of_invariant (fun waiting allowed taken => waiting.step allowed.1 allowed.2 taken) initial
      along
  exact every.mono fun waiting => waiting.deadlineKept

/-- While the client is disconnected, every message moves the deadline. -/
theorem message_restarts (waiting : Waiting s) (closed : s.client.connected = false)
    {cmd : NetCommand Message} {env : SendEnv} (isMessage : cmd.type = .message)
    (taken : s.step (.onNetCommand (some cmd) env clock) = some next)
    (running : next.client.reconnectTimer ≠ -1) :
    next.client.reconnectDeadline = some (clock.add s.client.reconnectIntervalMs) := by
  have started : s.started = true := by
    by_contra unstarted
    simp [ReconnectRun.step, unstarted] at taken
  simp only [ReconnectRun.step, started, Option.map_eq_some_iff] at taken
  obtain ⟨outcome, called, rfl⟩ := taken
  have deadline := waiting.sound.onNetCommand_disconnected closed isMessage called
  rw [max_eq_right waiting.positive] at deadline
  exact deadline.trans (if_neg running)

instance : DecidablePred (DeadlineKept : ReconnectRun Callback Message → Prop) := fun s =>
  inferInstanceAs (Decidable (∀ t0 ∈ s.startedAt, ∀ deadline ∈ s.client.reconnectDeadline,
    (t0.add s.client.reconnectIntervalMs).less deadline = false))

instance (s : ReconnectRun Callback Message) : DecidablePred (Timely s)
  | .onNetCommand (some cmd) _ clock =>
      inferInstanceAs (Decidable (cmd.type = .message → s.client.connected = false →
        ∀ t0 ∈ s.startedAt, t0.less clock = false))
  | .onNetCommand none _ _ | .startRun .. | .onSocketRead .. | .onSocketWrite .. | .onSocketError ..
  | .checkTimeout .. => .isTrue trivial

def shortClient : NetClientThread Unit RawMessage :=
  ((NetClientThread.create 40960 16 (rawServer 40960).netProtocol.createMessageFunc 1000).init 0
    81920 409600 (some ()) true).2

def sendAt (clock : Timestamp) : ReconnectEvent RawMessage :=
  .onNetCommand (some { type := .message, id := ⟨0, 9⟩, messageId := 7, message := some ⟨[5]⟩ })
    { result := .count 0, now := clock } clock

theorem deadlineKept_every_prompt :
    Every step DeadlineKept (start shortClient)
      [.startRun none true ⟨0, 0⟩, sendAt ⟨0, 0⟩, .checkTimeout ⟨1, 0⟩ (some 9) true ⟨1, 0⟩] := by
  have init : (NetClientThread.create 40960 16 (rawServer 40960).netProtocol.createMessageFunc
      1000).init 0 81920 409600 (some ()) true = (true, shortClient) := rfl
  refine deadlineKept_every init (by decide) ?_ (by decide +kernel)
  simp [sendAt, ReconnectEvent.clock, Timestamp.normalised_iff]

theorem busySender_breaks :
    ¬Every step DeadlineKept (start shortClient)
      [.startRun none true ⟨0, 0⟩, sendAt ⟨0, 900000000⟩, .checkTimeout ⟨1, 0⟩ (some 9) true ⟨1, 0⟩,
        sendAt ⟨1, 800000000⟩] := by
  decide +kernel

end Steps

end ReconnectRun

end ZBlueNet
