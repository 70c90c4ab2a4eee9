import ZBlueNet.OutputArming
import ZBlueNet.ReactorEdits

/-!
The limit of the write buffers, over runs of one reactor: what a send that is refused
leaves behind, and that a connection whose send failed takes nothing more.
-/

namespace ZBlueNet

open Runs EpollReactor OutputArming

namespace EpollReactor

variable {r next : EpollReactor} {id : SocketId} {connection : TcpConnection}
  {buffer : List UInt8} {sendCompleteCb : Option SendCompleteCallback} {env : SendEnv}

def SentDirectly (r : EpollReactor) (connection : TcpConnection) (buffer : List UInt8)
    (result : SendResult) (next : EpollReactor) (taken : Nat) : Prop :=
  next = r ∧ taken = 0 ∨
    connection.writeBuffer.readableBytes = 0 ∧ result = .count taken ∧
      next = r.modifySocket connection.socket (.send (buffer.take taken))

/-- A send on a connected connection fails, or goes on with what the socket did not take. -/
theorem sendConnection_cases (r : EpollReactor) (buffer : List UInt8)
    (sendCompleteCb : Option SendCompleteCallback) (env : SendEnv)
    (connected : connection.status = .connected) :
    ∃ sent taken, SentDirectly r connection buffer env.result sent taken ∧
      ((∃ errno, env.result = .error errno ∧ errno ≠ eagain ∧
          r.sendConnection connection buffer sendCompleteCb env =
            (false, sent.failSend env.now connection errno, [])) ∨
        r.sendConnection connection buffer sendCompleteCb env =
          sent.bufferRemaining connection buffer (buffer.length - taken) sendCompleteCb env.now) := by
  have open_ : ¬ connection.status ≠ .connected := by simp [connected]
  rw [sendConnection, if_neg open_]
  by_cases empty : connection.writeBuffer.readableBytes = 0
  · rw [if_pos empty]
    cases result : env.result with
    | error errno =>
        refine ⟨r, 0, .inl ⟨rfl, rfl⟩, ?_⟩
        by_cases retry : errno = eagain
        · simp [retry]
        · exact .inl ⟨errno, rfl, retry, by simp [retry]⟩
    | count taken => exact ⟨_, taken, .inr ⟨empty, rfl, rfl⟩, .inr rfl⟩
  · rw [if_neg empty]
    exact ⟨r, 0, .inl ⟨rfl, rfl⟩, .inr rfl⟩

/-- What is left of a message goes over the limit, into the buffer, or is nothing. -/
theorem bufferRemaining_cases (r : EpollReactor) (connection : TcpConnection)
    (buffer : List UInt8) (remainSize : Nat) (sendCompleteCb : Option SendCompleteCallback)
    (now : Timestamp) :
    (0 < remainSize ∧ 0 < r.connWriteBufferMaxSize ∧
      r.connWriteBufferMaxSize < sizeAdd remainSize connection.writeBuffer.readableBytes ∧
      r.bufferRemaining connection buffer remainSize sendCompleteCb now =
        (false, r.failSend now connection enobufs, [])) ∨
    (0 < remainSize ∧
      (0 < r.connWriteBufferMaxSize →
        sizeAdd remainSize connection.writeBuffer.readableBytes ≤ r.connWriteBufferMaxSize) ∧
      r.bufferRemaining connection buffer remainSize sendCompleteCb now =
        (true, (r.setConnection connection.socket { connection with
          writeBuffer := connection.writeBuffer.append (buffer.take remainSize)
          sendCompleteCb := sendCompleteCb }).modifySocket connection.socket
            (.setWriteCallback true), [])) ∨
    (remainSize = 0 ∧
      r.bufferRemaining connection buffer remainSize sendCompleteCb now =
        (true, r.runSendComplete connection.socket sendCompleteCb)) := by
  rw [bufferRemaining]
  by_cases rest : remainSize > 0
  · rw [if_pos rest]
    by_cases over_limit : r.connWriteBufferMaxSize > 0 ∧
        sizeAdd remainSize connection.writeBuffer.readableBytes > r.connWriteBufferMaxSize
    · rw [if_pos over_limit]
      exact .inl ⟨rest, over_limit.1, over_limit.2, rfl⟩
    · rw [if_neg over_limit]
      refine .inr (.inl ⟨rest, ?_, rfl⟩)
      intro positive
      by_contra beyond
      exact over_limit ⟨positive, not_le.mp beyond⟩
  · rw [if_neg rest]
    exact .inr (.inr ⟨by omega, rfl⟩)

theorem failSend_connections (r : EpollReactor) (now : Timestamp) (connection : TcpConnection)
    (errorCode : Int) :
    (r.failSend now connection errorCode).connections =
      Function.update r.connections connection.socket (some (connection.setError errorCode)) :=
  rfl

theorem SentDirectly.connections {result : SendResult} {taken : Nat}
    (direct : SentDirectly r connection buffer result next taken) :
    next.connections = r.connections := by
  rcases direct with ⟨same, -⟩ | ⟨-, -, same⟩ <;> rw [same]
  rfl

theorem SentDirectly.connWriteBufferMaxSize {result : SendResult} {taken : Nat}
    (direct : SentDirectly r connection buffer result next taken) :
    next.connWriteBufferMaxSize = r.connWriteBufferMaxSize := by
  rcases direct with ⟨same, -⟩ | ⟨-, -, same⟩ <;> rw [same]
  rfl

theorem sendConnection_refused
    (refused : (r.sendConnection connection buffer sendCompleteCb env).1 = false) :
    connection.status ≠ .connected ∧
        r.sendConnection connection buffer sendCompleteCb env = (false, r, []) ∨
      ∃ errorCode, (r.sendConnection connection buffer sendCompleteCb env).2.1.connections =
        Function.update r.connections connection.socket (some (connection.setError errorCode)) := by
  by_cases connected : connection.status = .connected
  · right
    obtain ⟨sent, taken, direct, ⟨errno, -, -, failed⟩ | goesOn⟩ :=
      sendConnection_cases r buffer sendCompleteCb env connected
    · refine ⟨errno, ?_⟩
      rw [failed, failSend_connections, direct.connections]
    · rw [goesOn] at refused ⊢
      obtain ⟨-, -, -, outcome⟩ | ⟨-, -, outcome⟩ | ⟨-, outcome⟩ :=
        bufferRemaining_cases sent connection buffer (buffer.length - taken) sendCompleteCb env.now
      · refine ⟨enobufs, ?_⟩
        rw [outcome, failSend_connections, direct.connections]
      · simp [outcome] at refused
      · simp [outcome] at refused
  · left
    refine ⟨connected, ?_⟩
    rw [sendConnection, if_pos connected]

def Named (r : EpollReactor) : Prop :=
  ∀ id connection, r.connections id = some connection → connection.socket = id

/-- `next` has the connections of `r`, perhaps fewer: none is connected again, and none has come
to hold more than the limit. -/
structure Tightened (r next : EpollReactor) : Prop where
  maxSize : next.connWriteBufferMaxSize = r.connWriteBufferMaxSize
  kept : ∀ id after, next.connections id = some after → ∃ before, r.connections id = some before ∧
    after.socket = before.socket ∧ (after.status = .connected → before.status = .connected) ∧
    (before.writeBuffer.readableBytes ≤ r.connWriteBufferMaxSize →
      after.writeBuffer.readableBytes ≤ r.connWriteBufferMaxSize)

theorem Tightened.of_tables (maxSize : next.connWriteBufferMaxSize = r.connWriteBufferMaxSize)
    (connections : next.connections = r.connections) : Tightened r next := by
  refine ⟨maxSize, ?_⟩
  intro id after found
  rw [connections] at found
  exact ⟨after, found, rfl, fun connected => connected, fun bounded => bounded⟩

theorem Tightened.refl (r : EpollReactor) : Tightened r r :=
  .of_tables rfl rfl

theorem Tightened.trans {last : EpollReactor} (first : Tightened r next)
    (second : Tightened next last) : Tightened r last := by
  refine ⟨second.maxSize.trans first.maxSize, ?_⟩
  intro id after found
  obtain ⟨middle, here, socket, status, size⟩ := second.kept id after found
  obtain ⟨before, there, socket', status', size'⟩ := first.kept id middle here
  rw [first.maxSize] at size
  exact ⟨before, there, socket.trans socket', fun connected => status' (status connected),
    fun bounded => size (size' bounded)⟩

theorem Tightened.named (tightened : Tightened r next) (named : Named r) : Named next := by
  intro id connection found
  obtain ⟨before, there, socket, -, -⟩ := tightened.kept id connection found
  exact socket.trans (named id before there)

theorem Tightened.setConnection {old new : TcpConnection} (found : r.connections id = some old)
    (socket : new.socket = old.socket)
    (status : new.status = .connected → old.status = .connected)
    (size : old.writeBuffer.readableBytes ≤ r.connWriteBufferMaxSize →
      new.writeBuffer.readableBytes ≤ r.connWriteBufferMaxSize) :
    Tightened r (r.setConnection id new) := by
  refine ⟨rfl, ?_⟩
  intro other after here
  rcases update_connection here with ⟨rfl, rfl⟩ | old
  · exact ⟨old, found, socket, status, size⟩
  · exact ⟨after, old, rfl, fun connected => connected, fun bounded => bounded⟩

theorem Tightened.setError {old : TcpConnection} (found : r.connections id = some old)
    (errorCode : Int) : Tightened r (r.setConnection id (old.setError errorCode)) := by
  refine .setConnection found rfl ?_ ?_
  · intro connected
    cases connected
  · intro bounded
    exact bounded

theorem Tightened.closeSocket (r : EpollReactor) (id : SocketId) :
    Tightened r (r.closeSocket id) := by
  rw [EpollReactor.closeSocket]
  cases device : r.sockets id with
  | none => exact .refl r
  | some socket =>
      have detached : Tightened r (r.detachIOService id) := by
        simp only [detachIOService, device]
        split <;> exact .of_tables rfl rfl
      apply detached.trans
      refine ⟨rfl, ?_⟩
      intro other after here
      by_cases same : other = id
      · simp [same] at here
      · simp only [ne_eq, same, not_false_eq_true, Function.update_of_ne] at here
        exact ⟨after, here, rfl, fun connected => connected, fun bounded => bounded⟩

theorem Tightened.runSendComplete (r : EpollReactor) (id : SocketId)
    (sendCompleteCb : Option SendCompleteCallback) :
    Tightened r (r.runSendComplete id sendCompleteCb).1 := by
  rcases sendCompleteCb with _ | close | token
  · exact .refl r
  · exact .closeSocket r id
  · exact .refl r

theorem append_readableBytes_le (b : DynamicBuffer) (bytes : List UInt8) :
    (b.append bytes).readableBytes ≤ b.readableBytes + bytes.length := by
  have reserved : (b.reserveWritableBytes bytes.length).readableBytes = b.readableBytes := by
    rw [DynamicBuffer.reserveWritableBytes]
    split
    · rfl
    · exact Nat.sub_zero _
  rw [← reserved, DynamicBuffer.append]
  simp only [DynamicBuffer.write, DynamicBuffer.store, DynamicBuffer.readableBytes]
  omega

theorem read_readableBytes_le (b : DynamicBuffer) (size : Nat) :
    (b.read size).readableBytes ≤ b.readableBytes := by
  rw [DynamicBuffer.read]
  split
  · exact Nat.zero_le _
  · simp only [DynamicBuffer.readableBytes]
    omega

theorem Tightened.bufferRemaining (limited : 0 < r.connWriteBufferMaxSize)
    (found : r.connections connection.socket = some connection)
    (addresses : buffer.length + connection.writeBuffer.readableBytes < sizeModulus)
    {remainSize : Nat} (part : remainSize ≤ buffer.length) (now : Timestamp) :
    Tightened r (r.bufferRemaining connection buffer remainSize sendCompleteCb now).2.1 := by
  obtain ⟨-, -, -, outcome⟩ | ⟨-, room, outcome⟩ | ⟨-, outcome⟩ :=
    bufferRemaining_cases r connection buffer remainSize sendCompleteCb now
  · rw [outcome]
    exact (Tightened.setError found enobufs).trans (.of_tables rfl rfl)
  · rw [outcome]
    have grown := append_readableBytes_le connection.writeBuffer (buffer.take remainSize)
    have within := room limited
    rw [sizeAdd, Nat.mod_eq_of_lt (by omega)] at within
    rw [List.length_take] at grown
    have stored : Tightened r (r.setConnection connection.socket { connection with
        writeBuffer := connection.writeBuffer.append (buffer.take remainSize)
        sendCompleteCb := sendCompleteCb }) :=
      .setConnection found rfl (fun connected => connected) fun _ => by dsimp only; omega
    exact stored.trans (.of_tables rfl rfl)
  · rw [outcome]
    exact .runSendComplete r connection.socket sendCompleteCb

theorem Tightened.sendConnection (limited : 0 < r.connWriteBufferMaxSize)
    (found : r.connections connection.socket = some connection)
    (addresses : buffer.length + connection.writeBuffer.readableBytes < sizeModulus) :
    Tightened r (r.sendConnection connection buffer sendCompleteCb env).2.1 := by
  by_cases connected : connection.status = .connected
  · obtain ⟨sent, taken, direct, outcome⟩ :=
      sendConnection_cases r buffer sendCompleteCb env connected
    have begun : Tightened r sent :=
      .of_tables direct.connWriteBufferMaxSize direct.connections
    rw [← direct.connections] at found
    rw [← direct.connWriteBufferMaxSize] at limited
    rcases outcome with ⟨errno, -, -, failed⟩ | goesOn
    · rw [failed]
      exact begun.trans ((Tightened.setError found errno).trans (.of_tables rfl rfl))
    · rw [goesOn]
      exact begun.trans (.bufferRemaining limited found addresses (by omega) env.now)
  · rw [EpollReactor.sendConnection, if_pos connected]
    exact .refl r

theorem Tightened.onSocketWrite (r : EpollReactor) (id : SocketId) (env : SendEnv) :
    Tightened r (r.onSocketWrite id env).1 := by
  simp only [EpollReactor.onSocketWrite]
  cases found : r.connections id with
  | none => exact .refl r
  | some connection =>
      cases env.result with
      | error errno =>
          dsimp only
          split
          · exact .setError found errno
          · exact .refl r
      | count bytes =>
          have drained (sent : EpollReactor) (sendCompleteCb : Option SendCompleteCallback)
              (maxSize : sent.connWriteBufferMaxSize = r.connWriteBufferMaxSize)
              (connections : sent.connections = r.connections) :
              Tightened r (sent.setConnection id { connection with
                writeBuffer := connection.writeBuffer.read bytes
                sendCompleteCb := sendCompleteCb }) := by
            have smaller := read_readableBytes_le connection.writeBuffer bytes
            have there : sent.connections id = some connection := by rw [connections, found]
            exact (Tightened.of_tables maxSize connections).trans (.setConnection there rfl
              (fun connected => connected) fun bounded => smaller.trans bounded)
          dsimp only
          split
          · have emptied := drained ((r.modifySocket id (.send (connection.writeBuffer.content.take
              bytes))).modifySocket id (.setWriteCallback false)) none rfl rfl
            exact emptied.trans (.runSendComplete _ id connection.sendCompleteCb)
          · exact drained _ connection.sendCompleteCb rfl rfl

theorem Tightened.onSocketReadLoop {answers : List RecvAnswer}
    {outcome : ReadEnd × EpollReactor × List ReactorCall}
    (read : r.onSocketReadLoop id answers = some outcome) : Tightened r outcome.2.1 := by
  simp only [EpollReactor.onSocketReadLoop] at read
  cases found : r.connections id with
  | none => simp [found] at read
  | some connection =>
      simp only [found] at read
      split at read
      · cases read
      · cases read
        refine .setConnection found rfl ?_ (fun bounded => bounded)
        intro connected
        cases connected
      · cases read
        exact .setConnection found rfl (fun connected => connected) fun bounded => bounded

theorem Tightened.onSocketReadPeerClose (r : EpollReactor) (id : SocketId) :
    Tightened r (r.onSocketReadPeerClose id).1 := by
  simp only [EpollReactor.onSocketReadPeerClose]
  cases found : r.connections id with
  | none => exact .refl r
  | some connection =>
      refine .setConnection found rfl ?_ (fun bounded => bounded)
      intro connected
      cases connected

theorem Tightened.onSocketError (r : EpollReactor) (id : SocketId) (socketError : Int) :
    Tightened r (r.onSocketError id socketError).1 := by
  simp only [EpollReactor.onSocketError]
  cases found : r.connections id with
  | none => exact .refl r
  | some connection => exact .setError found socketError

theorem Tightened.onSendMessageError (r : EpollReactor) (timerId : TimerId) :
    Tightened r (r.onSendMessageError timerId).1 := by
  simp only [EpollReactor.onSendMessageError]
  split
  · exact .refl r
  · split <;> exact .of_tables rfl rfl

theorem Tightened.isConnected (tightened : Tightened r next)
    (unconnected : r.isConnected id = false) : next.isConnected id = false := by
  rw [← Bool.not_eq_true, isConnected_iff, statusOf, Option.map_eq_some_iff] at unconnected ⊢
  rintro ⟨connection, found, connected⟩
  obtain ⟨before, there, -, status, -⟩ := tightened.kept id connection found
  exact unconnected ⟨before, there, status connected⟩

end EpollReactor

structure SendLimitRun where
  reactor : EpollReactor
  failed : SocketId → Bool

namespace SendLimitRun

def noteRefusal (r : EpollReactor) (failed : SocketId → Bool) (id : SocketId)
    (buffer : List UInt8) (sendCompleteCb : Option SendCompleteCallback) (env : SendEnv) :
    SocketId → Bool :=
  if (r.connections id).isSome ∧ (r.sendMessage id buffer sendCompleteCb env).1 = false then
    Function.update failed id true
  else failed

def noteBroadcast (buffer : List UInt8) :
    EpollReactor → (SocketId → Bool) → List (SocketId × SendEnv) → SocketId → Bool
  | _, failed, [] => failed
  | r, failed, (id, env) :: rest =>
      noteBroadcast buffer (r.sendMessage id buffer none env).2.1
        (noteRefusal r failed id buffer none env) rest

/-- A connection that is attached has not failed, whatever another one did with its id. -/
def noteEvent (s : SendLimitRun) : ReactorEvent → SocketId → Bool
  | .attachSocket id granted =>
      if (s.reactor.attachSocket id .create granted).1 then Function.update s.failed id false
      else s.failed
  | .sendMessage id buffer sendCompleteCb env =>
      noteRefusal s.reactor s.failed id buffer sendCompleteCb env
  | .sendMessageThenClose id buffer env =>
      noteRefusal s.reactor s.failed id buffer (some .close) env
  | .broadcastMessage buffer answers => noteBroadcast buffer s.reactor s.failed answers
  | _ => s.failed

def HoldsBoth (r : EpollReactor) (id : SocketId) (buffer : List UInt8) : Prop :=
  ∀ connection ∈ r.connections id,
    buffer.length + connection.writeBuffer.readableBytes < sizeModulus

def HoldsEach (buffer : List UInt8) : EpollReactor → List (SocketId × SendEnv) → Prop
  | _, [] => True
  | r, (id, env) :: rest =>
      HoldsBoth r id buffer ∧ HoldsEach buffer (r.sendMessage id buffer none env).2.1 rest

def Possible (r : EpollReactor) : ReactorEvent → Prop
  | .sendMessage id buffer _ _ => HoldsBoth r id buffer
  | .sendMessageThenClose id buffer _ => HoldsBoth r id buffer
  | .broadcastMessage buffer answers => HoldsEach buffer r answers
  | _ => True

instance (r : EpollReactor) (id : SocketId) (buffer : List UInt8) :
    Decidable (HoldsBoth r id buffer) :=
  inferInstanceAs (Decidable (∀ connection ∈ r.connections id, _ < _))

instance decidableHoldsEach (buffer : List UInt8) :
    ∀ r answers, Decidable (HoldsEach buffer r answers)
  | _, [] => .isTrue trivial
  | r, (id, env) :: rest =>
      have := decidableHoldsEach buffer (r.sendMessage id buffer none env).2.1 rest
      inferInstanceAs (Decidable (HoldsBoth r id buffer ∧ _))

instance (r : EpollReactor) : DecidablePred (Possible r)
  | .sendMessage id buffer _ _ => inferInstanceAs (Decidable (HoldsBoth r id buffer))
  | .sendMessageThenClose id buffer _ => inferInstanceAs (Decidable (HoldsBoth r id buffer))
  | .broadcastMessage buffer answers => inferInstanceAs (Decidable (HoldsEach buffer r answers))
  | .attachSocket _ _ | .onSocketReadLoop _ _ | .onSocketReadPeerClose _ | .onSocketWrite _ _
  | .onSocketError _ _ | .closeSocket _ | .onSendMessageError _ => .isTrue trivial

/-- Any function of the reactor, for which the address space has room. -/
def step (s : SendLimitRun) (event : ReactorEvent) : Option SendLimitRun :=
  if Possible s.reactor event then
    (OutputArming.step s.reactor event).map fun reactor =>
      { reactor := reactor, failed := s.noteEvent event }
  else none

/-- The write buffers keep the limit, a refused send leaves them as they are, and a connection
that has failed refuses every other send and hands nothing on. -/
structure HoldsLimit (limit : Nat) (s : SendLimitRun) : Prop where
  bounded : ∀ id, ∀ connection ∈ s.reactor.connections id,
    connection.writeBuffer.readableBytes ≤ limit
  clean : ∀ id buffer sendCompleteCb env,
    (s.reactor.sendMessage id buffer sendCompleteCb env).1 = false →
      ∀ other, ((s.reactor.sendMessage id buffer sendCompleteCb env).2.1.connections other).map
        TcpConnection.writeBuffer = (s.reactor.connections other).map TcpConnection.writeBuffer
  sticky : ∀ id, s.failed id = true → ∀ buffer sendCompleteCb env,
    s.reactor.sendMessage id buffer sendCompleteCb env = (false, s.reactor, [])

structure Limited (limit : Nat) (s : SendLimitRun) : Prop where
  maxSize : s.reactor.connWriteBufferMaxSize = limit
  named : Named s.reactor
  bounded : ∀ id, ∀ connection ∈ s.reactor.connections id,
    connection.writeBuffer.readableBytes ≤ limit
  failed : ∀ id, s.failed id = true → s.reactor.isConnected id = false

variable {s next : SendLimitRun} {limit : Nat} {event : ReactorEvent} {r : EpollReactor}
  {failed : SocketId → Bool} {id : SocketId} {buffer : List UInt8}

theorem Limited.tightened (limited : Limited limit s) {after : EpollReactor}
    (tightened : Tightened s.reactor after) :
    Limited limit { reactor := after, failed := s.failed } := by
  refine ⟨tightened.maxSize.trans limited.maxSize, tightened.named limited.named, ?_, ?_⟩
  · intro id connection found
    obtain ⟨before, there, -, -, size⟩ := tightened.kept id connection found
    rw [limited.maxSize] at size
    exact size (limited.bounded id before there)
  · intro id marked
    exact tightened.isConnected (limited.failed id marked)

theorem broadcastMessage_cons (r : EpollReactor) (buffer : List UInt8) (id : SocketId)
    (env : SendEnv) (rest : List (SocketId × SendEnv)) :
    r.broadcastMessage buffer ((id, env) :: rest) =
      (r.sendMessage id buffer none env).2.1.broadcastMessage buffer rest := by
  rw [broadcastMessage, sendMessage]
  cases r.connections id <;> rfl

theorem sendMessage_refused (named : Named r) {sendCompleteCb : Option SendCompleteCallback}
    {env : SendEnv} (refused : (r.sendMessage id buffer sendCompleteCb env).1 = false) :
    r.isConnected id = false ∧ r.sendMessage id buffer sendCompleteCb env = (false, r, []) ∨
      ∃ connection errorCode, r.connections id = some connection ∧
        (r.sendMessage id buffer sendCompleteCb env).2.1.connections =
          Function.update r.connections id (some (connection.setError errorCode)) := by
  rw [sendMessage] at refused ⊢
  cases found : r.connections id with
  | none => exact .inl ⟨by simp [isConnected, found], rfl⟩
  | some connection =>
      simp only [found] at refused
      have socket := named id connection found
      rcases sendConnection_refused refused with ⟨unconnected, nothing⟩ | ⟨errorCode, marked⟩
      · exact .inl ⟨by simpa [isConnected, found] using unconnected, nothing⟩
      · rw [socket] at marked
        exact .inr ⟨connection, errorCode, rfl, marked⟩

theorem Limited.sendMessage (limited : Limited limit s) (positive : 0 < limit)
    {sendCompleteCb : Option SendCompleteCallback} {env : SendEnv}
    (addresses : HoldsBoth s.reactor id buffer) :
    Limited limit
      { reactor := (s.reactor.sendMessage id buffer sendCompleteCb env).2.1
        failed := noteRefusal s.reactor s.failed id buffer sendCompleteCb env } := by
  have tightened : Tightened s.reactor
      (s.reactor.sendMessage id buffer sendCompleteCb env).2.1 := by
    rw [EpollReactor.sendMessage]
    cases found : s.reactor.connections id with
    | none => exact .refl _
    | some connection =>
        have socket := limited.named id connection found
        apply Tightened.sendConnection (limited.maxSize ▸ positive) (by rw [socket, found])
        exact addresses connection found
  have sent := limited.tightened tightened
  rw [noteRefusal]
  split
  · rename_i refused
    refine ⟨sent.maxSize, sent.named, sent.bounded, ?_⟩
    intro other marked
    by_cases same : other = id
    · rw [same]
      rcases sendMessage_refused limited.named refused.2 with ⟨unconnected, nothing⟩ |
        ⟨connection, errorCode, -, after⟩
      · rw [nothing]
        exact unconnected
      · simp [isConnected, after, TcpConnection.setError]
    · exact sent.failed other (by simpa [same] using marked)
  · exact sent

theorem Limited.broadcastMessage (positive : 0 < limit) (answers : List (SocketId × SendEnv))
    (limited : Limited limit { reactor := r, failed := failed })
    (addresses : HoldsEach buffer r answers) :
    Limited limit
      { reactor := r.broadcastMessage buffer answers
        failed := noteBroadcast buffer r failed answers } := by
  induction answers generalizing r failed with
  | nil => exact limited
  | cons answer rest ih =>
      obtain ⟨id, env⟩ := answer
      rw [broadcastMessage_cons, noteBroadcast]
      exact ih (limited.sendMessage positive addresses.1) addresses.2

theorem Limited.attachSocket (limited : Limited limit s) (id : SocketId) (granted : Bool) :
    Limited limit
      { reactor := (s.reactor.attachSocket id .create granted).2
        failed := s.noteEvent (.attachSocket id granted) } := by
  rw [noteEvent, EpollReactor.attachSocket]
  cases known : s.reactor.sockets id with
  | some socket => exact limited
  | none =>
      dsimp only
      split
      · rename_i added
        have entry {other : SocketId} {connection : TcpConnection}
            (found : Function.update s.reactor.connections id ((s.reactor.connections id).or
              (some (s.reactor.newConnection id))) other = some connection) :
            s.reactor.connections other = some connection ∨
              other = id ∧ connection = s.reactor.newConnection id := by
          by_cases same : other = id
          · rw [same, Function.update_self, Option.or_eq_some_iff] at found
            rcases found with old | ⟨-, new⟩
            · exact .inl (same ▸ old)
            · exact .inr ⟨same, (Option.some.inj new).symm⟩
          · rw [Function.update_of_ne same] at found
            exact .inl found
        refine ⟨limited.maxSize, ?_, ?_, ?_⟩
        · intro other connection found
          rcases entry found with old | ⟨same, new⟩
          · exact limited.named other connection old
          · rw [same, new]
            rfl
        · intro other connection found
          rcases entry found with old | ⟨same, new⟩
          · exact limited.bounded other connection old
          · rw [new]
            exact Nat.zero_le _
        · intro other marked
          by_cases same : other = id
          · simp [same] at marked
          · have before := limited.failed other (by simpa [same] using marked)
            simpa [isConnected, insertConnection, setSocket, same] using before
      · exact limited.tightened (.of_tables rfl rfl)

theorem Limited.step (positive : 0 < limit) (limited : Limited limit s)
    (taken : s.step event = some next) : Limited limit next := by
  rw [SendLimitRun.step] at taken
  split at taken
  · rename_i possible
    rw [Option.map_eq_some_iff] at taken
    obtain ⟨reactor, stepped, rfl⟩ := taken
    cases event with
    | onSocketReadLoop id answers =>
        simp only [OutputArming.step, Option.map_eq_some_iff] at stepped
        obtain ⟨outcome, read, rfl⟩ := stepped
        exact limited.tightened (.onSocketReadLoop read)
    | attachSocket id granted =>
        cases stepped
        exact limited.attachSocket id granted
    | sendMessage id buffer sendCompleteCb env =>
        cases stepped
        exact limited.sendMessage positive possible
    | sendMessageThenClose id buffer env =>
        cases stepped
        exact limited.sendMessage positive possible
    | broadcastMessage buffer answers =>
        cases stepped
        exact Limited.broadcastMessage positive answers limited possible
    | onSocketReadPeerClose id =>
        cases stepped
        exact limited.tightened (.onSocketReadPeerClose s.reactor id)
    | onSocketWrite id env =>
        cases stepped
        exact limited.tightened (.onSocketWrite s.reactor id env)
    | onSocketError id socketError =>
        cases stepped
        exact limited.tightened (.onSocketError s.reactor id socketError)
    | closeSocket id =>
        cases stepped
        exact limited.tightened (.closeSocket s.reactor id)
    | onSendMessageError timerId =>
        cases stepped
        exact limited.tightened (.onSendMessageError s.reactor timerId)
  · cases taken

theorem Limited.holdsLimit (limited : Limited limit s) : HoldsLimit limit s := by
  refine ⟨limited.bounded, ?_, ?_⟩
  · intro id buffer sendCompleteCb env refused other
    rcases sendMessage_refused limited.named refused with ⟨-, nothing⟩ |
      ⟨connection, errorCode, found, marked⟩
    · rw [nothing]
    · rw [marked]
      by_cases same : other = id
      · simp [same, found, TcpConnection.setError]
      · simp [same]
  · intro id marked buffer sendCompleteCb env
    have unconnected := limited.failed id marked
    rw [EpollReactor.sendMessage]
    cases found : s.reactor.connections id with
    | none => rfl
    | some connection =>
        have status : connection.status ≠ .connected := by
          simpa [isConnected, found] using unconnected
        simp only [sendConnection, if_pos status]

/-- From a reactor without connections, whatever its functions are called for and the kernel
answers. -/
theorem send_limit_holds {r : EpollReactor} (empty : ∀ id, r.connections id = none)
    (positive : 0 < r.connWriteBufferMaxSize) (events : List ReactorEvent) :
    Every step (HoldsLimit r.connWriteBufferMaxSize)
      { reactor := r, failed := fun _ => false } events := by
  have initial : Limited r.connWriteBufferMaxSize { reactor := r, failed := fun _ => false } := by
    refine ⟨rfl, ?_, ?_, ?_⟩
    · intro id connection found
      cases (empty id).symm.trans found
    · intro id connection found
      cases (empty id).symm.trans found
    · intro id marked
      cases marked
  have preserved {s next : SendLimitRun} {event : ReactorEvent}
      (limited : Limited r.connWriteBufferMaxSize s)
      (_ : (fun _ _ => True : SendLimitRun → ReactorEvent → Prop) s event)
      (taken : s.step event = some next) : Limited r.connWriteBufferMaxSize next :=
    limited.step positive taken
  exact (every_of_invariant preserved initial (along_always _ events)).mono
    fun limited => limited.holdsLimit

theorem send_limit_holds_fourBytes :
    Every step (HoldsLimit 4)
      { reactor := EpollReactor.create.setBufferSizes 65536 4, failed := fun _ => false }
      [.attachSocket 7 true,
        .sendMessage 7 [1, 2, 3, 4, 5] none { result := .count 2, now := ⟨0, 0⟩ },
        .broadcastMessage [6, 7] [(7, { result := .error eagain, now := ⟨0, 0⟩ })],
        .onSocketWrite 7 { result := .count 3, now := ⟨0, 0⟩ }] :=
  send_limit_holds (r := EpollReactor.create.setBufferSizes 65536 4) (fun _ => rfl) (by decide) _

end SendLimitRun

end ZBlueNet
