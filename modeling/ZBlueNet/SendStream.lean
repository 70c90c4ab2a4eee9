import ZBlueNet.DynamicBuffer
import ZBlueNet.ReactorCore
import ZBlueNet.Lib.Runs

/-!
The bytes of one connection: what the socket has accepted and what waits in the
write buffer, over runs of `sendMessage` and `onSocketWrite`.
-/

namespace ZBlueNet

open Runs EpollReactor

/-- A reactor and the messages for which `sendMessage` returned true, one after the other. -/
structure SendRun where
  reactor : EpollReactor
  sent : List UInt8

inductive SendEvent
  | sendMessage (buffer : List UInt8) (sendCompleteCb : Option SendCompleteCallback)
      (env : SendEnv)
  | onSocketWrite (env : SendEnv)
deriving DecidableEq, Repr

namespace SendRun

def step (id : SocketId) (s : SendRun) : SendEvent → Option SendRun
  | .sendMessage buffer sendCompleteCb env =>
      let outcome := s.reactor.sendMessage id buffer sendCompleteCb env
      some { reactor := outcome.2.1, sent := if outcome.1 then s.sent ++ buffer else s.sent }
  | .onSocketWrite env => some { s with reactor := (s.reactor.onSocketWrite id env).1 }

/-- Nothing is lost, repeated or reordered on its way to the socket. -/
def Intact (id : SocketId) (s : SendRun) : Prop :=
  ∀ connection ∈ s.reactor.connections id, ∃ socket ∈ s.reactor.sockets id,
    socket.accepted ++ connection.writeBuffer.content = s.sent

def Answers (size : Nat) : SendResult → Prop
  | .count bytes => bytes ≤ size
  | .error errno => errno = eagain

def Admissible (id : SocketId) (s : SendRun) : SendEvent → Prop
  | .sendMessage buffer sendCompleteCb env =>
      (s.reactor.sendMessage id buffer sendCompleteCb env).1 = true ∧
      ∀ connection ∈ s.reactor.connections id,
        Answers buffer.length env.result ∧ connection.writeBuffer.Fits buffer.length
  | .onSocketWrite env =>
      ∀ connection ∈ s.reactor.connections id,
        Answers connection.writeBuffer.content.length env.result

/-- Where the socket takes a part of a message, the bytes behind that part are those at the
beginning of the message. -/
def RestIsPrefix (id : SocketId) (s : SendRun) : SendEvent → Prop
  | .sendMessage buffer _ { result := .count bytes, .. } =>
      ∀ connection ∈ s.reactor.connections id, connection.writeBuffer.readableBytes = 0 →
        buffer.take (buffer.length - bytes) = buffer.drop bytes
  | .sendMessage _ _ { result := .error _, .. } => True
  | .onSocketWrite _ => True

instance (id : SocketId) (s : SendRun) : Decidable (Intact id s) := by
  unfold Intact
  infer_instance

instance (size : Nat) : DecidablePred (Answers size)
  | .count bytes => inferInstanceAs (Decidable (bytes ≤ size))
  | .error errno => inferInstanceAs (Decidable (errno = eagain))

instance (buffer : DynamicBuffer) (size : Nat) : Decidable (buffer.Fits size) :=
  inferInstanceAs (Decidable (_ < _))

instance (id : SocketId) (s : SendRun) : DecidablePred (Admissible id s)
  | .sendMessage buffer sendCompleteCb env =>
      inferInstanceAs (Decidable ((s.reactor.sendMessage id buffer sendCompleteCb env).1 = true ∧
        ∀ connection ∈ s.reactor.connections id,
          Answers buffer.length env.result ∧ connection.writeBuffer.Fits buffer.length))
  | .onSocketWrite env =>
      inferInstanceAs (Decidable (∀ connection ∈ s.reactor.connections id,
        Answers connection.writeBuffer.content.length env.result))

instance (id : SocketId) (s : SendRun) : DecidablePred (RestIsPrefix id s)
  | .sendMessage buffer _ { result := .count bytes, .. } =>
      inferInstanceAs (Decidable (∀ connection ∈ s.reactor.connections id,
        connection.writeBuffer.readableBytes = 0 →
          buffer.take (buffer.length - bytes) = buffer.drop bytes))
  | .sendMessage _ _ { result := .error _, .. } => .isTrue trivial
  | .onSocketWrite _ => .isTrue trivial

structure Sending (r : EpollReactor) (id : SocketId) (connection : TcpConnection)
    (socket : TcpSocket) : Prop where
  found : r.connections id = some connection
  device : r.sockets id = some socket
  identity : connection.socket = id
  connected : connection.status = .connected
  valid : connection.writeBuffer.Valid

def Carries (r : EpollReactor) (id : SocketId) (total : List UInt8) : Prop :=
  ∃ connection socket, Sending r id connection socket ∧
    socket.accepted ++ connection.writeBuffer.content = total

def forwarded (connection : TcpConnection) (buffer : List UInt8) : SendResult → List UInt8
  | .error _ => buffer
  | .count bytes =>
      if connection.writeBuffer.readableBytes = 0 then
        buffer.take bytes ++ buffer.take (buffer.length - bytes)
      else buffer

theorem forwarded_eq_iff (connection : TcpConnection) (buffer : List UInt8)
    (result : SendResult) :
    forwarded connection buffer result = buffer ↔
      ∀ bytes, connection.writeBuffer.readableBytes = 0 → result = .count bytes →
        buffer.take (buffer.length - bytes) = buffer.drop bytes := by
  cases result with
  | error errno => simp [forwarded]
  | count taken =>
      by_cases empty : connection.writeBuffer.readableBytes = 0
      · rw [forwarded, if_pos empty]
        constructor
        · intro same bytes _ taken
          cases taken
          exact List.append_cancel_left (same.trans (List.take_append_drop _ buffer).symm)
        · intro rest
          rw [rest taken empty rfl, List.take_append_drop]
      · simp [forwarded, empty]

section Functions

variable {r : EpollReactor} {id : SocketId} {connection : TcpConnection} {socket : TcpSocket}

theorem Sending.carries (sending : Sending r id connection socket) :
    Carries r id (socket.accepted ++ connection.writeBuffer.content) :=
  ⟨connection, socket, sending, rfl⟩

theorem Carries.intact_iff {s : SendRun} {total : List UInt8}
    (carries : Carries s.reactor id total) : Intact id s ↔ total = s.sent := by
  rcases carries with ⟨connection, socket, sending, rfl⟩
  constructor
  · intro intact
    rcases intact connection sending.found with ⟨device, same, total⟩
    rw [sending.device, Option.mem_some_iff] at same
    rw [same, total]
  · intro total current found
    rw [sending.found, Option.mem_some_iff] at found
    exact ⟨socket, sending.device, found ▸ total⟩

theorem closeSocket_connections (device : r.sockets id = some socket) :
    (r.closeSocket id).connections id = none := by
  simp [closeSocket, device]

theorem Sending.runSendComplete (sending : Sending r id connection socket)
    (sendCompleteCb : Option SendCompleteCallback) :
    (r.runSendComplete id sendCompleteCb).1.connections id = none ∨
      Carries (r.runSendComplete id sendCompleteCb).1 id
        (socket.accepted ++ connection.writeBuffer.content) := by
  rcases sendCompleteCb with _ | close | token
  · exact .inr sending.carries
  · exact .inl (closeSocket_connections sending.device)
  · exact .inr sending.carries

theorem Sending.modifySocket (sending : Sending r id connection socket)
    (change : TcpSocket → TcpSocket) :
    Sending (r.modifySocket id change) id connection (change socket) := by
  refine ⟨sending.found, ?_, sending.identity, sending.connected, sending.valid⟩
  simp [EpollReactor.modifySocket, sending.device]

theorem Sending.setConnection (sending : Sending r id connection socket) (next : TcpConnection)
    (identity : next.socket = id) (connected : next.status = .connected)
    (valid : next.writeBuffer.Valid) : Sending (r.setConnection id next) id next socket := by
  refine ⟨?_, sending.device, identity, connected, valid⟩
  simp [EpollReactor.setConnection]

theorem Sending.bufferRemaining (sending : Sending r id connection socket)
    {buffer : List UInt8} {remainSize : Nat} {sendCompleteCb : Option SendCompleteCallback}
    {now : Timestamp} (bound : remainSize ≤ buffer.length)
    (fits : connection.writeBuffer.Fits buffer.length)
    (accepted : (r.bufferRemaining connection buffer remainSize sendCompleteCb now).1 = true) :
    (remainSize = 0 ∧
      (r.bufferRemaining connection buffer remainSize sendCompleteCb now).2.1.connections id =
        none) ∨
    Carries (r.bufferRemaining connection buffer remainSize sendCompleteCb now).2.1 id
      (socket.accepted ++ connection.writeBuffer.content ++ buffer.take remainSize) := by
  have identity := sending.identity
  subst identity
  by_cases remaining : remainSize > 0
  · have taken : (buffer.take remainSize).length = remainSize := by
      rw [List.length_take]
      omega
    have fitsTaken : connection.writeBuffer.Fits (buffer.take remainSize).length := by
      simp only [DynamicBuffer.Fits] at fits ⊢
      omega
    rw [EpollReactor.bufferRemaining, if_pos remaining] at accepted ⊢
    split at accepted
    · simp at accepted
    · rename_i room
      rw [if_neg room]
      have stored := sending.setConnection { connection with
          writeBuffer := connection.writeBuffer.append (buffer.take remainSize)
          sendCompleteCb := sendCompleteCb } rfl sending.connected
        (sending.valid.append _ (sending.valid.grows fitsTaken))
      apply Or.inr
      refine ⟨_, _, stored.modifySocket _, ?_⟩
      rw [sending.valid.append_content _ (sending.valid.grows fitsTaken),
        TcpSocket.setWriteCallback, List.append_assoc]
  · have nothing : remainSize = 0 := by omega
    subst nothing
    rw [EpollReactor.bufferRemaining, if_neg remaining, List.take_zero, List.append_nil]
    rcases sending.runSendComplete sendCompleteCb with gone | carries
    · exact .inl ⟨rfl, gone⟩
    · exact .inr carries

theorem Sending.sendConnection (sending : Sending r id connection socket) {buffer : List UInt8}
    {sendCompleteCb : Option SendCompleteCallback} {env : SendEnv}
    (answers : Answers buffer.length env.result)
    (fits : connection.writeBuffer.Fits buffer.length)
    (accepted : (r.sendConnection connection buffer sendCompleteCb env).1 = true) :
    (forwarded connection buffer env.result = buffer ∧
      (r.sendConnection connection buffer sendCompleteCb env).2.1.connections id = none) ∨
    Carries (r.sendConnection connection buffer sendCompleteCb env).2.1 id
      (socket.accepted ++ connection.writeBuffer.content ++
        forwarded connection buffer env.result) := by
  have refused : ¬connection.status ≠ .connected := by simp [sending.connected]
  rw [EpollReactor.sendConnection, if_neg refused] at accepted ⊢
  rcases env with ⟨result, now⟩
  have buffered (whole : forwarded connection buffer result = buffer)
      (stored : (r.bufferRemaining connection buffer buffer.length sendCompleteCb now).1 = true) :
      (forwarded connection buffer result = buffer ∧
        (r.bufferRemaining connection buffer buffer.length sendCompleteCb now).2.1.connections
          id = none) ∨
      Carries (r.bufferRemaining connection buffer buffer.length sendCompleteCb now).2.1 id
        (socket.accepted ++ connection.writeBuffer.content ++
          forwarded connection buffer result) := by
    have outcome := sending.bufferRemaining (le_refl _) fits stored
    rw [List.take_length] at outcome
    rw [whole]
    exact outcome.imp_left fun gone => ⟨rfl, gone.2⟩
  by_cases empty : connection.writeBuffer.readableBytes = 0
  · rw [if_pos empty] at accepted ⊢
    cases result with
    | error errno =>
        have retry : ¬errno ≠ eagain := by simpa [Answers] using answers
        simp only [if_neg retry] at accepted ⊢
        exact buffered rfl accepted
    | count bytes =>
        have nothing := sending.valid.content_eq_nil.mpr empty
        simp only [sending.identity] at accepted ⊢
        have outcome := (sending.modifySocket (.send (buffer.take bytes))).bufferRemaining
          (Nat.sub_le buffer.length bytes) fits accepted
        simp only [forwarded, if_pos empty, nothing, TcpSocket.send, List.append_nil,
          List.append_assoc] at outcome ⊢
        rcases outcome with ⟨complete, gone⟩ | carries
        · refine .inl ⟨?_, gone⟩
          rw [complete, List.take_zero, List.append_nil, List.take_of_length_le (by omega)]
        · exact .inr carries
  · rw [if_neg empty] at accepted ⊢
    refine buffered ?_ accepted
    cases result with
    | error errno => rfl
    | count bytes => rw [forwarded, if_neg empty]

theorem Sending.onSocketWrite (sending : Sending r id connection socket) {env : SendEnv}
    (answers : Answers connection.writeBuffer.content.length env.result) :
    (r.onSocketWrite id env).1.connections id = none ∨
      Carries (r.onSocketWrite id env).1 id
        (socket.accepted ++ connection.writeBuffer.content) := by
  rcases env with ⟨result, now⟩
  cases result with
  | error errno =>
      have retry : ¬errno ≠ eagain := by simpa [Answers] using answers
      simp only [EpollReactor.onSocketWrite, sending.found, if_neg retry]
      exact .inr sending.carries
  | count bytes =>
      have valid := sending.valid.read bytes
      have sent := sending.modifySocket (.send (connection.writeBuffer.content.take bytes))
      have moved : socket.accepted ++ connection.writeBuffer.content =
          (socket.send (connection.writeBuffer.content.take bytes)).accepted ++
            (connection.writeBuffer.read bytes).content := by
        rw [sending.valid.read_content, TcpSocket.send, List.append_assoc, List.take_append_drop]
      simp only [EpollReactor.onSocketWrite, sending.found, moved]
      split
      · have flushed := (sent.modifySocket (.setWriteCallback false)).setConnection
          { connection with
            writeBuffer := connection.writeBuffer.read bytes, sendCompleteCb := none }
            sending.identity sending.connected valid
        exact flushed.runSendComplete connection.sendCompleteCb
      · have kept := sent.setConnection { connection with
            writeBuffer := connection.writeBuffer.read bytes }
            sending.identity sending.connected valid
        exact .inr kept.carries

end Functions

def Alive (id : SocketId) (s : SendRun) : Prop :=
  s.reactor.connections id = none ∨ ∃ total, Carries s.reactor id total

variable {id : SocketId} {s next : SendRun} {event : SendEvent}

theorem intact_of_gone (gone : s.reactor.connections id = none) : Intact id s := by
  intro connection found
  rw [gone] at found
  cases found

theorem restIsPrefix_iff {connection : TcpConnection}
    (found : s.reactor.connections id = some connection) {buffer : List UInt8}
    {sendCompleteCb : Option SendCompleteCallback} {env : SendEnv} :
    RestIsPrefix id s (.sendMessage buffer sendCompleteCb env) ↔
      ∀ bytes, connection.writeBuffer.readableBytes = 0 → env.result = .count bytes →
        buffer.take (buffer.length - bytes) = buffer.drop bytes := by
  rcases env with ⟨result, now⟩
  cases result with
  | error errno => simp [RestIsPrefix]
  | count taken =>
      constructor
      · intro rest bytes empty same
        cases same
        exact rest connection found empty
      · intro rest current same empty
        rw [found, Option.mem_some_iff] at same
        exact rest taken (same ▸ empty) rfl

theorem step_spec (alive : Alive id s) (admissible : Admissible id s event)
    (taken : s.step id event = some next) :
    Alive id next ∧ (Intact id s → (Intact id next ↔ RestIsPrefix id s event)) := by
  rcases alive with gone | ⟨total, carries⟩
  · cases event with
    | sendMessage buffer sendCompleteCb env =>
        simp [Admissible, sendMessage, gone] at admissible
    | onSocketWrite env =>
        simp only [step, EpollReactor.onSocketWrite, gone, Option.some.injEq] at taken
        subst taken
        exact ⟨.inl gone, fun _ => iff_of_true (intact_of_gone gone) trivial⟩
  · have sum := carries.intact_iff
    rcases carries with ⟨connection, socket, sending, rfl⟩
    cases event with
    | sendMessage buffer sendCompleteCb env =>
        rcases admissible with ⟨accepted, room⟩
        rcases room connection sending.found with ⟨answers, fits⟩
        have whole : RestIsPrefix id s (.sendMessage buffer sendCompleteCb env) ↔
            forwarded connection buffer env.result = buffer := by
          rw [forwarded_eq_iff, restIsPrefix_iff sending.found]
        simp only [step, if_pos accepted, Option.some.injEq] at taken
        simp only [sendMessage, sending.found] at accepted taken
        subst taken
        rw [whole]
        rcases sending.sendConnection answers fits accepted with ⟨all, gone⟩ | carries
        · exact ⟨.inl gone, fun _ => iff_of_true (intact_of_gone gone) all⟩
        · refine ⟨.inr ⟨_, carries⟩, ?_⟩
          intro intact
          rw [Carries.intact_iff carries, sum.mp intact, List.append_cancel_left_eq]
    | onSocketWrite env =>
        simp only [step, Option.some.injEq] at taken
        subst taken
        rcases sending.onSocketWrite (admissible connection sending.found) with gone | carries
        · exact ⟨.inl gone, fun _ => iff_of_true (intact_of_gone gone) trivial⟩
        · refine ⟨.inr ⟨_, carries⟩, fun intact => iff_of_true ?_ trivial⟩
          exact (Carries.intact_iff carries).mpr (sum.mp intact)

theorem sending_attached {r attached : EpollReactor} {socket : TcpSocket} {granted : Bool}
    (unknown : r.connections id = none) (initSize : r.connWriteBufferInitSize < sizeModulus)
    (expandSize : 0 < r.connWriteBufferExpandSize)
    (entered : r.attachSocket id socket granted = (true, attached)) :
    Sending attached id (r.newConnection id)
      { socket with readCb := true, errorCb := true, attached := true } := by
  simp only [attachSocket] at entered
  split at entered
  · simp at entered
  · split at entered
    · simp only [Prod.mk.injEq, true_and] at entered
      subst entered
      refine ⟨?_, ?_, rfl, rfl, ?_⟩
      · simp [insertConnection, setSocket, unknown]
      · simp [insertConnection, setSocket]
      · exact DynamicBuffer.create_valid _ _ initSize expandSize
    · simp at entered

theorem carries_attached {r attached : EpollReactor} {socket : TcpSocket} {granted : Bool}
    (fresh : socket.accepted = []) (unknown : r.connections id = none)
    (initSize : r.connWriteBufferInitSize < sizeModulus)
    (expandSize : 0 < r.connWriteBufferExpandSize)
    (entered : r.attachSocket id socket granted = (true, attached)) : Carries attached id [] := by
  refine ⟨_, _, sending_attached unknown initSize expandSize entered, ?_⟩
  simp [fresh, newConnection, TcpConnection.create]

/-- From the moment a connection is attached, its bytes stay intact exactly as long as every
message that the socket takes in part repeats its own beginning. -/
theorem intact_every_iff {r attached : EpollReactor} {socket : TcpSocket} {granted : Bool}
    (fresh : socket.accepted = []) (unknown : r.connections id = none)
    (initSize : r.connWriteBufferInitSize < sizeModulus)
    (expandSize : 0 < r.connWriteBufferExpandSize)
    (entered : r.attachSocket id socket granted = (true, attached)) (events : List SendEvent)
    (admissible : Along (step id) (Admissible id) { reactor := attached, sent := [] } events) :
    Every (step id) (Intact id) { reactor := attached, sent := [] } events ↔
      Along (step id) (RestIsPrefix id) { reactor := attached, sent := [] } events := by
  have carries : Carries (SendRun.mk attached []).reactor id [] :=
    carries_attached fresh unknown initSize expandSize entered
  have preserved {s next : SendRun} {event : SendEvent} (alive : Alive id s)
      (admissible : Admissible id s event) (taken : s.step id event = some next) :
      Alive id next :=
    (step_spec alive admissible taken).1
  apply every_iff_along preserved
  · intro s event next alive admissible intact taken
    exact (step_spec alive admissible taken).2 intact
  · intro s event stuck
    cases event <;> simp [step] at stuck
  · exact .inr ⟨[], carries⟩
  · exact carries.intact_iff.mpr rfl
  · exact admissible

def justAttached : SendRun :=
  { reactor := (((EpollReactor.create.setBufferSizes 65536 65536).attachSocket 7 .create true).2)
    sent := [] }

def takesBytes (bytes : Nat) : SendEnv := { result := .count bytes, now := ⟨0, 0⟩ }

theorem tornSend_breaks :
    Along (step 7) (Admissible 7) justAttached [.sendMessage [1, 2] none (takesBytes 1)] ∧
      ¬Every (step 7) (Intact 7) justAttached [.sendMessage [1, 2] none (takesBytes 1)] := by
  decide +kernel

theorem intact_every_iff_twoSends :
    Every (step 7) (Intact 7) justAttached
      [.sendMessage [1, 1] none (takesBytes 1), .onSocketWrite (takesBytes 1)] :=
  (@intact_every_iff 7 (EpollReactor.create.setBufferSizes 65536 65536) _ .create true rfl rfl
    (by decide) (by decide) rfl _ (by decide +kernel)).mpr (by decide +kernel)

end SendRun

end ZBlueNet
