import ZBlueNet.SendLimit
import ZBlueNet.SendStream
import ZBlueNet.Lib.MessageStream
import Mathlib.Data.List.Nodup
import Mathlib.Data.List.Perm.Subperm

/-!
The callbacks of `sendMessage` on one connection: which messages have been called back,
and which still have bytes that the socket has not taken. A connection has one slot for
a callback, whatever number of messages wait in its write buffer.
-/

namespace ZBlueNet

open Runs EpollReactor SendRun MessageStream

def SendResult.bytes : SendResult → Nat
  | .count bytes => bytes
  | .error _ => 0

/-- `sendMessageThenClose` gives a callback that closes the socket. -/
structure CompletionRun where
  reactor : EpollReactor
  attempts : Nat
  closing : List Nat
  messages : List (Message Nat)
  invoked : List Nat
  taken : Nat

inductive CompletionEvent
  | sendMessage (closes : Bool) (buffer : List UInt8) (env : SendEnv)
  | onSocketWrite (env : SendEnv)
deriving DecidableEq, Repr

namespace CompletionRun

def invokedToken : ReactorCall → Option Nat
  | .sendCompleteCb _ token => some token
  | .errorCb .. | .peerCloseCb _ | .recvMessageCb _ => none

def returned (id : SocketId) (s : CompletionRun) (outcome : EpollReactor × List ReactorCall) :
    CompletionRun :=
  let tokens := outcome.2.filterMap invokedToken
  { s with
    reactor := if tokens.any (s.closing.contains ·) then outcome.1.closeSocket id else outcome.1
    invoked := s.invoked ++ tokens
    taken := (outcome.1.sockets id).elim s.taken (·.accepted.length) }

def attempted (s : CompletionRun) (closes : Bool) (size : Nat) (accepted : Bool) : CompletionRun :=
  { s with
    attempts := s.attempts + 1
    closing := if closes then s.attempts :: s.closing else s.closing
    messages := if accepted then s.messages ++ [Message.mk s.attempts size] else s.messages }

def step (id : SocketId) (s : CompletionRun) : CompletionEvent → Option CompletionRun
  | .sendMessage closes buffer env =>
      let outcome := s.reactor.sendMessage id buffer (some (.user s.attempts)) env
      some ((s.attempted closes buffer.length outcome.1).returned id outcome.2)
  | .onSocketWrite env => some (s.returned id (s.reactor.onSocketWrite id env))

/-- The messages that have not been called back are those with unsent bytes. -/
structure Completed (s : CompletionRun) : Prop where
  once : s.invoked.Nodup
  accepted : ∀ token ∈ s.invoked, token ∈ s.messages.map Message.token
  waiting : ∀ token ∈ s.messages.map Message.token,
    token ∉ s.invoked ↔ token ∈ unsent s.taken s.messages

def Admissible (id : SocketId) (s : CompletionRun) : CompletionEvent → Prop
  | .sendMessage _ buffer env => ∀ connection ∈ s.reactor.connections id,
      Answers buffer.length env.result ∧ connection.writeBuffer.Fits buffer.length
  | .onSocketWrite env => ∀ connection ∈ s.reactor.connections id,
      Answers connection.writeBuffer.content.length env.result

/-- A write takes the last byte of a message only when no other message waits. -/
def FinishesLast (id : SocketId) (s : CompletionRun) : CompletionEvent → Prop
  | .sendMessage .. => True
  | .onSocketWrite env => s.reactor.connections id ≠ none →
      unsent (s.taken + env.result.bytes) s.messages = unsent s.taken s.messages ∨
        (unsent s.taken s.messages).length ≤ 1

instance (id : SocketId) (s : CompletionRun) : DecidablePred (Admissible id s)
  | .sendMessage .. => inferInstanceAs (Decidable (∀ connection ∈ s.reactor.connections id, _ ∧ _))
  | .onSocketWrite _ => inferInstanceAs (Decidable (∀ connection ∈ s.reactor.connections id, _))

instance (id : SocketId) (s : CompletionRun) : DecidablePred (FinishesLast id s)
  | .sendMessage .. => .isTrue trivial
  | .onSocketWrite _ => inferInstanceAs (Decidable (_ → _ ∨ _))

end CompletionRun

namespace EpollReactor

structure Live (r : EpollReactor) (id : SocketId) (connection : TcpConnection)
    (socket : TcpSocket) : Prop where
  found : r.connections id = some connection
  device : r.sockets id = some socket
  identity : connection.socket = id
  valid : connection.writeBuffer.Valid

variable {r : EpollReactor} {id : SocketId} {connection : TcpConnection} {socket : TcpSocket}
  {buffer : List UInt8} {token : Nat} {env : SendEnv}

theorem Live.modifySocket (live : Live r id connection socket) (change : TcpSocket → TcpSocket) :
    Live (r.modifySocket id change) id connection (change socket) := by
  refine ⟨live.found, ?_, live.identity, live.valid⟩
  simp [EpollReactor.modifySocket, live.device]

theorem Live.setConnection (live : Live r id connection socket) (next : TcpConnection)
    (identity : next.socket = id) (valid : next.writeBuffer.Valid) :
    Live (r.setConnection id next) id next socket := by
  refine ⟨?_, live.device, identity, valid⟩
  simp [EpollReactor.setConnection]

theorem Live.failSend (live : Live r id connection socket) (now : Timestamp) (errorCode : Int) :
    Live (r.failSend now connection errorCode) id (connection.setError errorCode) socket := by
  have marked := live.setConnection (connection.setError errorCode) live.identity live.valid
  rw [EpollReactor.failSend, live.identity]
  exact ⟨marked.found, marked.device, marked.identity, marked.valid⟩

theorem Live.sentDirectly (live : Live r id connection socket)
    (answers : Answers buffer.length env.result) {sent : EpollReactor} {taken : Nat}
    (direct : SentDirectly r connection buffer env.result sent taken) :
    ∃ device, Live sent id connection device ∧
      device.accepted.length = socket.accepted.length + taken ∧ taken ≤ buffer.length ∧
      (taken = 0 ∨ connection.writeBuffer.readableBytes = 0) := by
  rcases direct with ⟨rfl, rfl⟩ | ⟨empty, result, rfl⟩
  · exact ⟨socket, live, rfl, Nat.zero_le _, .inl rfl⟩
  · rw [result] at answers
    have bound : taken ≤ buffer.length := answers
    rw [live.identity]
    refine ⟨_, live.modifySocket _, ?_, bound, .inr empty⟩
    rw [TcpSocket.send, List.length_append, List.length_take_of_le bound]

/-- How a send of `size` bytes ends, of which the socket took `taken` at once: the result, the
calls, and the connection behind it. -/
inductive SendEnding (connection : TcpConnection) (size taken token : Nat) :
    Bool → List ReactorCall → TcpConnection → Prop
  | refused {after : TcpConnection} (unconnected : after.status ≠ .connected)
      (writeBuffer : after.writeBuffer = connection.writeBuffer)
      (slot : after.sendCompleteCb = connection.sendCompleteCb) :
      SendEnding connection size taken token false [] after
  | waits {after : TcpConnection} (connected : connection.status = .connected)
      (part : taken < size) (slot : after.sendCompleteCb = some (.user token))
      (readable : after.writeBuffer.readableBytes =
        connection.writeBuffer.readableBytes + (size - taken)) :
      SendEnding connection size taken token true [] after
  | complete (connected : connection.status = .connected) (all : taken = size) :
      SendEnding connection size taken token true [.sendCompleteCb connection.socket token]
        connection

theorem Live.sendMessage (live : Live r id connection socket) (token : Nat)
    (answers : Answers buffer.length env.result)
    (fits : connection.writeBuffer.Fits buffer.length) :
    ∃ taken after device,
      let outcome := r.sendMessage id buffer (some (.user token)) env
      Live outcome.2.1 id after device ∧
        device.accepted.length = socket.accepted.length + taken ∧
        (taken = 0 ∨ connection.status = .connected ∧ connection.writeBuffer.readableBytes = 0) ∧
        SendEnding connection buffer.length taken token outcome.1 outcome.2.2 after := by
  have identity := live.identity
  subst identity
  rw [EpollReactor.sendMessage, live.found]
  dsimp only
  by_cases connected : connection.status = .connected
  · obtain ⟨sent, taken, direct, outcome⟩ := sendConnection_cases r buffer (some (.user token))
      env connected
    obtain ⟨device, begun, accepted, bound, level⟩ := live.sentDirectly answers direct
    have level : taken = 0 ∨
        connection.status = .connected ∧ connection.writeBuffer.readableBytes = 0 :=
      level.imp_right fun empty => ⟨connected, empty⟩
    rcases outcome with ⟨errno, -, -, failed⟩ | goesOn
    · rw [failed]
      refine ⟨taken, _, device, begun.failSend env.now errno, accepted, level, ?_⟩
      exact .refused (by intro connected; cases connected) rfl rfl
    · rw [goesOn]
      obtain ⟨-, -, -, rest⟩ | ⟨remaining, -, rest⟩ | ⟨nothing, rest⟩ :=
        bufferRemaining_cases sent connection buffer (buffer.length - taken) (some (.user token))
          env.now
      · rw [rest]
        refine ⟨taken, _, device, begun.failSend env.now enobufs, accepted, level, ?_⟩
        exact .refused (by intro connected; cases connected) rfl rfl
      · have size : (buffer.take (buffer.length - taken)).length = buffer.length - taken :=
          List.length_take_of_le (Nat.sub_le _ _)
        have grows : connection.writeBuffer.Grows
            (buffer.take (buffer.length - taken)).length := by
          apply live.valid.grows
          simp only [DynamicBuffer.Fits] at fits ⊢
          omega
        have valid := live.valid.append _ grows
        have readable := valid.content_length
        rw [live.valid.append_content _ grows, List.length_append, live.valid.content_length,
          size] at readable
        have stored := begun.setConnection ({ connection with
          writeBuffer := connection.writeBuffer.append (buffer.take (buffer.length - taken))
          sendCompleteCb := some (.user token) }) rfl valid
        rw [rest]
        refine ⟨taken, _, _, stored.modifySocket _, accepted, level, ?_⟩
        exact .waits connected (by omega) rfl readable.symm
      · rw [rest]
        refine ⟨taken, connection, device, begun, accepted, level, ?_⟩
        exact .complete connected (by omega)
  · rw [sendConnection, if_pos connected]
    exact ⟨0, connection, socket, live, rfl, .inl rfl, .refused connected rfl rfl⟩

theorem Live.onSocketWrite (live : Live r id connection socket)
    (answers : Answers connection.writeBuffer.content.length env.result) {slot : Option Nat}
    (cb : connection.sendCompleteCb = slot.map .user) :
    ∃ after device,
      let outcome := r.onSocketWrite id env
      Live outcome.1 id after device ∧
        device.accepted.length = socket.accepted.length + env.result.bytes ∧
        after.status = connection.status ∧
        after.writeBuffer.readableBytes + env.result.bytes =
          connection.writeBuffer.readableBytes ∧
        ((outcome.2 = [] ∧ after.sendCompleteCb = connection.sendCompleteCb ∧
            (env.result.bytes = 0 ∨ 0 < after.writeBuffer.readableBytes)) ∨
          after.writeBuffer.readableBytes = 0 ∧ after.sendCompleteCb = none ∧
            outcome.2 = slot.toList.map (.sendCompleteCb id)) := by
  rw [EpollReactor.onSocketWrite, live.found]
  cases result : env.result with
  | error errno =>
      rw [result] at answers
      have retry : ¬ errno ≠ eagain := not_not.mpr answers
      dsimp only
      rw [if_neg retry]
      exact ⟨connection, socket, live, rfl, rfl, rfl, .inl ⟨rfl, rfl, .inl rfl⟩⟩
  | count bytes =>
      rw [result] at answers
      have bound : bytes ≤ connection.writeBuffer.content.length := answers
      have valid := live.valid.read bytes
      have readable := valid.content_length
      rw [live.valid.read_content, List.length_drop, live.valid.content_length] at readable
      have sent := live.modifySocket (.send (connection.writeBuffer.content.take bytes))
      have accepted : (socket.send (connection.writeBuffer.content.take bytes)).accepted.length =
          socket.accepted.length + bytes := by
        rw [TcpSocket.send, List.length_append, List.length_take_of_le bound]
      rw [live.valid.content_length] at bound
      have moved : (connection.writeBuffer.read bytes).readableBytes + bytes =
          connection.writeBuffer.readableBytes := by omega
      dsimp only [SendResult.bytes]
      split
      · rename_i empty
        have flushed := (sent.modifySocket (.setWriteCallback false)).setConnection
          ({ connection with
            writeBuffer := connection.writeBuffer.read bytes, sendCompleteCb := none })
          live.identity valid
        rw [cb]
        cases slot with
        | none => exact ⟨_, _, flushed, accepted, rfl, moved, .inr ⟨empty, rfl, rfl⟩⟩
        | some token => exact ⟨_, _, flushed, accepted, rfl, moved, .inr ⟨empty, rfl, rfl⟩⟩
      · rename_i left
        have kept := sent.setConnection ({ connection with
          writeBuffer := connection.writeBuffer.read bytes }) live.identity valid
        refine ⟨_, _, kept, accepted, rfl, moved, .inl ⟨rfl, rfl, .inr ?_⟩⟩
        exact Nat.pos_of_ne_zero left

end EpollReactor

namespace CompletionRun

/-- The slot has the callback of the last message that waits. A send that was refused may have
given the socket a part of its message. -/
structure Level (taken : Nat) (messages : List (Message Nat)) (connection : TcpConnection) :
    Prop where
  most : totalSize messages ≤ taken + connection.writeBuffer.readableBytes
  exact : connection.status = .connected ∨ 0 < connection.writeBuffer.readableBytes →
    totalSize messages = taken + connection.writeBuffer.readableBytes
  slot : connection.sendCompleteCb = (unsent taken messages).getLast?.map .user

section Levels

variable {taken more size token : Nat} {messages : List (Message Nat)}
  {connection after : TcpConnection}

theorem Level.direct (level : Level taken messages connection)
    (direct : more = 0 ∨ connection.status = .connected ∧
      connection.writeBuffer.readableBytes = 0) : more = 0 ∨ taken = totalSize messages := by
  rcases direct with none_sent | ⟨connected, empty⟩
  · exact .inl none_sent
  · have full := level.exact (.inl connected)
    exact .inr (by omega)

theorem unsent_direct (direct : more = 0 ∨ taken = totalSize messages) :
    unsent (taken + more) messages = unsent taken messages := by
  rcases direct with none_sent | full
  · rw [none_sent, Nat.add_zero]
  · rw [(unsent_eq_nil _ _).mpr (by omega), (unsent_eq_nil _ _).mpr (by omega)]

theorem Level.refused (level : Level taken messages connection)
    (direct : more = 0 ∨ connection.status = .connected ∧
      connection.writeBuffer.readableBytes = 0)
    (unconnected : after.status ≠ .connected)
    (writeBuffer : after.writeBuffer = connection.writeBuffer)
    (slot : after.sendCompleteCb = connection.sendCompleteCb) :
    Level (taken + more) messages after := by
  have most := level.most
  constructor
  · rw [writeBuffer]
    omega
  · rw [writeBuffer]
    rintro (connected | waits)
    · exact absurd connected unconnected
    · have full := level.exact (.inr waits)
      omega
  · rw [slot, unsent_direct (level.direct direct), level.slot]

theorem Level.accepted (level : Level taken messages connection)
    (direct : more = 0 ∨ connection.status = .connected ∧
      connection.writeBuffer.readableBytes = 0)
    (connected : connection.status = .connected) (part : more ≤ size)
    (slot : after.sendCompleteCb =
      if size ≤ more then connection.sendCompleteCb else some (.user token))
    (readable : after.writeBuffer.readableBytes =
      connection.writeBuffer.readableBytes + (size - more)) :
    Level (taken + more) (messages ++ [⟨token, size⟩]) after := by
  have full := level.exact (.inl connected)
  have total : totalSize (messages ++ [⟨token, size⟩]) = totalSize messages + size := by
    rw [totalSize_append]
    rfl
  constructor
  · omega
  · intro _
    omega
  · have behind : taken ≤ totalSize messages := by omega
    rw [unsent_message _ behind (level.direct direct), slot]
    split
    · rw [List.append_nil, level.slot]
    · simp

theorem Level.kept (level : Level taken messages connection) {bytes : Nat}
    (status : after.status = connection.status)
    (readable : after.writeBuffer.readableBytes + bytes = connection.writeBuffer.readableBytes)
    (slot : after.sendCompleteCb = connection.sendCompleteCb)
    (left : bytes = 0 ∨ 0 < after.writeBuffer.readableBytes) :
    Level (taken + bytes) messages after := by
  have most := level.most
  constructor
  · omega
  · intro more
    rw [status] at more
    have full := level.exact (more.imp_right fun waits => by omega)
    omega
  · rw [slot, level.slot]
    rcases left with rfl | waits
    · rw [Nat.add_zero]
    · have full := level.exact (.inr (by omega))
      obtain ⟨finished, split⟩ := unsent_suffix taken bytes messages
      have something : unsent (taken + bytes) messages ≠ [] := by
        rw [ne_eq, unsent_eq_nil]
        omega
      rw [← split, List.getLast?_append, List.getLast?_eq_some_getLast something]
      rfl

theorem Level.drained (level : Level taken messages connection) {bytes : Nat}
    (readable : after.writeBuffer.readableBytes + bytes = connection.writeBuffer.readableBytes)
    (empty : after.writeBuffer.readableBytes = 0) (slot : after.sendCompleteCb = none)
    (status : after.status = connection.status) :
    Level (taken + bytes) messages after ∧ unsent (taken + bytes) messages = [] := by
  have most := level.most
  have nothing : unsent (taken + bytes) messages = [] := by
    rw [unsent_eq_nil]
    omega
  refine ⟨⟨by omega, ?_, ?_⟩, nothing⟩
  · intro more
    rw [status] at more
    have full := level.exact (more.imp_right fun waits => by omega)
    omega
  · rw [nothing, slot]
    rfl

theorem Level.finishes_iff (level : Level taken messages connection) {bytes : Nat}
    (readable : after.writeBuffer.readableBytes + bytes = connection.writeBuffer.readableBytes)
    (left : bytes = 0 ∨ 0 < after.writeBuffer.readableBytes) :
    (unsent (taken + bytes) messages = unsent taken messages ∨
        (unsent taken messages).length ≤ 1) ↔
      unsent (taken + bytes) messages = unsent taken messages := by
  constructor
  · rintro (same | short)
    · exact same
    · rcases left with rfl | waits
      · rw [Nat.add_zero]
      · have full := level.exact (.inr (by omega))
        have suffix := unsent_suffix taken bytes messages
        have something : unsent (taken + bytes) messages ≠ [] := by
          rw [ne_eq, unsent_eq_nil]
          omega
        have some_left := List.length_pos_iff.mpr something
        have fewer := suffix.length_le
        exact suffix.eq_of_length (by omega)
  · exact .inl

end Levels

def Held (id : SocketId) (s : CompletionRun) : Prop :=
  s.reactor.connections id = none ∧ s.reactor.sockets id = none ∨
    ∃ connection socket, Live s.reactor id connection socket ∧
      socket.accepted.length = s.taken ∧ Level s.taken s.messages connection

structure Sound (id : SocketId) (s : CompletionRun) : Prop where
  fresh : ∀ token ∈ s.messages.map Message.token, token < s.attempts
  distinct : (s.messages.map Message.token).Nodup
  held : Held id s

variable {id : SocketId} {s next : CompletionRun} {token : Nat}

/-! What the callbacks owe, in terms of the messages. -/

theorem Completed.same (completed : Completed s) (messages : next.messages = s.messages)
    (invoked : next.invoked = s.invoked)
    (still : unsent next.taken s.messages = unsent s.taken s.messages) : Completed next := by
  obtain ⟨once, accepted, waiting⟩ := completed
  rw [← still] at waiting
  rw [← messages, ← invoked] at accepted waiting
  exact ⟨invoked ▸ once, accepted, waiting⟩

theorem Completed.call (completed : Completed s) (invoked : next.invoked = s.invoked ++ [token])
    (uncalled : token ∉ s.invoked) (known : token ∈ next.messages.map Message.token)
    (older : s.messages.map Message.token ⊆ next.messages.map Message.token) :
    next.invoked.Nodup ∧ ∀ called ∈ next.invoked, called ∈ next.messages.map Message.token := by
  rw [invoked]
  constructor
  · rw [← List.concat_eq_append, List.nodup_concat]
    exact ⟨uncalled, completed.once⟩
  · intro called member
    rw [List.mem_append, List.mem_singleton] at member
    rcases member with old | rfl
    · exact older (completed.accepted called old)
    · exact known

theorem Completed.accept (completed : Completed s) {message : Message Nat}
    (fresh : message.token ∉ s.messages.map Message.token)
    (messages : next.messages = s.messages ++ [message]) (complete : Prop) [Decidable complete]
    (invoked : next.invoked = s.invoked ++ if complete then [message.token] else [])
    (unsents : unsent next.taken next.messages =
      unsent s.taken s.messages ++ if complete then [] else [message.token]) : Completed next := by
  have uncalled : message.token ∉ s.invoked := fun called => fresh (completed.accepted _ called)
  have others {token : Nat} (member : token ∈ next.messages.map Message.token) :
      token ∈ s.messages.map Message.token ∧ token ≠ message.token ∨ token = message.token := by
    rw [messages, List.map_append, List.mem_append, List.map_singleton, List.mem_singleton] at member
    rcases member with old | new
    · exact .inl ⟨old, fun same => fresh (same ▸ old)⟩
    · exact .inr new
  have older : s.messages.map Message.token ⊆ next.messages.map Message.token := by
    rw [messages, List.map_append]
    exact List.subset_append_left _ _
  by_cases done : complete
  · rw [if_pos done] at invoked unsents
    rw [List.append_nil] at unsents
    obtain ⟨once, accepted⟩ := completed.call invoked uncalled (by simp [messages]) older
    refine ⟨once, accepted, ?_⟩
    intro token member
    rw [invoked, unsents, List.mem_append, List.mem_singleton]
    rcases others member with ⟨old, different⟩ | rfl
    · simpa [different] using completed.waiting token old
    · simpa using fun waits => fresh ((unsent_sublist _ _).subset waits)
  · rw [if_neg done] at invoked unsents
    rw [List.append_nil] at invoked
    constructor
    · exact invoked ▸ completed.once
    · intro token called
      rw [invoked] at called
      exact older (completed.accepted token called)
    · intro token member
      rw [invoked, unsents, List.mem_append, List.mem_singleton]
      rcases others member with ⟨old, different⟩ | rfl
      · simpa [different] using completed.waiting token old
      · simpa using uncalled

theorem Sound.unsent_nodup (sound : Sound id s) : (unsent s.taken s.messages).Nodup :=
  (unsent_sublist s.taken s.messages).nodup sound.distinct

theorem Completed.uncalled (completed : Completed s) (waits : token ∈ unsent s.taken s.messages) :
    token ∈ s.messages.map Message.token ∧ token ∉ s.invoked := by
  have accepted := (unsent_sublist s.taken s.messages).subset waits
  exact ⟨accepted, (completed.waiting token accepted).mpr waits⟩

/-- A write without a callback must not finish a message. -/
theorem Completed.unfinished_iff (completed : Completed s) (sound : Sound id s)
    (messages : next.messages = s.messages) (invoked : next.invoked = s.invoked)
    (suffix : unsent next.taken s.messages <:+ unsent s.taken s.messages) :
    Completed next ↔ unsent next.taken s.messages = unsent s.taken s.messages := by
  constructor
  · intro after
    obtain ⟨finished, split⟩ := suffix
    cases finished with
    | nil => exact split
    | cons token finished =>
        have waits : token ∈ unsent s.taken s.messages := by simp [← split]
        obtain ⟨accepted, uncalled⟩ := completed.uncalled waits
        rw [← messages] at accepted
        rw [← invoked] at uncalled
        have still := (after.waiting token accepted).mp uncalled
        rw [messages] at still
        have distinct := sound.unsent_nodup
        rw [← split, List.cons_append, List.nodup_cons] at distinct
        exact absurd (List.mem_append_right finished still) distinct.1
  · exact completed.same messages invoked

theorem Completed.drained_iff (completed : Completed s) (sound : Sound id s)
    (messages : next.messages = s.messages) (invoked : next.invoked = s.invoked ++ [token])
    (last : token ∈ unsent s.taken s.messages)
    (nothing : unsent next.taken s.messages = []) :
    Completed next ↔ (unsent s.taken s.messages).length ≤ 1 := by
  constructor
  · intro after
    have only {other : Nat} (waits : other ∈ unsent s.taken s.messages) : other = token := by
      obtain ⟨accepted, uncalled⟩ := completed.uncalled waits
      rw [← messages] at accepted
      by_contra different
      have still := (after.waiting other accepted).mp (by simp [invoked, uncalled, different])
      rw [messages, nothing] at still
      cases still
    have alone : unsent s.taken s.messages ⊆ [token] := fun other waits =>
      List.mem_singleton.mpr (only waits)
    exact (List.Nodup.subperm sound.unsent_nodup alone).length_le
  · intro short
    obtain ⟨other, alone⟩ : ∃ other, unsent s.taken s.messages = [other] := by
      rw [← List.length_eq_one_iff]
      have some_waits := List.length_pos_of_mem last
      omega
    rw [alone, List.mem_singleton] at last
    subst last
    have waits : token ∈ unsent s.taken s.messages := by simp [alone]
    obtain ⟨known, uncalled⟩ := completed.uncalled waits
    rw [← messages] at known
    obtain ⟨once, accepted⟩ := completed.call invoked uncalled known (by rw [messages]; simp)
    refine ⟨once, accepted, ?_⟩
    intro other member
    rw [messages] at member ⊢
    have waiting := completed.waiting other member
    rw [alone, List.mem_singleton] at waiting
    rw [invoked, nothing, List.mem_append, List.mem_singleton]
    have called : other ∈ s.invoked ∨ other = token := by
      by_contra neither
      rw [not_or] at neither
      exact neither.2 (waiting.mp neither.1)
    simp [called]

/-! The steps. -/

variable {outcome : EpollReactor × List ReactorCall} {after : TcpConnection} {device : TcpSocket}

theorem returned_taken (live : Live outcome.1 id after device) :
    (s.returned id outcome).taken = device.accepted.length := by
  simp [returned, live.device]

theorem Held.returned (live : Live outcome.1 id after device)
    (level : Level device.accepted.length s.messages after) : Held id (s.returned id outcome) := by
  rw [Held, returned_taken live]
  dsimp only [CompletionRun.returned]
  split
  · left
    refine ⟨SendRun.closeSocket_connections live.device, ?_⟩
    rw [closeSocket_sockets, Function.update_self]
  · exact .inr ⟨after, device, live, rfl, level⟩

theorem returned_close (r : EpollReactor) {token : Nat} (closes : token ∈ s.closing) :
    (s.returned id (r.runSendComplete id (some (.user token)))).reactor =
      (r.runSendComplete id (some .close)).1 := by
  simp [returned, runSendComplete, invokedToken, closes]

theorem Sound.attempt_fresh (sound : Sound id s) : s.attempts ∉ s.messages.map Message.token :=
  fun member => lt_irrefl _ (sound.fresh _ member)

theorem Sound.attempted (sound : Sound id s) (closes : Bool) (size : Nat) (accepted : Bool)
    (held : Held id ((s.attempted closes size accepted).returned id outcome)) :
    Sound id ((s.attempted closes size accepted).returned id outcome) := by
  have older {token : Nat} (member : token ∈ s.messages.map Message.token) :
      token < s.attempts + 1 :=
    (sound.fresh token member).trans (Nat.lt_succ_self _)
  refine ⟨?_, ?_, held⟩
  · intro token member
    cases accepted with
    | false => exact older member
    | true =>
        simp only [returned, CompletionRun.attempted, ↓reduceIte, List.map_append, List.map_singleton,
          List.mem_append, List.mem_singleton] at member ⊢
        rcases member with old | rfl
        · exact older old
        · exact Nat.lt_succ_self _
  · cases accepted with
    | false => exact sound.distinct
    | true =>
        simp only [returned, CompletionRun.attempted, ↓reduceIte, List.map_append, List.map_singleton]
        rw [← List.concat_eq_append, List.nodup_concat]
        exact ⟨sound.attempt_fresh, sound.distinct⟩

theorem Sound.sendMessage (sound : Sound id s) {closes : Bool} {buffer : List UInt8}
    {env : SendEnv} (admissible : Admissible id s (.sendMessage closes buffer env))
    (taken : s.step id (.sendMessage closes buffer env) = some next) :
    Sound id next ∧ (Completed s → Completed next) := by
  simp only [step, Option.some.injEq] at taken
  rcases sound.held with ⟨absent, closed⟩ | ⟨connection, socket, live, accepted, level⟩
  · have nothing : s.reactor.sendMessage id buffer (some (.user s.attempts)) env =
        (false, s.reactor, []) := by
      rw [EpollReactor.sendMessage, absent]
    rw [nothing] at taken
    have same : (s.attempted closes buffer.length false).returned id (s.reactor, []) =
        s.attempted closes buffer.length false := by
      simp [returned, CompletionRun.attempted, closed]
    constructor
    · rw [← taken]
      apply sound.attempted
      rw [same]
      exact .inl ⟨absent, closed⟩
    · intro completed
      rw [← taken, same]
      exact completed.same rfl rfl rfl
  · obtain ⟨answers, fits⟩ := admissible connection live.found
    obtain ⟨more, after, device, spec⟩ := live.sendMessage s.attempts answers fits
    generalize s.reactor.sendMessage id buffer (some (.user s.attempts)) env = result at spec taken
    obtain ⟨ok, sent, calls⟩ := result
    obtain ⟨reached, counted, direct, ending⟩ := spec
    rw [accepted] at counted
    have counts : next.taken = s.taken + more := by
      rw [← taken, returned_taken reached, counted]
    cases ending with
    | refused unconnected writeBuffer slot =>
        constructor
        · rw [← taken]
          apply sound.attempted
          apply Held.returned reached
          rw [counted]
          exact level.refused direct unconnected writeBuffer slot
        · intro completed
          apply completed.same
          · rw [← taken]
            rfl
          · rw [← taken]
            exact List.append_nil s.invoked
          · rw [counts]
            exact unsent_direct (level.direct direct)
    | waits connected part slot readable =>
        have full := level.exact (.inl connected)
        constructor
        · rw [← taken]
          apply sound.attempted
          apply Held.returned reached
          rw [counted]
          exact level.accepted direct connected part.le (slot.trans (if_neg (not_le.mpr part)).symm)
            readable
        · intro completed
          have messages : next.messages = s.messages ++ [⟨s.attempts, buffer.length⟩] := by
            rw [← taken]
            rfl
          apply completed.accept sound.attempt_fresh messages (buffer.length ≤ more)
          · rw [← taken, if_neg (by omega)]
            rfl
          · rw [counts, messages]
            exact unsent_message _ (by omega) (level.direct direct)
    | complete connected all =>
        have full := level.exact (.inl connected)
        subst all
        constructor
        · rw [← taken]
          apply sound.attempted
          apply Held.returned reached
          rw [counted]
          exact level.accepted direct connected le_rfl (if_pos le_rfl).symm (by omega)
        · intro completed
          have messages : next.messages = s.messages ++ [⟨s.attempts, buffer.length⟩] := by
            rw [← taken]
            rfl
          apply completed.accept sound.attempt_fresh messages (buffer.length ≤ buffer.length)
          · rw [← taken, if_pos le_rfl]
            rfl
          · rw [counts, messages]
            exact unsent_message _ (by omega) (level.direct direct)

theorem Sound.onSocketWrite (sound : Sound id s) {env : SendEnv}
    (admissible : Admissible id s (.onSocketWrite env))
    (taken : s.step id (.onSocketWrite env) = some next) :
    Sound id next ∧ (Completed s → (Completed next ↔ FinishesLast id s (.onSocketWrite env))) := by
  simp only [step, Option.some.injEq] at taken
  rcases sound.held with ⟨absent, closed⟩ | ⟨connection, socket, live, accepted, level⟩
  · have same : s.returned id (s.reactor.onSocketWrite id env) = s := by
      simp [EpollReactor.onSocketWrite, absent, returned, closed]
    rw [same] at taken
    rw [← taken]
    exact ⟨sound, fun completed => iff_of_true completed fun here => absurd absent here⟩
  · have here : s.reactor.connections id ≠ none := by simp [live.found]
    have finishes : FinishesLast id s (.onSocketWrite env) ↔
        unsent (s.taken + env.result.bytes) s.messages = unsent s.taken s.messages ∨
          (unsent s.taken s.messages).length ≤ 1 :=
      ⟨fun fits => fits here, fun fits _ => fits⟩
    rw [finishes]
    obtain ⟨after, device, spec⟩ := live.onSocketWrite (admissible connection live.found) level.slot
    generalize s.reactor.onSocketWrite id env = result at spec taken
    obtain ⟨written, calls⟩ := result
    obtain ⟨reached, counted, status, readable, ending⟩ := spec
    dsimp only at ending
    rw [accepted] at counted
    have counts : next.taken = s.taken + env.result.bytes := by
      rw [← taken, returned_taken reached, counted]
    have messages : next.messages = s.messages := by
      rw [← taken]
      rfl
    have invoked : next.invoked = s.invoked ++ calls.filterMap invokedToken := by
      rw [← taken]
      rfl
    have soundness (level : Level (s.taken + env.result.bytes) s.messages after) :
        Sound id next := by
      rw [← taken]
      exact ⟨sound.fresh, sound.distinct, .returned reached (counted ▸ level)⟩
    rcases ending with ⟨quiet, slot, left⟩ | ⟨empty, slot, called⟩
    · refine ⟨soundness (level.kept status readable slot left), ?_⟩
      intro completed
      rw [level.finishes_iff readable left, ← counts]
      apply completed.unfinished_iff sound messages
      · rw [invoked, quiet]
        exact List.append_nil s.invoked
      · rw [counts]
        exact unsent_suffix s.taken env.result.bytes s.messages
    · obtain ⟨drained, nothing⟩ := level.drained readable empty slot status
      refine ⟨soundness drained, ?_⟩
      intro completed
      cases last : (unsent s.taken s.messages).getLast? with
      | none =>
          rw [last] at called
          have before := List.getLast?_eq_none_iff.mp last
          apply iff_of_true
          · apply completed.same messages
            · rw [invoked, show calls = [] from called]
              exact List.append_nil s.invoked
            · rw [counts, nothing, before]
          · exact .inl (nothing.trans before.symm)
      | some token =>
          rw [last] at called
          have waits := List.mem_of_getLast? last
          have differs : unsent (s.taken + env.result.bytes) s.messages ≠
              unsent s.taken s.messages := by
            rw [nothing]
            exact (List.ne_nil_of_mem waits).symm
          rw [or_iff_right differs]
          apply completed.drained_iff sound messages _ waits
          · rw [counts, nothing]
          · rw [invoked, show calls = [.sendCompleteCb id token] from called]
            rfl

def start (attached : EpollReactor) : CompletionRun :=
  { reactor := attached, attempts := 0, closing := [], messages := [], invoked := [], taken := 0 }

theorem Sound.start {r attached : EpollReactor} {socket : TcpSocket} {granted : Bool}
    (fresh : socket.accepted = []) (unknown : r.connections id = none)
    (initSize : r.connWriteBufferInitSize < sizeModulus)
    (expandSize : 0 < r.connWriteBufferExpandSize)
    (entered : r.attachSocket id socket granted = (true, attached)) :
    Sound id (CompletionRun.start attached) := by
  have sending := sending_attached unknown initSize expandSize entered
  have live : Live attached id (r.newConnection id)
      { socket with readCb := true, errorCb := true, attached := true } :=
    ⟨sending.found, sending.device, sending.identity, sending.valid⟩
  refine ⟨nofun, List.nodup_nil, .inr ⟨_, _, live, ?_, ?_⟩⟩
  · simp [fresh, CompletionRun.start]
  · exact ⟨Nat.zero_le _, fun _ => rfl, rfl⟩

/-- From the moment a connection is attached, the messages that have not been called back are
those with unsent bytes, exactly as long as no write takes the last byte of a message while
another one waits. -/
theorem completed_every_iff {r attached : EpollReactor} {socket : TcpSocket} {granted : Bool}
    (fresh : socket.accepted = []) (unknown : r.connections id = none)
    (initSize : r.connWriteBufferInitSize < sizeModulus)
    (expandSize : 0 < r.connWriteBufferExpandSize)
    (entered : r.attachSocket id socket granted = (true, attached)) (events : List CompletionEvent)
    (admissible : Along (step id) (Admissible id) (CompletionRun.start attached) events) :
    Every (step id) Completed (CompletionRun.start attached) events ↔
      Along (step id) (FinishesLast id) (CompletionRun.start attached) events := by
  have preserved {s next : CompletionRun} {event : CompletionEvent} (sound : Sound id s)
      (admissible : Admissible id s event) (taken : s.step id event = some next) :
      Sound id next := by
    cases event with
    | sendMessage closes buffer env => exact (sound.sendMessage admissible taken).1
    | onSocketWrite env => exact (sound.onSocketWrite admissible taken).1
  apply every_iff_along preserved
  · intro s event next sound admissible completed taken
    cases event with
    | sendMessage closes buffer env =>
        exact iff_of_true ((sound.sendMessage admissible taken).2 completed) trivial
    | onSocketWrite env => exact (sound.onSocketWrite admissible taken).2 completed
  · intro s event stuck
    cases event <;> simp [step] at stuck
  · exact .start fresh unknown initSize expandSize entered
  · exact ⟨List.nodup_nil, nofun, nofun⟩
  · exact admissible

theorem completed_every_iff_thenClose :
    Every (step 7) Completed (CompletionRun.start justAttached.reactor)
      [.sendMessage false [1] (takesBytes 1), .sendMessage true [2, 3] (takesBytes 1),
        .onSocketWrite (takesBytes 1)] :=
  (@completed_every_iff 7 (EpollReactor.create.setBufferSizes 65536 65536) _ .create true rfl rfl
    (by decide) (by decide) rfl _ (by decide +kernel)).mpr (by decide +kernel)

theorem completed_lost :
    let events := [.sendMessage false [1, 2] (takesBytes 1), .sendMessage false [3] (takesBytes 0),
      .onSocketWrite (takesBytes 2)]
    Along (step 7) (Admissible 7) (CompletionRun.start justAttached.reactor) events ∧
      ¬ Every (step 7) Completed (CompletionRun.start justAttached.reactor) events := by
  intro events
  refine ⟨by decide +kernel, ?_⟩
  intro every
  have reached : (run (step 7) (CompletionRun.start justAttached.reactor) events).map
      (fun finish => (finish.messages, finish.taken, finish.invoked)) =
        some ([⟨0, 2⟩, ⟨1, 1⟩], 3, [1]) := by
    decide +kernel
  rw [Option.map_eq_some_iff] at reached
  obtain ⟨finish, reached, facts⟩ := reached
  simp only [Prod.mk.injEq] at facts
  obtain ⟨messages, taken, invoked⟩ := facts
  have waiting := (every.finish reached).waiting 0
  rw [messages, taken, invoked] at waiting
  revert waiting
  decide

end CompletionRun

end ZBlueNet
