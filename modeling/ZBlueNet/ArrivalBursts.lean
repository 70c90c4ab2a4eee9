import ZBlueNet.OfferedBytes

/-!
A stream of whole frames at a `NetThread`. Frames are taken out only behind the read
loop, so the limit of the read buffer bounds what arrives in one call: the unfinished
frame of earlier calls, what `recv` has returned and what it is asked for.
-/

namespace ZBlueNet

open Runs EpollReactor NetThread StreamParser NetProtocol

namespace EpollReactor

/-- The peer keeps the connection open: `recv` returns bytes, or there are none for now. -/
def RecvAnswer.Open (answer : RecvAnswer) : Prop :=
  answer.received = .inr eagain ∨ ∃ bytes, bytes ≠ [] ∧ answer.received = .inl bytes

/-- In no turn of the loop are the bytes that wait and those that are asked for more than the limit.
`waiting` counts the bytes that are unread when the loop comes to the answers. -/
def staysWithin (maxSize : Nat) : List RecvAnswer → Bool → Nat → Bool
  | [], _, _ => true
  | answer :: answers, dataArrive, waiting =>
      if dataArrive ∧ answer.readableBytes = 0 then true
      else if bytesToRead answer + waiting > maxSize then false
      else
        match answer.received with
        | .inl bytes => staysWithin maxSize answers true (waiting + bytes.length)
        | .inr _ => true

theorem staysWithin_add {small maxSize waiting more : Nat} {answers : List RecvAnswer}
    {dataArrive : Bool} (room : small + more ≤ maxSize)
    (within : staysWithin small answers dataArrive waiting = true) :
    staysWithin maxSize answers dataArrive (waiting + more) = true := by
  induction answers generalizing dataArrive waiting with
  | nil => rfl
  | cons answer answers ih =>
      rw [staysWithin] at within ⊢
      split at within
      · rename_i drained
        rw [if_pos drained]
      · rename_i goesOn
        rw [if_neg goesOn]
        split at within
        · cases within
        · rename_i fits
          rw [if_neg (by omega)]
          split at within
          · rename_i bytes came
            rw [Nat.add_right_comm]
            exact ih within
          · rfl

variable {maxSize : Nat} {answers : List RecvAnswer} {dataArrive arrived : Bool}
  {readBuffer last : DynamicBuffer} {ending : ReadEnd}

theorem readTurn_open {answer : RecvAnswer} (dataArrive : Bool) (limited : 0 < maxSize)
    (valid : readBuffer.Valid) (fit : ReadsFit maxSize (answer :: answers) readBuffer)
    (keepsOpen : answer.Open) :
    match readTurn maxSize answer dataArrive readBuffer with
    | .stop ending _ =>
        ending = if staysWithin maxSize (answer :: answers) dataArrive readBuffer.readableBytes
          then .drained else .peerClose
    | .received _ stored =>
        staysWithin maxSize (answer :: answers) dataArrive readBuffer.readableBytes =
          staysWithin maxSize answers true stored.readableBytes := by
  cases turn : readTurn maxSize answer dataArrive readBuffer with
  | stop ending stored =>
      dsimp only
      rw [readTurn, fit.sizeAdd_eq] at turn
      rw [staysWithin]
      split at turn
      · rename_i drained
        cases turn
        simp [drained]
      · rename_i goesOn
        rw [if_neg goesOn]
        split at turn
        · rename_i full
          cases turn
          simp [full.2]
        · rename_i notFull
          rw [if_neg (fun more => notFull ⟨limited, more⟩)]
          rcases keepsOpen with again | ⟨bytes, nonempty, came⟩
          · rw [again] at turn ⊢
            cases turn
            rfl
          · rw [came] at turn
            cases bytes with
            | nil => exact absurd rfl nonempty
            | cons byte rest => cases turn
  | received bytes stored =>
      obtain ⟨came, nonempty, kept, content, -, -⟩ := readTurn_received valid fit turn
      have more := congrArg List.length content
      rw [kept.content_length, List.length_append, valid.content_length] at more
      rw [readTurn, fit.sizeAdd_eq] at turn
      dsimp only
      rw [staysWithin]
      split at turn
      · cases turn
      · rename_i goesOn
        rw [if_neg goesOn]
        split at turn
        · cases turn
        · rename_i notFull
          rw [if_neg (fun more => notFull ⟨limited, more⟩), came, more]

/-- With an open peer the loop ends with the kernel's bytes drained, or at the limit. -/
theorem readLoop_open (dataArrive : Bool) (limited : 0 < maxSize) (valid : readBuffer.Valid)
    (fit : ReadsFit maxSize answers readBuffer) (keepsOpen : ∀ answer ∈ answers, answer.Open) :
    match readLoop maxSize answers dataArrive readBuffer with
    | none => staysWithin maxSize answers dataArrive readBuffer.readableBytes = true
    | some (ending, _, _) =>
        ending = if staysWithin maxSize answers dataArrive readBuffer.readableBytes
          then .drained else .peerClose := by
  induction answers generalizing dataArrive readBuffer with
  | nil => rfl
  | cons answer answers ih =>
      rw [List.forall_mem_cons] at keepsOpen
      have here := readTurn_open dataArrive limited valid fit keepsOpen.1
      rw [readLoop_cons]
      cases turn : readTurn maxSize answer dataArrive readBuffer with
      | stop stopped stored =>
          rw [turn] at here
          exact here
      | received bytes stored =>
          rw [turn] at here
          obtain ⟨-, -, kept, -, -, later⟩ := readTurn_received valid fit turn
          rw [here]
          exact ih true kept later keepsOpen.2

end EpollReactor

structure StreamRun (Callback Message : Type) where
  thread : NetThread Callback Message
  received : List UInt8

namespace StreamRun

variable {Callback Message : Type}

def start (thread : NetThread Callback Message) : StreamRun Callback Message :=
  { thread := thread, received := [] }

def Kept (socketId : SocketId) (s : StreamRun Callback Message) : Prop :=
  s.thread.reactor.connections socketId ≠ none

/-- What the kernel may answer while the peer sends the stream and keeps the connection open. -/
def Arrives (stream : List UInt8) (socketId : SocketId) (s : StreamRun Callback Message)
    (answers : List RecvAnswer) : Prop :=
  ∀ connection, s.thread.reactor.connections socketId = some connection →
    (∀ answer ∈ answers, answer.Fits ∧ answer.Open) ∧
      s.received ++ receivedBytes s.thread.reactor.connReadBufferMaxSize answers false
        connection.readBuffer <+: stream

section Steps

variable [BaseStruct Message]

def step (server : GameServer Message) (socketId : SocketId) (s : StreamRun Callback Message)
    (answers : List RecvAnswer) : Option (StreamRun Callback Message) :=
  match s.thread.reactor.connections socketId with
  | none => none
  | some connection =>
      (s.thread.onSocketRead server socketId answers).map fun outcome =>
        { thread := outcome.1
          received := s.received ++ receivedBytes s.thread.reactor.connReadBufferMaxSize answers
            false connection.readBuffer }

def unfinished (protocol : NetProtocol Message) (received : List UInt8) : List UInt8 :=
  (drain protocol.parser received).pending.getD []

def WithinLimit (server : GameServer Message) (s : StreamRun Callback Message)
    (answers : List RecvAnswer) : Prop :=
  staysWithin 81920 answers false (unfinished server.netProtocol s.received).length = true

variable {server : GameServer Message} {callback : Callback}
  {thread : NetThread Callback Message} {socketId : SocketId} {connection : TcpConnection}

theorem onRecvMessage_waiting (called : thread.newNetCmdCb = some callback)
    (found : thread.reactor.connections socketId = some connection)
    (valid : connection.readBuffer.Valid) {rest : List UInt8}
    (waiting : (drain server.netProtocol.parser connection.readBuffer.content).pending =
      some rest) :
    ∃ parsed handed, thread.onRecvMessage server socketId = some (thread.setReactor
        (thread.reactor.setConnection socketId { connection with readBuffer := parsed }), handed) ∧
      parsed.content = rest := by
  have enough : connection.readBuffer.content.length / 4 < recvTurns connection.readBuffer := by
    rw [valid.content_length, recvTurns]
    omega
  have same := recvLoop_simulates server.netProtocol callback ⟨thread.id, socketId⟩
    (recvTurns connection.readBuffer) connection.readBuffer valid enough
  rw [← called] at same
  let run := server.onRecvMessage thread.id socketId thread.newNetCmdCb connection.readBuffer
  have settled : run.exit = .waiting ∧ run.buffer.content = rest := by
    obtain ⟨running, content, -, -⟩ := same.pending rest waiting
    exact ⟨running, content⟩
  refine ⟨run.buffer, run.handed, ?_, settled.2⟩
  simp only [NetThread.onRecvMessage, found]
  rw [settled.1]
  rfl

theorem onSocketRead_drained (called : thread.newNetCmdCb = some callback)
    (found : thread.reactor.connections socketId = some connection) {answers : List RecvAnswer}
    {ending : ReadEnd} {arrived : Bool} {last : DynamicBuffer} {rest : List UInt8}
    (unfailed : ∀ errno, ending ≠ .failed errno)
    (loop : readLoop thread.reactor.connReadBufferMaxSize answers false connection.readBuffer =
      some (ending, arrived, last)) (valid : last.Valid)
    (waiting : (drain server.netProtocol.parser last.content).pending = some rest)
    (quiet : arrived = false → last.content = rest) :
    ∃ parsed handed, parsed.content = rest ∧
      thread.onSocketRead server socketId answers =
        let received := thread.setReactor
          (thread.reactor.setConnection socketId { connection with readBuffer := parsed })
        match ending with
        | .peerClose =>
            (received.afterReactor server
              (received.reactor.onSocketReadPeerClose socketId)).map fun closed =>
                (closed.1, handed ++ closed.2)
        | .drained | .failed _ => some (received, handed) := by
  have looped : thread.reactor.onSocketReadLoop socketId answers = some (ending,
      thread.reactor.setConnection socketId { connection with readBuffer := last },
      if arrived then [.recvMessageCb socketId] else []) := by
    simp only [EpollReactor.onSocketReadLoop, found, loop]
  cases arrived with
  | false =>
      refine ⟨last, [], quiet rfl, ?_⟩
      simp only [NetThread.onSocketRead, looped, Option.bind_some, Bool.false_eq_true, if_false,
        afterReactor, onReactorCalls]
      rfl
  | true =>
      let stored := thread.setReactor
        (thread.reactor.setConnection socketId { connection with readBuffer := last })
      have there : stored.reactor.connections socketId =
          some { connection with readBuffer := last } := by
        simp [stored, setReactor, EpollReactor.setConnection]
      have callbackSet : stored.newNetCmdCb = some callback := called
      obtain ⟨parsed, handed, parsing, content⟩ :=
        onRecvMessage_waiting callbackSet there valid waiting
      have replaced : stored.reactor.setConnection socketId
          { connection with readBuffer := parsed } =
            thread.reactor.setConnection socketId { connection with readBuffer := parsed } := by
        simp [stored, setReactor, EpollReactor.setConnection]
      dsimp only at parsing
      rw [replaced] at parsing
      refine ⟨parsed, handed, content, ?_⟩
      simp only [NetThread.onSocketRead, looped, Option.bind_some, if_true, afterReactor_single,
        onReactorCall]
      rw [show (thread.setReactor _).onRecvMessage server socketId = _ from parsing]
      cases ending <;> rfl

theorem afterPeerClose_gone (server : GameServer Message)
    (called : thread.newNetCmdCb = some callback) (served : Served thread.reactor)
    (found : thread.reactor.connections socketId = some connection) :
    ∃ closed, thread.afterReactor server (thread.reactor.onSocketReadPeerClose socketId) =
      some closed ∧ closed.1.reactor.connections socketId = none := by
  have attached : (thread.reactor.sockets socketId).isSome := by
    rw [served.attached, found]
    rfl
  simp only [EpollReactor.onSocketReadPeerClose, found, afterReactor_single, onReactorCall,
    onPeerClose, NetThread.closeSocket, sendNetCommand, setReactor, called, Option.map_some,
    Option.some.injEq, exists_eq_left']
  rw [closeSocket_setConnection attached, served.closeSocket_connections, Function.update_self]

structure Draining (server : GameServer Message) (callback : Callback) (socketId : SocketId)
    (s : StreamRun Callback Message) : Prop where
  served : Served s.thread.reactor
  readable : Readable s.thread.reactor
  called : s.thread.newNetCmdCb = some callback
  limit : s.thread.reactor.connReadBufferMaxSize = 81920
  expands : s.thread.reactor.connReadBufferExpandSize = 1024
  waits : ∃ connection, s.thread.reactor.connections socketId = some connection ∧
    (drain server.netProtocol.parser s.received).pending = some connection.readBuffer.content

variable {s next : StreamRun Callback Message} {answers : List RecvAnswer}

theorem unfinished_short (limit : server.netProtocol.maxPacketLength = 40960)
    (received : List UInt8) : (unfinished server.netProtocol received).length < 40960 := by
  unfold unfinished
  cases pending : (drain server.netProtocol.parser received).pending with
  | none => decide
  | some rest =>
      have more : server.netProtocol.parseFrame rest = .more := drain_pending_more pending
      have short := parseFrame_more_length more
      rw [limit] at short
      simp only [Option.getD_some]
      omega

theorem Draining.fit (draining : Draining server callback socketId s)
    (limit : server.netProtocol.maxPacketLength = 40960)
    (found : s.thread.reactor.connections socketId = some connection)
    (fits : ∀ answer ∈ answers, answer.Fits) :
    connection.readBuffer.readableBytes = (unfinished server.netProtocol s.received).length ∧
      ReadsFit s.thread.reactor.connReadBufferMaxSize answers connection.readBuffer := by
  obtain ⟨connected, placed, waiting⟩ := draining.waits
  cases found.symm.trans placed
  have valid := draining.readable.valid socketId connection found
  have size : connection.readBuffer.readableBytes =
      (unfinished server.netProtocol s.received).length := by
    rw [unfinished, waiting, Option.getD_some, valid.content_length]
  have short := unfinished_short limit s.received
  refine ⟨size, fits, .inl ?_⟩
  rw [draining.limit, draining.readable.expands socketId connection found, draining.expands,
    sizeModulus]
  omega

theorem Draining.read (draining : Draining server callback socketId s)
    (limit : server.netProtocol.maxPacketLength = 40960) {stream rest : List UInt8}
    (frames : (drain server.netProtocol.parser stream).pending = some rest)
    (arrives : Arrives stream socketId s answers)
    (found : s.thread.reactor.connections socketId = some connection) {ending : ReadEnd}
    {arrived : Bool} {last : DynamicBuffer} (unfailed : ∀ errno, ending ≠ .failed errno)
    (loop : readLoop s.thread.reactor.connReadBufferMaxSize answers false connection.readBuffer =
      some (ending, arrived, last)) :
    ∃ parsed handed,
      (drain server.netProtocol.parser (s.received ++ receivedBytes
        s.thread.reactor.connReadBufferMaxSize answers false connection.readBuffer)).pending =
          some parsed.content ∧
      s.thread.onSocketRead server socketId answers =
        let received := s.thread.setReactor
          (s.thread.reactor.setConnection socketId { connection with readBuffer := parsed })
        match ending with
        | .peerClose =>
            (received.afterReactor server
              (received.reactor.onSocketReadPeerClose socketId)).map fun closed =>
                (closed.1, handed ++ closed.2)
        | .drained | .failed _ => some (received, handed) := by
  obtain ⟨connected, placed, waiting⟩ := draining.waits
  cases found.symm.trans placed
  obtain ⟨answered, later, whole⟩ := arrives connection found
  have valid := draining.readable.valid socketId connection found
  obtain ⟨-, fit⟩ := draining.fit limit found fun answer member => (answered answer member).1
  obtain ⟨lastValid, -, content, came⟩ := readLoop_content valid fit loop
  rw [← whole] at frames
  obtain ⟨unread, parses⟩ := drain_pending_prefix frames
  have parsing := parses
  rw [drain_append_pending _ waiting, ← content] at parsing
  have quiet : arrived = false → last.content = unread := by
    intro nothing
    have empty : receivedBytes s.thread.reactor.connReadBufferMaxSize answers false
        connection.readBuffer = [] := by
      by_contra some
      simp [came.mpr (.inr some)] at nothing
    rw [empty, List.append_nil] at content parses
    rw [content]
    exact Option.some.inj (waiting.symm.trans parses)
  obtain ⟨parsed, handed, taken, read⟩ :=
    onSocketRead_drained draining.called found unfailed loop lastValid parsing quiet
  exact ⟨parsed, handed, by rw [taken, parses], read⟩

theorem Draining.step (draining : Draining server callback socketId s)
    (limit : server.netProtocol.maxPacketLength = 40960) {stream rest : List UInt8}
    (frames : (drain server.netProtocol.parser stream).pending = some rest)
    (arrives : Arrives stream socketId s answers) :
    match s.step server socketId answers with
    | none => WithinLimit server s answers
    | some next =>
        (WithinLimit server s answers → Draining server callback socketId next) ∧
          (Kept socketId next → WithinLimit server s answers) := by
  rw [WithinLimit]
  obtain ⟨connection, found, -⟩ := draining.waits
  obtain ⟨answered, -⟩ := arrives connection found
  have valid := draining.readable.valid socketId connection found
  obtain ⟨size, fit⟩ := draining.fit limit found fun answer member => (answered answer member).1
  have ends := readLoop_open false (by rw [draining.limit]; decide) valid fit
    fun answer member => (answered answer member).2
  have handled : s.thread.handle server (.onSocketRead socketId answers) =
      s.thread.onSocketRead server socketId answers := by
    simp [handle, found]
  cases loop : readLoop s.thread.reactor.connReadBufferMaxSize answers false
      connection.readBuffer with
  | none =>
      rw [loop, size, draining.limit] at ends
      have stuck : s.step server socketId answers = none := by
        simp [StreamRun.step, found, NetThread.onSocketRead, EpollReactor.onSocketReadLoop, loop]
      rw [stuck]
      exact ends
  | some ended =>
      obtain ⟨ending, arrived, last⟩ := ended
      rw [loop, size] at ends
      simp only [draining.limit] at ends
      have unfailed (errno : Int) : ending ≠ .failed errno := by
        rw [ends]
        split <;> simp
      obtain ⟨parsed, handed, parses, read⟩ :=
        draining.read limit frames arrives found unfailed loop
      cases within : staysWithin 81920 answers false
          (unfinished server.netProtocol s.received).length with
      | true =>
          rw [within, if_pos rfl] at ends
          subst ends
          have kept := handle_kept draining.served (handled.trans read)
          have readable := onSocketRead_readable draining.readable found fit read
          simp only [StreamRun.step, found, read, Option.map_some]
          refine ⟨fun _ => ?_, fun _ => trivial⟩
          refine ⟨kept.1, readable, draining.called, draining.limit, draining.expands, ?_⟩
          exact ⟨_, Function.update_self _ _ _, parses⟩
      | false =>
          rw [within, if_neg (by simp)] at ends
          subst ends
          have received : Served (s.thread.reactor.setConnection socketId
              { connection with readBuffer := parsed }) :=
            draining.served.setConnection found rfl (draining.served.silent socketId connection found)
              (draining.served.status socketId connection found)
          let waiting := s.thread.setReactor
            (s.thread.reactor.setConnection socketId { connection with readBuffer := parsed })
          have called : waiting.newNetCmdCb = some callback := draining.called
          have placed : waiting.reactor.connections socketId =
              some { connection with readBuffer := parsed } := Function.update_self _ _ _
          obtain ⟨closed, closing, gone⟩ := afterPeerClose_gone server called received placed
          simp only [StreamRun.step, found, read]
          rw [show (s.thread.setReactor _).afterReactor server _ = some closed from closing]
          exact ⟨fun beyond => absurd beyond (by simp), fun kept => absurd gone kept⟩

theorem Draining.initial {createMessageFunc : Int → Option Message}
    {created : NetThread Callback Message} {maxRecvPacketLength id : Int}
    {maxSendPacketLength maxSendBufferSize : Nat}
    (init : (NetThread.create maxRecvPacketLength maxSendPacketLength createMessageFunc).init id
      81920 maxSendBufferSize (some callback) true = (true, created))
    {handed : Handed Callback Message}
    (attached : created.attach socketId true = some (thread, handed)) :
    Draining server callback socketId (start thread) := by
  cases init
  obtain ⟨rfl, -⟩ := attach_some attached
  have fresh : Served (EpollReactor.create.setBufferSizes 81920 maxSendBufferSize) := by
    refine ⟨fun _ => rfl, ?_, ?_, ?_⟩ <;>
      · intro id connection found
        cases found
  have placed : ((EpollReactor.create.setBufferSizes 81920 maxSendBufferSize).attachSocket
      socketId .create true).2.connections socketId =
        some (newConnection (EpollReactor.create.setBufferSizes 81920 maxSendBufferSize)
          socketId) := by
    simp [EpollReactor.attachSocket, EpollReactor.create, setBufferSizes, Epoller.add,
      insertConnection, setSocket, newConnection]
  refine ⟨(fresh.attachSocket .create true rfl).1, (readable_create _ _).attachSocket _ _ _, rfl,
    ?_, ?_, ?_⟩
  · simp [start, setReactor, EpollReactor.attachSocket, EpollReactor.create, setBufferSizes,
      Epoller.add, insertConnection, setSocket]
  · simp [start, setReactor, EpollReactor.attachSocket, EpollReactor.create, setBufferSizes,
      Epoller.add, insertConnection, setSocket]
  · refine ⟨_, placed, ?_⟩
    have empty : (newConnection (EpollReactor.create.setBufferSizes 81920 maxSendBufferSize)
        socketId).readBuffer.content = [] := DynamicBuffer.create_content 1024 1024
    rw [empty]
    exact congrArg Result.pending (drain_more rfl)

/-- The answers of one call bring and ask for at most 40961 bytes. -/
def SmallBurst (_ : StreamRun Callback Message) (answers : List RecvAnswer) : Prop :=
  staysWithin 40961 answers false 0 = true

/-- With the limits that a server gives its threads, a connection that brings only whole frames is
kept exactly as long as what waits and what is asked for stays within the limit of the read buffer,
and so in all runs with small bursts. -/
theorem kept_every_iff (server : GameServer Message)
    (limit : server.netProtocol.maxPacketLength = 40960) {createMessageFunc : Int → Option Message}
    {callback : Callback} {created thread : NetThread Callback Message}
    {maxRecvPacketLength id : Int} {maxSendPacketLength maxSendBufferSize : Nat}
    (init : (NetThread.create maxRecvPacketLength maxSendPacketLength createMessageFunc).init id
      81920 maxSendBufferSize (some callback) true = (true, created))
    {handed : Handed Callback Message}
    (attached : created.attach socketId true = some (thread, handed))
    (frames : List (List UInt8 × (Int × Message)))
    (accepted : ∀ frame ∈ frames, server.netProtocol.parseFrame frame.1 = .item frame.2 [])
    (events : List (List RecvAnswer))
    (arrives : Along (step server socketId) (Arrives (frames.map Prod.fst).flatten socketId)
      (start thread) events) :
    (Every (step server socketId) (Kept socketId) (start thread) events ↔
      Along (step server socketId) (WithinLimit server) (start thread) events) ∧
    (Along (step server socketId) SmallBurst (start thread) events →
      Every (step server socketId) (Kept socketId) (start thread) events) := by
  have parses := drain_frames server.netProtocol.parser rfl frames accepted
  have initial : Draining server callback socketId (start thread) := .initial init attached
  have decides {s next : StreamRun Callback Message} {answers : List RecvAnswer}
      (draining : Draining server callback socketId s)
      (arrives : Arrives (frames.map Prod.fst).flatten socketId s answers)
      (taken : s.step server socketId answers = some next) :
      (WithinLimit server s answers → Draining server callback socketId next) ∧
        (Kept socketId next → WithinLimit server s answers) := by
    have stepped := draining.step limit (congrArg Result.pending parses) arrives
    rw [taken] at stepped
    exact stepped
  have exactly : Every (step server socketId) (Kept socketId) (start thread) events ↔
      Along (step server socketId) (WithinLimit server) (start thread) events := by
    apply every_iff_along_of_kept
      (fun draining arrives taken kept =>
        (decides draining arrives taken).1 ((decides draining arrives taken).2 kept))
    · intro s answers next draining arrives _ taken
      refine ⟨(decides draining arrives taken).2, ?_⟩
      intro within absent
      obtain ⟨connection, found, -⟩ := ((decides draining arrives taken).1 within).waits
      rw [found] at absent
      cases absent
    · intro s answers draining arrives stuck
      have stepped := draining.step limit (congrArg Result.pending parses) arrives
      rw [stuck] at stepped
      exact stepped
    · exact initial
    · intro absent
      obtain ⟨connection, found, -⟩ := initial.waits
      rw [found] at absent
      cases absent
    · exact arrives
  refine ⟨exactly, ?_⟩
  intro small
  rw [exactly]
  apply small.mono
  intro s answers burst
  have short := unfinished_short limit s.received
  rw [WithinLimit, ← Nat.zero_add (unfinished _ _).length]
  exact staysWithin_add (by omega) burst

end Steps

/-! A burst of 20481 empty messages, which the kernel holds when the connection is read first. -/

def attachedThread : NetThread Unit RawMessage :=
  (rawThread 0).setReactor ((rawThread 0).reactor.attachSocket 9 .create true).2

theorem attachedThread_attach :
    (rawThread 0).attach 9 true = some (attachedThread, [((), .plain .new ⟨0, 9⟩)]) :=
  rfl

def emptyMessages (count : Nat) : List (List UInt8 × (Int × RawMessage)) :=
  List.replicate count ([0, 7, 0, 0], (7, ⟨[]⟩))

theorem emptyMessages_accepted (count : Nat) : ∀ frame ∈ emptyMessages count,
    (rawServer 40960).netProtocol.parseFrame frame.1 = .item frame.2 [] := by
  intro frame member
  rw [List.eq_of_mem_replicate member]
  rfl

theorem emptyMessages_length (count : Nat) :
    ((emptyMessages count).map Prod.fst).flatten.length = 4 * count := by
  simp [emptyMessages, Nat.mul_comm]

def burst : List RecvAnswer := [⟨81924, .inl ((emptyMessages 20481).map Prod.fst).flatten⟩]

theorem burst_ends (buffer : DynamicBuffer) (empty : buffer.readableBytes = 0) :
    readTurn 81920 ⟨81924, .inl ((emptyMessages 20481).map Prod.fst).flatten⟩ false buffer =
      .stop .peerClose buffer := by
  rw [readTurn, if_neg (by simp), if_pos]
  rw [empty]
  exact ⟨by decide, by decide⟩

theorem burst_closes :
    Along (step (rawServer 40960) 9) (Arrives ((emptyMessages 20481).map Prod.fst).flatten 9)
        (start attachedThread) [burst] ∧
      ¬Every (step (rawServer 40960) 9) (Kept 9) (start attachedThread) [burst] := by
  have found : attachedThread.reactor.connections 9 =
      some (newConnection (EpollReactor.create.setBufferSizes 81920 409600) 9) := rfl
  have arrives : Arrives ((emptyMessages 20481).map Prod.fst).flatten 9 (start attachedThread)
      burst := by
    intro connection there
    cases found.symm.trans there
    constructor
    · intro answer member
      rw [List.mem_singleton.mp member]
      refine ⟨⟨by decide, ?_⟩, .inr ⟨_, ?_, rfl⟩⟩
      · rintro bytes ⟨rfl⟩
        rw [emptyMessages_length]
        decide
      · rw [← List.length_pos_iff, emptyMessages_length]
        decide
    · have none : receivedBytes 81920 burst false
          (newConnection (EpollReactor.create.setBufferSizes 81920 409600) 9).readBuffer = [] := by
        rw [burst, receivedBytes, burst_ends _ rfl]
      exact none ▸ List.nil_prefix
  have beyond : ¬WithinLimit (rawServer 40960) (start attachedThread) burst := by
    rw [WithinLimit, burst, staysWithin, if_neg (by simp), if_pos]
    · simp
    · exact Nat.lt_add_right _ (by decide)
  refine ⟨⟨arrives, fun _ _ => trivial⟩, ?_⟩
  intro every
  have parses := drain_frames (rawServer 40960).netProtocol.parser rfl (emptyMessages 20481)
    (emptyMessages_accepted 20481)
  have draining : Draining (rawServer 40960) () 9 (start attachedThread) :=
    .initial (rawThread_init 0) attachedThread_attach
  have stepped := draining.step rfl (congrArg Result.pending parses) arrives
  cases taken : step (rawServer 40960) 9 (start attachedThread) burst with
  | none =>
      rw [taken] at stepped
      exact beyond stepped
  | some next =>
      rw [taken] at stepped
      exact beyond (stepped.2 (every.2 next taken))

/-- Two frames in three calls, with an unfinished frame behind the first two. -/
def tornReads : List (List RecvAnswer) :=
  [[⟨2, .inl [0, 7]⟩, ⟨0, .inr eagain⟩], [⟨4, .inl [0, 0, 0, 7]⟩, ⟨0, .inr eagain⟩],
    [⟨2, .inl [0, 0]⟩, ⟨0, .inr eagain⟩]]

def receivedWith (s : StreamRun Unit RawMessage) (answers : List RecvAnswer) :
    Option (List UInt8) :=
  (s.thread.reactor.connections 9).map fun connection =>
    s.received ++ receivedBytes s.thread.reactor.connReadBufferMaxSize answers false
      connection.readBuffer

theorem arrives_of_receivedWith {s : StreamRun Unit RawMessage} {answers : List RecvAnswer}
    {stream bytes : List UInt8} (known : receivedWith s answers = some bytes)
    (start : bytes <+: stream) (answered : ∀ answer ∈ answers, answer.Fits ∧ answer.Open) :
    Arrives stream 9 s answers := by
  intro connection found
  rw [receivedWith, found, Option.map_some, Option.some.injEq] at known
  exact ⟨answered, known ▸ start⟩

theorem tornReads_answered : ∀ answers ∈ tornReads, ∀ answer ∈ answers,
    answer.Fits ∧ answer.Open := by
  have brings (count : Int) (bytes : List UInt8) (small : count < 2 ^ 31) (some : bytes ≠ [])
      (most : bytes.length ≤ bytesToRead ⟨count, .inl bytes⟩) :
      RecvAnswer.Fits ⟨count, .inl bytes⟩ ∧ RecvAnswer.Open ⟨count, .inl bytes⟩ := by
    refine ⟨⟨small, ?_⟩, .inr ⟨bytes, some, rfl⟩⟩
    rintro _ ⟨rfl⟩
    exact most
  have again : RecvAnswer.Fits ⟨0, .inr eagain⟩ ∧ RecvAnswer.Open ⟨0, .inr eagain⟩ := by
    refine ⟨⟨by decide, ?_⟩, .inl rfl⟩
    rintro bytes ⟨⟩
  simp only [tornReads, List.forall_mem_cons, List.not_mem_nil, false_imp_iff, implies_true,
    and_true]
  exact ⟨⟨brings 2 [0, 7] (by decide) (by decide) (by decide), again⟩,
    ⟨brings 4 [0, 0, 0, 7] (by decide) (by decide) (by decide), again⟩,
    ⟨brings 2 [0, 0] (by decide) (by decide) (by decide), again⟩⟩

theorem tornReads_arrive :
    Along (step (rawServer 40960) 9) (Arrives ((emptyMessages 2).map Prod.fst).flatten 9)
      (start attachedThread) tornReads := by
  have first : receivedWith (start attachedThread) tornReads[0] = some [0, 7] := by
    decide +kernel
  have second : (step (rawServer 40960) 9 (start attachedThread) tornReads[0]).map
      (receivedWith · tornReads[1]) = some (some [0, 7, 0, 0, 0, 7]) := by
    decide +kernel
  have third : ((step (rawServer 40960) 9 (start attachedThread) tornReads[0]).bind
      (step (rawServer 40960) 9 · tornReads[1])).map (receivedWith · tornReads[2]) =
        some (some [0, 7, 0, 0, 0, 7, 0, 0]) := by
    decide +kernel
  refine ⟨arrives_of_receivedWith first (by decide) (tornReads_answered _ (by simp [tornReads])),
    fun middle taken => ?_⟩
  rw [show step (rawServer 40960) 9 (start attachedThread) tornReads[0] = some middle from taken]
    at second third
  refine ⟨arrives_of_receivedWith (Option.some.inj second) (by decide)
    (tornReads_answered _ (by simp [tornReads])), fun last taken => ?_⟩
  rw [Option.bind_some, show step (rawServer 40960) 9 middle tornReads[1] = some last from taken]
    at third
  exact ⟨arrives_of_receivedWith (Option.some.inj third) (by decide)
    (tornReads_answered _ (by simp [tornReads])), fun _ _ => trivial⟩

theorem kept_every_iff_tornReads :
    (Every (step (rawServer 40960) 9) (Kept 9) (start attachedThread) tornReads ↔
      Along (step (rawServer 40960) 9) (WithinLimit (rawServer 40960)) (start attachedThread)
        tornReads) ∧
    (Along (step (rawServer 40960) 9) SmallBurst (start attachedThread) tornReads →
      Every (step (rawServer 40960) 9) (Kept 9) (start attachedThread) tornReads) :=
  kept_every_iff (rawServer 40960) rfl (rawThread_init 0) attachedThread_attach
    (emptyMessages 2) (emptyMessages_accepted 2) tornReads tornReads_arrive

end StreamRun

end ZBlueNet
