import ZBlueNet.HandledMessages
import ZBlueNet.SentMessages

/-!
A client and a service, and one connection between them: a socket of the client and a
socket of a net thread. The kernels carry its bytes in order, so what `recv` has
returned is a beginning of what `send` has taken.
-/

namespace ZBlueNet

open Runs StreamParser

def Sendable {Message : Type} [BaseStruct Message] (protocol : NetProtocol Message)
    (entry : Int × Message) : Prop :=
  (0 ≤ entry.1 ∧ entry.1 ≤ 65535) ∧ DecodesBack protocol entry.1 entry.2

def asReceived {Message : Type} (messages : List (Int × Message)) : List (Int × Option Message) :=
  messages.map fun entry => (entry.1, some entry.2)

theorem parsedFrom_wireOf {Message : Type} [BaseStruct Message] {protocol : NetProtocol Message}
    {size : Nat} (capacity : 4 ≤ size ∧ size ≤ 40960) (limit : (size : Int) ≤ protocol.maxPacketLength)
    (reports : ∀ message : Message, EncodesWhatItReports message)
    {messages : List (Int × Message)} (sendable : ∀ entry ∈ messages, Sendable protocol entry)
    (encodes : ∀ entry ∈ messages, 0 ≤ (BaseStruct.encode entry.2 (size - 4)).1) :
    parsedFrom protocol (wireOf size messages) = asReceived messages := by
  let frames := messages.map fun entry =>
    (frameBytes entry.1 (BaseStruct.encode entry.2 (size - 4)).2, entry)
  have each : ∀ frame ∈ frames, protocol.parser.parse frame.1 = .item frame.2 [] := by
    intro frame member
    obtain ⟨entry, present, rfl⟩ := List.mem_map.mp member
    obtain ⟨range, blank, created, decodes⟩ := sendable entry present
    obtain ⟨-, fits⟩ := reports entry.2 (size - 4) (encodes entry present)
    exact parseFrame_frameBytes range (by omega) (by omega) created
      (decodes (size - 4) (encodes entry present))
  have drained := drain_frames protocol.parser rfl frames each
  have wire : (frames.map Prod.fst).flatten = wireOf size messages := by
    rw [wireOf, List.flatMap_def, List.map_map]
    rfl
  have items : frames.map Prod.snd = messages := by
    rw [List.map_map]
    exact List.map_id _
  rw [wire, items] at drained
  rw [parsedFrom, drained, asReceived]

structure DeliveryRun (n : Nat) (Callback Message : Type) where
  client : SentRun Callback Message
  service : HandledRun n Message

inductive DeliveryEvent (n : Nat) (Message : Type)
  | client (event : SentEvent Message)
  | service (event : ServiceEvent n Message)

namespace DeliveryRun

variable {n : Nat} {Callback Message : Type} [BaseStruct Message]

/-- The client's socket `peer` is connected with the socket `socketId` of the net thread `i`. -/
def step (server : GameServer Message) (pipeCapacity : Nat) (peer : SocketId) (i : Fin n)
    (socketId : SocketId) (s : DeliveryRun n Callback Message) :
    DeliveryEvent n Message → Option (DeliveryRun n Callback Message)
  | .client event => (s.client.step pipeCapacity event).map fun next => { s with client := next }
  | .service event =>
      (s.service.step server pipeCapacity event).bind fun next =>
        if next.received (ServiceRun.netId i socketId) <+: s.client.accepted peer then
          some { s with service := next }
        else none

def Allowed (server : GameServer Message) (s : DeliveryRun n Callback Message) :
    DeliveryEvent n Message → Prop
  | .client event => SentRun.RestIsPrefix s.client event ∧
      ∀ cmd, event = .push cmd → ∀ entry ∈ messageOf cmd, Sendable server.netProtocol entry
  | .service event => HandledRun.Answered event

structure AtRest (peer : SocketId) (i : Fin n) (socketId : SocketId)
    (s : DeliveryRun n Callback Message) : Prop where
  flushed : ∃ connection, s.client.run.client.netThread.reactor.connections peer = some connection ∧
    connection.writeBuffer.content = []
  arrived : s.service.received (ServiceRun.netId i socketId) = s.client.accepted peer
  empty : s.service.run.net.clientNetCommandQueue.queue = []
  idle : s.service.run.net.handed i = []
  open_ : (s.service.run.net.threads i).reactor.connections socketId ≠ none
  known : s.service.run.service.connectionInfos (ServiceRun.netId i socketId) ≠ none

/-- The handlers of the service get what was sent on the connection, from its beginning on, and all
of it at rest; what was sent is one piece of what the main thread of the client pushed. -/
structure Delivered (messageHandlers : Int → Option Nat) (peer : SocketId) (i : Fin n)
    (socketId : SocketId) (s : DeliveryRun n Callback Message) : Prop where
  handled : s.service.handled (ServiceRun.netId i socketId) <+:
    handledAs messageHandlers (asReceived (s.client.sent peer))
  complete : AtRest peer i socketId s → s.service.handled (ServiceRun.netId i socketId) =
    handledAs messageHandlers (asReceived (s.client.sent peer))
  piece : s.client.sent peer <:+: s.client.pushed
  latest : s.client.run.client.connected = true → s.client.run.client.socketId = peer →
    s.client.run.client.commandQueue.queue = [] → s.client.sent peer <:+ s.client.pushed

structure Sound (size : Nat) (server : GameServer Message) (messageHandlers : Int → Option Nat)
    (peer : SocketId) (i : Fin n) (socketId : SocketId) (s : DeliveryRun n Callback Message) :
    Prop where
  client : s.client.Sound size
  service : s.service.Sound server messageHandlers
  sendable : ∀ entry ∈ s.client.pushed, Sendable server.netProtocol entry
  carried : s.service.received (ServiceRun.netId i socketId) <+: wireOf size (s.client.sent peer)

variable {size : Nat} {server : GameServer Message} {messageHandlers : Int → Option Nat}
  {peer : SocketId} {i : Fin n} {socketId : SocketId} {s next : DeliveryRun n Callback Message}

theorem Sound.step (limit : server.netProtocol.maxPacketLength ≤ 81920)
    (reports : ∀ message : Message, EncodesWhatItReports message) {pipeCapacity : Nat}
    {event : DeliveryEvent n Message}
    (sound : Sound size server messageHandlers peer i socketId s) (allowed : Allowed server s event)
    (taken : s.step server pipeCapacity peer i socketId event = some next) :
    Sound size server messageHandlers peer i socketId next := by
  cases event with
  | client event =>
      obtain ⟨rest, pushes⟩ := allowed
      simp only [DeliveryRun.step, Option.map_eq_some_iff] at taken
      obtain ⟨client, stepped, rfl⟩ := taken
      obtain ⟨grows, news⟩ := SentRun.step_grows stepped
      refine ⟨sound.client.step reports rest stepped, sound.service, ?_, ?_⟩
      · intro entry member
        rcases news entry member with old | ⟨cmd, same, new⟩
        · exact sound.sendable entry old
        · exact pushes cmd same entry new
      · obtain ⟨more, same⟩ := grows peer
        dsimp only
        rw [← same, SentRun.wireOf_append]
        exact sound.carried.trans (List.prefix_append ..)
  | service event =>
      simp only [DeliveryRun.step, Option.bind_eq_some_iff] at taken
      obtain ⟨service, stepped, checked⟩ := taken
      split at checked
      · rename_i carried
        cases checked
        refine ⟨sound.client, sound.service.step limit allowed stepped, sound.sendable, ?_⟩
        exact carried.trans (sound.client.sends peer).part
      · cases checked

theorem Sound.delivered (capacity : (size : Int) ≤ server.netProtocol.maxPacketLength)
    (reports : ∀ message : Message, EncodesWhatItReports message)
    (sound : Sound size server messageHandlers peer i socketId s) :
    Delivered messageHandlers peer i socketId s := by
  have delivers := sound.client.delivers
  have whole : parsedFrom server.netProtocol (wireOf size (s.client.sent peer)) =
      asReceived (s.client.sent peer) := by
    apply parsedFrom_wireOf sound.client.capacity capacity reports
    · intro entry member
      exact sound.sendable entry ((delivers.piece peer).subset member)
    · exact sound.client.encodes peer
  obtain ⟨begins, ends⟩ := sound.service.inOrder i socketId
  refine ⟨?_, ?_, delivers.piece peer, ?_⟩
  · obtain ⟨rest, same⟩ := sound.carried
    have parsed := parsedFrom_mono server.netProtocol
      (s.service.received (ServiceRun.netId i socketId)) rest
    rw [same, whole] at parsed
    exact begins.trans (parsed.filterMap _)
  · intro rest
    obtain ⟨connection, found, empty⟩ := rest.flushed
    rw [ends rest.empty rest.idle rest.open_ rest.known, rest.arrived,
      delivers.flushed peer connection found empty, whole]
  · rintro connected rfl
    exact delivers.latest connected

/-- From the start of both, in any interleaving of their threads: the messages of a connection reach
the handlers in order, none of them twice and none left out before another. -/
theorem delivered_in_order (server : GameServer Message)
    (limit : server.netProtocol.maxPacketLength ≤ 81920)
    (capacity : 4 ≤ size ∧ size ≤ 40960) (fits : (size : Int) ≤ server.netProtocol.maxPacketLength)
    (reports : ∀ message : Message, EncodesWhatItReports message)
    {client : NetClientThread Callback Message} {createMessageFunc : Int → Option Message}
    {callback : Option Callback} {maxRecvPacketLength reconnectIntervalMs id : Int}
    {maxRecvBufferSize : Nat}
    (init : (NetClientThread.create maxRecvPacketLength size createMessageFunc
      reconnectIntervalMs).init id maxRecvBufferSize 409600 callback true = (true, client))
    (pipeCapacity : Nat) (maxRequestPerSecond : Int) (messageHandlers : Int → Option Nat)
    (peer : SocketId) (i : Fin n) (socketId : SocketId) (events : List (DeliveryEvent n Message))
    (allowed : Along (step server pipeCapacity peer i socketId) (Allowed server)
      ⟨.start client, .start n server.netProtocol.createMessageFunc maxRequestPerSecond
        messageHandlers⟩ events) :
    Every (step server pipeCapacity peer i socketId) (Delivered messageHandlers peer i socketId)
      ⟨.start client, .start n server.netProtocol.createMessageFunc maxRequestPerSecond
        messageHandlers⟩ events := by
  have initial : Sound size server messageHandlers peer i socketId
      (⟨.start client, .start n server.netProtocol.createMessageFunc maxRequestPerSecond
        messageHandlers⟩ : DeliveryRun n Callback Message) :=
    ⟨.initial init capacity, .initial .., nofun, List.nil_prefix⟩
  have every : Every (step server pipeCapacity peer i socketId)
      (Sound size server messageHandlers peer i socketId)
      (⟨.start client, .start n server.netProtocol.createMessageFunc maxRequestPerSecond
        messageHandlers⟩ : DeliveryRun n Callback Message) events :=
    every_of_invariant (fun sound allowed taken => sound.step limit reports allowed taken) initial
      allowed
  exact every.mono fun sound => sound.delivered fits reports

theorem allowed_silent {server : GameServer Message}
    {s : DeliveryRun n Callback Message} {event : SentEvent Message}
    (rest : SentRun.RestIsPrefix s.client event) (silent : ∀ cmd, event ≠ .push cmd) :
    Allowed server s (.client event) :=
  ⟨rest, fun cmd same => absurd same (silent cmd)⟩

def oneDelivery : List (DeliveryEvent 1 RawMessage) :=
  [.service (.net (.attach (.last 0) 5 true)), .client (.handle (.startRun (some 9) true ⟨0, 0⟩)),
    .client (SentRun.pushRaw [5]), .client (.onNetCommand SentRun.busySocket ⟨0, 0⟩),
    .client (.handle (.onSocketWrite 9 { SentRun.busySocket with result := .count 3 } ⟨0, 0⟩)),
    .service (.net (.handle (.last 0) (.onSocketRead 5 [⟨2, .inl [0, 7]⟩, ⟨0, .inr eagain⟩]))),
    .client (.handle (.onSocketWrite 9 { SentRun.busySocket with result := .count 2 } ⟨0, 0⟩)),
    .service (.net (.handle (.last 0) (.onSocketRead 5 [⟨3, .inl [0, 1, 5]⟩, ⟨0, .inr eagain⟩]))),
    .service (.processNetCommand 0), .service (.net (.pushClientNetCommand (.last 0))),
    .service (.processNetCommand 0)]

theorem delivered_in_order_oneDelivery :
    Every (step (rawServer 40960) 16 9 0 5) (Delivered HandledRun.oneHandler 9 0 5)
        ⟨.start ReconnectRun.shortClient,
          .start 1 (rawServer 40960).netProtocol.createMessageFunc 0 HandledRun.oneHandler⟩
        oneDelivery ∧
      (Runs.run (step (rawServer 40960) 16 9 0 5)
        ⟨.start ReconnectRun.shortClient,
          .start 1 (rawServer 40960).netProtocol.createMessageFunc 0 HandledRun.oneHandler⟩
        oneDelivery).map (fun s => s.service.handled ⟨0, 5⟩) = some [(3, some ⟨[5]⟩)] := by
  constructor
  · apply delivered_in_order (rawServer 40960) (by decide) (by decide) (by decide) rawMessage_reports
      rfl
    have fine : ∀ event ∈ oneDelivery, ∀ s : DeliveryRun 1 Unit RawMessage,
        Allowed (rawServer 40960) s event := by
      intro event member s
      simp only [oneDelivery, List.mem_cons, List.not_mem_nil, or_false] at member
      rcases member with
        rfl | rfl | rfl | rfl | rfl | rfl | rfl | rfl | rfl | rfl | rfl
      · exact trivial
      · exact allowed_silent trivial (by simp)
      · refine ⟨trivial, ?_⟩
        rintro cmd ⟨⟩ entry ⟨⟩
        exact ⟨by decide, rawMessage_known _⟩
      · exact allowed_silent (fun _ _ _ _ => trivial) (by simp)
      · exact allowed_silent trivial (by simp)
      · simp only [Allowed, HandledRun.Answered, List.forall_mem_cons]
        exact ⟨HandledRun.fits_received [0, 7] (by decide), HandledRun.fits_again,
          List.forall_mem_nil _⟩
      · exact allowed_silent trivial (by simp)
      · simp only [Allowed, HandledRun.Answered, List.forall_mem_cons]
        exact ⟨HandledRun.fits_received [0, 1, 5] (by decide), HandledRun.fits_again,
          List.forall_mem_nil _⟩
      · exact trivial
      · exact trivial
      · exact trivial
    exact (Along.of_forall fine _).mono fun allowed => allowed _
  · decide +kernel

end DeliveryRun

end ZBlueNet
