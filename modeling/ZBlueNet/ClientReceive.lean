import ZBlueNet.NetThreadCore
import ZBlueNet.ReceiveStream
import ZBlueNet.Lib.Runs

/-!
`net_client_thread.cc`: the client's thread has a protocol and a command callback of
its own beside those of its base class. `NetThread::init` fills those of the base;
the client's receive loop uses its own.
-/

namespace ZBlueNet

open Bytes StreamParser NetProtocol Runs

variable {Callback Message : Type}

structure NetClientThread (Callback Message : Type) where
  netThread : NetThread Callback Message
  connected : Bool
  reconnectIntervalMs : Int
  socketId : SocketId
  reconnectTimer : TimerId
  netProtocol : NetProtocol Message
  newNetCmdCb : Option Callback

namespace NetClientThread

def create (maxRecvPacketLength : Int) (maxSendPacketLength : Nat)
    (createMessageFunc : Int → Option Message) (reconnectIntervalMs : Int) :
    NetClientThread Callback Message :=
  { netThread := .create maxRecvPacketLength maxSendPacketLength createMessageFunc
    connected := false
    reconnectIntervalMs := reconnectIntervalMs
    socketId := -1
    reconnectTimer := -1
    netProtocol := ⟨40960, createMessageFunc⟩
    newNetCmdCb := none }

/-- `NetThread::init`, which the client inherits. -/
def init (client : NetClientThread Callback Message) (id : Int)
    (maxRecvBufferSize maxSendBufferSize : Nat) (newNetCmdCb : Option Callback)
    (attached : Bool) : Bool × NetClientThread Callback Message :=
  let outcome := client.netThread.init id maxRecvBufferSize maxSendBufferSize newNetCmdCb attached
  (outcome.1, { client with netThread := outcome.2 })

def setReactor (client : NetClientThread Callback Message) (reactor : EpollReactor) :
    NetClientThread Callback Message :=
  { client with netThread := { client.netThread with reactor := reactor } }

def stopConnectTimer (client : NetClientThread Callback Message) :
    NetClientThread Callback Message :=
  if client.reconnectTimer ≠ -1 then
    client.setReactor (client.netThread.reactor.stopTimer client.reconnectTimer)
  else client

/-- The callback of the timer is `onTimer`, token 0 of the reactor's owner. -/
def startConnectTimer (client : NetClientThread Callback Message) (now : Timestamp) :
    NetClientThread Callback Message :=
  let stopped := client.stopConnectTimer
  let started := stopped.netThread.reactor.startTimer now stopped.reconnectIntervalMs (.user 0) 1
  { stopped.setReactor started.2 with reconnectTimer := started.1 }

/-- `opened` is the id of a socket that could be opened. -/
def connect (client : NetClientThread Callback Message) (now : Timestamp)
    (opened : Option SocketId) (granted : Bool) :
    Option (Bool × NetClientThread Callback Message × NetThread.Handed Callback Message) :=
  match opened with
  | none => some (false, client.startConnectTimer now, [])
  | some socketId =>
      (client.netThread.attach socketId granted).map fun attached =>
        (true, { client with
          netThread := attached.1, connected := true, socketId := socketId }, attached.2)

def disconnect (client : NetClientThread Callback Message) :
    Option (NetClientThread Callback Message × NetThread.Handed Callback Message) :=
  if client.connected then
    (client.netThread.closeSocket client.socketId).map fun closed =>
      ({ client with netThread := closed.1, connected := false, socketId := -1 }, closed.2)
  else some (client, [])

def onClose (client : NetClientThread Callback Message) (now : Timestamp) :
    Option (NetClientThread Callback Message × NetThread.Handed Callback Message) :=
  client.disconnect.map fun closed => (closed.1.startConnectTimer now, closed.2)

theorem disconnect_isSome (client : NetClientThread Callback Message)
    (callback : client.netThread.newNetCmdCb.isSome) : client.disconnect.isSome := by
  simp only [disconnect, NetThread.closeSocket, NetThread.sendNetCommand]
  split <;> simp [callback]

end NetClientThread

inductive ClientEvent
  | connect (now : Timestamp) (opened : Option SocketId) (granted : Bool)
  | onClose (now : Timestamp)
deriving DecidableEq, Repr

def NetClientThread.step (client : NetClientThread Callback Message) :
    ClientEvent → Option (NetClientThread Callback Message)
  | .connect now opened granted => (client.connect now opened granted).map (·.2.1)
  | .onClose now => (client.onClose now).map (·.1)

structure ClientRun (Callback Message : Type) where
  client : NetClientThread Callback Message
  run : RecvRun Callback Message
  closing : NetThread.Handed Callback Message

namespace NetClientThread

variable [BaseStruct Message]

/-- The callback that the caller passes, the one given to `init`, is not used. -/
def onRecvMessage (client : NetClientThread Callback Message) (now : Timestamp)
    (_socketId : SocketId) (buffer : DynamicBuffer) (_newNetCmdCb : Option Callback) :
    ClientRun Callback Message :=
  let run := recvLoop client.netProtocol client.newNetCmdCb
    { reactorId := client.netThread.id, socketId := client.socketId } (recvTurns buffer) buffer
  match run.exit with
  | .closed =>
      match client.disconnect with
      | none => ⟨client, { run with exit := .threw }, []⟩
      | some (disconnected, handed) => ⟨disconnected.startConnectTimer now, run, handed⟩
  | _ => ⟨client, run, []⟩

def receiveChunk (now : Timestamp) (state : ClientRun Callback Message) (chunk : List UInt8) :
    ClientRun Callback Message :=
  match state.run.exit with
  | .waiting =>
      let next := state.client.onRecvMessage now state.client.socketId
        (state.run.buffer.append chunk) state.client.netThread.newNetCmdCb
      { next with run := { next.run with handed := state.run.handed ++ next.run.handed } }
  | _ => state

def receiveChunks (client : NetClientThread Callback Message) (now : Timestamp)
    (buffer : DynamicBuffer) (chunks : List (List UInt8)) : ClientRun Callback Message :=
  chunks.foldl (receiveChunk now) ⟨client, ⟨[], .waiting, buffer⟩, []⟩

end NetClientThread

section Initialised

variable {createMessageFunc : Int → Option Message} {callback : Callback}
  {client : NetClientThread Callback Message}

def Initialised (createMessageFunc : Int → Option Message) (callback : Callback)
    (client : NetClientThread Callback Message) : Prop :=
  client.newNetCmdCb = none ∧ client.netProtocol = ⟨40960, createMessageFunc⟩ ∧
    client.netThread.newNetCmdCb = some callback

theorem Initialised.startConnectTimer
    (initialised : Initialised createMessageFunc callback client) (now : Timestamp) :
    Initialised createMessageFunc callback (client.startConnectTimer now) := by
  simp only [NetClientThread.startConnectTimer, NetClientThread.stopConnectTimer]
  split <;> exact initialised

theorem Initialised.disconnect {disconnected : NetClientThread Callback Message}
    {handed : NetThread.Handed Callback Message}
    (initialised : Initialised createMessageFunc callback client)
    (closed : client.disconnect = some (disconnected, handed)) :
    Initialised createMessageFunc callback disconnected := by
  simp only [NetClientThread.disconnect] at closed
  split at closed
  · simp only [NetThread.closeSocket, Option.map_map, Option.map_eq_some_iff] at closed
    rcases closed with ⟨_, -, same⟩
    cases same
    exact initialised
  · cases closed
    exact initialised

theorem Initialised.step {next : NetClientThread Callback Message} {event : ClientEvent}
    (initialised : Initialised createMessageFunc callback client)
    (taken : client.step event = some next) : Initialised createMessageFunc callback next := by
  cases event with
  | connect now opened granted =>
      cases opened with
      | none =>
          cases taken
          exact initialised.startConnectTimer now
      | some socketId =>
          simp only [NetClientThread.step, NetClientThread.connect, NetThread.attach,
            Option.map_map, Option.map_eq_some_iff] at taken
          rcases taken with ⟨_, -, same⟩
          cases same
          exact initialised
  | onClose now =>
      simp only [NetClientThread.step, NetClientThread.onClose, Option.map_map,
        Option.map_eq_some_iff] at taken
      rcases taken with ⟨⟨disconnected, handed⟩, closed, same⟩
      cases same
      exact (initialised.disconnect closed).startConnectTimer now

end Initialised

section Agreement

def messagesOf (run : RecvRun Callback Message) : List (Callback × Int × Option Message) :=
  run.handed.map fun handed => (handed.1, handed.2.messageId, handed.2.message)

/-- The same messages for the same callback, no exception, and the same decision to close. -/
structure Agrees (client server : RecvRun Callback Message) : Prop where
  messages : messagesOf client = messagesOf server
  returns : client.exit ≠ .threw
  close : client.exit = .closed ↔ server.exit = .closed

variable [BaseStruct Message]

/-- With its empty callback the client hands over nothing, and a message ends it. -/
structure Mute (createMessageFunc : Int → Option Message) (expandSize : Nat)
    (state : ClientRun Callback Message) (result : Result UInt8 (Int × Message)) : Prop where
  handed : state.run.handed = []
  threw : result.items ≠ [] → state.run.exit = .threw
  closed : result.items = [] → result.pending = none → state.run.exit = .closed
  waiting : ∀ rest, result.items = [] → result.pending = some rest →
    state.run.exit = .waiting ∧ state.run.buffer.content = rest ∧ state.run.buffer.Valid ∧
      state.run.buffer.expandSize = expandSize ∧ state.client.newNetCmdCb = none ∧
      state.client.netProtocol = ⟨40960, createMessageFunc⟩ ∧
      state.client.netThread.newNetCmdCb.isSome

theorem recvLoop_empty (protocol : NetProtocol Message) (id : NetId) (fuel : Nat)
    {buffer : DynamicBuffer} (valid : buffer.Valid) :
    recvLoop protocol (none : Option Callback) id (fuel + 1) buffer =
      match protocol.parseFrame buffer.content with
      | .more => ⟨[], .waiting, buffer⟩
      | .fail => ⟨[], .closed, buffer⟩
      | .item _ rest => ⟨[], .threw, buffer.read (buffer.readableBytes - rest.length)⟩ := by
  have received := recvMessage_parseFrame protocol valid 0 none
  cases found : protocol.parseFrame buffer.content <;>
    simp [recvLoop, received, found, ofOutcome]

variable {createMessageFunc : Int → Option Message} {expandSize : Nat}
  {state : ClientRun Callback Message} {result : Result UInt8 (Int × Message)}

theorem Mute.receiveChunk (mute : Mute createMessageFunc expandSize state result)
    (now : Timestamp) (chunk : List UInt8)
    (room : ∀ rest, result.pending = some rest →
      rest.length + chunk.length + 2 * expandSize < sizeModulus) :
    Mute createMessageFunc expandSize (NetClientThread.receiveChunk now state chunk)
      (feed (parser ⟨40960, createMessageFunc⟩) result chunk) := by
  by_cases silent : result.items = []
  · cases pending : result.pending with
    | none =>
        have closed := mute.closed silent pending
        simpa [NetClientThread.receiveChunk, closed, feed, pending] using mute
    | some rest =>
        rcases mute.waiting rest silent pending with
          ⟨running, content, valid, expand, own, protocol, callback⟩
        have fits : state.run.buffer.Fits chunk.length := by
          rw [DynamicBuffer.Fits, ← valid.content_length, content, expand]
          exact room rest pending
        have appended := valid.append_content chunk (valid.grows fits)
        have loop := @recvLoop_empty Callback _ _ ⟨40960, createMessageFunc⟩
          ⟨state.client.netThread.id, state.client.socketId⟩
          ((state.run.buffer.append chunk).readableBytes / 4) _ (valid.append chunk (valid.grows fits))
        rw [appended, content] at loop
        simp only [NetClientThread.receiveChunk, running, NetClientThread.onRecvMessage, own,
          protocol, recvTurns, loop, feed, pending, mute.handed, List.nil_append]
        cases found : (parser ⟨40960, createMessageFunc⟩).parse (rest ++ chunk) with
        | more =>
            have parsed : parseFrame ⟨40960, createMessageFunc⟩ (rest ++ chunk) = .more := found
            simp only [parsed, drain_more found, Result.prepend, silent, List.append_nil]
            refine ⟨rfl, by simp, by simp, ?_⟩
            rintro _ _ ⟨rfl⟩
            exact ⟨rfl, appended.trans (by rw [content]), valid.append chunk (valid.grows fits),
              (DynamicBuffer.append_expandSize chunk).trans expand, own, protocol, callback⟩
        | fail =>
            have parsed : parseFrame ⟨40960, createMessageFunc⟩ (rest ++ chunk) = .fail := found
            rcases Option.isSome_iff_exists.mp (state.client.disconnect_isSome callback) with
              ⟨⟨disconnected, handed⟩, closing⟩
            simp only [parsed, drain_fail found, Result.prepend, silent, List.append_nil, closing]
            exact ⟨rfl, by simp, by simp, by simp⟩
        | item value left =>
            have parsed : parseFrame ⟨40960, createMessageFunc⟩ (rest ++ chunk) =
              .item value left := found
            simp only [parsed, drain_item found, Result.prepend, silent, List.nil_append]
            exact ⟨rfl, by simp, by simp, by simp⟩
  · have threw := mute.threw silent
    have kept : (feed (parser ⟨40960, createMessageFunc⟩) result chunk).items ≠ [] := by
      simp only [feed]
      split
      · exact silent
      · simp [Result.prepend, silent]
    simp only [NetClientThread.receiveChunk, threw]
    exact ⟨mute.handed, fun _ => threw, fun none => absurd none kept, fun _ none => absurd none kept⟩

theorem Mute.receiveChunks (mute : Mute createMessageFunc expandSize state result)
    (now : Timestamp) (chunks : List (List UInt8))
    (room : RoomAlong (parser ⟨40960, createMessageFunc⟩) expandSize result chunks) :
    Mute createMessageFunc expandSize (chunks.foldl (NetClientThread.receiveChunk now) state)
      (chunks.foldl (feed (parser ⟨40960, createMessageFunc⟩)) result) := by
  induction chunks generalizing state result with
  | nil => exact mute
  | cons chunk chunks ih => exact ih (mute.receiveChunk now chunk room.1) room.2

theorem drain_silent_iff (protocol : NetProtocol Message) (bytes : List UInt8) :
    (drain protocol.parser bytes).items = [] ↔ ¬∃ blank, StartsWithFrame protocol bytes blank := by
  cases found : protocol.parser.parse bytes with
  | item value rest =>
      have parsed : protocol.parseFrame bytes = .item value rest := found
      rcases (parseFrame_item_iff protocol bytes rest value).mp parsed with ⟨blank, starts, -⟩
      rw [drain_item found]
      exact iff_of_false (by simp [Result.prepend]) fun silent => silent ⟨blank, starts⟩
  | more =>
      rw [drain_more found]
      apply iff_of_true rfl
      rintro ⟨blank, starts⟩
      have parsed := (parseFrame_item_iff protocol bytes _ _).mpr ⟨blank, starts, rfl, rfl⟩
      cases found.symm.trans parsed
  | fail =>
      rw [drain_fail found]
      apply iff_of_true rfl
      rintro ⟨blank, starts⟩
      have parsed := (parseFrame_item_iff protocol bytes _ _).mpr ⟨blank, starts, rfl, rfl⟩
      cases found.symm.trans parsed

/-- The client agrees with the server exactly on the streams that do not begin with a frame that
both accept: there the server hands a message over and the client throws. -/
theorem receive_agrees_iff (createMessageFunc : Int → Option Message) (callback : Callback)
    {initialised client : NetClientThread Callback Message} {connections : List ClientEvent}
    {maxRecvPacketLength reconnectIntervalMs id : Int}
    {maxSendPacketLength maxRecvBufferSize maxSendBufferSize : Nat} {attached : Bool}
    (init : (NetClientThread.create maxRecvPacketLength maxSendPacketLength createMessageFunc
      reconnectIntervalMs).init id maxRecvBufferSize maxSendBufferSize (some callback) attached =
        (true, initialised))
    (connected : run NetClientThread.step initialised connections = some client)
    (now : Timestamp) (pthreadId socketId : Int) (buffer : DynamicBuffer)
    (chunks : List (List UInt8)) (valid : buffer.Valid) (empty : buffer.content = [])
    (fits : ∀ chunk ∈ chunks, 40960 + chunk.length + 2 * buffer.expandSize < sizeModulus) :
    Agrees (client.receiveChunks now buffer chunks).run
        (receiveChunks ((GameServer.mk ⟨40960, createMessageFunc⟩).onRecvMessage pthreadId socketId
          (some callback)) buffer chunks) ↔
      ¬∃ blank, StartsWithFrame ⟨40960, createMessageFunc⟩ chunks.flatten blank := by
  have ready : Initialised createMessageFunc callback client := by
    have start : Initialised createMessageFunc callback initialised := by
      cases attached with
      | false => cases (congrArg Prod.fst init)
      | true =>
          cases init
          exact ⟨rfl, rfl, rfl⟩
    exact run_invariant (fun ready _ taken => Initialised.step ready taken) start
      (along_always _ connections) connected
  have room : RoomAlong (parser ⟨40960, createMessageFunc⟩) buffer.expandSize ⟨[], some []⟩
      chunks := by
    apply roomAlong_of_waiting ⟨40960, createMessageFunc⟩ buffer.expandSize 40960 (by omega) le_rfl
    · rintro rest ⟨rfl⟩
      rfl
    · exact fits
  have server := receiveChunks_drain (GameServer.mk ⟨40960, createMessageFunc⟩) pthreadId socketId
    callback buffer chunks valid empty room
  have mute : Mute createMessageFunc buffer.expandSize (client.receiveChunks now buffer chunks)
      (drain (parser ⟨40960, createMessageFunc⟩) chunks.flatten) := by
    have start : drain (parser ⟨40960, createMessageFunc⟩) [] = ⟨[], some []⟩ := drain_more rfl
    have whole := feed_chunks (parser ⟨40960, createMessageFunc⟩) [] chunks
    rw [start, List.nil_append] at whole
    rw [← whole]
    refine Mute.receiveChunks ⟨rfl, by simp, by simp, ?_⟩ now chunks room
    rintro _ _ ⟨rfl⟩
    exact ⟨rfl, empty, valid, rfl, ready.1, ready.2.1, by rw [ready.2.2]; rfl⟩
  rw [← drain_silent_iff]
  constructor
  · intro agrees
    by_contra speaks
    exact agrees.returns (mute.threw speaks)
  · intro silent
    refine ⟨?_, ?_, ?_⟩
    · rw [messagesOf, messagesOf, mute.handed, server.handed, silent]
      rfl
    all_goals
      cases pending : (drain (parser ⟨40960, createMessageFunc⟩) chunks.flatten).pending with
      | none => simp [mute.closed silent pending, server.failed pending]
      | some rest => simp [(mute.waiting rest silent pending).1, (server.pending rest pending).1]

def rawInitialised : NetClientThread Unit RawMessage :=
  ((NetClientThread.create 40960 40960 (rawServer 40960).netProtocol.createMessageFunc 1000).init 0
    81920 409600 (some ()) true).2

def rawClient : NetClientThread Unit RawMessage :=
  (rawInitialised.step (.connect ⟨0, 0⟩ (some 9) true)).getD rawInitialised

theorem firstFrame_breaks :
    messagesOf (receiveChunks ((rawServer 40960).onRecvMessage 0 9 (some ()))
      (.create 1024 1024) [[0, 7, 0, 1, 5]]) = [((), 7, some ⟨[5]⟩)] ∧
    messagesOf (rawClient.receiveChunks ⟨0, 0⟩ (.create 1024 1024) [[0, 7, 0, 1, 5]]).run = [] ∧
    ¬Agrees (rawClient.receiveChunks ⟨0, 0⟩ (.create 1024 1024) [[0, 7, 0, 1, 5]]).run
      (receiveChunks ((rawServer 40960).onRecvMessage 0 9 (some ()))
        (.create 1024 1024) [[0, 7, 0, 1, 5]]) := by
  refine ⟨by decide +kernel, by decide +kernel, fun agrees => agrees.returns ?_⟩
  decide +kernel

theorem receive_agrees_iff_unknownMessage :
    Agrees (rawClient.receiveChunks ⟨0, 0⟩ (.create 1024 1024) [[0, 8, 0], [0]]).run
      (receiveChunks ((rawServer 40960).onRecvMessage 0 9 (some ()))
        (.create 1024 1024) [[0, 8, 0], [0]]) := by
  have init : (NetClientThread.create 40960 40960 (rawServer 40960).netProtocol.createMessageFunc
      1000).init 0 81920 409600 (some ()) true = (true, rawInitialised) := rfl
  have connected : run NetClientThread.step rawInitialised [.connect ⟨0, 0⟩ (some 9) true] =
      some rawClient := rfl
  refine (receive_agrees_iff (rawServer 40960).netProtocol.createMessageFunc () init connected
    ⟨0, 0⟩ 0 9 (.create 1024 1024) [[0, 8, 0], [0]]
    (DynamicBuffer.create_valid 1024 1024 (by decide) (by decide))
    (DynamicBuffer.create_content 1024 1024) (by decide)).mpr ?_
  rintro ⟨blank, starts⟩
  cases starts.created

end Agreement

end ZBlueNet
