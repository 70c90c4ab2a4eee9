import ZBlueNet.ReceivedMessages

/-!
The messages that the message handlers of a service get. Each connection of each net
thread has its stream of bytes; the commands of all of them go through one queue.
-/

namespace ZBlueNet

open Runs EpollReactor StreamParser

def handledOf {Message : Type} (id : NetId) (calls : List (ServiceCall Message)) :
    List (Nat × Option Message) :=
  calls.filterMap fun
    | .messageHandler handler target message => if target = id then some (handler, message) else none
    | .push _ | .onExceedRequestFrequencyLimit _ => none

def handledAs {Message : Type} (messageHandlers : Int → Option Nat)
    (messages : List (Int × Option Message)) : List (Nat × Option Message) :=
  messages.filterMap fun message =>
    (messageHandlers message.1).map fun handler => (handler, message.2)

/-- A service, the bytes that `recv` returned on each connection, and what its handlers got. -/
structure HandledRun (n : Nat) (Message : Type) where
  run : ServiceRun n Message
  received : NetId → List UInt8
  handled : NetId → List (Nat × Option Message)

namespace HandledRun

variable {n : Nat} {Message : Type}

def start (n : Nat) (createMessageFunc : Int → Option Message) (maxRequestPerSecond : Int)
    (messageHandlers : Int → Option Nat) : HandledRun n Message :=
  let started := ServiceRun.start n createMessageFunc maxRequestPerSecond
  { run := { started with service := { started.service with messageHandlers := messageHandlers } }
    received := fun _ => []
    handled := fun _ => [] }

def readNow (r : EpollReactor) (socketId : SocketId) : NetThreadEvent Message → List UInt8
  | .onSocketRead id answers =>
      if id = socketId then
        match r.connections id with
        | none => []
        | some connection =>
            receivedBytes r.connReadBufferMaxSize answers false connection.readBuffer
      else []
  | _ => []

def receivedNow (net : NetThreads n Message) (id : NetId) : ServiceEvent n Message → List UInt8
  | .net (.handle i event) =>
      if id.reactorId = (i : Nat) then readNow (net.threads i).reactor id.socketId event else []
  | _ => []

def calls (s : ServiceRun n Message) : ServiceEvent n Message → List (ServiceCall Message)
  | .net _ => []
  | .processNetCommand now =>
      match s.net.clientNetCommandQueue.pop with
      | none => []
      | some popped => (s.service.processNetCommand now popped.1).2
  | .disconnect id => (s.service.disconnect id).2

def step [BaseStruct Message] (server : GameServer Message) (pipeCapacity : Nat)
    (s : HandledRun n Message) (event : ServiceEvent n Message) : Option (HandledRun n Message) :=
  (s.run.step server pipeCapacity event).map fun next =>
    { run := next
      received := fun id => s.received id ++ receivedNow s.run.net id event
      handled := fun id => s.handled id ++ handledOf id (calls s.run event) }

def Answered : ServiceEvent n Message → Prop
  | .net (.handle _ (.onSocketRead _ answers)) => ∀ answer ∈ answers, answer.Fits
  | _ => True

end HandledRun

/-! One connection. -/

section Receipts

variable {Message : Type} [BaseStruct Message]

/-- The messages of a connection on their way: the main thread has taken `taken` out of its queue,
`queue` and `handed` are under way to it, and `received` is what they are parsed from. -/
structure Receipt (protocol : NetProtocol Message) (messageHandlers : Int → Option Nat)
    (taken : List (Int × Option Message)) (service : TcpService)
    (queue handed : List (NetCommand Message)) (connection : Option TcpConnection)
    (attached : Prop) (received : List UInt8) (handled : List (Nat × Option Message))
    (id : NetId) : Prop where
  part : taken ++ messagesFor id queue ++ messagesFor id handed <+: parsedFrom protocol received
  whole : ∀ open_ ∈ connection,
    taken ++ messagesFor id queue ++ messagesFor id handed = parsedFrom protocol received ∧
      (drain protocol.parser received).pending = some open_.readBuffer.content ∧
      open_.readBuffer.Valid ∧ open_.readBuffer.expandSize = 1024
  done : handled <+: handledAs messageHandlers taken
  current : service.connectionInfos id ≠ none ∨ Has queue .new id →
    handled = handledAs messageHandlers taken
  unopened : Has queue .new id → taken = []
  fresh : ¬attached → received = []

variable {protocol : NetProtocol Message} {messageHandlers : Int → Option Nat}
  {taken : List (Int × Option Message)} {service next : TcpService}
  {queue handed rest : List (NetCommand Message)} {connection : Option TcpConnection}
  {attached : Prop} {received : List UInt8} {handled : List (Nat × Option Message)}
  {id : NetId} {cmd : NetCommand Message}

theorem parsedFrom_nil (protocol : NetProtocol Message) : parsedFrom protocol [] = [] := by
  have more : protocol.parser.parse [] = .more := rfl
  rw [parsedFrom, drain_more more]
  rfl

theorem Receipt.blank (protocol : NetProtocol Message) (messageHandlers : Int → Option Nat)
    (service : TcpService) (attached : Prop) (id : NetId) :
    Receipt protocol messageHandlers [] service [] [] none attached [] [] id := by
  refine ⟨List.nil_prefix, ?_, List.nil_prefix, fun _ => rfl, fun _ => rfl, fun _ => rfl⟩
  intro open_ absent
  cases absent

theorem Receipt.spared (receipt : Receipt protocol messageHandlers taken service queue []
      connection attached received handled id) (silent : messagesFor id handed = [])
    {left : Option TcpConnection}
    (keeps : ∀ after ∈ left, ∃ before ∈ connection, after.readBuffer = before.readBuffer) :
    Receipt protocol messageHandlers taken service queue handed left attached received handled
      id := by
  have same : messagesFor id handed = messagesFor id ([] : List (NetCommand Message)) := silent
  refine ⟨?_, ?_, receipt.done, receipt.current, receipt.unopened, receipt.fresh⟩
  · rw [same]
    exact receipt.part
  · intro after present
    obtain ⟨before, there, buffer⟩ := keeps after present
    rw [same, buffer]
    exact receipt.whole before there

theorem Receipt.pushed (receipt : Receipt protocol messageHandlers taken service queue
      (cmd :: rest) connection attached received handled id) (old : cmd.type ≠ .new) :
    Receipt protocol messageHandlers taken service (queue ++ [cmd]) rest connection attached
      received handled id := by
  have order : taken ++ messagesFor id (queue ++ [cmd]) ++ messagesFor id rest =
      taken ++ messagesFor id queue ++ messagesFor id (cmd :: rest) := by
    have split : messagesFor id (cmd :: rest) = messagesFor id [cmd] ++ messagesFor id rest :=
      messagesFor_append id [cmd] rest
    rw [split, messagesFor_append]
    simp only [List.append_assoc]
  have opening : Has (queue ++ [cmd]) .new id → Has queue .new id := by
    rintro ⟨new, member, type, same⟩
    rcases List.mem_append.mp member with before | last
    · exact ⟨new, before, type, same⟩
    · rw [List.mem_singleton] at last
      exact absurd (last ▸ type) old
  refine ⟨order ▸ receipt.part, order ▸ receipt.whole, receipt.done, ?_, ?_, receipt.fresh⟩
  · intro either
    exact receipt.current (either.imp_right opening)
  · intro new
    exact receipt.unopened (opening new)

theorem Receipt.beside (receipt : Receipt protocol messageHandlers taken service queue handed
      connection attached received handled id) (other : cmd.id ≠ id) :
    Receipt protocol messageHandlers taken service (queue ++ [cmd]) handed connection attached
      received handled id := by
  have order : messagesFor id (queue ++ [cmd]) = messagesFor id queue := by
    rw [messagesFor_append, messagesFor_cons_other (fun _ => other)]
    exact List.append_nil _
  have opening : Has (queue ++ [cmd]) .new id → Has queue .new id := by
    rintro ⟨new, member, type, same⟩
    rcases List.mem_append.mp member with before | last
    · exact ⟨new, before, type, same⟩
    · rw [List.mem_singleton] at last
      exact absurd (last ▸ same) other
  refine ⟨order ▸ receipt.part, order ▸ receipt.whole, receipt.done, ?_, ?_, receipt.fresh⟩
  · intro either
    exact receipt.current (either.imp_right opening)
  · intro new
    exact receipt.unopened (opening new)

theorem Receipt.taken_nil (receipt : Receipt protocol messageHandlers taken service queue handed
      connection attached received handled id) (new : ¬attached) :
    received = [] ∧ taken = [] ∧ messagesFor id queue = [] ∧ messagesFor id handed = [] := by
  have nothing := receipt.fresh new
  have part := receipt.part
  rw [nothing, parsedFrom_nil, List.prefix_nil, List.append_eq_nil_iff,
    List.append_eq_nil_iff] at part
  exact ⟨nothing, part.1.1, part.1.2, part.2⟩

theorem Receipt.attach (receipt : Receipt protocol messageHandlers taken service queue handed
      connection attached received handled id) (new : ¬attached) {opened : TcpConnection}
    {now : Prop} (valid : opened.readBuffer.Valid) (empty : opened.readBuffer.content = [])
    (expands : opened.readBuffer.expandSize = 1024) (type : cmd.type = .new) :
    Receipt protocol messageHandlers taken service (queue ++ [cmd]) handed (some opened) now
      received handled id := by
  obtain ⟨nothing, untaken, unqueued, unhanded⟩ := receipt.taken_nil new
  have order : messagesFor id (queue ++ [cmd]) = [] := by
    rw [messagesFor_append, unqueued, messagesFor_cons_other]
    · rfl
    · intro message
      cases type.symm.trans message
  have unhandled : handled = [] := by
    have done := receipt.done
    rw [untaken] at done
    exact List.prefix_nil.mp done
  subst nothing untaken unhandled
  rw [← parsedFrom_nil protocol] at unhanded
  refine ⟨?_, ?_, List.nil_prefix, fun _ => rfl, fun _ => rfl, fun _ => rfl⟩
  · rw [order, unhanded]
    exact List.prefix_refl _
  · intro open_ same
    cases same
    have more : protocol.parser.parse [] = .more := rfl
    rw [order, unhanded, empty, drain_more more]
    exact ⟨rfl, rfl, valid, expands⟩

theorem Receipt.read {bytes : List UInt8} {open_ : TcpConnection} {left : Option TcpConnection}
    (receipt : Receipt protocol messageHandlers taken service queue [] (some open_) attached
      received handled id) (present : attached)
    (part : parsedFrom protocol received ++ messagesFor id handed <+:
      parsedFrom protocol (received ++ bytes))
    (whole : ∀ after ∈ left,
      parsedFrom protocol received ++ messagesFor id handed =
          parsedFrom protocol (received ++ bytes) ∧
        (drain protocol.parser (received ++ bytes)).pending = some after.readBuffer.content ∧
        after.readBuffer.Valid ∧ after.readBuffer.expandSize = open_.readBuffer.expandSize) :
    Receipt protocol messageHandlers taken service queue handed left attached (received ++ bytes)
      handled id := by
  obtain ⟨before, -, -, expands⟩ := receipt.whole open_ rfl
  have nothing : messagesFor id ([] : List (NetCommand Message)) = [] := rfl
  rw [nothing, List.append_nil] at before
  rw [← before, expands] at whole
  rw [← before] at part
  exact ⟨part, whole, receipt.done, receipt.current, receipt.unopened, fun new => absurd present new⟩

theorem Receipt.forget (receipt : Receipt protocol messageHandlers taken service queue handed
      connection attached received handled id)
    (known : next.connectionInfos id ≠ none → service.connectionInfos id ≠ none) :
    Receipt protocol messageHandlers taken next queue handed connection attached received handled
      id :=
  ⟨receipt.part, receipt.whole, receipt.done, fun either => receipt.current (either.imp_left known),
    receipt.unopened, receipt.fresh⟩

theorem Receipt.skip (receipt : Receipt protocol messageHandlers taken service (cmd :: rest) handed
      connection attached received handled id) (silent : cmd.type = .message → cmd.id ≠ id)
    (known : next.connectionInfos id ≠ none →
      service.connectionInfos id ≠ none ∨ cmd.type = .new ∧ cmd.id = id) :
    Receipt protocol messageHandlers taken next rest handed connection attached received handled
      id := by
  have order : messagesFor id (cmd :: rest) = messagesFor id rest := messagesFor_cons_other silent rest
  have opening (new : Has rest .new id) : Has (cmd :: rest) .new id := has_cons.mpr (.inr new)
  refine ⟨order ▸ receipt.part, order ▸ receipt.whole, receipt.done, ?_, ?_, receipt.fresh⟩
  · rintro (knows | new)
    · rcases known knows with before | front
      · exact receipt.current (.inl before)
      · exact receipt.current (.inr (has_cons.mpr (.inl front)))
    · exact receipt.current (.inr (opening new))
  · intro new
    exact receipt.unopened (opening new)

theorem Receipt.message (receipt : Receipt protocol messageHandlers taken service (cmd :: rest)
      handed connection attached received handled id) (isMessage : cmd.type = .message)
    (named : cmd.id = id) (opened : ¬Has rest .new id) {calls : List (Nat × Option Message)}
    (gets : calls = [] ∨ service.connectionInfos id ≠ none ∧
      calls = handledAs messageHandlers [(cmd.messageId, cmd.message)])
    (known : next.connectionInfos id ≠ none → service.connectionInfos id ≠ none ∧
      calls = handledAs messageHandlers [(cmd.messageId, cmd.message)]) :
    Receipt protocol messageHandlers (taken ++ [(cmd.messageId, cmd.message)]) next rest handed
      connection attached received (handled ++ calls) id := by
  have order : taken ++ [(cmd.messageId, cmd.message)] ++ messagesFor id rest ++
      messagesFor id handed = taken ++ messagesFor id (cmd :: rest) ++ messagesFor id handed := by
    rw [messagesFor_cons_same isMessage named, List.append_assoc taken, List.singleton_append]
  have more : handledAs messageHandlers (taken ++ [(cmd.messageId, cmd.message)]) =
      handledAs messageHandlers taken ++ handledAs messageHandlers [(cmd.messageId, cmd.message)] :=
    List.filterMap_append
  have whole := receipt.whole
  rw [← order] at whole
  refine ⟨order ▸ receipt.part, whole, ?_, ?_, fun new => absurd new opened, receipt.fresh⟩
  · rcases gets with nothing | ⟨knows, given⟩
    · rw [nothing, List.append_nil, more]
      exact receipt.done.trans (List.prefix_append ..)
    · rw [receipt.current (.inl knows), given, more]
  · rintro (knows | new)
    · obtain ⟨before, given⟩ := known knows
      rw [receipt.current (.inl before), given, more]
    · exact absurd new opened

end Receipts

/-! The main thread. -/

namespace TcpService

variable {Message : Type} {service : TcpService} {cmd : NetCommand Message}

theorem callMessageHandler_handled (service : TcpService) (cmd : NetCommand Message) (id : NetId) :
    handledOf id (service.callMessageHandler cmd) =
      if cmd.id = id then handledAs service.messageHandlers [(cmd.messageId, cmd.message)]
      else [] := by
  rw [callMessageHandler, handledAs]
  cases found : service.messageHandlers cmd.messageId with
  | none => simp [handledOf, found]
  | some handler =>
      by_cases named : cmd.id = id
      · simp [handledOf, found, named]
      · simp [handledOf, named]

theorem onMessage_handled (service : TcpService) (now : Int) (cmd : NetCommand Message) (id : NetId) :
    (service.onMessage now cmd).1.messageHandlers = service.messageHandlers ∧
      (cmd.id ≠ id → handledOf id (service.onMessage now cmd).2 = [] ∧
        ((service.onMessage now cmd).1.connectionInfos id ≠ none →
          service.connectionInfos id ≠ none)) ∧
      (cmd.id = id →
        (handledOf id (service.onMessage now cmd).2 = [] ∨ service.connectionInfos id ≠ none ∧
          handledOf id (service.onMessage now cmd).2 =
            handledAs service.messageHandlers [(cmd.messageId, cmd.message)]) ∧
        ((service.onMessage now cmd).1.connectionInfos id ≠ none →
          service.connectionInfos id ≠ none ∧ handledOf id (service.onMessage now cmd).2 =
            handledAs service.messageHandlers [(cmd.messageId, cmd.message)])) := by
  have handler := callMessageHandler_handled service cmd id
  rw [TcpService.onMessage]
  split
  · rename_i unknown
    refine ⟨rfl, fun _ => ⟨rfl, fun known => known⟩, ?_⟩
    rintro rfl
    exact ⟨.inl rfl, fun known => absurd unknown known⟩
  · rename_i info found
    have knows : service.connectionInfos cmd.id ≠ none := by simp [found]
    dsimp only
    split
    · split
      · refine ⟨rfl, ?_, ?_⟩
        · intro other
          refine ⟨rfl, ?_⟩
          simp [disconnect, onDisconnect, setInfo, Function.update_of_ne (Ne.symm other)]
        · rintro rfl
          refine ⟨.inl rfl, ?_⟩
          simp [disconnect, onDisconnect, setInfo]
      · refine ⟨rfl, ?_, ?_⟩
        · intro other
          refine ⟨(if_neg other ▸ handler :), ?_⟩
          simp [setInfo, Function.update_of_ne (Ne.symm other)]
        · rintro rfl
          rw [if_pos rfl] at handler
          exact ⟨.inr ⟨knows, handler⟩, fun _ => ⟨knows, handler⟩⟩
    · refine ⟨rfl, ?_, ?_⟩
      · intro other
        rw [if_neg other] at handler
        exact ⟨handler, fun known => known⟩
      · rintro rfl
        rw [if_pos rfl] at handler
        exact ⟨.inr ⟨knows, handler⟩, fun _ => ⟨knows, handler⟩⟩

theorem processNetCommand_handled (service : TcpService) (now : Int) (cmd : NetCommand Message)
    (id : NetId) :
    (service.processNetCommand now cmd).1.messageHandlers = service.messageHandlers ∧
      ((cmd.type = .message → cmd.id ≠ id) →
        handledOf id (service.processNetCommand now cmd).2 = [] ∧
        ((service.processNetCommand now cmd).1.connectionInfos id ≠ none →
          service.connectionInfos id ≠ none ∨ cmd.type = .new ∧ cmd.id = id)) := by
  rw [processNetCommand]
  cases type : cmd.type with
  | new =>
      refine ⟨rfl, fun _ => ⟨rfl, fun known => ?_⟩⟩
      by_cases named : cmd.id = id
      · exact .inr ⟨rfl, named⟩
      · left
        simpa [onConnect, setInfo, Function.update_of_ne (Ne.symm named)] using known
  | close =>
      refine ⟨rfl, fun _ => ⟨rfl, fun known => .inl ?_⟩⟩
      by_cases named : cmd.id = id
      · simp [onDisconnect, setInfo, named] at known
      · simpa [onDisconnect, setInfo, Function.update_of_ne (Ne.symm named)] using known
  | message =>
      obtain ⟨same, others, -⟩ := onMessage_handled service now cmd id
      refine ⟨same, fun apart => ?_⟩
      obtain ⟨nothing, known⟩ := others (apart rfl)
      exact ⟨nothing, fun knows => .inl (known knows)⟩
  | enableBroadcast | disableBroadcast | broadcast =>
      exact ⟨rfl, fun _ => ⟨rfl, .inl⟩⟩

end TcpService

theorem Receipt.process {Message : Type} [BaseStruct Message] {protocol : NetProtocol Message}
    {taken : List (Int × Option Message)} {service : TcpService} {cmd : NetCommand Message}
    {rest handed : List (NetCommand Message)} {connection : Option TcpConnection} {attached : Prop}
    {received : List UInt8} {handled : List (Nat × Option Message)} {id : NetId}
    (receipt : Receipt protocol service.messageHandlers taken service (cmd :: rest) handed connection
      attached received handled id)
    (later : cmd.type = .message → ¬Has rest .new cmd.id) (now : Int) :
    ∃ taken, Receipt protocol service.messageHandlers taken (service.processNetCommand now cmd).1
      rest handed connection attached received
      (handled ++ handledOf id (service.processNetCommand now cmd).2) id := by
  by_cases mine : cmd.type = .message ∧ cmd.id = id
  · obtain ⟨isMessage, named⟩ := mine
    obtain ⟨gets, known⟩ := (service.onMessage_handled now cmd id).2.2 named
    have opened := later isMessage
    rw [named] at opened
    have same : service.processNetCommand now cmd = service.onMessage now cmd := by
      rw [TcpService.processNetCommand, isMessage]
    rw [same]
    exact ⟨_, receipt.message isMessage named opened gets known⟩
  · have apart (isMessage : cmd.type = .message) : cmd.id ≠ id := fun named =>
      mine ⟨isMessage, named⟩
    obtain ⟨nothing, known⟩ := (service.processNetCommand_handled now cmd id).2 apart
    rw [nothing, List.append_nil]
    exact ⟨taken, receipt.skip apart known⟩

/-! The service. -/

namespace ServiceRun

variable {n : Nat} {Message : Type} {pipeCapacity : Nat}

structure Pushed (net next : NetThreads n Message) : Prop where
  reactor : ∀ i, (next.threads i).reactor = (net.threads i).reactor
  newNetCmdCb : ∀ i, (next.threads i).newNetCmdCb = (net.threads i).newNetCmdCb
  handed : next.handed = net.handed
  queue : next.clientNetCommandQueue = net.clientNetCommandQueue
  attached : next.attached = net.attached

theorem Pushed.pushTo (pipeCapacity : Nat) (net : NetThreads n Message) (i : Fin n)
    (cmd : Option (NetCommand Message)) : Pushed net (net.pushTo pipeCapacity i cmd) := by
  have each (j : Fin n) :
      ((net.pushTo pipeCapacity i cmd).threads j).reactor = (net.threads j).reactor ∧
        ((net.pushTo pipeCapacity i cmd).threads j).newNetCmdCb =
          (net.threads j).newNetCmdCb := by
    by_cases same : j = i
    · subst same
      simp [NetThreads.pushTo, NetThread.push]
    · simp [NetThreads.pushTo, same]
  exact ⟨fun j => (each j).1, fun j => (each j).2, rfl, rfl, rfl⟩

theorem perform_pushed {net next : NetThreads n Message} {calls : List (ServiceCall Message)}
    (performed : perform pipeCapacity net calls = some next) : Pushed net next := by
  induction calls generalizing net with
  | nil =>
      cases performed
      exact ⟨fun _ => rfl, fun _ => rfl, rfl, rfl, rfl⟩
  | cons call calls ih =>
      cases call with
      | push cmd =>
          simp only [perform, Option.bind_eq_some_iff] at performed
          obtain ⟨middle, pushed, later⟩ := performed
          simp only [NetThreads.push] at pushed
          split at pushed
          · rename_i inside
            cases pushed
            have first := Pushed.pushTo pipeCapacity net
              ⟨cmd.id.reactorId.toNat, inside.2⟩ (some cmd)
            have rest := ih later
            exact ⟨fun i => (rest.reactor i).trans (first.reactor i),
              fun i => (rest.newNetCmdCb i).trans (first.newNetCmdCb i),
              rest.handed.trans first.handed, rest.queue.trans first.queue,
              rest.attached.trans first.attached⟩
          · cases pushed
      | messageHandler handler id message => exact ih performed
      | onExceedRequestFrequencyLimit id => exact ih performed

end ServiceRun

namespace HandledRun

variable {n : Nat} {Message : Type} [BaseStruct Message]

def AfterNew (earlier cmd : NetCommand Message) : Prop :=
  cmd.type = .new → earlier.type = .message → earlier.id ≠ cmd.id

structure Sized (r : EpollReactor) : Prop where
  initSize : r.connReadBufferInitSize = 1024
  expandSize : r.connReadBufferExpandSize = 1024
  maxSize : r.connReadBufferMaxSize = 81920

def Receives (server : GameServer Message) (messageHandlers : Int → Option Nat)
    (s : HandledRun n Message) (i : Fin n) (socketId : SocketId)
    (taken : List (Int × Option Message)) : Prop :=
  Receipt server.netProtocol messageHandlers taken s.run.service
    s.run.net.clientNetCommandQueue.queue (s.run.net.handed i)
    ((s.run.net.threads i).reactor.connections socketId)
    (ServiceRun.netId i socketId ∈ s.run.net.attached) (s.received (ServiceRun.netId i socketId))
    (s.handled (ServiceRun.netId i socketId)) (ServiceRun.netId i socketId)

structure Sound (server : GameServer Message) (messageHandlers : Int → Option Nat)
    (s : HandledRun n Message) : Prop where
  formed : s.run.Formed
  called : ∀ i, (s.run.net.threads i).newNetCmdCb = some ()
  sized : ∀ i, Sized (s.run.net.threads i).reactor
  later : s.run.net.clientNetCommandQueue.queue.Pairwise AfterNew
  handlers : s.run.service.messageHandlers = messageHandlers
  receives : ∀ i socketId, ∃ taken, Receives server messageHandlers s i socketId taken

variable {server : GameServer Message} {messageHandlers : Int → Option Nat}
  {s next : HandledRun n Message} {pipeCapacity : Nat}

omit [BaseStruct Message] in
theorem Sized.of_keeps {socketId : SocketId} {r next : EpollReactor} (sized : Sized r)
    (keeps : KeepsBuffer socketId r next) : Sized next :=
  ⟨keeps.initSize.trans sized.initSize, keeps.expandSize.trans sized.expandSize,
    keeps.maxSize.trans sized.maxSize⟩

theorem Sound.initial (server : GameServer Message) (createMessageFunc : Int → Option Message)
    (maxRequestPerSecond : Int) (messageHandlers : Int → Option Nat) :
    Sound server messageHandlers
      (start n createMessageFunc maxRequestPerSecond messageHandlers) := by
  have formed : (ServiceRun.start n createMessageFunc maxRequestPerSecond).Formed :=
    ServiceRun.start_formed createMessageFunc maxRequestPerSecond
  refine ⟨⟨formed.ids, formed.served, formed.own, formed.opens, formed.named, formed.housed,
    formed.coherent⟩, fun _ => rfl, fun _ => ⟨rfl, rfl, rfl⟩, .nil, rfl, ?_⟩
  intro i socketId
  exact ⟨[], .blank ..⟩

/-! The net threads. -/

def EventFits : NetThreadEvent Message → Prop
  | .onSocketRead _ answers => ∀ answer ∈ answers, answer.Fits
  | _ => True

theorem reads_fit {protocol : NetProtocol Message} (limit : protocol.maxPacketLength ≤ 81920)
    {r : EpollReactor} (sized : Sized r) {received : List UInt8} {connection : TcpConnection}
    (waiting : (drain protocol.parser received).pending = some connection.readBuffer.content)
    (valid : connection.readBuffer.Valid) (expands : connection.readBuffer.expandSize = 1024)
    {answers : List RecvAnswer} (fits : ∀ answer ∈ answers, answer.Fits) :
    ReadsFit r.connReadBufferMaxSize answers connection.readBuffer := by
  have more : protocol.parseFrame connection.readBuffer.content = .more := drain_pending_more waiting
  have short := NetProtocol.parseFrame_more_length more
  rw [valid.content_length] at short
  refine ⟨fits, .inl ?_⟩
  rw [sized.maxSize, expands, sizeModulus]
  omega

theorem receipt_handle (limit : server.netProtocol.maxPacketLength ≤ 81920)
    {thread : NetThread Unit Message} (served : Served thread.reactor)
    (called : thread.newNetCmdCb = some ()) (sized : Sized thread.reactor)
    {event : NetThreadEvent Message} (fits : EventFits event)
    {outcome : NetThread Unit Message × NetThread.Handed Unit Message}
    (handled : thread.handle server event = some outcome)
    {taken : List (Int × Option Message)} {service : TcpService}
    {queue : List (NetCommand Message)} {socketId : SocketId} {attached : Prop}
    {received : List UInt8} {done : List (Nat × Option Message)}
    (present : thread.reactor.connections socketId ≠ none → attached)
    (receipt : Receipt server.netProtocol messageHandlers taken service queue []
      (thread.reactor.connections socketId) attached received done (thread.netId socketId)) :
    Receipt server.netProtocol messageHandlers taken service queue (outcome.2.map Prod.snd)
      (outcome.1.reactor.connections socketId) attached
      (received ++ readNow thread.reactor socketId event) done (thread.netId socketId) := by
  by_cases reads : NetThread.Reads socketId event
  · cases event with
    | onSocketRead id answers =>
        have same : id = socketId := reads
        subst same
        rw [readNow, if_pos rfl]
        simp only [NetThread.handle] at handled
        cases found : thread.reactor.connections id with
        | none =>
            rw [found] at handled receipt
            cases handled
            rw [List.append_nil]
            apply receipt.spared rfl
            intro after there
            cases found.symm.trans there
        | some connection =>
            rw [found] at handled receipt
            obtain ⟨-, waiting, valid, expands⟩ := receipt.whole connection rfl
            have fit := reads_fit limit sized waiting valid expands fits
            have read :=
              NetThread.onSocketRead_receives served called found valid fit waiting handled
            exact receipt.read (present (by simp [found])) read.part read.whole
    | onSocketWrite | onSocketError | onNetCommand | checkTimeout => exact reads.elim
  · have spares := NetThread.handle_spares served reads handled
    have nothing : readNow thread.reactor socketId event = [] := by
      cases event with
      | onSocketRead id answers => exact if_neg reads
      | onSocketWrite | onSocketError | onNetCommand | checkTimeout => rfl
    rw [nothing, List.append_nil]
    exact receipt.spared (spares.messages rfl) spares.keeps.buffer

theorem sized_handle {thread : NetThread Unit Message} (served : Served thread.reactor)
    (sized : Sized thread.reactor) {event : NetThreadEvent Message}
    {outcome : NetThread Unit Message × NetThread.Handed Unit Message}
    (handled : thread.handle server event = some outcome) : Sized outcome.1.reactor := by
  have elsewhere : ∃ socketId : SocketId, ¬NetThread.Reads socketId event := by
    cases event with
    | onSocketRead id answers =>
        have moved : id ≠ id + 1 := Int.ne_of_lt (Int.lt_succ id)
        exact ⟨id + 1, moved⟩
    | onSocketWrite | onSocketError | onNetCommand | checkTimeout => exact ⟨0, not_false⟩
  obtain ⟨socketId, apart⟩ := elsewhere
  exact sized.of_keeps (NetThread.handle_spares served apart handled).keeps

theorem Sound.present (sound : Sound server messageHandlers s) {i : Fin n} {socketId : SocketId}
    (present : (s.run.net.threads i).reactor.connections socketId ≠ none) :
    ServiceRun.netId i socketId ∈ s.run.net.attached := by
  by_contra new
  have fresh := (sound.formed.coherent i socketId).fresh
    (by simpa [ServiceRun.link, Link.of] using new)
  exact present (statusOf_none.mp fresh.1)

theorem Sound.react (limit : server.netProtocol.maxPacketLength ≤ 81920)
    (sound : Sound server messageHandlers s) {i : Fin n} {thread : NetThread Unit Message}
    (reactor : thread.reactor = (s.run.net.threads i).reactor)
    (named : thread.id = (s.run.net.threads i).id)
    (called : thread.newNetCmdCb = (s.run.net.threads i).newNetCmdCb)
    {event : NetThreadEvent Message} (fits : EventFits event) {net : NetThreads n Message}
    (handled : s.run.net.react server i thread event = some net)
    (formed : ServiceRun.Formed { s.run with net := net }) {received : NetId → List UInt8}
    (grows : ∀ j socketId, received (ServiceRun.netId j socketId) =
      s.received (ServiceRun.netId j socketId) ++
        if j = i then readNow thread.reactor socketId event else []) :
    Sound server messageHandlers
      { run := { s.run with net := net }, received := received, handled := s.handled } := by
  simp only [NetThreads.react] at handled
  split at handled
  · rename_i idle
    rw [Option.map_eq_some_iff] at handled
    obtain ⟨outcome, handled, rfl⟩ := handled
    have served : Served thread.reactor := reactor ▸ sound.formed.served i
    have given : thread.newNetCmdCb = some () := called.trans (sound.called i)
    have sized : Sized thread.reactor := reactor ▸ sound.sized i
    have kept := NetThread.handle_kept served handled
    refine ⟨formed, ?_, ?_, sound.later, sound.handlers, ?_⟩
    · intro j
      by_cases same : j = i
      · subst same
        simpa only [Function.update_self] using kept.2.trans given
      · simpa only [Function.update_of_ne same] using sound.called j
    · intro j
      by_cases same : j = i
      · subst same
        simpa only [Function.update_self] using sized_handle served sized handled
      · simpa only [Function.update_of_ne same] using sound.sized j
    · intro j socketId
      obtain ⟨taken, receives⟩ := sound.receives j socketId
      refine ⟨taken, ?_⟩
      simp only [Receives, grows] at receives ⊢
      by_cases same : j = i
      · subst same
        have own : thread.netId socketId = ServiceRun.netId j socketId := by
          rw [NetThread.netId, named, sound.formed.ids, ServiceRun.netId]
        rw [idle, ← reactor, ← own] at receives
        rw [if_pos rfl, Function.update_self, Function.update_self, ← own]
        apply receipt_handle limit served given sized fits handled ?_ receives
        rw [reactor, own]
        exact sound.present
      · rw [if_neg same, List.append_nil, Function.update_of_ne same, Function.update_of_ne same]
        exact receives
  · cases handled

theorem Sound.attach (sound : Sound server messageHandlers s) {i : Fin n} {socketId : SocketId}
    {granted : Bool} (new : (s.run.net.threads i).netId socketId ∉ s.run.net.attached)
    (succeeds : ((s.run.net.threads i).reactor.attachSocket socketId .create granted).1 = true)
    {outcome : NetThread Unit Message × NetThread.Handed Unit Message}
    (attached : (s.run.net.threads i).attach socketId granted = some outcome)
    (formed : ServiceRun.Formed { s.run with net := { s.run.net with
      threads := Function.update s.run.net.threads i outcome.1
      clientNetCommandQueue := (outcome.2.map Prod.snd).foldl (MessageQueue.push pipeCapacity)
        s.run.net.clientNetCommandQueue
      attached := s.run.net.attached ++ [(s.run.net.threads i).netId socketId] } }) :
    Sound server messageHandlers { s with run := { s.run with net := { s.run.net with
      threads := Function.update s.run.net.threads i outcome.1
      clientNetCommandQueue := (outcome.2.map Prod.snd).foldl (MessageQueue.push pipeCapacity)
        s.run.net.clientNetCommandQueue
      attached := s.run.net.attached ++ [(s.run.net.threads i).netId socketId] } } } := by
  obtain ⟨next, handed⟩ := outcome
  obtain ⟨rfl, callback, -, rfl⟩ := NetThread.attach_some attached
  have name : (s.run.net.threads i).netId socketId = ServiceRun.netId i socketId := by
    rw [NetThread.netId, sound.formed.ids, ServiceRun.netId]
  have absent : (s.run.net.threads i).reactor.connections socketId = none := by
    by_contra present
    exact new (name ▸ sound.present present)
  obtain ⟨opened, initSize, expandSize, maxSize⟩ := attachSocket_connections absent succeeds
  have sized := sound.sized i
  have queued : ((([((callback, .plain .new (ServiceRun.netId i socketId)) :
      Unit × NetCommand Message)] : NetThread.Handed Unit Message).map Prod.snd).foldl
        (MessageQueue.push pipeCapacity) s.run.net.clientNetCommandQueue).queue =
      s.run.net.clientNetCommandQueue.queue ++ [.plain .new (ServiceRun.netId i socketId)] :=
    MessageQueue.push_queue ..
  rw [name] at new formed ⊢
  refine ⟨formed, ?_, ?_, ?_, sound.handlers, ?_⟩
  · intro j
    by_cases same : j = i
    · subst same
      simp only [Function.update_self]
      exact sound.called j
    · simpa only [Function.update_of_ne same] using sound.called j
  · intro j
    by_cases same : j = i
    · subst same
      simp only [Function.update_self]
      exact ⟨initSize.trans sized.initSize, expandSize.trans sized.expandSize,
        maxSize.trans sized.maxSize⟩
    · simpa only [Function.update_of_ne same] using sound.sized j
  · dsimp only
    rw [queued, List.pairwise_append]
    refine ⟨sound.later, List.pairwise_singleton .., ?_⟩
    intro earlier member cmd last
    rw [List.mem_singleton] at last
    subst last
    intro _ isMessage named
    obtain ⟨taken, receives⟩ := sound.receives i socketId
    have unqueued := (receives.taken_nil new).2.2.1
    have listed : (earlier.messageId, earlier.message) ∈ messagesFor (ServiceRun.netId i socketId)
        s.run.net.clientNetCommandQueue.queue :=
      List.mem_filterMap.mpr ⟨earlier, member, if_pos ⟨isMessage, named⟩⟩
    rw [unqueued] at listed
    cases listed
  · intro j other
    obtain ⟨taken, receives⟩ := sound.receives j other
    refine ⟨taken, ?_⟩
    simp only [Receives, queued] at receives ⊢
    by_cases mine : ServiceRun.netId j other = ServiceRun.netId i socketId
    · obtain ⟨rfl, rfl⟩ := ServiceRun.netId_inj.mp mine
      have placed : (Function.update s.run.net.threads j ((s.run.net.threads j).setReactor
          ((s.run.net.threads j).reactor.attachSocket other .create granted).2) j).reactor.connections
            other = some ((s.run.net.threads j).reactor.newConnection other) := by
        rw [Function.update_self]
        exact (congrFun opened other).trans (Function.update_self ..)
      rw [placed]
      have created := DynamicBuffer.create_valid
        (s.run.net.threads j).reactor.connReadBufferInitSize
        (s.run.net.threads j).reactor.connReadBufferExpandSize
        (by rw [sized.initSize, sizeModulus]; omega) (by rw [sized.expandSize]; omega)
      exact receives.attach new created (DynamicBuffer.create_content ..) sized.expandSize rfl
    · have listed : (ServiceRun.netId j other ∈
          s.run.net.attached ++ [ServiceRun.netId i socketId]) =
            (ServiceRun.netId j other ∈ s.run.net.attached) := by
        simp [mine]
      have same : (Function.update s.run.net.threads i ((s.run.net.threads i).setReactor
          ((s.run.net.threads i).reactor.attachSocket socketId .create granted).2) j).reactor.connections
            other = (s.run.net.threads j).reactor.connections other := by
        by_cases thread : j = i
        · subst thread
          have different : other ≠ socketId := fun equal => mine (equal ▸ rfl)
          rw [Function.update_self]
          exact (congrFun opened other).trans (Function.update_of_ne different ..)
        · rw [Function.update_of_ne thread]
      rw [listed, same]
      exact receives.beside fun named => mine named.symm

theorem Sound.pushClientNetCommand (sound : Sound server messageHandlers s) {i : Fin n}
    {cmd : NetCommand Message} {rest : List (NetCommand Message)}
    (waiting : s.run.net.handed i = cmd :: rest) :
    Sound server messageHandlers { s with run := { s.run with net := { s.run.net with
      clientNetCommandQueue := s.run.net.clientNetCommandQueue.push pipeCapacity cmd
      handed := Function.update s.run.net.handed i rest } } } := by
  obtain ⟨old, socketId, named⟩ := sound.formed.own i cmd (by simp [waiting])
  refine ⟨sound.formed.pushClientNetCommand waiting, sound.called, sound.sized, ?_,
    sound.handlers, ?_⟩
  · dsimp only
    rw [MessageQueue.push_queue, List.pairwise_append]
    refine ⟨sound.later, List.pairwise_singleton .., ?_⟩
    intro earlier _ last same new
    rw [List.mem_singleton] at same
    exact absurd (same ▸ new) old
  · intro j other
    obtain ⟨taken, receives⟩ := sound.receives j other
    refine ⟨taken, ?_⟩
    simp only [Receives, MessageQueue.push_queue] at receives ⊢
    by_cases same : j = i
    · subst same
      rw [waiting] at receives
      rw [Function.update_self]
      exact receives.pushed old
    · rw [Function.update_of_ne same]
      apply receives.beside
      rw [named]
      intro equal
      exact same (ServiceRun.netId_inj.mp equal).1.symm

theorem Sound.pushed (sound : Sound server messageHandlers s) {service : TcpService}
    {net : NetThreads n Message} (formed : ServiceRun.Formed ⟨service, net⟩)
    (same : ServiceRun.Pushed s.run.net net)
    (handlers : service.messageHandlers = s.run.service.messageHandlers)
    (known : ∀ id, service.connectionInfos id ≠ none → s.run.service.connectionInfos id ≠ none) :
    Sound server messageHandlers { s with run := ⟨service, net⟩ } := by
  refine ⟨formed, ?_, ?_, ?_, handlers.trans sound.handlers, ?_⟩
  · intro i
    exact (same.newNetCmdCb i).trans (sound.called i)
  · intro i
    dsimp only
    rw [same.reactor i]
    exact sound.sized i
  · dsimp only
    rw [same.queue]
    exact sound.later
  · intro i socketId
    obtain ⟨taken, receives⟩ := sound.receives i socketId
    refine ⟨taken, ?_⟩
    simp only [Receives, same.reactor, same.handed, same.queue, same.attached] at receives ⊢
    exact receives.forget (known _)

theorem Sound.processNetCommand (sound : Sound server messageHandlers s) {now : Int}
    {popped : NetCommand Message × MessageQueue (NetCommand Message)}
    (popping : s.run.net.clientNetCommandQueue.pop = some popped) {net : NetThreads n Message}
    (performed : ServiceRun.perform pipeCapacity { s.run.net with clientNetCommandQueue := popped.2 }
      (s.run.service.processNetCommand now popped.1).2 = some net) :
    Sound server messageHandlers
      { s with
        run := { service := (s.run.service.processNetCommand now popped.1).1, net := net }
        handled := fun id => s.handled id ++
          handledOf id (s.run.service.processNetCommand now popped.1).2 } := by
  have front := MessageQueue.pop_some popping
  have same := ServiceRun.perform_pushed performed
  have later := sound.later
  rw [front, List.pairwise_cons] at later
  have handlers := (s.run.service.processNetCommand_handled now popped.1 popped.1.id).1
  refine ⟨sound.formed.processNetCommand popping performed, ?_, ?_, ?_,
    handlers.trans sound.handlers, ?_⟩
  · intro i
    exact (same.newNetCmdCb i).trans (sound.called i)
  · intro i
    dsimp only
    rw [same.reactor i]
    exact sound.sized i
  · dsimp only
    rw [same.queue]
    exact later.2
  · intro i socketId
    obtain ⟨taken, receives⟩ := sound.receives i socketId
    have opened (isMessage : popped.1.type = .message) : ¬Has popped.2.queue .new popped.1.id := by
      rintro ⟨cmd, member, new, named⟩
      exact later.1 cmd member new isMessage named.symm
    simp only [Receives, front, ← sound.handlers] at receives
    obtain ⟨more, processed⟩ := receives.process opened now
    refine ⟨more, ?_⟩
    simp only [Receives, same.reactor, same.handed, same.queue, same.attached, ← sound.handlers]
    exact processed

theorem Sound.netStep (limit : server.netProtocol.maxPacketLength ≤ 81920)
    (sound : Sound server messageHandlers s) {event : NetThreadsEvent n Message}
    (answered : Answered (.net event)) {net : NetThreads n Message}
    (taken : s.run.net.step server pipeCapacity event = some net) :
    Sound server messageHandlers
      { run := { s.run with net := net }
        received := fun id => s.received id ++ receivedNow s.run.net id (.net event)
        handled := s.handled } := by
  have formed := sound.formed.netStep taken
  have unread (silent : ∀ id, receivedNow s.run.net id (.net event) = []) :
      (fun id => s.received id ++ receivedNow s.run.net id (.net event)) = s.received := by
    funext id
    rw [silent, List.append_nil]
  cases event with
  | attach i socketId granted =>
      rw [unread fun _ => rfl]
      simp only [NetThreads.step] at taken
      split at taken
      · rename_i fits
        rw [Option.map_eq_some_iff] at taken
        obtain ⟨outcome, attached, rfl⟩ := taken
        exact sound.attach fits.1 fits.2 attached formed
      · cases taken
  | handle i event =>
      simp only [NetThreads.step] at taken
      split at taken
      · cases taken
      · have fits : EventFits event := by
          cases event with
          | onSocketRead => exact answered
          | onSocketWrite | onSocketError | onNetCommand | checkTimeout => trivial
        apply sound.react limit rfl rfl rfl fits taken formed
        intro j socketId
        by_cases same : j = i
        · subst same
          rw [if_pos rfl]
          exact congrArg _ (if_pos rfl)
        · have different : ¬((j : Nat) : Int) = (i : Nat) := fun equal =>
            same (Fin.ext (Int.ofNat_inj.mp equal))
          rw [if_neg same]
          exact congrArg _ (if_neg different)
  | onNetCommand i env =>
      rw [unread fun _ => rfl]
      simp only [NetThreads.step, Option.bind_eq_some_iff] at taken
      obtain ⟨popped, popping, handled⟩ := taken
      have silent : EventFits (.onNetCommand popped.1 env : NetThreadEvent Message) := trivial
      refine sound.react limit ?_ ?_ ?_ silent handled formed ?_
      · rfl
      · rfl
      · rfl
      · intro j socketId
        have nothing (r : EpollReactor) :
            readNow r socketId (.onNetCommand popped.1 env : NetThreadEvent Message) = [] := rfl
        rw [nothing, ite_self, List.append_nil]
  | pushClientNetCommand i =>
      rw [unread fun _ => rfl]
      simp only [NetThreads.step] at taken
      split at taken
      · cases taken
      · rename_i cmd rest waiting
        cases taken
        exact sound.pushClientNetCommand waiting
  | push i cmd =>
      rw [unread fun _ => rfl]
      simp only [NetThreads.step] at taken
      split at taken
      · cases taken
      · cases taken
        exact sound.pushed formed (.pushTo ..) rfl fun _ known => known

theorem Sound.step (limit : server.netProtocol.maxPacketLength ≤ 81920)
    (sound : Sound server messageHandlers s) {event : ServiceEvent n Message}
    (answered : Answered event) (taken : s.step server pipeCapacity event = some next) :
    Sound server messageHandlers next := by
  simp only [HandledRun.step, Option.map_eq_some_iff] at taken
  obtain ⟨run, stepped, rfl⟩ := taken
  have formed := sound.formed.step stepped
  have unread (silent : ∀ id, receivedNow s.run.net id event = []) :
      (fun id => s.received id ++ receivedNow s.run.net id event) = s.received := by
    funext id
    rw [silent, List.append_nil]
  have unhandled (silent : ∀ id, handledOf id (calls s.run event) = []) :
      (fun id => s.handled id ++ handledOf id (calls s.run event)) = s.handled := by
    funext id
    rw [silent, List.append_nil]
  cases event with
  | net event =>
      rw [unhandled fun _ => rfl]
      simp only [ServiceRun.step, Option.map_eq_some_iff] at stepped
      obtain ⟨net, stepped, rfl⟩ := stepped
      exact sound.netStep limit answered stepped
  | processNetCommand now =>
      rw [unread fun _ => rfl]
      simp only [ServiceRun.step, Option.bind_eq_some_iff, Option.map_eq_some_iff] at stepped
      obtain ⟨popped, popping, net, performed, rfl⟩ := stepped
      simp only [calls, popping]
      exact sound.processNetCommand popping performed
  | disconnect id =>
      rw [unread fun _ => rfl, unhandled fun _ => rfl]
      simp only [ServiceRun.step] at stepped
      split at stepped
      · cases stepped
      · rw [Option.map_eq_some_iff] at stepped
        obtain ⟨net, performed, rfl⟩ := stepped
        apply sound.pushed formed (ServiceRun.perform_pushed performed) rfl
        intro other known
        by_cases same : other = id
        · simp [TcpService.disconnect, TcpService.onDisconnect, TcpService.setInfo, same] at known
        · simpa [TcpService.disconnect, TcpService.onDisconnect, TcpService.setInfo,
            Function.update_of_ne same] using known

/-- On every connection the handlers get the messages that its bytes begin with, in their order; and
all of them, where nothing is under way and both threads still have the connection. -/
def InOrder (server : GameServer Message) (messageHandlers : Int → Option Nat)
    (s : HandledRun n Message) : Prop :=
  ∀ (i : Fin n) (socketId : SocketId), let id := ServiceRun.netId i socketId
    s.handled id <+: handledAs messageHandlers (parsedFrom server.netProtocol (s.received id)) ∧
      (s.run.net.clientNetCommandQueue.queue = [] → s.run.net.handed i = [] →
        (s.run.net.threads i).reactor.connections socketId ≠ none →
        s.run.service.connectionInfos id ≠ none →
          s.handled id = handledAs messageHandlers (parsedFrom server.netProtocol (s.received id)))

theorem Sound.inOrder (sound : Sound server messageHandlers s) :
    InOrder server messageHandlers s := by
  intro i socketId
  obtain ⟨taken, receives⟩ := sound.receives i socketId
  have grows {first later : List (Int × Option Message)} (longer : first <+: later) :
      handledAs messageHandlers first <+: handledAs messageHandlers later := longer.filterMap _
  have part : taken <+: parsedFrom server.netProtocol (s.received (ServiceRun.netId i socketId)) := by
    have all := receives.part
    rw [List.append_assoc] at all
    exact (List.prefix_append ..).trans all
  refine ⟨receives.done.trans (grows part), ?_⟩
  intro empty idle present known
  obtain ⟨connection, found⟩ := Option.ne_none_iff_exists'.mp present
  have whole := (receives.whole connection found).1
  have nothing : messagesFor (ServiceRun.netId i socketId) ([] : List (NetCommand Message)) = [] := rfl
  rw [empty, idle, nothing, List.append_nil, List.append_nil] at whole
  rw [receives.current (.inl known), whole]

/-- From the start of a service, whatever its connections bring, the acceptor attaches, the net
threads do and the main thread takes, sends and disconnects, in any order of their steps. -/
theorem handled_in_order (server : GameServer Message)
    (limit : server.netProtocol.maxPacketLength ≤ 81920) (pipeCapacity n : Nat)
    (createMessageFunc : Int → Option Message) (maxRequestPerSecond : Int)
    (messageHandlers : Int → Option Nat) (events : List (ServiceEvent n Message))
    (answered : ∀ event ∈ events, Answered event) :
    Every (step server pipeCapacity) (InOrder server messageHandlers)
      (start n createMessageFunc maxRequestPerSecond messageHandlers) events := by
  have initial : Sound server messageHandlers
      (start n createMessageFunc maxRequestPerSecond messageHandlers) := .initial ..
  have every : Every (step server pipeCapacity) (Sound server messageHandlers)
      (start n createMessageFunc maxRequestPerSecond messageHandlers) events :=
    every_of_invariant (fun sound fits taken => sound.step limit fits taken) initial
      (Along.of_forall answered _)
  exact every.mono fun sound => sound.inOrder

theorem fits_again : RecvAnswer.Fits ⟨0, .inr eagain⟩ := by
  constructor
  · decide
  · rintro bytes ⟨⟩

theorem fits_received (received : List UInt8) (small : received.length < 2 ^ 31) :
    RecvAnswer.Fits ⟨received.length, .inl received⟩ := by
  constructor
  · dsimp only
    omega
  · rintro bytes ⟨⟩
    simp only [bytesToRead]
    omega

def twoMessages : List (ServiceEvent 1 RawMessage) :=
  [.net (.attach (.last 0) 9 true),
    .net (.handle (.last 0) (.onSocketRead 9 [⟨3, .inl [0, 7, 0]⟩, ⟨0, .inr eagain⟩])),
    .net (.handle (.last 0)
      (.onSocketRead 9 [⟨4, .inl [1, 5, 0, 7]⟩, ⟨2, .inl [0, 0]⟩, ⟨0, .inr eagain⟩])),
    .processNetCommand 0, .net (.pushClientNetCommand (.last 0)),
    .net (.pushClientNetCommand (.last 0)), .processNetCommand 0, .processNetCommand 0]

def oneHandler (messageId : Int) : Option Nat := if messageId = 7 then some 3 else none

theorem twoMessages_answered : ∀ event ∈ twoMessages, Answered event := by
  intro event member
  simp only [twoMessages, List.mem_cons, List.not_mem_nil, or_false] at member
  rcases member with rfl | rfl | rfl | rfl | rfl | rfl | rfl | rfl
  all_goals simp only [Answered, List.forall_mem_cons]
  · exact ⟨fits_received [0, 7, 0] (by decide), fits_again, List.forall_mem_nil _⟩
  · exact ⟨fits_received [1, 5, 0, 7] (by decide), fits_received [0, 0] (by decide), fits_again,
      List.forall_mem_nil _⟩

theorem handled_in_order_twoMessages :
    Every (step (rawServer 40960) 16) (InOrder (rawServer 40960) oneHandler)
        (start 1 (rawServer 40960).netProtocol.createMessageFunc 0 oneHandler) twoMessages ∧
      (Runs.run (step (rawServer 40960) 16)
        (start 1 (rawServer 40960).netProtocol.createMessageFunc 0 oneHandler) twoMessages).map
          (fun s => s.handled ⟨0, 9⟩) = some [(3, some ⟨[5]⟩), (3, some ⟨[]⟩)] := by
  constructor
  · exact handled_in_order (rawServer 40960) (by decide) 16 1 _ 0 oneHandler twoMessages
      twoMessages_answered
  · decide +kernel

end HandledRun

end ZBlueNet
