import ZBlueNet.TcpServiceCore
import ZBlueNet.Lib.History
import ZBlueNet.Lib.Runs
import Mathlib.Data.Finset.Basic

/-!
A connection on its way into the service: the acceptor thread in `NetThread::attach`,
the reactor threads that read and close it, and the main thread that takes the
commands of both from one queue. A read frame and every push is one step.
-/

namespace ZBlueNet

open Runs

inductive AttachStep
  | addIODevice
  | insertSocket
  | insertConnection
  | sendNetCommandNew
deriving DecidableEq, Repr

structure SetupRun (Message : Type) where
  acceptor : Option (NetId × AttachStep)
  allocated : Finset NetId
  registered : Finset NetId
  sockets : Finset NetId
  connections : Finset NetId
  closing : Int → Option NetId
  queue : List (NetCommand Message)
  netCommands : Int → List (NetCommand Message)
  service : TcpService
  processed : List (NetCommand Message)
  disconnected : Finset NetId
  dropped : List (NetCommand Message)
  late : List NetId

/-- `onNetCommand` gets the answer of `isConnected` for a connection that the reactor has. -/
inductive SetupEvent (Message : Type)
  | accept (id : NetId)
  | addIODevice (granted : Bool)
  | insertSocket
  | insertConnection
  | sendNetCommandNew
  | recvMessage (id : NetId) (messageId : Int) (message : Option Message)
  | sendNetCommandClose (id : NetId)
  | closeSocket (reactorId : Int)
  | onNetCommand (reactorId : Int) (isConnected : Bool)
  | processNetCommand (now : Int)
  | disconnect (id : NetId)
deriving DecidableEq, Repr

def Has {Message : Type} (cmds : List (NetCommand Message)) (type : NetCommandType)
    (id : NetId) : Prop :=
  ∃ cmd ∈ cmds, cmd.type = type ∧ cmd.id = id

instance {Message : Type} (cmds : List (NetCommand Message)) (type : NetCommandType)
    (id : NetId) : Decidable (Has cmds type id) :=
  inferInstanceAs (Decidable (∃ cmd ∈ cmds, cmd.type = type ∧ cmd.id = id))

def pushes {Message : Type} (calls : List (ServiceCall Message)) : List (NetCommand Message) :=
  calls.filterMap fun
    | .push cmd => some cmd
    | _ => none

namespace SetupRun

variable {Message : Type}

def start (service : TcpService) : SetupRun Message :=
  { acceptor := none
    allocated := ∅
    registered := ∅
    sockets := ∅
    connections := ∅
    closing := fun _ => none
    queue := []
    netCommands := fun _ => []
    service := service
    processed := []
    disconnected := ∅
    dropped := []
    late := [] }

def push (s : SetupRun Message) (cmd : NetCommand Message) : SetupRun Message :=
  { s with queue := s.queue ++ [cmd] }

def erase (s : SetupRun Message) (id : NetId) : SetupRun Message :=
  { s with
    registered := s.registered.erase id
    sockets := s.sockets.erase id
    connections := s.connections.erase id }

def deliver (s : SetupRun Message) (outcome : TcpService × List (ServiceCall Message)) :
    SetupRun Message :=
  { s with
    service := outcome.1
    netCommands := fun reactorId =>
      s.netCommands reactorId ++ (pushes outcome.2).filter (·.id.reactorId = reactorId)
    disconnected := s.disconnected ∪ ((pushes outcome.2).map (·.id)).toFinset }

/-- The main thread takes a command from its queue. `dropped` collects messages without a
connection, `late` connections that are recorded after their `CLOSE`. -/
def afterProcess (s : SetupRun Message) (now : Int) (cmd : NetCommand Message)
    (rest : List (NetCommand Message)) : SetupRun Message :=
  { s with
    queue := rest
    processed := s.processed ++ [cmd]
    dropped :=
      if cmd.type = NetCommandType.message ∧ s.service.connectionInfos cmd.id = none then
        s.dropped ++ [cmd]
      else s.dropped
    late :=
      if cmd.type = NetCommandType.new ∧ Has s.processed .close cmd.id then s.late ++ [cmd.id]
      else s.late }.deliver (s.service.processNetCommand now cmd)

def CanHandle (s : SetupRun Message) (id : NetId) : Prop :=
  id ∈ s.registered ∧ id ∈ s.connections ∧ s.closing id.reactorId = none

instance (s : SetupRun Message) (id : NetId) : Decidable (s.CanHandle id) :=
  inferInstanceAs (Decidable (_ ∧ _ ∧ _))

def step (s : SetupRun Message) : SetupEvent Message → Option (SetupRun Message)
  | .accept id =>
      if s.acceptor = none ∧ id ∉ s.allocated then
        some { s with acceptor := some (id, .addIODevice), allocated := insert id s.allocated }
      else none
  | .addIODevice granted =>
      match s.acceptor with
      | some (id, .addIODevice) =>
          if granted then
            some { s with
              acceptor := some (id, .insertSocket), registered := insert id s.registered }
          else some { s with acceptor := some (id, .sendNetCommandNew) }
      | _ => none
  | .insertSocket =>
      match s.acceptor with
      | some (id, .insertSocket) =>
          some { s with acceptor := some (id, .insertConnection), sockets := insert id s.sockets }
      | _ => none
  | .insertConnection =>
      match s.acceptor with
      | some (id, .insertConnection) =>
          some { s with
            acceptor := some (id, .sendNetCommandNew), connections := insert id s.connections }
      | _ => none
  | .sendNetCommandNew =>
      match s.acceptor with
      | some (id, .sendNetCommandNew) =>
          some ({ s with acceptor := none }.push (.plain .new id))
      | _ => none
  | .recvMessage id messageId message =>
      if s.CanHandle id then
        some (s.push (messageCommand id messageId message))
      else none
  | .sendNetCommandClose id =>
      if s.CanHandle id then
        some ({ s with closing := Function.update s.closing id.reactorId (some id) }.push
          (.plain .close id))
      else none
  | .closeSocket reactorId =>
      match s.closing reactorId with
      | some id => some ({ s with closing := Function.update s.closing reactorId none }.erase id)
      | none => none
  | .onNetCommand reactorId isConnected =>
      match s.closing reactorId, s.netCommands reactorId with
      | none, cmd :: rest =>
          let taken := { s with netCommands := Function.update s.netCommands reactorId rest }
          if isConnected ∧ cmd.id ∈ s.connections ∧ cmd.type = .close then
            some (taken.erase cmd.id)
          else some taken
      | _, _ => none
  | .processNetCommand now =>
      match s.queue with
      | [] => none
      | cmd :: rest => some (s.afterProcess now cmd rest)
  | .disconnect id => some (s.deliver (s.service.disconnect id))

def history (s : SetupRun Message) : List (NetCommand Message) := s.processed ++ s.queue

def Announced (earlier : List (NetCommand Message)) (cmd : NetCommand Message) : Prop :=
  cmd.type ≠ .new → Has earlier .new cmd.id

/-- The commands of a connection follow its `NEW`; a message is lost only if the service itself
disconnected before; and no connection is recorded after its `CLOSE`. -/
structure Orderly (s : SetupRun Message) : Prop where
  newFirst : Admitted Announced [] s.history
  notDropped : ∀ cmd ∈ s.dropped, cmd.id ∈ s.disconnected
  notLate : s.late = []

/-- The reactor thread handles an event of a connection only when `attach` is through with it. -/
def AfterAttach (s : SetupRun Message) : SetupEvent Message → Prop
  | .recvMessage id _ _ => s.CanHandle id → s.acceptor ≠ some (id, .sendNetCommandNew)
  | .sendNetCommandClose id => s.CanHandle id → s.acceptor ≠ some (id, .sendNetCommandNew)
  | _ => True

def Unrepeated (earlier : List (NetCommand Message)) (cmd : NetCommand Message) : Prop :=
  ¬Has earlier (if cmd.type = .new then .new else .close) cmd.id

structure Setup (s : SetupRun Message) : Prop where
  unrepeated : Admitted Unrepeated [] s.history
  known : ∀ cmd ∈ s.history, cmd.id ∈ s.allocated
  attaching : ∀ id step, s.acceptor = some (id, step) →
    id ∈ s.allocated ∧ ¬Has s.history .new id ∧
      (step ≠ .sendNetCommandNew → id ∉ s.connections ∧ ¬Has s.history .close id)
  announced : ∀ id ∈ s.allocated, Has s.history .new id ∨ ∃ step, s.acceptor = some (id, step)
  attached : s.connections ⊆ s.allocated
  notClosed : ∀ id ∈ s.connections, s.closing id.reactorId ≠ some id → ¬Has s.history .close id
  informed : ∀ id, Has s.processed .new id → ¬Has s.processed .close id → id ∉ s.disconnected →
    s.service.connectionInfos id ≠ none

section Histories

variable {s : SetupRun Message} {cmd : NetCommand Message} {type : NetCommandType} {id : NetId}

theorem has_append (first second : List (NetCommand Message)) :
    Has (first ++ second) type id ↔ Has first type id ∨ Has second type id := by
  simp only [Has, List.mem_append, or_and_right, exists_or]

theorem has_snoc (cmds : List (NetCommand Message)) :
    Has (cmds ++ [cmd]) type id ↔ Has cmds type id ∨ (cmd.type = type ∧ cmd.id = id) := by
  rw [has_append]
  simp [Has]

theorem history_push (s : SetupRun Message) (cmd : NetCommand Message) :
    (s.push cmd).history = s.history ++ [cmd] := by
  simp [history, push]

theorem Setup.not_new (setup : Setup s) (fresh : id ∉ s.allocated) (type : NetCommandType) :
    ¬Has s.history type id := by
  rintro ⟨cmd, member, -, same⟩
  exact fresh (same ▸ setup.known cmd member)

/-- While a connection is in the map, its `NEW` is missing exactly in the last step of `attach`. -/
theorem Setup.announced_iff (setup : Setup s) (entered : id ∈ s.connections) :
    Has s.history .new id ↔ s.acceptor ≠ some (id, .sendNetCommandNew) := by
  constructor
  · intro new acceptor
    exact (setup.attaching id _ acceptor).2.1 new
  · intro finished
    rcases setup.announced id (setup.attached entered) with new | ⟨step, acceptor⟩
    · exact new
    · by_cases last : step = .sendNetCommandNew
      · exact absurd (last ▸ acceptor) finished
      · exact absurd entered ((setup.attaching id step acceptor).2.2 last).1

end Histories

variable {s next : SetupRun Message} {event : SetupEvent Message}

/-! Acceptor thread -/

theorem Setup.accept (setup : Setup s) {id : NetId} (idle : s.acceptor = none)
    (fresh : id ∉ s.allocated) :
    Setup { s with acceptor := some (id, .addIODevice), allocated := insert id s.allocated } := by
  refine { setup with known := ?_, attaching := ?_, announced := ?_, attached := ?_ }
  · intro cmd member
    exact Finset.mem_insert_of_mem (setup.known cmd member)
  · intro other step same
    cases same
    exact ⟨Finset.mem_insert_self _ _, setup.not_new fresh _, fun _ =>
      ⟨fun entered => fresh (setup.attached entered), setup.not_new fresh _⟩⟩
  · intro other member
    rcases Finset.mem_insert.mp member with same | known
    · subst same
      exact .inr ⟨_, rfl⟩
    · rcases setup.announced other known with new | ⟨step, acceptor⟩
      · exact .inl new
      · rw [idle] at acceptor
        cases acceptor
  · intro other entered
    exact Finset.mem_insert_of_mem (setup.attached entered)

theorem Setup.advance (setup : Setup s) {id : NetId} {before after : AttachStep}
    (acceptor : s.acceptor = some (id, before)) (working : before ≠ .sendNetCommandNew)
    {registered sockets : Finset NetId} :
    Setup { s with acceptor := some (id, after), registered := registered, sockets := sockets } := by
  refine { setup with attaching := ?_, announced := ?_ }
  · intro other step same
    cases same
    rcases setup.attaching id before acceptor with ⟨known, noNew, free⟩
    exact ⟨known, noNew, fun _ => free working⟩
  · intro other known
    rcases setup.announced other known with new | ⟨step, same⟩
    · exact .inl new
    · rw [acceptor] at same
      cases same
      exact .inr ⟨after, rfl⟩

theorem Setup.insertConnection (setup : Setup s) {id : NetId}
    (acceptor : s.acceptor = some (id, .insertConnection)) :
    Setup { s with
      acceptor := some (id, .sendNetCommandNew), connections := insert id s.connections } := by
  rcases setup.attaching id _ acceptor with ⟨known, noNew, free⟩
  have unclosed := (free (by simp)).2
  refine { setup with attaching := ?_, announced := ?_, attached := ?_, notClosed := ?_ }
  · intro other step same
    cases same
    exact ⟨known, noNew, fun working => absurd rfl working⟩
  · intro other member
    rcases setup.announced other member with new | ⟨step, same⟩
    · exact .inl new
    · rw [acceptor] at same
      cases same
      exact .inr ⟨_, rfl⟩
  · exact Finset.insert_subset known setup.attached
  · intro other member open_
    rcases Finset.mem_insert.mp member with same | entered
    · exact same ▸ unclosed
    · exact setup.notClosed other entered open_

theorem Setup.sendNetCommandNew (setup : Setup s) {id : NetId}
    (acceptor : s.acceptor = some (id, .sendNetCommandNew)) :
    Setup ({ s with acceptor := none }.push (.plain .new id)) := by
  rcases setup.attaching id _ acceptor with ⟨known, noNew, -⟩
  have extended := history_push { s with acceptor := none } (.plain .new id)
  refine ⟨?_, ?_, ?_, ?_, setup.attached, ?_, setup.informed⟩
  · rw [extended, admitted_snoc]
    exact ⟨setup.unrepeated, noNew⟩
  · rw [extended]
    intro cmd member
    rcases List.mem_append.mp member with old | last
    · exact setup.known cmd old
    · cases List.mem_singleton.mp last
      exact known
  · intro other step same
    cases same
  · rw [extended]
    intro other member
    rw [has_snoc]
    rcases setup.announced other member with new | ⟨step, same⟩
    · exact .inl (.inl new)
    · rw [acceptor] at same
      cases same
      exact .inl (.inr ⟨rfl, rfl⟩)
  · rw [extended]
    intro other entered open_
    rw [has_snoc]
    rintro (close | ⟨new, -⟩)
    · exact setup.notClosed other entered open_ close
    · cases new

/-! Reactor threads -/

theorem Setup.pushCommand (setup : Setup s) {cmd : NetCommand Message}
    {closing : Int → Option NetId} (entered : cmd.id ∈ s.connections) (kind : cmd.type ≠ .new)
    (unclosed : ¬Has s.history .close cmd.id)
    (notClosed : ∀ id ∈ s.connections, closing id.reactorId ≠ some id →
      ¬Has (s.history ++ [cmd]) .close id) :
    Setup ({ s with closing := closing }.push cmd) := by
  have extended := history_push { s with closing := closing } cmd
  refine ⟨?_, ?_, ?_, ?_, setup.attached, ?_, setup.informed⟩
  · rw [extended, admitted_snoc]
    refine ⟨setup.unrepeated, ?_⟩
    rw [Unrepeated, if_neg kind]
    exact unclosed
  · rw [extended]
    intro other member
    rcases List.mem_append.mp member with old | last
    · exact setup.known other old
    · cases List.mem_singleton.mp last
      exact setup.attached entered
  · rw [extended]
    intro id step acceptor
    rcases setup.attaching id step acceptor with ⟨known, noNew, free⟩
    refine ⟨known, ?_, fun working => ⟨(free working).1, ?_⟩⟩
    · rw [has_snoc]
      rintro (new | ⟨new, -⟩)
      · exact noNew new
      · exact kind new
    · rw [has_snoc]
      rintro (close | ⟨-, same⟩)
      · exact (free working).2 close
      · exact (free working).1 (same ▸ entered)
  · rw [extended]
    intro id known
    rw [has_snoc]
    exact (setup.announced id known).imp_left .inl
  · rw [extended]
    exact notClosed

theorem Setup.unclosed (setup : Setup s) {id : NetId} (handles : s.CanHandle id) :
    ¬Has s.history .close id := by
  apply setup.notClosed id handles.2.1
  rw [handles.2.2]
  exact fun busy => nomatch busy

theorem Setup.recvMessage (setup : Setup s) {id : NetId} (handles : s.CanHandle id)
    (messageId : Int) (message : Option Message) :
    Setup (s.push (messageCommand id messageId message)) := by
  apply setup.pushCommand handles.2.1 (by simp [messageCommand, NetCommand.create])
    (setup.unclosed handles)
  intro other entered open_
  rw [has_snoc]
  rintro (close | ⟨close, -⟩)
  · exact setup.notClosed other entered open_ close
  · simp [messageCommand, NetCommand.create] at close

theorem Setup.sendNetCommandClose (setup : Setup s) {id : NetId} (handles : s.CanHandle id) :
    Setup ({ s with closing := Function.update s.closing id.reactorId (some id) }.push
      (.plain .close id)) := by
  apply setup.pushCommand handles.2.1 (by simp [NetCommand.plain, NetCommand.create])
    (setup.unclosed handles)
  intro other entered open_
  rw [has_snoc]
  rintro (close | ⟨-, same⟩)
  · by_cases thread : other.reactorId = id.reactorId
    · refine setup.notClosed other entered ?_ close
      rw [thread, handles.2.2]
      exact fun busy => nomatch busy
    · rw [Function.update_of_ne thread] at open_
      exact setup.notClosed other entered open_ close
  · cases same
    exact open_ (Function.update_self _ _ _)

theorem Setup.erase (setup : Setup s) {id : NetId} {closing : Int → Option NetId}
    {netCommands : Int → List (NetCommand Message)}
    (notClosed : ∀ other ∈ s.connections, other ≠ id → closing other.reactorId ≠ some other →
      s.closing other.reactorId ≠ some other) :
    Setup ({ s with closing := closing, netCommands := netCommands }.erase id) := by
  refine { setup with attaching := ?_, attached := ?_, notClosed := ?_ }
  · intro other step acceptor
    rcases setup.attaching other step acceptor with ⟨known, noNew, free⟩
    exact ⟨known, noNew, fun working =>
      ⟨fun entered => (free working).1 (Finset.mem_of_mem_erase entered), (free working).2⟩⟩
  · intro other entered
    exact setup.attached (Finset.mem_of_mem_erase entered)
  · intro other entered open_
    rcases Finset.mem_erase.mp entered with ⟨different, member⟩
    exact setup.notClosed other member (notClosed other member different open_)

/-! Main thread -/

section Service

variable (service : TcpService) {id other : NetId}

theorem setInfo_none_iff (info : Option ConnectionInfo) :
    (service.setInfo id info).connectionInfos other = none ↔
      if other = id then info = none else service.connectionInfos other = none := by
  by_cases same : other = id
  · subst same
    simp [TcpService.setInfo]
  · simp [TcpService.setInfo, same]

theorem processNetCommand_keeps (now : Int) (cmd : NetCommand Message)
    (known : service.connectionInfos id ≠ none) (open_ : cmd.type = .close → cmd.id ≠ id)
    (kept : id ∉ (pushes (service.processNetCommand now cmd).2).map (·.id)) :
    (service.processNetCommand now cmd).1.connectionInfos id ≠ none := by
  simp only [TcpService.processNetCommand] at kept ⊢
  cases kind : cmd.type with
  | new =>
      simp only [TcpService.onConnect, ne_eq, setInfo_none_iff]
      split
      · simp
      · exact known
  | close =>
      simp only [TcpService.onDisconnect, ne_eq, setInfo_none_iff, if_neg (open_ kind).symm]
      exact known
  | message =>
      simp only [kind, TcpService.onMessage] at kept ⊢
      split
      · exact known
      · rename_i info found
        simp only [found] at kept
        split
        · rename_i limited
          rw [if_pos limited] at kept
          split
          · rename_i exceeded
            rw [if_pos exceeded] at kept
            simp only [TcpService.disconnect, pushes, List.filterMap_cons, List.filterMap_nil,
              List.map_cons, List.map_nil, List.mem_singleton] at kept
            have different : id ≠ cmd.id := kept
            simp only [TcpService.disconnect, TcpService.onDisconnect, ne_eq, setInfo_none_iff,
              if_neg different]
            exact known
          · simp only [ne_eq, setInfo_none_iff]
            split
            · simp
            · exact known
        · exact known
  | enableBroadcast => exact known
  | disableBroadcast => exact known
  | broadcast => exact known

theorem processNetCommand_new (now : Int) {cmd : NetCommand Message} (new : cmd.type = .new) :
    (service.processNetCommand now cmd).1.connectionInfos cmd.id ≠ none := by
  simp [TcpService.processNetCommand, new, TcpService.onConnect, setInfo_none_iff]

end Service

theorem history_afterProcess {now : Int} {cmd : NetCommand Message}
    {rest : List (NetCommand Message)} (queue : s.queue = cmd :: rest) :
    (s.afterProcess now cmd rest).history = s.history := by
  simp [afterProcess, deliver, history, queue]

theorem Setup.processNetCommand (setup : Setup s) {now : Int} {cmd : NetCommand Message}
    {rest : List (NetCommand Message)} (queue : s.queue = cmd :: rest) :
    Setup (s.afterProcess now cmd rest) := by
  have same : (s.afterProcess now cmd rest).history = s.history := history_afterProcess queue
  refine ⟨?_, ?_, ?_, ?_, setup.attached, ?_, ?_⟩
  · rw [same]
    exact setup.unrepeated
  · rw [same]
    exact setup.known
  · rw [same]
    exact setup.attaching
  · rw [same]
    exact setup.announced
  · rw [same]
    exact setup.notClosed
  · intro id new unclosed kept
    simp only [afterProcess, deliver, has_snoc, not_or, not_and, Finset.mem_union,
      List.mem_toFinset] at new unclosed kept ⊢
    rcases new with old | ⟨kind, identity⟩
    · exact processNetCommand_keeps s.service now cmd
        (setup.informed id old unclosed.1 kept.1) unclosed.2 kept.2
    · rw [← identity]
      exact processNetCommand_new s.service now kind

theorem Setup.disconnect (setup : Setup s) (id : NetId) :
    Setup (s.deliver (s.service.disconnect id)) := by
  refine { setup with informed := ?_ }
  intro other new unclosed kept
  simp only [deliver, TcpService.disconnect, pushes, List.filterMap_cons, List.filterMap_nil,
    List.map_cons, List.map_nil, Finset.mem_union, List.mem_toFinset, List.mem_singleton,
    not_or] at kept ⊢
  have different : other ≠ id := kept.2
  rw [TcpService.onDisconnect, ne_eq, setInfo_none_iff, if_neg different]
  exact setup.informed other new unclosed kept.1

theorem Orderly.processNetCommand (orderly : Orderly s) (setup : Setup s) {now : Int}
    {cmd : NetCommand Message} {rest : List (NetCommand Message)}
    (queue : s.queue = cmd :: rest) : Orderly (s.afterProcess now cmd rest) := by
  have split : s.history = s.processed ++ cmd :: rest := by rw [history, queue]
  have announced : Announced s.processed cmd := (split ▸ orderly.newFirst).at
  have unrepeated : Unrepeated s.processed cmd := (split ▸ setup.unrepeated).at
  refine ⟨?_, ?_, ?_⟩
  · rw [history_afterProcess queue]
    exact orderly.newFirst
  · intro lost member
    simp only [afterProcess, deliver, Finset.mem_union] at member ⊢
    split at member
    · rename_i missing
      rcases List.mem_append.mp member with old | last
      · exact .inl (orderly.notDropped lost old)
      · cases List.mem_singleton.mp last
        have kind : cmd.type ≠ .new := by simp [missing.1]
        rw [Unrepeated, if_neg kind] at unrepeated
        by_contra kept
        rw [not_or] at kept
        exact setup.informed cmd.id (announced kind) unrepeated kept.1 missing.2
    · exact .inl (orderly.notDropped lost member)
  · simp only [afterProcess, deliver]
    split
    · rename_i late
      rw [Unrepeated, if_pos late.1] at unrepeated
      rcases late.2 with ⟨close, member, kind, identity⟩
      rcases List.append_of_mem member with ⟨before, after, cut⟩
      have first : Announced before close := by
        have whole := orderly.newFirst
        rw [split, cut, List.append_assoc, List.cons_append] at whole
        exact whole.at
      rcases first (by simp [kind]) with ⟨new, earlier, isNew, same⟩
      refine absurd ⟨new, ?_, isNew, same.trans identity⟩ unrepeated
      rw [cut]
      exact List.mem_append_left _ earlier
    · exact orderly.notLate

theorem Orderly.push_iff (orderly : Orderly s) {acceptor : Option (NetId × AttachStep)}
    {closing : Int → Option NetId} {cmd : NetCommand Message} :
    Orderly ({ s with acceptor := acceptor, closing := closing }.push cmd) ↔
      Announced s.history cmd := by
  have extended := history_push { s with acceptor := acceptor, closing := closing } cmd
  constructor
  · intro still
    have whole := still.newFirst
    rw [extended, admitted_snoc] at whole
    exact whole.2
  · intro announced
    refine ⟨?_, orderly.notDropped, orderly.notLate⟩
    rw [extended, admitted_snoc]
    exact ⟨orderly.newFirst, announced⟩

theorem Orderly.frame {after : SetupRun Message} (orderly : Orderly s)
    (history : after.history = s.history) (dropped : after.dropped = s.dropped)
    (disconnected : s.disconnected ⊆ after.disconnected) (late : after.late = s.late) :
    Orderly after := by
  refine ⟨?_, ?_, ?_⟩
  · rw [history]
    exact orderly.newFirst
  · rw [dropped]
    intro cmd member
    exact disconnected (orderly.notDropped cmd member)
  · rw [late]
    exact orderly.notLate

theorem Setup.announced_iff_afterAttach (setup : Setup s) {id : NetId}
    (handles : s.CanHandle id) {cmd : NetCommand Message} (kind : cmd.type ≠ .new)
    (identity : cmd.id = id) :
    Announced s.history cmd ↔ (s.CanHandle id → s.acceptor ≠ some (id, .sendNetCommandNew)) := by
  rw [Announced, identity, setup.announced_iff handles.2.1]
  simp only [ne_eq, kind, not_false_eq_true, handles, true_imp_iff]

theorem Setup.silent (after : Setup next) (allowed : AfterAttach s event)
    (history : next.history = s.history) (dropped : next.dropped = s.dropped)
    (disconnected : s.disconnected ⊆ next.disconnected) (late : next.late = s.late) :
    Setup next ∧ (Orderly s → (Orderly next ↔ AfterAttach s event)) := by
  refine ⟨after, ?_⟩
  intro orderly
  exact iff_of_true (orderly.frame history dropped disconnected late) allowed

theorem step_spec (setup : Setup s) (taken : s.step event = some next) :
    Setup next ∧ (Orderly s → (Orderly next ↔ AfterAttach s event)) := by
  cases event with
  | accept id =>
      simp only [step] at taken
      split at taken
      · rename_i free
        cases taken
        exact (setup.accept free.1 free.2).silent trivial rfl rfl (subset_refl _) rfl
      · cases taken
  | addIODevice granted =>
      simp only [step] at taken
      split at taken
      · rename_i id acceptor
        split at taken
        · cases taken
          exact (setup.advance acceptor (by simp)).silent trivial rfl rfl (subset_refl _) rfl
        · cases taken
          exact (setup.advance acceptor (by simp)).silent trivial rfl rfl (subset_refl _) rfl
      · cases taken
  | insertSocket =>
      simp only [step] at taken
      split at taken
      · rename_i id acceptor
        cases taken
        exact (setup.advance acceptor (by simp)).silent trivial rfl rfl (subset_refl _) rfl
      · cases taken
  | insertConnection =>
      simp only [step] at taken
      split at taken
      · rename_i id acceptor
        cases taken
        exact (setup.insertConnection acceptor).silent trivial rfl rfl (subset_refl _) rfl
      · cases taken
  | sendNetCommandNew =>
      simp only [step] at taken
      split at taken
      · rename_i id acceptor
        cases taken
        refine ⟨setup.sendNetCommandNew acceptor, fun orderly => iff_of_true ?_ trivial⟩
        exact orderly.push_iff.mpr fun kind => absurd rfl kind
      · cases taken
  | recvMessage id messageId message =>
      simp only [step] at taken
      split at taken
      · rename_i handles
        cases taken
        refine ⟨setup.recvMessage handles messageId message, ?_⟩
        intro orderly
        rw [orderly.push_iff]
        exact setup.announced_iff_afterAttach handles
          (by simp [messageCommand, NetCommand.create]) rfl
      · cases taken
  | sendNetCommandClose id =>
      simp only [step] at taken
      split at taken
      · rename_i handles
        cases taken
        refine ⟨setup.sendNetCommandClose handles, ?_⟩
        intro orderly
        rw [orderly.push_iff]
        exact setup.announced_iff_afterAttach handles
          (by simp [NetCommand.plain, NetCommand.create]) rfl
      · cases taken
  | closeSocket reactorId =>
      simp only [step] at taken
      split at taken
      · rename_i id closing
        cases taken
        refine (setup.erase ?_).silent trivial rfl rfl (subset_refl _) rfl
        intro other entered different open_
        by_cases thread : other.reactorId = reactorId
        · rw [thread, closing]
          simpa using different.symm
        · rw [Function.update_of_ne thread] at open_
          exact open_
      · cases taken
  | onNetCommand reactorId isConnected =>
      simp only [step] at taken
      split at taken
      · split at taken
        · cases taken
          exact Setup.silent (setup.erase fun _ _ _ open_ => open_) trivial rfl rfl (subset_refl _) rfl
        · cases taken
          exact Setup.silent { setup with } trivial rfl rfl (subset_refl _) rfl
      · cases taken
  | processNetCommand now =>
      simp only [step] at taken
      split at taken
      · cases taken
      · rename_i cmd rest queue
        cases taken
        exact ⟨setup.processNetCommand queue, fun orderly =>
          iff_of_true (orderly.processNetCommand setup queue) trivial⟩
  | disconnect id =>
      cases taken
      exact (setup.disconnect id).silent trivial rfl rfl Finset.subset_union_left rfl

/-- Whatever the three threads do, the set-up stays orderly exactly as long as no reactor thread
handles an event of a connection whose `NEW` the acceptor has not pushed yet. -/
theorem orderly_every_iff (service : TcpService) (events : List (SetupEvent Message)) :
    Every step Orderly (start service) events ↔ Along step AfterAttach (start service) events := by
  have preserved {s next : SetupRun Message} {event : SetupEvent Message} (setup : Setup s)
      (_ : (fun _ _ => True : SetupRun Message → SetupEvent Message → Prop) s event)
      (taken : s.step event = some next) : Setup next :=
    (step_spec setup taken).1
  apply every_iff_along preserved
  · intro s event next setup _ orderly taken
    exact (step_spec setup taken).2 orderly
  · intro s event stuck
    cases event with
    | recvMessage id messageId message =>
        intro handles
        simp [step, handles] at stuck
    | sendNetCommandClose id =>
        intro handles
        simp [step, handles] at stuck
    | _ => trivial
  · constructor <;> simp [start, history, Admitted, Has]
  · constructor <;> simp [start, history, Admitted]
  · exact along_always _ events

instance (earlier : List (NetCommand Message)) (cmd : NetCommand Message) :
    Decidable (Announced earlier cmd) :=
  inferInstanceAs (Decidable (cmd.type ≠ .new → Has earlier .new cmd.id))

instance : DecidablePred (Orderly : SetupRun Message → Prop) := fun s =>
  decidable_of_iff (Admitted Announced [] s.history ∧ (∀ cmd ∈ s.dropped, cmd.id ∈ s.disconnected) ∧
    s.late = []) ⟨fun all => ⟨all.1, all.2.1, all.2.2⟩,
      fun orderly => ⟨orderly.newFirst, orderly.notDropped, orderly.notLate⟩⟩

def entering (id : NetId) : List (SetupEvent Nat) :=
  [.accept id, .addIODevice true, .insertSocket, .insertConnection]

def earlyMessage : List (SetupEvent Nat) :=
  entering ⟨0, 7⟩ ++ [.recvMessage ⟨0, 7⟩ 5 (some 1), .sendNetCommandNew]

def earlyClose : List (SetupEvent Nat) :=
  entering ⟨0, 7⟩ ++ [.sendNetCommandClose ⟨0, 7⟩, .sendNetCommandNew, .closeSocket 0]

/-- The early frame is in front of `NEW` and gets lost; after the early close the service keeps a
connection that no reactor has. -/
theorem earlyMessage_breaks :
    ¬Every step Orderly (start (.create 0)) earlyMessage ∧
    ((run step (start (.create 0)) earlyMessage).map fun s => s.queue.map (·.type)) =
      some [.message, .new] ∧
    ((run step (start (.create 0)) (earlyMessage ++ [.processNetCommand 0])).map fun s =>
      s.dropped.map (·.messageId)) = some [5] ∧
    ((run step (start (.create 0)) (earlyClose ++
        [.processNetCommand 0, .processNetCommand 0])).map fun s =>
      (s.late, s.connections, (s.service.connectionInfos ⟨0, 7⟩).isSome)) =
        some ([⟨0, 7⟩], ∅, true) := by
  decide +kernel

end SetupRun

end ZBlueNet
