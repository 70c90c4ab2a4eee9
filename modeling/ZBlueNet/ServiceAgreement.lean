import ZBlueNet.NetThreadDeeds
import ZBlueNet.ConnectionSetup

/-!
The main thread of a `TcpService` with its net threads, and the commands under way
between them in both directions. A connection is seen from both sides: by the main
thread in `connection_infos_`, by a net thread in its reactor.
-/

namespace ZBlueNet

open Runs EpollReactor

/-- The life of one connection in the eyes of both sides. `opening` and `closing` tell that a NEW or
a CLOSE command is under way to the main thread, `commanded` that a CLOSE command is under way from
it. -/
structure Link where
  known : Bool
  opening : Bool
  closing : Bool
  commanded : Bool
  attached : Bool
  status : Option ConnectionStatus
deriving DecidableEq, Repr

namespace Link

inductive Step : Link → Link → Prop
  | attach {l : Link} (new : l.attached = false) :
      Step l { l with attached := true, opening := true, status := some .connected }
  | fail {l : Link} (connected : l.status = some .connected) :
      Step l { l with status := some .pendingError }
  | lose {l : Link} (present : l.status ≠ none) : Step l { l with status := none, closing := true }
  | command {l : Link} (known : l.known = true) : Step l { l with known := false, commanded := true }
  | obey {l : Link} (commanded : l.commanded = true) (left : Bool) :
      Step l { l with status := none, commanded := left }
  | ignore {l : Link} (unconnected : l.status = none ∨ l.status = some .pendingError) (left : Bool) :
      Step l { l with commanded := l.commanded && left }
  | learn {l : Link} (opening : l.opening = true) : Step l { l with known := true, opening := false }
  | forget {l : Link} (closing : l.closing = true) (late : l.opening = false) (left : Bool) :
      Step l { l with known := false, closing := left }

structure Coherent (l : Link) : Prop where
  told : l.known = true ∨ l.opening = true → l.status ≠ none ∨ l.closing = true
  seen : l.status ≠ none → l.known = true ∨ l.opening = true ∨ l.commanded = true ∨
    l.status = some .pendingError
  left : l.commanded = true → l.known = false ∧ l.opening = false
  gone : l.closing = true → l.status = none
  once : l.known = true → l.opening = false
  fresh : l.attached = false → l.status = none ∧ l.known = false ∧ l.opening = false ∧
    l.closing = false ∧ l.commanded = false

theorem Step.coherent {l next : Link} (step : Step l next) (coherent : Coherent l) :
    Coherent next := by
  obtain ⟨told, seen, left, gone, once, fresh⟩ := coherent
  cases step with
  | attach new =>
      obtain ⟨-, unknown, -, silent, unordered⟩ := fresh new
      refine ⟨fun _ => .inl (Option.some_ne_none _), fun _ => .inr (.inl rfl), ?_, ?_, ?_, nofun⟩
      · intro ordered
        exact absurd ordered (by simp [unordered])
      · intro closing
        exact absurd closing (by simp [silent])
      · intro known
        exact absurd known (by simp [unknown])
  | fail connected =>
      refine ⟨fun _ => .inl (Option.some_ne_none _), fun _ => .inr (.inr (.inr rfl)), left, ?_,
        once, ?_⟩
      · intro closing
        exact absurd (gone closing) (by simp [connected])
      · intro new
        exact absurd (fresh new).1 (by simp [connected])
  | lose present =>
      refine ⟨fun _ => .inr rfl, fun still => absurd rfl still, left, fun _ => rfl, once, ?_⟩
      intro new
      exact absurd (fresh new).1 present
  | command known =>
      refine ⟨?_, fun _ => .inr (.inr (.inl rfl)), fun _ => ⟨rfl, once known⟩, gone, nofun, ?_⟩
      · intro either
        exact told (.inr (either.resolve_left Bool.false_ne_true))
      · intro new
        exact absurd known (by simp [(fresh new).2.1])
  | obey commanded left' =>
      obtain ⟨unknown, unopened⟩ := left commanded
      refine ⟨?_, fun still => absurd rfl still, fun _ => ⟨unknown, unopened⟩, fun _ => rfl, once,
        ?_⟩
      · intro either
        simp [unknown, unopened] at either
      · intro new
        exact absurd commanded (by simp [(fresh new).2.2.2.2])
  | ignore unconnected left' =>
      refine ⟨told, ?_, ?_, gone, once, ?_⟩
      · intro present
        exact .inr (.inr (.inr (unconnected.resolve_left present)))
      · intro both
        exact left ((Bool.and_eq_true _ _).mp both).1
      · intro new
        obtain ⟨absent, unknown, unopened, silent, unordered⟩ := fresh new
        exact ⟨absent, unknown, unopened, silent, by simp [unordered]⟩
  | learn opening =>
      refine ⟨fun _ => told (.inr opening), fun _ => .inl rfl, ?_, gone, fun _ => rfl, ?_⟩
      · intro ordered
        exact absurd opening (by simp [(left ordered).2])
      · intro new
        exact absurd opening (by simp [(fresh new).2.2.1])
  | forget closing late left' =>
      refine ⟨?_, fun present => absurd (gone closing) present, fun _ => ⟨rfl, late⟩,
        fun _ => gone closing, nofun, ?_⟩
      · intro either
        simp [late] at either
      · intro new
        exact absurd closing (by simp [(fresh new).2.2.2.1])

theorem Coherent.agree {l : Link} (coherent : Coherent l) (opened : l.opening = false)
    (closed : l.closing = false) (obeyed : l.commanded = false)
    (failed : l.status ≠ some .pendingError) : l.known = true ↔ l.status ≠ none := by
  constructor
  · intro known
    have reported : l.closing ≠ true := by simp [closed]
    exact (coherent.told (.inl known)).resolve_right reported
  · intro present
    rcases coherent.seen present with known | opening | commanded | pending
    · exact known
    · exact absurd opening (by simp [opened])
    · exact absurd commanded (by simp [obeyed])
    · exact absurd pending failed

end Link

/-- The net threads, and the commands that are under way from them. A handler's commands wait in
`handed` until its thread has pushed them. -/
structure NetThreads (n : Nat) (Message : Type) where
  threads : Fin n → NetThread Unit Message
  handed : Fin n → List (NetCommand Message)
  clientNetCommandQueue : MessageQueue (NetCommand Message)
  attached : List NetId

inductive NetThreadsEvent (n : Nat) (Message : Type)
  | attach (i : Fin n) (socketId : SocketId) (granted : Bool)
  | handle (i : Fin n) (event : NetThreadEvent Message)
  | onNetCommand (i : Fin n) (env : SocketId → SendEnv)
  | pushClientNetCommand (i : Fin n)
  | push (i : Fin n) (cmd : Option (NetCommand Message))

namespace NetThreads

variable {n : Nat} {Message : Type}

def init (n : Nat) (createMessageFunc : Int → Option Message) : NetThreads n Message :=
  { threads := fun i =>
      ((NetThread.create 40960 40960 createMessageFunc).init i 81920 409600 (some ()) true).2
    handed := fun _ => []
    clientNetCommandQueue := .empty
    attached := [] }

/-- A handler of thread `i` runs when the commands of the last one are pushed. -/
def react [BaseStruct Message] (server : GameServer Message) (net : NetThreads n Message) (i : Fin n)
    (thread : NetThread Unit Message) (event : NetThreadEvent Message) :
    Option (NetThreads n Message) :=
  if net.handed i = [] then
    (thread.handle server event).map fun outcome =>
      { net with
        threads := Function.update net.threads i outcome.1
        handed := Function.update net.handed i (outcome.2.map Prod.snd) }
  else none

def pushTo (pipeCapacity : Nat) (net : NetThreads n Message) (i : Fin n)
    (cmd : Option (NetCommand Message)) : NetThreads n Message :=
  { net with threads := Function.update net.threads i ((net.threads i).push pipeCapacity cmd) }

/-- `TcpService::push`; there is no thread behind the end of the vector. -/
def push (pipeCapacity : Nat) (net : NetThreads n Message) (cmd : NetCommand Message) :
    Option (NetThreads n Message) :=
  if inside : 0 ≤ cmd.id.reactorId ∧ cmd.id.reactorId.toNat < n then
    some (net.pushTo pipeCapacity ⟨cmd.id.reactorId.toNat, inside.2⟩ (some cmd))
  else none

/-- Every attach is of a new socket and succeeds, and its NEW command is pushed with it. The main
thread pushes any command but CLOSE, which only `disconnect` sends. -/
def step [BaseStruct Message] (server : GameServer Message) (pipeCapacity : Nat)
    (net : NetThreads n Message) : NetThreadsEvent n Message → Option (NetThreads n Message)
  | .attach i socketId granted =>
      if (net.threads i).netId socketId ∉ net.attached ∧
          ((net.threads i).reactor.attachSocket socketId .create granted).1 then
        ((net.threads i).attach socketId granted).map fun outcome =>
          { net with
            threads := Function.update net.threads i outcome.1
            clientNetCommandQueue := (outcome.2.map Prod.snd).foldl (MessageQueue.push pipeCapacity)
              net.clientNetCommandQueue
            attached := net.attached ++ [(net.threads i).netId socketId] }
      else none
  | .handle i event =>
      match event with
      | .onNetCommand _ _ => none
      | _ => net.react server i (net.threads i) event
  | .onNetCommand i env =>
      (net.threads i).commandQueue.pop.bind fun popped =>
        net.react server i { net.threads i with commandQueue := popped.2 }
          (.onNetCommand popped.1 env)
  | .pushClientNetCommand i =>
      match net.handed i with
      | [] => none
      | cmd :: rest =>
          some { net with
            clientNetCommandQueue := net.clientNetCommandQueue.push pipeCapacity cmd
            handed := Function.update net.handed i rest }
  | .push i cmd =>
      if ∃ message ∈ cmd, message.type = .close then none
      else some (net.pushTo pipeCapacity i cmd)

end NetThreads

structure ServiceRun (n : Nat) (Message : Type) where
  service : TcpService
  net : NetThreads n Message

inductive ServiceEvent (n : Nat) (Message : Type)
  | net (event : NetThreadsEvent n Message)
  | processNetCommand (now : Int)
  | disconnect (id : NetId)

namespace ServiceRun

variable {n : Nat} {Message : Type}

def start (n : Nat) (createMessageFunc : Int → Option Message) (maxRequestPerSecond : Int) :
    ServiceRun n Message :=
  { service := .create maxRequestPerSecond, net := .init n createMessageFunc }

/-- The commands that a function of the service pushes; a message handler is a step of its own. -/
def perform (pipeCapacity : Nat) (net : NetThreads n Message) :
    List (ServiceCall Message) → Option (NetThreads n Message)
  | [] => some net
  | .push cmd :: calls => (net.push pipeCapacity cmd).bind fun next => perform pipeCapacity next calls
  | _ :: calls => perform pipeCapacity net calls

/-- The program calls `disconnect` for a connection that the service has at that moment. -/
def step [BaseStruct Message] (server : GameServer Message) (pipeCapacity : Nat)
    (s : ServiceRun n Message) : ServiceEvent n Message → Option (ServiceRun n Message)
  | .net event => (s.net.step server pipeCapacity event).map fun net => { s with net := net }
  | .processNetCommand now =>
      s.net.clientNetCommandQueue.pop.bind fun popped =>
        let outcome := s.service.processNetCommand now popped.1
        (perform pipeCapacity { s.net with clientNetCommandQueue := popped.2 } outcome.2).map
          fun net => { service := outcome.1, net := net }
  | .disconnect id =>
      if s.service.connectionInfos id = none then none
      else
        let outcome := s.service.disconnect id
        (perform pipeCapacity s.net outcome.2).map fun net => { service := outcome.1, net := net }

def Rest (s : ServiceRun n Message) : Prop :=
  s.net.clientNetCommandQueue.queue = [] ∧
    ∀ i, s.net.handed i = [] ∧ (s.net.threads i).commandQueue.queue = []

def Agreed (s : ServiceRun n Message) : Prop :=
  Rest s → (∀ i socketId, (s.net.threads i).reactor.statusOf socketId ≠ some .pendingError) →
    { id | s.service.connectionInfos id ≠ none } =
      { id | ∃ (i : Fin n) (socketId : SocketId), id = ⟨i, socketId⟩ ∧
        (s.net.threads i).reactor.connections socketId ≠ none }

end ServiceRun

/-! One connection, seen by both sides. -/

section Links

open NetThread

variable {n : Nat} {Message : Type}

def closeWaits (commands : List (Option (NetCommand Message))) (socketId : SocketId) : Bool :=
  commands.any fun cmd => cmd.any fun close => close.type = .close ∧ close.id.socketId = socketId

def Link.of (service : TcpService) (queue handed : List (NetCommand Message))
    (thread : NetThread Unit Message) (attached : List NetId) (id : NetId) : Link :=
  { known := (service.connectionInfos id).isSome
    opening := Has queue .new id
    closing := Has (queue ++ handed) .close id
    commanded := closeWaits thread.commandQueue.queue id.socketId
    attached := id ∈ attached
    status := thread.reactor.statusOf id.socketId }

variable {service : TcpService} {queue rest waiting : List (NetCommand Message)} {attached : List NetId}
  {thread next : NetThread Unit Message} {handed : Handed Unit Message} {socketId : SocketId}
  {commands : List (Option (NetCommand Message))} {cmd : NetCommand Message} {type : NetCommandType}
  {id : NetId}

theorem has_nil : ¬Has ([] : List (NetCommand Message)) type id := by
  simp [Has]

theorem has_cons : Has (cmd :: rest) type id ↔ cmd.type = type ∧ cmd.id = id ∨ Has rest type id := by
  simp [Has]

theorem has_close_iff (handed : Handed Unit Message) (id : NetId) :
    Has (handed.map Prod.snd) .close id ↔ 0 < closesOf id handed := by
  simp only [Has, closesOf, List.countP_pos_iff, List.mem_map, decide_eq_true_eq]
  constructor
  · rintro ⟨cmd, ⟨item, member, rfl⟩, close⟩
    exact ⟨item, member, close⟩
  · rintro ⟨item, member, close⟩
    exact ⟨item.2, ⟨item, member, rfl⟩, close⟩

namespace Link

theorem Coherent.deeds (deeds : Deeds thread next handed) (served : Served thread.reactor)
    (own : thread.netId id.socketId = id)
    (coherent : Coherent (of service queue [] thread attached id)) :
    Coherent (of service queue (handed.map Prod.snd) next attached id) := by
  let before := of service queue [] thread attached id
  have report := deeds.report served id.socketId
  rw [own] at report
  have closes := has_close_iff handed id
  cases report with
  | stays same silent =>
      have still : of service queue (handed.map Prod.snd) next attached id = before := by
        simp [before, of, SetupRun.has_append, closes, silent, same, deeds.commandQueue]
      rw [still]
      exact coherent
  | fails connected pending silent =>
      have failed : of service queue (handed.map Prod.snd) next attached id =
          { before with status := some .pendingError } := by
        simp [before, of, SetupRun.has_append, closes, silent, pending, deeds.commandQueue]
      rw [failed]
      exact (Step.fail connected).coherent coherent
  | leaves present gone once =>
      have lost : of service queue (handed.map Prod.snd) next attached id =
          { before with status := none, closing := true } := by
        simp [before, of, SetupRun.has_append, closes, once, gone, deeds.commandQueue]
      rw [lost]
      exact (Step.lose present).coherent coherent

theorem Coherent.dequeue {item : Option (NetCommand Message)}
    (front : thread.commandQueue.queue = item :: commands) (other : ∀ cmd ∈ item, cmd.type ≠ .close)
    (pipe : Nat) (coherent : Coherent (of service queue waiting thread attached id)) :
    Coherent (of service queue waiting { thread with commandQueue := ⟨commands, pipe⟩ } attached
      id) := by
  have silent : closeWaits (item :: commands) id.socketId = closeWaits commands id.socketId := by
    cases item with
    | none => simp [closeWaits]
    | some cmd => simp [closeWaits, other cmd rfl]
  simp only [of, front, silent] at coherent
  exact coherent

theorem Coherent.close {popped : NetThread Unit Message}
    (front : thread.commandQueue.queue = some cmd :: popped.commandQueue.queue)
    (same : popped.reactor = thread.reactor) (close : cmd.type = .close)
    (served : Served thread.reactor)
    (coherent : Coherent (of service queue waiting thread attached id)) :
    Coherent (of service queue waiting (if popped.reactor.isConnected cmd.id.socketId then
      popped.setReactor (popped.reactor.closeSocket cmd.id.socketId) else popped) attached id) := by
  let before := of service queue waiting thread attached id
  let left := closeWaits popped.commandQueue.queue id.socketId
  by_cases mine : cmd.id.socketId = id.socketId
  · have commanded : before.commanded = true := by
      simp [before, of, closeWaits, front, close, mine]
    cases connected : popped.reactor.isConnected cmd.id.socketId with
    | true =>
        have obeyed : of service queue waiting (popped.setReactor
              (popped.reactor.closeSocket cmd.id.socketId)) attached id =
            { before with status := none, commanded := left } := by
          simp [before, left, of, setReactor, same, served.closeSocket_statusOf, mine]
        rw [if_pos rfl, obeyed]
        exact (Step.obey commanded left).coherent coherent
    | false =>
        have ignored : of service queue waiting popped attached id =
            { before with commanded := before.commanded && left } := by
          rw [commanded, Bool.true_and]
          simp [before, left, of, same]
        rw [same, mine] at connected
        have unconnected : before.status = none ∨ before.status = some .pendingError :=
          served.unconnected connected
        rw [if_neg Bool.false_ne_true, ignored]
        exact (Step.ignore unconnected left).coherent coherent
  · have other (reactor : EpollReactor)
        (untouched : reactor.statusOf id.socketId = thread.reactor.statusOf id.socketId) :
        of service queue waiting (popped.setReactor reactor) attached id = before := by
      simp [before, of, closeWaits, setReactor, front, mine, untouched]
    split
    · rw [other _ (by rw [same, served.closeSocket_statusOf, Function.update_of_ne (Ne.symm mine)])]
      exact coherent
    · rw [show popped = popped.setReactor popped.reactor from rfl, other _ (by rw [same])]
      exact coherent

theorem Coherent.attach {granted : Bool} (served : Served thread.reactor) (new : id ∉ attached)
    (succeeds : (thread.reactor.attachSocket id.socketId .create granted).1 = true)
    (coherent : Coherent (of service queue waiting thread attached id)) :
    Coherent (of service (queue ++ [.plain .new id]) waiting
      (thread.setReactor (thread.reactor.attachSocket id.socketId .create granted).2)
      (attached ++ [id]) id) := by
  let before := of service queue waiting thread attached id
  have unattached : before.attached = false := by simp [before, of, new]
  obtain ⟨absent, -⟩ := coherent.fresh unattached
  obtain ⟨-, -, status⟩ := served.attachSocket .create granted (statusOf_none.mp absent)
  have entered : of service (queue ++ [.plain .new id]) waiting
      (thread.setReactor (thread.reactor.attachSocket id.socketId .create granted).2)
      (attached ++ [id]) id =
      { before with attached := true, opening := true, status := some .connected } := by
    simp [before, of, setReactor, SetupRun.has_append, has_cons, status, succeeds, NetCommand.plain,
      NetCommand.create]
  rw [entered]
  exact (Step.attach unattached).coherent coherent

theorem Coherent.push (other : cmd.type ≠ .new)
    (coherent : Coherent (of service queue (cmd :: waiting) thread attached id)) :
    Coherent (of service (queue ++ [cmd]) waiting thread attached id) := by
  simpa [of, SetupRun.has_snoc, other] using coherent

theorem Coherent.enqueue (other : cmd.id ≠ id)
    (coherent : Coherent (of service queue waiting thread attached id)) :
    Coherent (of service (queue ++ [cmd]) waiting thread attached id) := by
  simpa [of, SetupRun.has_append, has_cons, has_nil, other] using coherent

theorem Coherent.beside {more : List NetId}
    (coherent : Coherent (of service queue waiting thread attached id))
    (commands : next.commandQueue = thread.commandQueue)
    (status : next.reactor.statusOf id.socketId = thread.reactor.statusOf id.socketId)
    (listed : id ∈ more ↔ id ∈ attached) :
    Coherent (of service queue waiting next more id) := by
  have same : of service queue waiting next more id = of service queue waiting thread attached id := by
    simp only [of, commands, status, listed]
  rw [same]
  exact coherent

/-! The main thread takes a command. -/

theorem Coherent.learn (new : cmd.type = .new) (once : ¬Has rest .new cmd.id)
    (coherent : Coherent (of service (cmd :: rest) waiting thread attached id)) :
    Coherent (of (service.onConnect cmd.id) rest waiting thread attached id) := by
  let before := of service (cmd :: rest) waiting thread attached id
  by_cases mine : cmd.id = id
  · have opening : before.opening = true := by simp [before, of, has_cons, new, mine]
    have learned : of (service.onConnect cmd.id) rest waiting thread attached id =
        { before with known := true, opening := false } := by
      rw [mine] at once
      simp [before, of, has_cons, new, once, mine, TcpService.onConnect, TcpService.setInfo]
    rw [learned]
    exact (Step.learn opening).coherent coherent
  · have other : of (service.onConnect cmd.id) rest waiting thread attached id = before := by
      simp [before, of, has_cons, mine, Ne.symm mine, TcpService.onConnect, TcpService.setInfo]
    rw [other]
    exact coherent

theorem Coherent.forget (close : cmd.type = .close) (late : ¬Has rest .new cmd.id)
    (coherent : Coherent (of service (cmd :: rest) waiting thread attached id)) :
    Coherent (of (service.onDisconnect cmd.id) rest waiting thread attached id) := by
  let before := of service (cmd :: rest) waiting thread attached id
  by_cases mine : cmd.id = id
  · rw [mine] at late
    have closing : before.closing = true := by simp [before, of, has_cons, close, mine]
    have opened : before.opening = false := by simp [before, of, has_cons, close, late]
    have forgot : of (service.onDisconnect cmd.id) rest waiting thread attached id =
        { before with known := false, closing := Has (rest ++ waiting) .close id } := by
      simp [before, of, has_cons, close, late, mine, TcpService.onDisconnect, TcpService.setInfo]
    rw [forgot]
    exact (Step.forget closing opened _).coherent coherent
  · have other : of (service.onDisconnect cmd.id) rest waiting thread attached id = before := by
      simp [before, of, has_cons, mine, Ne.symm mine, TcpService.onDisconnect, TcpService.setInfo]
    rw [other]
    exact coherent

theorem Coherent.skip (open_ : cmd.type ≠ .new) (live : cmd.type ≠ .close)
    (coherent : Coherent (of service (cmd :: rest) waiting thread attached id)) :
    Coherent (of service rest waiting thread attached id) := by
  simpa [of, has_cons, open_, live] using coherent

theorem Coherent.forgetOther {other : NetId} (different : id ≠ other)
    (coherent : Coherent (of service queue waiting thread attached id)) :
    Coherent (of (service.onDisconnect other) queue waiting thread attached id) := by
  simpa [of, TcpService.onDisconnect, TcpService.setInfo, different] using coherent

theorem Coherent.counted {other : NetId} (known : service.connectionInfos other ≠ none)
    (info : ConnectionInfo) (coherent : Coherent (of service queue waiting thread attached id)) :
    Coherent (of (service.setInfo other (some info)) queue waiting thread attached id) := by
  have same : ((service.setInfo other (some info)).connectionInfos id).isSome =
      (service.connectionInfos id).isSome := by
    by_cases mine : id = other
    · subst mine
      simp [TcpService.setInfo, Option.isSome_iff_ne_none.mpr known]
    · simp [TcpService.setInfo, mine]
  simp only [of, same]
  exact coherent

theorem Coherent.disconnect {pipeCapacity : Nat} (known : service.connectionInfos id ≠ none)
    (coherent : Coherent (of service queue waiting thread attached id)) :
    Coherent (of (service.onDisconnect id) queue waiting
      (thread.push pipeCapacity (some (.plain .close id))) attached id) := by
  let before := of service queue waiting thread attached id
  have commanded : of (service.onDisconnect id) queue waiting
      (thread.push pipeCapacity (some (.plain .close id))) attached id =
      { before with known := false, commanded := true } := by
    simp [before, of, closeWaits, NetThread.push, MessageQueue.push_queue, TcpService.onDisconnect,
      TcpService.setInfo, NetCommand.plain, NetCommand.create]
  rw [commanded]
  have stored : before.known = true := Option.isSome_iff_ne_none.mpr known
  exact (Step.command stored).coherent coherent

theorem Coherent.pushed {item : Option (NetCommand Message)} {pipeCapacity : Nat}
    (other : ∀ cmd ∈ item, cmd.type = .close → cmd.id.socketId ≠ id.socketId)
    (coherent : Coherent (of service queue waiting thread attached id)) :
    Coherent (of service queue waiting (thread.push pipeCapacity item) attached id) := by
  have silent : closeWaits (thread.commandQueue.push pipeCapacity item).queue id.socketId =
      closeWaits thread.commandQueue.queue id.socketId := by
    cases item with
    | none => simp [closeWaits, MessageQueue.push_queue]
    | some cmd =>
        simp only [closeWaits, MessageQueue.push_queue, List.any_append, List.any_cons, List.any_nil]
        have different : ¬(cmd.type = .close ∧ cmd.id.socketId = id.socketId) := fun both =>
          other cmd rfl both.1 both.2
        simp [different]
  simp only [of, NetThread.push, silent]
  exact coherent

end Link

end Links

namespace ServiceRun

variable {n : Nat} {Message : Type}

def netId (i : Fin n) (socketId : SocketId) : NetId := ⟨(i : Nat), socketId⟩

def link (s : ServiceRun n Message) (i : Fin n) (socketId : SocketId) : Link :=
  Link.of s.service s.net.clientNetCommandQueue.queue (s.net.handed i) (s.net.threads i)
    s.net.attached (netId i socketId)

def Opens (earlier cmd : NetCommand Message) : Prop :=
  cmd.type = .new → earlier.type = .new ∨ earlier.type = .close → earlier.id ≠ cmd.id

structure Formed (s : ServiceRun n Message) : Prop where
  ids : ∀ i, (s.net.threads i).id = (i : Nat)
  served : ∀ i, Served (s.net.threads i).reactor
  own : ∀ i, ∀ cmd ∈ s.net.handed i, cmd.type ≠ .new ∧ ∃ socketId, cmd.id = netId i socketId
  opens : s.net.clientNetCommandQueue.queue.Pairwise Opens
  named : ∀ cmd ∈ s.net.clientNetCommandQueue.queue, ∃ (i : Fin n) (socketId : SocketId),
    cmd.id = netId i socketId
  housed : ∀ id, s.service.connectionInfos id ≠ none → ∃ (i : Fin n) (socketId : SocketId),
    id = netId i socketId
  coherent : ∀ i socketId, Link.Coherent (s.link i socketId)

variable {s : ServiceRun n Message}

theorem netId_inj {i j : Fin n} {socketId other : SocketId} :
    netId i socketId = netId j other ↔ i = j ∧ socketId = other := by
  simp [netId, Fin.ext_iff]

theorem Formed.agreed (formed : Formed s) : Agreed s := by
  intro rest unfailed
  have agree (i : Fin n) (socketId : SocketId) :
      s.service.connectionInfos (netId i socketId) ≠ none ↔
        (s.net.threads i).reactor.statusOf socketId ≠ none := by
    have link := (formed.coherent i socketId).agree
    simp only [ServiceRun.link, Link.of, rest.1, (rest.2 i).1, (rest.2 i).2, has_nil,
      List.append_nil, closeWaits, List.any_nil, decide_false, Option.isSome_iff_ne_none] at link
    exact link trivial trivial trivial (unfailed i socketId)
  ext id
  constructor
  · intro known
    obtain ⟨i, socketId, rfl⟩ := formed.housed id known
    exact ⟨i, socketId, rfl, fun absent =>
      (agree i socketId).mp known (statusOf_none.mpr absent)⟩
  · rintro ⟨i, socketId, rfl, present⟩
    exact (agree i socketId).mpr fun absent => present (statusOf_none.mp absent)

/-! Steps of one thread. -/

theorem Formed.ids_update (formed : Formed s) (i : Fin n) {thread : NetThread Unit Message}
    (id : thread.id = (i : Nat)) (j : Fin n) :
    (Function.update s.net.threads i thread j).id = (j : Nat) := by
  apply (Function.forall_update_iff s.net.threads fun j thread => thread.id = (j : Nat)).mpr
  exact ⟨id, fun j _ => formed.ids j⟩

theorem Formed.served_update (formed : Formed s) (i : Fin n) {thread : NetThread Unit Message}
    (served : Served thread.reactor) (j : Fin n) :
    Served (Function.update s.net.threads i thread j).reactor := by
  apply (Function.forall_update_iff s.net.threads fun _ thread => Served thread.reactor).mpr
  exact ⟨served, fun j _ => formed.served j⟩

theorem Formed.own_update (formed : Formed s) (i : Fin n) {handed : List (NetCommand Message)}
    (own : ∀ cmd ∈ handed, cmd.type ≠ .new ∧ ∃ socketId, cmd.id = netId i socketId) (j : Fin n) :
    ∀ cmd ∈ Function.update s.net.handed i handed j,
      cmd.type ≠ .new ∧ ∃ socketId, cmd.id = netId j socketId := by
  apply (Function.forall_update_iff s.net.handed fun j handed =>
    ∀ cmd ∈ handed, cmd.type ≠ .new ∧ ∃ socketId, cmd.id = netId j socketId).mpr
  exact ⟨own, fun j _ => formed.own j⟩

def setThread (s : ServiceRun n Message) (i : Fin n) (thread : NetThread Unit Message)
    (handed : List (NetCommand Message)) : ServiceRun n Message :=
  { s with net := { s.net with
      threads := Function.update s.net.threads i thread
      handed := Function.update s.net.handed i handed } }

theorem Formed.setThread (formed : Formed s) (i : Fin n) {thread : NetThread Unit Message}
    {handed : List (NetCommand Message)} (id : thread.id = (i : Nat)) (served : Served thread.reactor)
    (own : ∀ cmd ∈ handed, cmd.type ≠ .new ∧ ∃ socketId, cmd.id = netId i socketId)
    (coherent : ∀ socketId, Link.Coherent (Link.of s.service s.net.clientNetCommandQueue.queue handed
      thread s.net.attached (netId i socketId))) : Formed (s.setThread i thread handed) := by
  refine { formed with
    ids := formed.ids_update i id
    served := formed.served_update i served
    own := formed.own_update i own
    coherent := fun j socketId => ?_ }
  by_cases same : j = i
  · subst same
    simpa [link, ServiceRun.setThread] using coherent socketId
  · simpa [link, ServiceRun.setThread, same] using formed.coherent j socketId

section Threads

theorem opens_snoc {queue : List (NetCommand Message)} {cmd : NetCommand Message}
    (opens : queue.Pairwise Opens) (first : ∀ earlier ∈ queue, Opens earlier cmd) :
    (queue ++ [cmd]).Pairwise Opens := by
  rw [List.pairwise_append]
  exact ⟨opens, List.pairwise_singleton _ _, fun earlier member last same =>
    List.mem_singleton.mp same ▸ first earlier member⟩

variable {i : Fin n} {thread next : NetThread Unit Message} {handed : NetThread.Handed Unit Message}

theorem Formed.deeds (formed : Formed s) (here : s.net.threads i = thread)
    (idle : s.net.handed i = []) (deeds : NetThread.Deeds thread next handed) :
    Formed (s.setThread i next (handed.map Prod.snd)) := by
  subst here
  have name (socketId : SocketId) : (s.net.threads i).netId socketId = netId i socketId := by
    rw [NetThread.netId, formed.ids, netId]
  refine formed.setThread i (deeds.id.1.trans (formed.ids i)) (deeds.served (formed.served i)) ?_ ?_
  · intro cmd member
    obtain ⟨item, listed, rfl⟩ := List.mem_map.mp member
    obtain ⟨type, socketId, id⟩ := deeds.handed_own item listed
    refine ⟨?_, socketId, id.trans (name socketId)⟩
    intro new
    rw [new] at type
    rcases type with wrong | wrong <;> cases wrong
  · intro socketId
    have coherent := formed.coherent i socketId
    rw [link, idle] at coherent
    exact Link.Coherent.deeds deeds (formed.served i) (name socketId) coherent

theorem Formed.attach (formed : Formed s) {socketId : SocketId} {granted : Bool} {pipeCapacity : Nat}
    (new : (s.net.threads i).netId socketId ∉ s.net.attached)
    (succeeds : ((s.net.threads i).reactor.attachSocket socketId .create granted).1 = true)
    (attached : (s.net.threads i).attach socketId granted = some (next, handed)) :
    Formed { s with net := { s.net with
      threads := Function.update s.net.threads i next
      clientNetCommandQueue := (handed.map Prod.snd).foldl (MessageQueue.push pipeCapacity)
        s.net.clientNetCommandQueue
      attached := s.net.attached ++ [(s.net.threads i).netId socketId] } } := by
  obtain ⟨rfl, callback, -, rfl⟩ := NetThread.attach_some attached
  have name : (s.net.threads i).netId socketId = netId i socketId := by
    rw [NetThread.netId, formed.ids, netId]
  rw [name] at new
  have fresh := (formed.coherent i socketId).fresh (by simpa [link, Link.of] using new)
  have absent : (s.net.threads i).reactor.connections socketId = none := statusOf_none.mp fresh.1
  have silent : ¬Has s.net.clientNetCommandQueue.queue .new (netId i socketId) ∧
      ¬Has s.net.clientNetCommandQueue.queue .close (netId i socketId) := by
    have opening := fresh.2.2.1
    have closing := fresh.2.2.2.1
    simp only [link, Link.of, SetupRun.has_append, decide_eq_false_iff_not, not_or] at opening closing
    exact ⟨opening, closing.1⟩
  simp only [List.map_cons, List.map_nil, List.foldl_cons, List.foldl_nil, name]
  have served := ((formed.served i).attachSocket .create granted absent).1
  refine ⟨formed.ids_update i (formed.ids i), formed.served_update i served, formed.own, ?_, ?_,
    formed.housed, ?_⟩
  · rw [MessageQueue.push_queue]
    apply opens_snoc formed.opens
    intro earlier member _ type same
    rcases type with new | close
    · exact silent.1 ⟨earlier, member, new, same⟩
    · exact silent.2 ⟨earlier, member, close, same⟩
  · rw [MessageQueue.push_queue, List.forall_mem_append, List.forall_mem_singleton]
    exact ⟨formed.named, i, socketId, rfl⟩
  · intro j other
    simp only [link, MessageQueue.push_queue]
    by_cases same : netId j other = netId i socketId
    · obtain ⟨rfl, rfl⟩ := netId_inj.mp same
      simp only [Function.update_self]
      exact (formed.coherent j other).attach (formed.served j) new succeeds
    · apply Link.Coherent.enqueue (fun equal => same equal.symm)
      have listed : netId j other ∈ s.net.attached ++ [netId i socketId] ↔
          netId j other ∈ s.net.attached := by simp [same]
      have coherent := formed.coherent j other
      by_cases thread : j = i
      · subst thread
        have different : other ≠ socketId := fun equal => same (equal ▸ rfl)
        have status := ((formed.served j).attachSocket .create granted absent).2.2
        rw [Function.update_self]
        refine coherent.beside rfl ?_ listed
        rw [NetThread.setReactor, status]
        exact Function.update_of_ne different _ _
      · rw [Function.update_of_ne thread]
        exact coherent.beside rfl rfl listed

theorem Formed.pushClientNetCommand (formed : Formed s) {pipeCapacity : Nat} {cmd : NetCommand Message}
    {rest : List (NetCommand Message)} (waiting : s.net.handed i = cmd :: rest) :
    Formed { s with net := { s.net with
      clientNetCommandQueue := s.net.clientNetCommandQueue.push pipeCapacity cmd
      handed := Function.update s.net.handed i rest } } := by
  have own := formed.own i
  rw [waiting, List.forall_mem_cons] at own
  obtain ⟨⟨old, socketId, id⟩, others⟩ := own
  refine { formed with
    own := formed.own_update i others
    opens := ?_
    named := ?_
    coherent := fun j other => ?_ }
  · rw [MessageQueue.push_queue]
    exact opens_snoc formed.opens fun _ _ new => absurd new old
  · rw [MessageQueue.push_queue, List.forall_mem_append, List.forall_mem_singleton]
    exact ⟨formed.named, i, socketId, id⟩
  · have coherent := formed.coherent j other
    simp only [link, MessageQueue.push_queue]
    by_cases same : j = i
    · subst same
      rw [link, waiting] at coherent
      rw [Function.update_self]
      exact coherent.push old
    · rw [Function.update_of_ne same]
      apply coherent.enqueue
      intro equal
      apply same
      exact (netId_inj.mp (equal.symm.trans id)).1

theorem Formed.push (formed : Formed s) {pipeCapacity : Nat} {cmd : Option (NetCommand Message)}
    (harmless : ∀ message ∈ cmd, message.type ≠ .close) :
    Formed { s with net := s.net.pushTo pipeCapacity i cmd } := by
  let pushed := (s.net.threads i).push pipeCapacity cmd
  have same : { s with net := s.net.pushTo pipeCapacity i cmd } =
      s.setThread i pushed (s.net.handed i) := by
    simp [ServiceRun.setThread, NetThreads.pushTo, pushed]
  rw [same]
  refine formed.setThread i (formed.ids i) (formed.served i) (formed.own i) ?_
  intro socketId
  exact (formed.coherent i socketId).pushed fun message member close =>
    absurd close (harmless message member)

variable [BaseStruct Message] {server : GameServer Message}

theorem Formed.handle (formed : Formed s) {event : NetThreadEvent Message}
    {net : NetThreads n Message} (other : ∀ cmd env, event ≠ .onNetCommand cmd env)
    (handled : s.net.react server i (s.net.threads i) event = some net) :
    Formed { s with net := net } := by
  simp only [NetThreads.react] at handled
  split at handled
  · rename_i idle
    rw [Option.map_eq_some_iff] at handled
    obtain ⟨outcome, handled, rfl⟩ := handled
    exact formed.deeds rfl idle (NetThread.handle_deeds (formed.served i)
      (fun cmd env same => absurd same (other _ env)) handled)
  · cases handled

theorem Formed.onNetCommand (formed : Formed s) {env : SocketId → SendEnv}
    {popped : Option (NetCommand Message) × MessageQueue (Option (NetCommand Message))}
    {net : NetThreads n Message} (taken : (s.net.threads i).commandQueue.pop = some popped)
    (handled : s.net.react server i { s.net.threads i with commandQueue := popped.2 }
      (.onNetCommand popped.1 env) = some net) : Formed { s with net := net } := by
  have front := MessageQueue.pop_some taken
  simp only [NetThreads.react] at handled
  split at handled
  · rename_i idle
    rw [Option.map_eq_some_iff] at handled
    obtain ⟨outcome, handled, rfl⟩ := handled
    obtain ⟨item, queue⟩ := popped
    let popped : NetThread Unit Message := { s.net.threads i with commandQueue := queue }
    by_cases close : ∃ cmd, item = some cmd ∧ cmd.type = .close
    · obtain ⟨cmd, rfl, close⟩ := close
      have closed := NetThread.handleNetCommand_close close handled
      subst closed
      have front : (s.net.threads i).commandQueue.queue = some cmd :: popped.commandQueue.queue :=
        front
      refine formed.setThread i ?_ ?_ nofun fun socketId => ?_
      · dsimp only
        split <;> exact formed.ids i
      · dsimp only
        split
        · exact (formed.served i).closeSocket _
        · exact formed.served i
      · have coherent := formed.coherent i socketId
        rw [link, idle] at coherent
        exact coherent.close front rfl close (formed.served i)
    · have ready : Formed (s.setThread i popped []) := by
        refine formed.setThread i (formed.ids i) (formed.served i) nofun ?_
        intro socketId
        rw [← idle]
        exact (formed.coherent i socketId).dequeue front
          (fun cmd same type => close ⟨cmd, same, type⟩) queue.pipe
      have deeds : NetThread.Deeds popped outcome.1 outcome.2 :=
        NetThread.handle_deeds (formed.served i)
          (fun cmd env same type => close ⟨cmd, by injection same, type⟩) handled
      have done := ready.deeds (Function.update_self ..) (Function.update_self ..) deeds
      simpa [ServiceRun.setThread, Function.update_idem] using done
  · cases handled

end Threads

/-! Steps of the main thread. -/

section Main

variable {cmd : NetCommand Message} {id : NetId} {pipeCapacity : Nat}

theorem push_own {i : Fin n} {socketId : SocketId} (net : NetThreads n Message)
    (own : cmd.id = netId i socketId) :
    net.push pipeCapacity cmd = some (net.pushTo pipeCapacity i (some cmd)) := by
  simp [NetThreads.push, own, netId]

theorem Formed.housed_onDisconnect (formed : Formed s) (other : NetId)
    (known : (s.service.onDisconnect id).connectionInfos other ≠ none) :
    ∃ (i : Fin n) (socketId : SocketId), other = netId i socketId := by
  apply formed.housed other
  intro absent
  apply known
  by_cases same : other = id
  · simp [TcpService.onDisconnect, TcpService.setInfo, same]
  · simp [TcpService.onDisconnect, TcpService.setInfo, same, absent]

theorem Formed.disconnect (formed : Formed s) (known : s.service.connectionInfos id ≠ none)
    {net : NetThreads n Message} (pushed : s.net.push pipeCapacity (.plain .close id) = some net) :
    Formed { service := s.service.onDisconnect id, net := net } := by
  obtain ⟨i, socketId, rfl⟩ := formed.housed id known
  rw [push_own s.net rfl] at pushed
  cases pushed
  refine { formed with
    ids := formed.ids_update i (formed.ids i)
    served := formed.served_update i (formed.served i)
    housed := formed.housed_onDisconnect
    coherent := fun j other => ?_ }
  have coherent := formed.coherent j other
  simp only [link, NetThreads.pushTo]
  by_cases same : netId j other = netId i socketId
  · obtain ⟨rfl, rfl⟩ := netId_inj.mp same
    rw [Function.update_self]
    exact coherent.disconnect known
  · have others := coherent.forgetOther same
    by_cases thread : j = i
    · subst thread
      rw [Function.update_self]
      apply others.pushed
      intro cmd here _ equal
      apply same
      cases here
      exact congrArg (netId j) equal.symm
    · rw [Function.update_of_ne thread]
      exact others

theorem Formed.pop (formed : Formed s) {popped : MessageQueue (NetCommand Message)}
    (front : s.net.clientNetCommandQueue.queue = cmd :: popped.queue) {service : TcpService}
    (housed : ∀ id, service.connectionInfos id ≠ none → ∃ (i : Fin n) (socketId : SocketId),
      id = netId i socketId)
    (coherent : ∀ i socketId, Link.Coherent (Link.of s.service (cmd :: popped.queue)
        (s.net.handed i) (s.net.threads i) s.net.attached (netId i socketId)) →
      Link.Coherent (Link.of service popped.queue (s.net.handed i) (s.net.threads i)
        s.net.attached (netId i socketId))) :
    Formed { service := service, net := { s.net with clientNetCommandQueue := popped } } := by
  have opens := formed.opens
  have named := formed.named
  have before := formed.coherent
  simp only [link, front] at opens named before
  exact { formed with
    opens := opens.of_cons
    named := fun cmd member => named cmd (List.mem_cons_of_mem _ member)
    housed := housed
    coherent := fun i socketId => coherent i socketId (before i socketId) }

theorem Formed.unopened (formed : Formed s) {rest : List (NetCommand Message)}
    (front : s.net.clientNetCommandQueue.queue = cmd :: rest)
    (about : cmd.type = .new ∨ cmd.type = .close) : ¬Has rest .new cmd.id := by
  have opens := formed.opens
  rw [front] at opens
  rintro ⟨later, member, type, same⟩
  exact List.rel_of_pairwise_cons opens member type about same.symm

theorem Formed.skip (formed : Formed s) {popped : MessageQueue (NetCommand Message)}
    (front : s.net.clientNetCommandQueue.queue = cmd :: popped.queue) (open_ : cmd.type ≠ .new)
    (live : cmd.type ≠ .close) :
    Formed { s with net := { s.net with clientNetCommandQueue := popped } } :=
  formed.pop front formed.housed fun _ _ coherent => coherent.skip open_ live

theorem Formed.learn (formed : Formed s) {popped : MessageQueue (NetCommand Message)}
    (front : s.net.clientNetCommandQueue.queue = cmd :: popped.queue) (new : cmd.type = .new) :
    Formed { service := s.service.onConnect cmd.id
             net := { s.net with clientNetCommandQueue := popped } } := by
  refine formed.pop front (fun id known => ?_) fun _ _ coherent =>
    coherent.learn new (formed.unopened front (.inl new))
  by_cases same : id = cmd.id
  · rw [same]
    exact formed.named cmd (front ▸ List.mem_cons_self)
  · apply formed.housed id
    intro absent
    apply known
    simp [TcpService.onConnect, TcpService.setInfo, same, absent]

theorem Formed.forget (formed : Formed s) {popped : MessageQueue (NetCommand Message)}
    (front : s.net.clientNetCommandQueue.queue = cmd :: popped.queue) (close : cmd.type = .close) :
    Formed { service := s.service.onDisconnect cmd.id
             net := { s.net with clientNetCommandQueue := popped } } :=
  formed.pop front formed.housed_onDisconnect fun _ _ coherent =>
    coherent.forget close (formed.unopened front (.inr close))

theorem Formed.counted (formed : Formed s) (known : s.service.connectionInfos id ≠ none)
    (info : ConnectionInfo) :
    Formed { s with service := s.service.setInfo id (some info) } := by
  refine { formed with
    housed := fun other found => formed.housed other fun absent => found ?_
    coherent := fun i socketId => (formed.coherent i socketId).counted known info }
  have different : other ≠ id := fun same => known (same ▸ absent)
  simp [TcpService.setInfo, different, absent]

theorem perform_callMessageHandler (service : TcpService) (net : NetThreads n Message) :
    perform pipeCapacity net (service.callMessageHandler cmd) = some net := by
  rw [TcpService.callMessageHandler]
  split <;> rfl

theorem Formed.onMessage (formed : Formed s) {now : Int} {net : NetThreads n Message}
    (performed : perform pipeCapacity s.net (s.service.onMessage now cmd).2 = some net) :
    Formed { service := (s.service.onMessage now cmd).1, net := net } := by
  simp only [TcpService.onMessage] at performed ⊢
  split
  · rename_i unknown
    rw [unknown] at performed
    cases performed
    exact formed
  · rename_i info found
    have known : s.service.connectionInfos cmd.id ≠ none := by rw [found]; exact Option.some_ne_none _
    simp only [found] at performed
    split
    · rename_i limited
      rw [if_pos limited] at performed
      have counted := formed.counted known (s.service.checkRequestFrequencyLimit now info).2
      split
      · rename_i exceeded
        rw [if_pos exceeded] at performed
        simp only [TcpService.disconnect, perform, Option.bind_eq_some_iff] at performed
        obtain ⟨next, pushed, same⟩ := performed
        cases same
        exact counted.disconnect (by simp [TcpService.setInfo]) pushed
      · rename_i within
        rw [if_neg within, perform_callMessageHandler] at performed
        cases performed
        exact counted
    · rename_i unlimited
      rw [if_neg unlimited, perform_callMessageHandler] at performed
      cases performed
      exact formed

theorem Formed.processNetCommand (formed : Formed s) {now : Int}
    {popped : NetCommand Message × MessageQueue (NetCommand Message)}
    (taken : s.net.clientNetCommandQueue.pop = some popped) {net : NetThreads n Message}
    (performed : perform pipeCapacity { s.net with clientNetCommandQueue := popped.2 }
      (s.service.processNetCommand now popped.1).2 = some net) :
    Formed { service := (s.service.processNetCommand now popped.1).1, net := net } := by
  have front := MessageQueue.pop_some taken
  simp only [TcpService.processNetCommand] at performed ⊢
  cases type : popped.1.type with
  | new =>
      simp only [type] at performed
      cases performed
      exact formed.learn front type
  | close =>
      simp only [type] at performed
      cases performed
      exact formed.forget front type
  | message =>
      simp only [type] at performed
      have skipped := formed.skip front (by simp [type]) (by simp [type])
      exact skipped.onMessage performed
  | enableBroadcast | disableBroadcast | broadcast =>
      simp only [type] at performed
      cases performed
      exact formed.skip front (by simp [type]) (by simp [type])

end Main

theorem start_formed (createMessageFunc : Int → Option Message) (maxRequestPerSecond : Int) :
    Formed (start n createMessageFunc maxRequestPerSecond) := by
  refine ⟨fun _ => rfl, ?_, nofun, .nil, nofun, fun id known => absurd rfl known, ?_⟩
  · intro _
    exact .of_empty (fun _ => rfl) (fun _ => rfl)
  · intro i socketId
    have blank : (start n createMessageFunc maxRequestPerSecond).link i socketId =
        ⟨false, false, false, false, false, none⟩ := rfl
    rw [blank]
    constructor <;> simp

section Steps

variable [BaseStruct Message] {server : GameServer Message} {pipeCapacity : Nat}
  {next : ServiceRun n Message}

theorem Formed.netStep (formed : Formed s) {event : NetThreadsEvent n Message}
    {net : NetThreads n Message} (taken : s.net.step server pipeCapacity event = some net) :
    Formed { s with net := net } := by
  cases event with
  | attach i socketId granted =>
      simp only [NetThreads.step] at taken
      split at taken
      · rename_i fits
        rw [Option.map_eq_some_iff] at taken
        obtain ⟨outcome, attached, rfl⟩ := taken
        exact formed.attach fits.1 fits.2 attached
      · cases taken
  | handle i event =>
      simp only [NetThreads.step] at taken
      split at taken
      · cases taken
      · rename_i other
        exact formed.handle other taken
  | onNetCommand i env =>
      simp only [NetThreads.step, Option.bind_eq_some_iff] at taken
      obtain ⟨popped, popping, handled⟩ := taken
      exact formed.onNetCommand popping handled
  | pushClientNetCommand i =>
      simp only [NetThreads.step] at taken
      split at taken
      · cases taken
      · rename_i cmd rest waiting
        cases taken
        exact formed.pushClientNetCommand waiting
  | push i cmd =>
      simp only [NetThreads.step] at taken
      split at taken
      · cases taken
      · rename_i harmless
        cases taken
        exact formed.push fun cmd member close => harmless ⟨cmd, member, close⟩

theorem Formed.step (formed : Formed s) {event : ServiceEvent n Message}
    (taken : s.step server pipeCapacity event = some next) : Formed next := by
  cases event with
  | net event =>
      simp only [ServiceRun.step, Option.map_eq_some_iff] at taken
      obtain ⟨net, taken, rfl⟩ := taken
      exact formed.netStep taken
  | processNetCommand now =>
      simp only [ServiceRun.step, Option.bind_eq_some_iff, Option.map_eq_some_iff] at taken
      obtain ⟨popped, popping, net, performed, rfl⟩ := taken
      exact formed.processNetCommand popping performed
  | disconnect id =>
      simp only [ServiceRun.step] at taken
      split at taken
      · cases taken
      · rename_i known
        simp only [TcpService.disconnect, perform, Option.map_eq_some_iff,
          Option.bind_eq_some_iff] at taken
        obtain ⟨net, ⟨other, pushed, same⟩, rfl⟩ := taken
        cases same
        exact formed.disconnect known pushed

/-- Whatever the main thread, the acceptor and the net threads do: whenever they come to rest
without a pending error, both sides have the same connections. -/
theorem agreed_every (server : GameServer Message) (pipeCapacity n : Nat)
    (createMessageFunc : Int → Option Message) (maxRequestPerSecond : Int)
    (events : List (ServiceEvent n Message)) :
    Every (step server pipeCapacity) Agreed (start n createMessageFunc maxRequestPerSecond)
      events := by
  have every : Every (step server pipeCapacity) Formed
      (start n createMessageFunc maxRequestPerSecond) events :=
    every_of_invariant (fun formed _ taken => formed.step taken)
      (start_formed createMessageFunc maxRequestPerSecond) (along_always _ events)
  exact every.mono fun formed => formed.agreed

end Steps

end ServiceRun

end ZBlueNet
