import ZBlueNet.NetThreadDeeds
import ZBlueNet.Lib.Runs

/-!
`TcpService::init` beside the acceptor thread, which it starts before it has any net
thread. A step of `init` is a step of the run, and so is a connection that the
acceptor accepts.
-/

namespace ZBlueNet

open Runs EpollReactor

/-- A net thread while the service is built. `reactor_` is null until `NetThread::init` builds it;
then these are the keys of its `connections_`. -/
structure StartingThread (Message : Type) where
  thread : NetThread Unit Message
  connectionIds : Option (List SocketId)

/-- What goes wrong in `onNewConnCallback`: undefined behaviour, or an exception that leaves the
acceptor thread. -/
inductive AcceptFault
  | outOfRange
  | nullThread
  | nullReactor
  | emptyCallback
deriving DecidableEq, Repr

abbrev StartingThreads (Message : Type) := List (Option (StartingThread Message))

namespace StartingThread

variable {Message : Type}

def create (createMessageFunc : Int → Option Message) : StartingThread Message :=
  { thread := .create 40960 40960 createMessageFunc, connectionIds := none }

def buildReactor (starting : StartingThread Message) : StartingThread Message :=
  { thread := starting.thread.setReactor (EpollReactor.create.setBufferSizes 81920 409600)
    connectionIds := some [] }

def setCallbacks (id : Int) (starting : StartingThread Message) : StartingThread Message :=
  { starting with thread := { starting.thread with id := id, newNetCmdCb := some () } }

theorem init_halves (starting : StartingThread Message) (id : Int) :
    starting.thread.init id 81920 409600 (some ()) true =
      (true, (starting.buildReactor.setCallbacks id).thread) :=
  rfl

end StartingThread

inductive InitPhase
  | startAcceptor
  | resize
  | create (i : Nat)
  | buildReactor (i : Nat)
  | setCallbacks (i : Nat)
  | failed (i : Nat)
  | returned
deriving DecidableEq, Repr

namespace InitPhase

def initialising (netThreadNum i : Nat) : InitPhase :=
  if i < netThreadNum then .buildReactor i else .returned

def creating (netThreadNum i : Nat) : InitPhase :=
  if i < netThreadNum then .create i else initialising netThreadNum 0

end InitPhase

namespace TcpService

variable {Message : Type} (netThreads : StartingThreads Message)

def threadAt (i : Nat) : Except AcceptFault (StartingThread Message × List SocketId) :=
  match netThreads[i]? with
  | none => .error .outOfRange
  | some none => .error .nullThread
  | some (some starting) =>
      match starting.connectionIds with
      | none => .error .nullReactor
      | some ids => .ok (starting, ids)

def getConnectionNum (i : Nat) : Except AcceptFault Nat :=
  (threadAt netThreads i).map fun found => found.2.length

def leastLoaded : List Nat → Nat → Nat → Except AcceptFault Nat
  | [], minConnectionThreadIndex, _ => .ok minConnectionThreadIndex
  | i :: rest, minConnectionThreadIndex, minConnectionNum =>
      if i = 0 then leastLoaded rest minConnectionThreadIndex minConnectionNum
      else
        (getConnectionNum netThreads i).bind fun connectionNum =>
          if connectionNum < minConnectionNum then leastLoaded rest i connectionNum
          else leastLoaded rest minConnectionThreadIndex minConnectionNum

def attachTo (i : Nat) (socketId : SocketId) (granted : Bool) :
    Except AcceptFault (Bool × StartingThreads Message × List (NetCommand Message)) :=
  (threadAt netThreads i).bind fun found =>
    match found.1.thread.attach socketId granted with
    | none => .error .emptyCallback
    | some attached =>
        let taken := (found.1.thread.reactor.attachSocket socketId .create granted).1
        let ids := if taken then found.2 ++ [socketId] else found.2
        .ok (taken, netThreads.set i (some ⟨attached.1, some ids⟩), attached.2.map Prod.snd)

def onNewConnCallback (socketId : SocketId) (granted : Bool) :
    Except AcceptFault (Bool × StartingThreads Message × List (NetCommand Message)) :=
  (getConnectionNum netThreads 0).bind fun minConnectionNum =>
    (leastLoaded netThreads (List.range netThreads.length) 0 minConnectionNum).bind fun i =>
      attachTo netThreads i socketId granted

variable {netThreads} {nums : Nat → Nat} {index : Nat}

theorem getConnectionNum_ok {num : Nat} :
    getConnectionNum netThreads index = .ok num ↔
      ∃ thread ids, netThreads[index]? = some (some ⟨thread, some ids⟩) ∧ ids.length = num := by
  constructor
  · intro counted
    rw [getConnectionNum, threadAt] at counted
    split at counted
    · cases counted
    · cases counted
    · rename_i starting found
      obtain ⟨thread, connectionIds⟩ := starting
      cases connectionIds with
      | none => cases counted
      | some ids =>
          cases counted
          exact ⟨thread, ids, found, rfl⟩
  · rintro ⟨thread, ids, found, rfl⟩
    rw [getConnectionNum, threadAt, found]
    rfl

theorem leastLoaded_built {indices : List Nat} {num chosen : Nat}
    (found : leastLoaded netThreads indices index num = .ok chosen) :
    ∀ i ∈ indices, i ≠ 0 → ∃ num, getConnectionNum netThreads i = .ok num := by
  induction indices generalizing index num with
  | nil => exact List.forall_mem_nil _
  | cons i rest ih =>
      rw [leastLoaded] at found
      rw [List.forall_mem_cons]
      split at found
      · rename_i zero
        exact ⟨fun other => absurd zero other, ih found⟩
      · cases here : getConnectionNum netThreads i with
        | error fault =>
            rw [here] at found
            cases found
        | ok connectionNum =>
            rw [here] at found
            refine ⟨fun _ => ⟨connectionNum, rfl⟩, ?_⟩
            simp only [Except.bind] at found
            split at found
            · exact ih found
            · exact ih found

structure Least (nums : Nat → Nat) (count index : Nat) : Prop where
  inside : index < count
  least : ∀ j < count, nums index ≤ nums j
  first : ∀ j < index, nums index < nums j

theorem Least.next {count : Nat} (least : Least nums count index) :
    Least nums (count + 1) (if nums count < nums index then count else index) := by
  obtain ⟨inside, least, first⟩ := least
  split
  · rename_i fewer
    refine ⟨Nat.lt_succ_self count, ?_, ?_⟩
    · intro j before
      rcases Nat.lt_succ_iff_lt_or_eq.mp before with earlier | rfl
      · have bound := least j earlier
        omega
      · exact le_rfl
    · intro j earlier
      have bound := least j earlier
      omega
  · rename_i more
    refine ⟨Nat.lt_succ_of_lt inside, ?_, first⟩
    intro j before
    rcases Nat.lt_succ_iff_lt_or_eq.mp before with earlier | rfl
    · exact least j earlier
    · omega

theorem leastLoaded_range {start count : Nat}
    (counted : ∀ i, i < start + count → getConnectionNum netThreads i = .ok (nums i))
    (least : Least nums start index) :
    ∃ chosen, leastLoaded netThreads (List.range' start count) index (nums index) = .ok chosen ∧
      Least nums (start + count) chosen := by
  induction count generalizing start index with
  | zero => exact ⟨index, rfl, least⟩
  | succ count ih =>
      have later : start + (count + 1) = start + 1 + count := by omega
      have positive : start ≠ 0 := by
        have inside := least.inside
        omega
      rw [later] at counted ⊢
      have next := ih counted least.next
      rw [List.range'_succ, leastLoaded, if_neg positive, counted start (by omega)]
      simp only [Except.bind]
      split
      · rename_i fewer
        rw [if_pos fewer] at next
        exact next
      · rename_i more
        rw [if_neg more] at next
        exact next

theorem leastLoaded_least
    (counted : ∀ i < netThreads.length, getConnectionNum netThreads i = .ok (nums i))
    (inhabited : 0 < netThreads.length) :
    ∃ chosen, leastLoaded netThreads (List.range netThreads.length) 0 (nums 0) = .ok chosen ∧
      Least nums netThreads.length chosen := by
  have first : Least nums 1 0 := by
    refine ⟨Nat.one_pos, ?_, nofun⟩
    intro j before
    rw [Nat.lt_one_iff.mp before]
  obtain ⟨rest, size⟩ := Nat.exists_eq_add_of_le inhabited
  have indices : List.range (1 + rest) = 0 :: List.range' 1 rest := by
    rw [List.range_eq_range', Nat.add_comm, List.range'_succ]
  rw [size] at counted ⊢
  rw [indices, leastLoaded, if_pos rfl]
  exact leastLoaded_range counted first

theorem threadAt_ok {thread : NetThread Unit Message} {ids : List SocketId}
    (found : netThreads[index]? = some (some ⟨thread, some ids⟩)) :
    threadAt netThreads index = .ok (⟨thread, some ids⟩, ids) := by
  rw [threadAt, found]

def Takes (netThreads : StartingThreads Message) (socketId : SocketId) (granted : Bool) : Prop :=
  ∃ threads pushed, onNewConnCallback netThreads socketId granted = .ok (true, threads, pushed)

variable {socketId : SocketId} {granted : Bool}

theorem takes_built (takes : Takes netThreads socketId granted) :
    0 < netThreads.length ∧
      ∀ i < netThreads.length, ∃ num, getConnectionNum netThreads i = .ok num := by
  obtain ⟨threads, pushed, called⟩ := takes
  rw [onNewConnCallback] at called
  cases first : getConnectionNum netThreads 0 with
  | error fault =>
      rw [first] at called
      cases called
  | ok num =>
      rw [first] at called
      simp only [Except.bind] at called
      split at called
      · cases called
      · rename_i chosen found
        obtain ⟨thread, ids, present, -⟩ := getConnectionNum_ok.mp first
        refine ⟨(List.getElem?_eq_some_iff.mp present).1, ?_⟩
        intro i inside
        by_cases zero : i = 0
        · exact ⟨num, zero ▸ first⟩
        · exact leastLoaded_built found i (List.mem_range.mpr inside) zero

theorem onNewConnCallback_least
    (counted : ∀ i < netThreads.length, getConnectionNum netThreads i = .ok (nums i))
    (inhabited : 0 < netThreads.length) (socketId : SocketId) (granted : Bool) :
    ∃ chosen, Least nums netThreads.length chosen ∧
      onNewConnCallback netThreads socketId granted =
        attachTo netThreads chosen socketId granted := by
  obtain ⟨chosen, found, least⟩ := leastLoaded_least counted inhabited
  refine ⟨chosen, least, ?_⟩
  rw [onNewConnCallback, counted 0 inhabited]
  simp only [Except.bind, found]

end TcpService

structure Holding (accepted : List SocketId) (r : EpollReactor) (ids : List SocketId) : Prop where
  served : Served r
  nodup : ids.Nodup
  keys : ∀ id, id ∈ ids ↔ r.connections id ≠ none
  known : ∀ id ∈ ids, id ∈ accepted
  registered : ∀ id, id ∉ ids → r.epoller.registered id = none

namespace Holding

variable {accepted ids : List SocketId} {r : EpollReactor} {socketId : SocketId}

theorem empty (accepted : List SocketId) :
    Holding accepted (EpollReactor.create.setBufferSizes 81920 409600) [] := by
  refine ⟨.of_empty (fun _ => rfl) (fun _ => rfl), List.nodup_nil, ?_, List.forall_mem_nil _,
    fun _ _ => rfl⟩
  intro id
  exact iff_of_false List.not_mem_nil (fun present => present rfl)

theorem mono (holding : Holding accepted r ids) : Holding (accepted ++ [socketId]) r ids := by
  obtain ⟨served, nodup, keys, known, registered⟩ := holding
  refine ⟨served, nodup, keys, ?_, registered⟩
  intro id listed
  exact List.mem_append_left _ (known id listed)

theorem attachSocket (holding : Holding accepted r ids) (new : socketId ∉ accepted)
    (granted : Bool) :
    (r.attachSocket socketId .create granted).1 = granted ∧
      (granted = true → Holding (accepted ++ [socketId])
        (r.attachSocket socketId .create granted).2 (ids ++ [socketId])) := by
  obtain ⟨served, nodup, keys, known, registered⟩ := holding
  have unlisted : socketId ∉ ids := fun listed => new (known socketId listed)
  have absent : r.connections socketId = none := by
    by_contra present
    exact unlisted ((keys socketId).mpr present)
  have unknown : r.sockets socketId = none := served.sockets_none.mpr absent
  have unregistered := registered socketId unlisted
  cases granted with
  | false => simp [EpollReactor.attachSocket, Epoller.add, unknown]
  | true =>
      have taken : (r.attachSocket socketId .create true).1 = true := by
        simp [EpollReactor.attachSocket, Epoller.add, unknown, unregistered]
      have epoller (id : SocketId) (other : id ≠ socketId) :
          (r.attachSocket socketId .create true).2.epoller.registered id =
            r.epoller.registered id := by
        simp [EpollReactor.attachSocket, Epoller.add, unknown, unregistered, setSocket,
          insertConnection, Function.update_of_ne other]
      obtain ⟨still, -, status⟩ := served.attachSocket TcpSocket.create true absent
      rw [if_pos taken] at status
      refine ⟨taken, fun _ => ⟨still, ?_, ?_, ?_, ?_⟩⟩
      · exact nodup.append (List.nodup_singleton socketId) (List.disjoint_singleton.mpr unlisted)
      · intro id
        rw [List.mem_append, List.mem_singleton, ne_eq, ← statusOf_none, status]
        by_cases same : id = socketId
        · simp [same]
        · rw [Function.update_of_ne same, statusOf_none, ← ne_eq, ← keys, or_iff_left same]
      · intro id listed
        rw [List.mem_append] at listed ⊢
        exact listed.imp_left (known id)
      · intro id unlisted'
        rw [List.mem_append, List.mem_singleton, not_or] at unlisted'
        rw [epoller id unlisted'.2]
        exact registered id unlisted'.1

end Holding

inductive ThreadStage
  | null
  | created
  | built
  | ready
deriving DecidableEq, Repr

def InitPhase.stage : InitPhase → Nat → ThreadStage
  | .startAcceptor, _ | .resize, _ => .null
  | .create i, j => if j < i then .created else .null
  | .buildReactor i, j => if j < i then .ready else .created
  | .setCallbacks i, j | .failed i, j =>
      if j < i then .ready else if j = i then .built else .created
  | .returned, _ => .ready

def ThreadStage.Fits {Message : Type} (accepted : List SocketId)
    (entry : Option (StartingThread Message)) : ThreadStage → Prop
  | .null => entry = none
  | .created => ∃ thread, entry = some ⟨thread, none⟩ ∧ thread.newNetCmdCb = none
  | .built => ∃ thread, entry = some ⟨thread, some []⟩ ∧ thread.newNetCmdCb = none ∧
      Holding accepted thread.reactor []
  | .ready => ∃ thread ids, entry = some ⟨thread, some ids⟩ ∧ thread.newNetCmdCb = some () ∧
      Holding accepted thread.reactor ids

section Stages

variable {Message : Type} {accepted : List SocketId} {netThreads : StartingThreads Message}
  {i n : Nat} {socketId : SocketId} {granted : Bool}

theorem ThreadStage.Fits.mono {stage : ThreadStage} {entry : Option (StartingThread Message)}
    (fits : stage.Fits accepted entry) : stage.Fits (accepted ++ [socketId]) entry := by
  cases stage with
  | null | created => exact fits
  | built =>
      obtain ⟨thread, found, callback, holding⟩ := fits
      exact ⟨thread, found, callback, holding.mono⟩
  | ready =>
      obtain ⟨thread, ids, found, callback, holding⟩ := fits
      exact ⟨thread, ids, found, callback, holding.mono⟩

theorem InitPhase.initialising_stage (inside : i < n) (next : Nat) :
    (initialising n next).stage i = if i < next then .ready else .created := by
  rw [initialising]
  split
  · rfl
  · rename_i all
    rw [if_pos (by omega)]
    rfl

theorem modified_entry {change : StartingThread Message → StartingThread Message} {j : Nat}
    {entry : Option (StartingThread Message)}
    (found : (netThreads.modify i (Option.map change))[j]? = some entry) :
    ∃ old, netThreads[j]? = some old ∧ entry = if i = j then old.map change else old := by
  rw [List.getElem?_modify] at found
  obtain ⟨old, present, same⟩ := Option.map_eq_some_iff.mp found
  exact ⟨old, present, same.symm⟩

theorem counted_stage {stage : ThreadStage} {num : Nat}
    (fits : ∀ entry, netThreads[i]? = some entry → stage.Fits accepted entry)
    (counted : TcpService.getConnectionNum netThreads i = .ok num) :
    stage = .built ∨ stage = .ready := by
  obtain ⟨thread, ids, found, -⟩ := TcpService.getConnectionNum_ok.mp counted
  have here := fits _ found
  cases stage with
  | null => cases here
  | created =>
      obtain ⟨other, same, -⟩ := here
      cases same
  | built => exact .inl rfl
  | ready => exact .inr rfl

theorem attachTo_built {entry : Option (StartingThread Message)}
    (found : netThreads[i]? = some entry) (fits : ThreadStage.built.Fits accepted entry) :
    TcpService.attachTo netThreads i socketId granted = .error .emptyCallback := by
  obtain ⟨thread, rfl, callback, -⟩ := fits
  rw [TcpService.attachTo, TcpService.threadAt_ok found]
  simp [Except.bind, NetThread.attach, NetThread.sendNetCommand, callback]

theorem attachTo_ready {entry : Option (StartingThread Message)}
    (found : netThreads[i]? = some entry) (fits : ThreadStage.ready.Fits accepted entry)
    (new : socketId ∉ accepted) (granted : Bool) :
    ∃ other pushed, TcpService.attachTo netThreads i socketId granted =
        .ok (granted, netThreads.set i other, pushed) ∧
      (granted = true → ThreadStage.ready.Fits (accepted ++ [socketId]) other) := by
  obtain ⟨thread, ids, rfl, callback, holding⟩ := fits
  obtain ⟨taken, attached⟩ := holding.attachSocket new granted
  rw [TcpService.attachTo, TcpService.threadAt_ok found]
  simp only [Except.bind, NetThread.attach, NetThread.sendNetCommand, callback, Option.map_some,
    taken]
  refine ⟨_, _, rfl, ?_⟩
  intro granted
  rw [if_pos granted]
  exact ⟨_, _, rfl, rfl, attached granted⟩

end Stages

/-- `accepted` are the ids that the acceptor has given out, `dropped` those whose socket no reactor
took. -/
structure ServiceStart (Message : Type) where
  phase : InitPhase
  netThreads : StartingThreads Message
  pushed : List (NetCommand Message)
  accepted : List SocketId
  dropped : List SocketId
  faults : List AcceptFault

/-- `init` takes its next step; `attached` is the answer of `command_queue_.attach`. -/
inductive ServiceStartEvent
  | init (attached : Bool)
  | accept (socketId : SocketId) (granted : Bool)
deriving DecidableEq, Repr

namespace ServiceStart

variable {Message : Type}

def start : ServiceStart Message :=
  { phase := .startAcceptor
    netThreads := []
    pushed := []
    accepted := []
    dropped := []
    faults := [] }

def init (netThreadNum : UInt8) (createMessageFunc : Int → Option Message)
    (s : ServiceStart Message) (attached : Bool) : Option (ServiceStart Message) :=
  match s.phase with
  | .startAcceptor => some { s with phase := .resize }
  | .resize =>
      some { s with
        phase := .creating netThreadNum.toNat 0
        netThreads := List.replicate netThreadNum.toNat none }
  | .create i =>
      some { s with
        phase := .creating netThreadNum.toNat (i + 1)
        netThreads := s.netThreads.set i (some (.create createMessageFunc)) }
  | .buildReactor i =>
      some { s with
        phase := .setCallbacks i
        netThreads := s.netThreads.modify i (Option.map StartingThread.buildReactor) }
  | .setCallbacks i =>
      if attached then
        some { s with
          phase := .initialising netThreadNum.toNat (i + 1)
          netThreads := s.netThreads.modify i (Option.map (StartingThread.setCallbacks i)) }
      else some { s with phase := .failed i }
  | .failed _ | .returned => none

/-- The acceptor runs as soon as it is started, and `nextId` gives an id that no socket has had. -/
def CanAccept (s : ServiceStart Message) (socketId : SocketId) : Prop :=
  s.phase ≠ .startAcceptor ∧ socketId ∉ s.accepted

instance (s : ServiceStart Message) (socketId : SocketId) : Decidable (s.CanAccept socketId) :=
  inferInstanceAs (Decidable (_ ∧ _))

def accept (s : ServiceStart Message) (socketId : SocketId) (granted : Bool) :
    ServiceStart Message :=
  let accepted := s.accepted ++ [socketId]
  match TcpService.onNewConnCallback s.netThreads socketId granted with
  -- A fault ends the program; the threads that are left say nothing about it.
  | .error fault => { s with accepted := accepted, faults := s.faults ++ [fault] }
  | .ok outcome =>
      { s with
        netThreads := outcome.2.1
        pushed := s.pushed ++ outcome.2.2
        accepted := accepted
        dropped := if outcome.1 then s.dropped else s.dropped ++ [socketId] }

def step (netThreadNum : UInt8) (createMessageFunc : Int → Option Message)
    (s : ServiceStart Message) : ServiceStartEvent → Option (ServiceStart Message)
  | .init attached => s.init netThreadNum createMessageFunc attached
  | .accept socketId granted =>
      if s.CanAccept socketId then some (s.accept socketId granted) else none

/-- No index was out of range, nothing that was touched was null, and no connection was dropped. -/
def Unharmed (s : ServiceStart Message) : Prop := s.faults = [] ∧ s.dropped = []

instance decidableUnharmed : DecidablePred (Unharmed : ServiceStart Message → Prop) :=
  fun s => inferInstanceAs (Decidable (s.faults = [] ∧ s.dropped = []))

/-- Every thread has its reactor. The last one, which has no connection, may still miss its
callback; then the connection must go to another. -/
def Ready (netThreadNum : UInt8) (s : ServiceStart Message) : Prop :=
  match s.phase with
  | .returned => True
  | .setCallbacks i | .failed i =>
      i + 1 = netThreadNum.toNat ∧
        ∃ thread, some ⟨thread, some []⟩ ∈ s.netThreads.take i
  | _ => False

def AcceptsReady (netThreadNum : UInt8) (s : ServiceStart Message) : ServiceStartEvent → Prop
  | .init _ => True
  | .accept socketId granted => s.CanAccept socketId → granted = true ∧ Ready netThreadNum s

structure Formed (netThreadNum : UInt8) (s : ServiceStart Message) : Prop where
  size : s.netThreads.length =
    if s.phase = .startAcceptor ∨ s.phase = .resize then 0 else netThreadNum.toNat
  inside : ∀ i, s.phase = .create i ∨ s.phase = .buildReactor i ∨ s.phase = .setCallbacks i ∨
    s.phase = .failed i → i < netThreadNum.toNat
  fits : ∀ i entry, s.netThreads[i]? = some entry → (s.phase.stage i).Fits s.accepted entry

section Steps

variable {netThreadNum : UInt8} {createMessageFunc : Int → Option Message}
  {s next : ServiceStart Message} {socketId : SocketId} {granted : Bool}

theorem start_formed : Formed netThreadNum (start : ServiceStart Message) := by
  refine ⟨rfl, ?_, ?_⟩
  · intro i phase
    rcases phase with phase | phase | phase | phase <;> cases phase
  · intro i entry found
    cases found

theorem Formed.initialising {i : Nat} (size : s.netThreads.length = netThreadNum.toNat)
    (fits : ∀ j entry, j < netThreadNum.toNat → s.netThreads[j]? = some entry →
      (if j < i then ThreadStage.ready else .created).Fits s.accepted entry) :
    Formed netThreadNum { s with phase := .initialising netThreadNum.toNat i } := by
  refine ⟨?_, ?_, ?_⟩
  · rw [if_neg ?_]
    · exact size
    · rw [InitPhase.initialising]
      split <;> simp
  · intro j phase
    simp only [InitPhase.initialising] at phase
    split at phase
    · rename_i inside
      simp at phase
      omega
    · simp at phase
  · intro j entry found
    have inside : j < netThreadNum.toNat := size ▸ (List.getElem?_eq_some_iff.mp found).1
    dsimp only
    rw [InitPhase.initialising_stage inside]
    exact fits j entry inside found

theorem Formed.creating {i : Nat} (size : s.netThreads.length = netThreadNum.toNat)
    (fits : ∀ j entry, j < netThreadNum.toNat → s.netThreads[j]? = some entry →
      (if j < i then ThreadStage.created else .null).Fits s.accepted entry) :
    Formed netThreadNum { s with phase := .creating netThreadNum.toNat i } := by
  by_cases more : i < netThreadNum.toNat
  · rw [InitPhase.creating, if_pos more]
    refine ⟨size, ?_, ?_⟩
    · intro j phase
      simp at phase
      omega
    · intro j entry found
      exact fits j entry (size ▸ (List.getElem?_eq_some_iff.mp found).1) found
  · rw [InitPhase.creating, if_neg more]
    apply Formed.initialising size
    intro j entry inside found
    have here := fits j entry inside found
    rw [if_pos (by omega)] at here
    rw [if_neg (Nat.not_lt_zero j)]
    exact here

/-! The steps of `init`, one lemma for each. -/

theorem Formed.create {i : Nat} (formed : Formed netThreadNum s) (phase : s.phase = .create i) :
    Formed netThreadNum { s with
      phase := .creating netThreadNum.toNat (i + 1)
      netThreads := s.netThreads.set i (some (.create createMessageFunc)) } := by
  have length : s.netThreads.length = netThreadNum.toNat := by simpa [phase] using formed.size
  apply Formed.creating (s := { s with netThreads := s.netThreads.set i _ }) (by simp [length])
  intro j entry _ found
  rw [List.getElem?_set] at found
  split at found
  · rename_i same
    cases same
    split at found
    · cases found
      rw [if_pos (Nat.lt_succ_self i)]
      exact ⟨_, rfl, rfl⟩
    · cases found
  · rename_i other
    have here := formed.fits j entry found
    simp only [phase, InitPhase.stage] at here
    by_cases before : j < i
    · rw [if_pos (by omega)]
      rwa [if_pos before] at here
    · rw [if_neg (by omega)]
      rwa [if_neg before] at here

theorem Formed.buildReactor {i : Nat} (formed : Formed netThreadNum s)
    (phase : s.phase = .buildReactor i) :
    Formed netThreadNum { s with
      phase := .setCallbacks i
      netThreads := s.netThreads.modify i (Option.map StartingThread.buildReactor) } := by
  have length : s.netThreads.length = netThreadNum.toNat := by simpa [phase] using formed.size
  refine ⟨by simp [length], by simp [formed.inside i (.inr (.inl phase))], ?_⟩
  intro j entry found
  obtain ⟨old, present, rfl⟩ := modified_entry found
  have here := formed.fits j old present
  simp only [phase, InitPhase.stage] at here ⊢
  by_cases before : j < i
  · have other : i ≠ j := by omega
    rw [if_pos before] at here ⊢
    rwa [if_neg other]
  · rw [if_neg before] at here ⊢
    by_cases same : i = j
    · obtain ⟨thread, rfl, callback⟩ := here
      rw [if_pos same, if_pos same.symm]
      exact ⟨_, rfl, callback, .empty s.accepted⟩
    · rwa [if_neg same, if_neg (Ne.symm same)]

theorem Formed.setCallbacks {i : Nat} (formed : Formed netThreadNum s)
    (phase : s.phase = .setCallbacks i) :
    Formed netThreadNum { s with
      phase := .initialising netThreadNum.toNat (i + 1)
      netThreads := s.netThreads.modify i (Option.map (StartingThread.setCallbacks i)) } := by
  have length : s.netThreads.length = netThreadNum.toNat := by simpa [phase] using formed.size
  apply Formed.initialising (s := { s with netThreads := s.netThreads.modify i _ })
    (by simp [length])
  intro j entry _ found
  obtain ⟨old, present, rfl⟩ := modified_entry found
  have here := formed.fits j old present
  simp only [phase, InitPhase.stage] at here
  by_cases before : j < i
  · have other : i ≠ j := by omega
    rw [if_pos before] at here
    rw [if_pos (Nat.lt_succ_of_lt before), if_neg other]
    exact here
  · rw [if_neg before] at here
    by_cases same : i = j
    · rw [if_pos same.symm] at here
      obtain ⟨thread, rfl, -, holding⟩ := here
      rw [if_pos (show j < i + 1 by omega), if_pos same]
      exact ⟨_, _, rfl, rfl, holding⟩
    · rw [if_neg (Ne.symm same)] at here
      rw [if_neg (show ¬j < i + 1 by omega), if_neg same]
      exact here

theorem Formed.fail {i : Nat} (formed : Formed netThreadNum s) (phase : s.phase = .setCallbacks i) :
    Formed netThreadNum { s with phase := .failed i } := by
  have length : s.netThreads.length = netThreadNum.toNat := by simpa [phase] using formed.size
  refine ⟨by simp [length], by simp [formed.inside i (.inr (.inr (.inl phase)))], ?_⟩
  intro j entry found
  have here := formed.fits j entry found
  rw [phase] at here
  exact here

theorem Formed.init (formed : Formed netThreadNum s) {attached : Bool}
    (taken : s.init netThreadNum createMessageFunc attached = some next) :
    Formed netThreadNum next := by
  simp only [ServiceStart.init] at taken
  split at taken
  · rename_i phase
    cases taken
    have size := formed.size
    rw [if_pos (.inl phase), List.length_eq_zero_iff] at size
    refine ⟨by simp [size], by simp, by simp [size]⟩
  · cases taken
    apply Formed.creating (s := { s with netThreads := List.replicate _ none }) (by simp)
    intro j entry _ found
    rw [if_neg (Nat.not_lt_zero j)]
    exact List.eq_of_mem_replicate (List.mem_of_getElem? found)
  · rename_i phase
    cases taken
    exact formed.create phase
  · rename_i phase
    cases taken
    exact formed.buildReactor phase
  · rename_i phase
    split at taken
    · cases taken
      exact formed.setCallbacks phase
    · cases taken
      exact formed.fail phase
  · cases taken
  · cases taken

theorem init_unharmed {attached : Bool}
    (taken : s.init netThreadNum createMessageFunc attached = some next) :
    Unharmed next ↔ Unharmed s := by
  simp only [ServiceStart.init] at taken
  split at taken
  · cases taken
    exact Iff.rfl
  · cases taken
    exact Iff.rfl
  · cases taken
    exact Iff.rfl
  · cases taken
    exact Iff.rfl
  · split at taken
    · cases taken
      exact Iff.rfl
    · cases taken
      exact Iff.rfl
  · cases taken
  · cases taken

theorem unharmed_accept (unharmed : Unharmed s) :
    Unharmed (s.accept socketId granted) ↔
      TcpService.Takes s.netThreads socketId granted := by
  obtain ⟨faultless, complete⟩ := unharmed
  rw [Unharmed, accept, TcpService.Takes]
  cases called : TcpService.onNewConnCallback s.netThreads socketId granted with
  | error fault => simp
  | ok outcome =>
      obtain ⟨taken, threads, pushed⟩ := outcome
      cases taken with
      | false => simp
      | true => simp [faultless, complete]

theorem Formed.takes_chosen (formed : Formed netThreadNum s) (new : socketId ∉ s.accepted)
    {nums : Nat → Nat}
    (counted : ∀ i < s.netThreads.length, TcpService.getConnectionNum s.netThreads i = .ok (nums i))
    (inhabited : 0 < s.netThreads.length) (granted : Bool) :
    ∃ chosen, TcpService.Least nums s.netThreads.length chosen ∧
      (TcpService.Takes s.netThreads socketId granted ↔
        granted = true ∧ s.phase.stage chosen = .ready) := by
  obtain ⟨chosen, least, same⟩ :=
    TcpService.onNewConnCallback_least counted inhabited socketId granted
  refine ⟨chosen, least, ?_⟩
  have found := List.getElem?_eq_getElem least.inside
  have fits := formed.fits chosen _ found
  rw [TcpService.Takes, same]
  rcases counted_stage (formed.fits chosen) (counted chosen least.inside) with stage | stage
  · rw [stage] at fits
    rw [attachTo_built found fits, stage]
    simp
  · rw [stage] at fits
    obtain ⟨other, pushed, attached, -⟩ := attachTo_ready found fits new granted
    rw [attached, stage]
    simp

/-- The last thread, which has no connection yet, is chosen only if all others have one. -/
theorem least_last {nums : Nat → Nat} {chosen i : Nat}
    (counted : ∀ j < s.netThreads.length, TcpService.getConnectionNum s.netThreads j = .ok (nums j))
    (last : i + 1 = s.netThreads.length) (none : nums i = 0)
    (least : TcpService.Least nums s.netThreads.length chosen) :
    chosen < i ↔ ∃ thread, some ⟨thread, some []⟩ ∈ s.netThreads.take i := by
  constructor
  · intro earlier
    obtain ⟨thread, ids, found, length⟩ :=
      TcpService.getConnectionNum_ok.mp (counted chosen least.inside)
    have bound := least.least i (by omega)
    have empty : ids = [] := List.length_eq_zero_iff.mp (by omega)
    subst empty
    refine ⟨thread, List.mem_of_getElem? (i := chosen) ?_⟩
    rw [List.getElem?_take, if_pos earlier]
    exact found
  · rintro ⟨thread, listed⟩
    obtain ⟨j, found⟩ := List.getElem?_of_mem listed
    rw [List.getElem?_take] at found
    split at found
    · rename_i earlier
      have idle := TcpService.getConnectionNum_ok.mpr ⟨thread, [], found, rfl⟩
      rw [counted j (by omega)] at idle
      have zero : nums j = 0 := Except.ok.inj idle
      have inside := least.inside
      by_contra late
      have same : chosen = i := by omega
      have fewer := least.first j (same ▸ earlier)
      omega
    · cases found

theorem Formed.counted (formed : Formed netThreadNum s)
    (present : ∀ i < s.netThreads.length, s.phase.stage i = .built ∨ s.phase.stage i = .ready) :
    ∃ nums : Nat → Nat, ∀ i < s.netThreads.length,
      TcpService.getConnectionNum s.netThreads i = .ok (nums i) := by
  have each (i : Nat) (inside : i < s.netThreads.length) :
      ∃ num, TcpService.getConnectionNum s.netThreads i = .ok num := by
    have found := List.getElem?_eq_getElem inside
    have fits := formed.fits i _ found
    rcases present i inside with stage | stage
    · rw [stage] at fits
      obtain ⟨thread, same, -⟩ := fits
      rw [same] at found
      exact ⟨0, TcpService.getConnectionNum_ok.mpr ⟨thread, [], found, rfl⟩⟩
    · rw [stage] at fits
      obtain ⟨thread, ids, same, -⟩ := fits
      rw [same] at found
      exact ⟨ids.length, TcpService.getConnectionNum_ok.mpr ⟨thread, ids, found, rfl⟩⟩
  choose! nums counted using each
  exact ⟨nums, counted⟩

theorem Formed.early (formed : Formed netThreadNum s) {i : Nat} (inside : i < s.netThreads.length)
    (missing : s.phase.stage i = .null ∨ s.phase.stage i = .created) :
    ¬TcpService.Takes s.netThreads socketId granted := by
  intro takes
  obtain ⟨num, counted⟩ := (TcpService.takes_built takes).2 i inside
  rcases counted_stage (formed.fits i) counted with stage | stage
  · rw [stage] at missing
    simp at missing
  · rw [stage] at missing
    simp at missing

/-- The vector is there but for the callbacks of thread `i`, the last that `init` got to. -/
theorem Formed.takes_last (formed : Formed netThreadNum s) (new : socketId ∉ s.accepted) {i : Nat}
    (inside : i < s.netThreads.length) (stages : ∀ j, s.phase.stage j =
      if j < i then ThreadStage.ready else if j = i then .built else .created) :
    TcpService.Takes s.netThreads socketId granted ↔
      granted = true ∧ i + 1 = s.netThreads.length ∧
        ∃ thread, some ⟨thread, some []⟩ ∈ s.netThreads.take i := by
  by_cases last : i + 1 = s.netThreads.length
  · obtain ⟨nums, counted⟩ := formed.counted fun j inside => by
      rw [stages]
      by_cases before : j < i
      · exact .inr (if_pos before)
      · have same : j = i := by omega
        rw [if_neg before]
        exact .inl (if_pos same)
    obtain ⟨chosen, least, takes⟩ := formed.takes_chosen new counted (by omega) granted
    have none : nums i = 0 := by
      obtain ⟨thread, ids, found, length⟩ := TcpService.getConnectionNum_ok.mp (counted i inside)
      have fits := formed.fits i _ found
      rw [stages, if_neg (lt_irrefl i), if_pos rfl] at fits
      obtain ⟨other, same, -⟩ := fits
      cases same
      exact length.symm
    have ready : s.phase.stage chosen = .ready ↔ chosen < i := by
      rw [stages]
      by_cases before : chosen < i
      · simp [before]
      · by_cases same : chosen = i <;> simp [before, same]
    rw [takes, ready, least_last counted last none least]
    simp [last]
  · have missing : s.phase.stage (i + 1) = .created := by
      rw [stages, if_neg (by omega), if_neg (by omega)]
    apply iff_of_false
    · exact formed.early (i := i + 1) (by omega) (.inr missing)
    · rintro ⟨-, same, -⟩
      exact last same

theorem Formed.takes_iff (formed : Formed netThreadNum s) (positive : 0 < netThreadNum.toNat)
    (new : socketId ∉ s.accepted) :
    TcpService.Takes s.netThreads socketId granted ↔ granted = true ∧ Ready netThreadNum s := by
  have size := formed.size
  rw [Ready]
  cases phase : s.phase with
  | startAcceptor | resize =>
      simp only [phase] at size
      simp only [and_false, iff_false]
      intro takes
      have inhabited := (TcpService.takes_built takes).1
      simp [size] at inhabited
  | create i =>
      have length : s.netThreads.length = netThreadNum.toNat := by simpa [phase] using size
      have inside := formed.inside i (.inl phase)
      simp only [and_false, iff_false]
      apply formed.early (i := i) (by omega) (.inl ?_)
      simp [phase, InitPhase.stage]
  | buildReactor i =>
      have length : s.netThreads.length = netThreadNum.toNat := by simpa [phase] using size
      have inside := formed.inside i (.inr (.inl phase))
      simp only [and_false, iff_false]
      apply formed.early (i := i) (by omega) (.inr ?_)
      simp [phase, InitPhase.stage]
  | setCallbacks i | failed i =>
      have length : s.netThreads.length = netThreadNum.toNat := by simpa [phase] using size
      have inside := formed.inside i (by simp [phase])
      rw [← length]
      apply formed.takes_last new (by omega)
      intro j
      rw [phase]
      rfl
  | returned =>
      have length : s.netThreads.length = netThreadNum.toNat := by simpa [phase] using size
      obtain ⟨nums, counted⟩ := formed.counted fun _ _ => .inr (by rw [phase]; rfl)
      obtain ⟨chosen, -, takes⟩ := formed.takes_chosen new counted (by omega) granted
      rw [takes, phase]
      simp [InitPhase.stage]

theorem Formed.accept (formed : Formed netThreadNum s) (new : socketId ∉ s.accepted)
    (takes : TcpService.Takes s.netThreads socketId granted) :
    Formed netThreadNum (s.accept socketId granted) := by
  obtain ⟨inhabited, counted⟩ := TcpService.takes_built takes
  choose! nums counted using counted
  obtain ⟨chosen, least, called⟩ :=
    TcpService.onNewConnCallback_least counted inhabited socketId granted
  have found := List.getElem?_eq_getElem least.inside
  have fits := formed.fits chosen _ found
  obtain ⟨threads, pushed, takes⟩ := takes
  rw [takes] at called
  rcases counted_stage (formed.fits chosen) (counted chosen least.inside) with stage | stage
  · rw [stage] at fits
    rw [attachTo_built found fits] at called
    cases called
  · rw [stage] at fits
    obtain ⟨other, pushed', attached, still⟩ := attachTo_ready found fits new granted
    rw [attached] at called
    cases called
    rw [ServiceStart.accept, takes]
    refine ⟨by simpa using formed.size, formed.inside, ?_⟩
    intro i entry here
    dsimp only at here ⊢
    rw [List.getElem?_set] at here
    split at here
    · rename_i same
      rw [if_pos least.inside] at here
      cases here
      rw [← same, stage]
      exact still rfl
    · exact (formed.fits i entry here).mono

theorem Formed.step (formed : Formed netThreadNum s) (positive : 0 < netThreadNum.toNat)
    {event : ServiceStartEvent} (unharmed : Unharmed s)
    (taken : s.step netThreadNum createMessageFunc event = some next) :
    (Unharmed next ↔ AcceptsReady netThreadNum s event) ∧
      (Unharmed next → Formed netThreadNum next) := by
  cases event with
  | init attached =>
      rw [init_unharmed taken]
      exact ⟨iff_of_true unharmed trivial, fun _ => formed.init taken⟩
  | accept socketId granted =>
      simp only [ServiceStart.step, Option.ite_none_right_eq_some, Option.some.injEq] at taken
      obtain ⟨can, rfl⟩ := taken
      rw [unharmed_accept unharmed, AcceptsReady, formed.takes_iff positive can.2]
      refine ⟨⟨fun fits _ => fits, fun fits => fits can⟩, ?_⟩
      intro fits
      exact formed.accept can.2 ((formed.takes_iff positive can.2).mpr fits)

theorem stuck_ready {event : ServiceStartEvent}
    (stuck : s.step netThreadNum createMessageFunc event = none) :
    AcceptsReady netThreadNum s event := by
  cases event with
  | init attached => trivial
  | accept socketId granted =>
      intro can
      simp [ServiceStart.step, can] at stuck

/-- Accepting never harms the service, exactly as long as no connection comes before the last net
thread has its reactor, and epoll grants what comes. -/
theorem unharmed_every_iff (netThreadNum : UInt8) (positive : 1 ≤ netThreadNum)
    (createMessageFunc : Int → Option Message) (events : List ServiceStartEvent) :
    Every (step netThreadNum createMessageFunc) Unharmed start events ↔
      Along (step netThreadNum createMessageFunc) (AcceptsReady netThreadNum) start events := by
  have positive' : 0 < netThreadNum.toNat := UInt8.le_iff_toNat_le.mp positive
  have preserved {s next : ServiceStart Message} {event : ServiceStartEvent}
      (kept : Formed netThreadNum s ∧ Unharmed s)
      (_ : (fun _ _ => True : ServiceStart Message → ServiceStartEvent → Prop) s event)
      (taken : s.step netThreadNum createMessageFunc event = some next)
      (unharmed : Unharmed next) : Formed netThreadNum next ∧ Unharmed next :=
    ⟨(kept.1.step positive' kept.2 taken).2 unharmed, unharmed⟩
  apply every_iff_along_of_kept preserved ?_ ?_ ⟨start_formed, rfl, rfl⟩ ⟨rfl, rfl⟩
    (along_always start events)
  · intro s event next kept _ unharmed taken
    exact (kept.1.step positive' unharmed taken).1
  · intro s event _ _ stuck
    exact stuck_ready stuck

end Steps

def earlyClient : List ServiceStartEvent := [.init true, .accept 9 true]

theorem earlyClient_harms :
    ¬Every (step 1 (rawServer 40960).netProtocol.createMessageFunc) Unharmed start earlyClient := by
  decide +kernel

theorem unharmed_every_iff_lateClients :
    Every (step 2 (rawServer 40960).netProtocol.createMessageFunc) Unharmed start
        [.init true, .init true, .init true, .init true, .init true, .init true, .init true,
          .accept 9 true, .init true, .accept 10 true] ↔
      Along (step 2 (rawServer 40960).netProtocol.createMessageFunc) (AcceptsReady 2) start
        [.init true, .init true, .init true, .init true, .init true, .init true, .init true,
          .accept 9 true, .init true, .accept 10 true] :=
  unharmed_every_iff 2 (by decide) _ _

example :
    Every (step 2 (rawServer 40960).netProtocol.createMessageFunc) Unharmed start
      [.init true, .init true, .init true, .init true, .init true, .init true, .init true,
        .accept 9 true, .init true, .accept 10 true] := by
  decide +kernel

end ServiceStart

end ZBlueNet
