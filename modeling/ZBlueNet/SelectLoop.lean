import ZBlueNet.ReactorCore
import ZBlueNet.Lib.Runs
import Mathlib.Data.List.Nodup

/-!
`SelectReactor::loop` as a `NetThread` runs it, which has one on Windows only: the new
sockets, `doNetEvent` with its cached read set, the commands that the write callback takes,
and the timers. Another thread attaches sockets at any time.
-/

namespace ZBlueNet

open Runs

abbrev Fd := Nat

def fdSetSize : Nat := 2048

/-- A `fd_set` of Windows: the descriptors in its array, and how many lie in the memory that
`create` has allocated. -/
structure FDSet where
  fds : List Fd
  room : Nat
  small : room ≤ fdSetSize

namespace FDSet

/-- `fd_size_` counts `sizeof(u_int)` for what is before the array, which begins after
`sizeof(SOCKET)`. -/
def create (wide : Bool) (maxFdCount : Int) : FDSet :=
  let socketSize := if wide then 8 else 4
  let nSocketNum := if maxFdCount < 64 then 64 else min maxFdCount.toNat fdSetSize
  { fds := []
    room := (4 + socketSize * nSocketNum - socketSize) / socketSize
    small := by
      have few : nSocketNum ≤ 2048 := by
        unfold nSocketNum
        split
        · decide
        · exact Nat.min_le_right _ _
      change _ ≤ 2048
      cases wide <;> simp only [socketSize, if_true, Bool.false_eq_true, if_false] <;> omega }

/-- `FD_SET`, which tests `FD_SETSIZE` and not what is allocated. -/
def add (set : FDSet) (fd : Fd) : FDSet :=
  if fd ∉ set.fds ∧ set.fds.length < fdSetSize then { set with fds := set.fds ++ [fd] } else set

def del (set : FDSet) (fd : Fd) : FDSet := { set with fds := set.fds.erase fd }

def zero (set : FDSet) : FDSet := { set with fds := [] }

def copy (set other : FDSet) : FDSet := { set with fds := other.fds }

end FDSet

/-- `closed` are the descriptors of the sockets that were closed, and `dropped` those that were taken
out of `fdReadBack`, since it was last built. The reactor does not record them. -/
structure SelectReactor where
  sockets : List (SocketId × Fd)
  connections : List (SocketId × ConnectionStatus)
  fdToSocketIdMap : Fd → Option SocketId
  newSockets : List (SocketId × Fd)
  clientChange : Bool
  fdRead : FDSet
  fdReadBack : FDSet
  quit : Bool
  ioServiceQuit : Bool
  closed : List Fd
  dropped : List Fd

/-- How `onSocketRead` gets on: `recv` fails, or its loop ends, and `recv_message_cb_` closes some
sockets when data arrived. -/
inductive SelectRead
  | failed
  | ended (dataArrive : Bool) (closed : List SocketId) (peerClose : Bool)

/-- A command with what becomes of its message: whether it can be encoded, and whether the sending
fails. -/
inductive SelectCommand
  | quit
  | close (id : SocketId)
  | message (id : SocketId) (encoded : Bool) (failed : Bool)
  | broadcast (encoded : Bool) (targets : List (SocketId × Bool))

inductive SelectAnswer
  | error (interrupted : Bool)
  | ready (reads : List (Fd × SelectRead))

namespace SelectReactor

def create (wide : Bool) (maxConnectionNum : Int) : SelectReactor :=
  { sockets := [], connections := [], fdToSocketIdMap := fun _ => none, newSockets := []
    clientChange := false, fdRead := .create wide maxConnectionNum
    fdReadBack := .create wide maxConnectionNum, quit := false, ioServiceQuit := false
    closed := [], dropped := [] }

def fds (r : SelectReactor) : List Fd := r.sockets.map Prod.snd

def attachSocket (r : SelectReactor) (id : SocketId) (fd : Fd) : SelectReactor :=
  { r with newSockets := r.newSockets ++ [(id, fd)] }

def closeSocket (r : SelectReactor) (id : SocketId) : SelectReactor :=
  let mapped := match r.sockets.lookup id with
    | none => r
    | some fd =>
        { r with
          fdToSocketIdMap := Function.update r.fdToSocketIdMap fd none
          closed := fd :: r.closed }
  { mapped with
    connections := mapped.connections.filter (·.1 ≠ id)
    sockets := mapped.sockets.filter (·.1 ≠ id) }

/-- A new socket in `loop`. `Reactor::attachSocket` refuses an id that is there, and the socket is
closed. -/
def takeSocket (r : SelectReactor) (socket : SocketId × Fd) : SelectReactor :=
  let mapped := { r with
    fdToSocketIdMap := Function.update r.fdToSocketIdMap socket.2
      ((r.fdToSocketIdMap socket.2).or (some socket.1)) }
  if (mapped.sockets.lookup socket.1).isSome then mapped
  else { mapped with
    sockets := mapped.sockets ++ [socket]
    connections := mapped.connections ++ [(socket.1, .connected)] }

def takeSockets (r : SelectReactor) : SelectReactor :=
  if r.newSockets.isEmpty then r
  else { r.newSockets.foldl takeSocket r with newSockets := [], clientChange := true }

/-- `doNetEvent` up to the call of `select`. -/
def prepareRead (r : SelectReactor) : SelectReactor :=
  if r.clientChange then
    let built := r.fds.foldl FDSet.add r.fdRead.zero
    { r with
      clientChange := false, fdRead := built, fdReadBack := r.fdReadBack.copy built
      closed := [], dropped := [] }
  else { r with fdRead := r.fdRead.copy r.fdReadBack }

def onSocketRead (r : SelectReactor) (id : SocketId) : SelectRead → Int × SelectReactor
  | .failed =>
      if (r.connections.lookup id).isNone then (-1, r) else (-1, r.closeSocket id)
  | .ended dataArrive closed peerClose =>
      if (r.connections.lookup id).isNone then (-1, r)
      else
        let received := if dataArrive then closed.foldl closeSocket r else r
        if peerClose then
          if dataArrive ∧ (received.connections.lookup id).isNone then (-1, received)
          else (-1, received.closeSocket id)
        else (0, received)

def readDescriptor (r : SelectReactor) (event : Fd × SelectRead) : SelectReactor :=
  match (r.fdToSocketIdMap event.1).bind fun id => (r.sockets.lookup id).map fun _ => id with
  | none => r
  | some id =>
      let read := r.onSocketRead id event.2
      if read.1 = -1 then
        { read.2 with
          fdReadBack := read.2.fdReadBack.del event.1
          dropped := event.1 :: read.2.dropped }
      else read.2

def doNetEvent (r : SelectReactor) : SelectAnswer → SelectReactor
  | .error interrupted => if interrupted then r else { r with quit := true }
  | .ready reads => reads.foldl readDescriptor r

def sendMessage (r : SelectReactor) (target : SocketId × Bool) : SelectReactor :=
  if r.connections.lookup target.1 = some .connected ∧ target.2 then
    { r with connections := r.connections.map fun connection =>
        if connection.1 = target.1 then (connection.1, .pendingError) else connection }
  else r

/-- `NetThread::quit` raises the flag of `IOService`, which `loop` does not test. -/
def handleNetCommand (r : SelectReactor) : SelectCommand → SelectReactor
  | .quit => { r with ioServiceQuit := true }
  | .broadcast encoded targets => if encoded then targets.foldl sendMessage r else r
  | .close id =>
      if r.connections.lookup id = some .connected then r.closeSocket id else r
  | .message id encoded failed =>
      if r.connections.lookup id = some .connected then
        if encoded then r.sendMessage (id, failed) else r.closeSocket id
      else r

def onNetCommand (r : SelectReactor) : List SelectCommand → SelectReactor
  | [] => r
  | .quit :: _ => r.handleNetCommand .quit
  | command :: rest => (r.handleNetCommand command).onNetCommand rest

end SelectReactor

inductive SelectPhase
  | head
  | net
  | selecting
  | writing
  | timing
  | ended
deriving DecidableEq

structure SelectRun where
  reactor : SelectReactor
  phase : SelectPhase

inductive SelectEvent
  | attach (id : SocketId) (fd : Fd)
  | head
  | prepare
  | select (answer : SelectAnswer)
  | write (commands : List SelectCommand)
  | checkTimeout (closed : List SocketId)

namespace SelectRun

def start (wide : Bool) (maxConnectionNum : Int) : SelectRun :=
  { reactor := .create wide maxConnectionNum, phase := .head }

def Answers (r : SelectReactor) : SelectAnswer → Prop
  | .error _ => True
  | .ready reads => ∀ event ∈ reads, event.1 ∈ r.fdRead.fds

instance (r : SelectReactor) (answer : SelectAnswer) : Decidable (Answers r answer) :=
  match answer with
  | .error _ => .isTrue trivial
  | .ready reads => inferInstanceAs (Decidable (∀ event ∈ reads, event.1 ∈ r.fdRead.fds))

/-- The descriptor of a new socket is not one of an open socket. -/
def step (run : SelectRun) : SelectEvent → Option SelectRun
  | .attach id fd =>
      if fd ∉ run.reactor.fds ∧ fd ∉ run.reactor.newSockets.map Prod.snd then
        some { run with reactor := run.reactor.attachSocket id fd }
      else none
  | .head =>
      if run.phase = .head then
        let taken := run.reactor.takeSockets
        some { reactor := taken, phase := if taken.connections.isEmpty then .timing else .net }
      else none
  | .prepare =>
      if run.phase = .net then some { reactor := run.reactor.prepareRead, phase := .selecting }
      else none
  | .select answer =>
      if run.phase = .selecting ∧ Answers run.reactor answer then
        some { reactor := run.reactor.doNetEvent answer, phase := .writing }
      else none
  | .write commands =>
      if run.phase = .writing then
        some { reactor := run.reactor.onNetCommand commands, phase := .timing }
      else none
  | .checkTimeout closed =>
      if run.phase = .timing then
        some {
          reactor := closed.foldl SelectReactor.closeSocket run.reactor
          phase := if run.reactor.quit then .ended else .head }
      else none

/-- `select` is asked for the descriptors of the sockets, and for no others, with a set that lies in
its memory. -/
def InStep (run : SelectRun) : Prop :=
  run.phase = .selecting →
    run.reactor.fdRead.fds.length ≤ run.reactor.fdRead.room ∧
      ∀ fd, fd ∈ run.reactor.fdRead.fds ↔ fd ∈ run.reactor.fds

/-- The set is built for sockets that it has memory for, or the sockets closed since then are those
that were taken out of it. -/
def Fits (run : SelectRun) : SelectEvent → Prop
  | .prepare => run.phase = .net →
      if run.reactor.clientChange then run.reactor.sockets.length ≤ run.reactor.fdRead.room
      else ∀ fd, fd ∈ run.reactor.closed ↔ fd ∈ run.reactor.dropped
  | _ => True

end SelectRun

namespace FDSet

variable {set : FDSet}

theorem foldl_add (fds : List Fd) (distinct : (set.fds ++ fds).Nodup) :
    (fds.foldl add set).fds = set.fds ++ fds.take (fdSetSize - set.fds.length) ∧
      (fds.foldl add set).room = set.room := by
  induction fds generalizing set with
  | nil => simp
  | cons fd rest ih =>
      have new : fd ∉ set.fds := by
        intro old
        exact (List.nodup_append.mp distinct).2.2 fd old fd List.mem_cons_self rfl
      rw [List.foldl_cons]
      by_cases space : set.fds.length < fdSetSize
      · have added : set.add fd = { set with fds := set.fds ++ [fd] } := if_pos ⟨new, space⟩
        rw [added]
        have left : fdSetSize - set.fds.length = fdSetSize - (set.fds.length + 1) + 1 := by omega
        obtain ⟨stored, room⟩ := @ih { set with fds := set.fds ++ [fd] } (by simpa using distinct)
        refine ⟨?_, room⟩
        rw [stored, left, List.take_succ_cons]
        simp
      · have full : set.add fd = set := if_neg fun both => space both.2
        rw [full]
        have left : fdSetSize - set.fds.length = 0 := by omega
        have fewer : (set.fds ++ rest).Nodup :=
          distinct.sublist (List.Sublist.append_left (List.sublist_cons_self fd rest) _)
        obtain ⟨stored, room⟩ := ih fewer
        refine ⟨?_, room⟩
        rw [stored, left, List.take_zero, List.take_zero]

end FDSet

namespace SelectReactor

structure Tables (r : SelectReactor) : Prop where
  ids : (r.sockets.map Prod.fst).Nodup
  fds : ((r.sockets ++ r.newSockets).map Prod.snd).Nodup

/-- `built` are the descriptors of the sockets when the cached set was last built. -/
structure Cached (built : List Fd) (r : SelectReactor) : Prop where
  back : ∀ fd, fd ∈ r.fdReadBack.fds ↔ fd ∈ built ∧ fd ∉ r.dropped
  current : ∀ fd, fd ∈ r.fds ↔ fd ∈ built ∧ fd ∉ r.closed
  closed : ∀ fd ∈ r.closed, fd ∈ built
  dropped : ∀ fd ∈ r.dropped, fd ∈ built
  distinct : r.fdReadBack.fds.Nodup
  inside : r.fdReadBack.fds.length ≤ r.fdRead.room

variable {r : SelectReactor} {id : SocketId} {fd : Fd} {built : List Fd}

theorem Tables.fds_nodup (tables : r.Tables) : r.fds.Nodup := by
  have distinct := tables.fds
  rw [List.map_append] at distinct
  exact (List.nodup_append.mp distinct).1

theorem mem_of_lookup (found : r.sockets.lookup id = some fd) : (id, fd) ∈ r.sockets := by
  obtain ⟨before, after, split, -⟩ := List.lookup_eq_some_iff.mp found
  rw [split]
  simp

theorem filter_of_lookup_none (missing : r.sockets.lookup id = none) :
    r.sockets.filter (·.1 ≠ id) = r.sockets := by
  rw [List.filter_eq_self]
  intro socket member
  have apart := List.lookup_eq_none_iff.mp missing socket member
  apply decide_eq_true
  rintro rfl
  simp at apart

theorem Tables.mem_filter_iff (tables : r.Tables) (found : r.sockets.lookup id = some fd)
    (other : Fd) :
    other ∈ (r.sockets.filter (·.1 ≠ id)).map Prod.snd ↔ other ∈ r.fds ∧ other ≠ fd := by
  have here := mem_of_lookup found
  constructor
  · intro stays
    obtain ⟨socket, member, rfl⟩ := List.mem_map.mp stays
    simp only [List.mem_filter, decide_eq_true_eq] at member
    refine ⟨List.mem_map_of_mem member.1, ?_⟩
    intro same
    have equal := List.inj_on_of_nodup_map tables.fds_nodup member.1 here same
    exact member.2 (congrArg Prod.fst equal)
  · rintro ⟨old, apart⟩
    obtain ⟨socket, member, rfl⟩ := List.mem_map.mp old
    apply List.mem_map_of_mem
    simp only [List.mem_filter, decide_eq_true_eq]
    refine ⟨member, ?_⟩
    intro same
    have equal := List.inj_on_of_nodup_map tables.ids member here same
    exact apart (congrArg Prod.snd equal)

theorem closeSocket_sockets (r : SelectReactor) (id : SocketId) :
    (r.closeSocket id).sockets = r.sockets.filter (·.1 ≠ id) := by
  rw [closeSocket]
  cases r.sockets.lookup id with
  | none => rfl
  | some fd => rfl

/-- What the sockets, the sets and the flags of two states have in common when a step between them
only closes sockets, sends, or ends the loop. -/
structure Kept (before after : SelectReactor) : Prop where
  newSockets : after.newSockets = before.newSockets
  clientChange : after.clientChange = before.clientChange
  tables : before.Tables → after.Tables
  cached : ∀ {built}, before.Tables → before.Cached built → after.Cached built

theorem Tables.closeSocket (tables : r.Tables) (id : SocketId)
    (newSockets : (r.closeSocket id).newSockets = r.newSockets) : (r.closeSocket id).Tables := by
  have fewer : (r.sockets.filter (·.1 ≠ id)).Sublist r.sockets := List.filter_sublist
  constructor
  case ids =>
      rw [closeSocket_sockets]
      exact tables.ids.sublist (fewer.map _)
  case fds =>
      rw [closeSocket_sockets, newSockets]
      exact tables.fds.sublist ((fewer.append_right _).map _)

theorem Cached.of_same {next : SelectReactor} (cached : r.Cached built)
    (sockets : next.sockets = r.sockets) (back : next.fdReadBack = r.fdReadBack)
    (room : next.fdRead.room = r.fdRead.room) (closed : next.closed = r.closed)
    (dropped : next.dropped = r.dropped) : next.Cached built := by
  have fds : next.fds = r.fds := by rw [fds, sockets, SelectReactor.fds]
  constructor
  case back =>
      rw [back, dropped]
      exact cached.back
  case current =>
      rw [fds, closed]
      exact cached.current
  case closed =>
      rw [closed]
      exact cached.closed
  case dropped =>
      rw [dropped]
      exact cached.dropped
  case distinct =>
      rw [back]
      exact cached.distinct
  case inside =>
      rw [back, room]
      exact cached.inside

theorem Cached.closeSocket (cached : r.Cached built) (tables : r.Tables) (id : SocketId) :
    (r.closeSocket id).Cached built := by
  cases found : r.sockets.lookup id with
  | none =>
      have stays := filter_of_lookup_none found
      simp only [SelectReactor.closeSocket, found, stays]
      exact cached.of_same rfl rfl rfl rfl rfl
  | some fd =>
      have here : fd ∈ r.fds := List.mem_map_of_mem (mem_of_lookup found)
      simp only [SelectReactor.closeSocket, found]
      constructor
      case back => exact cached.back
      case current =>
          intro other
          rw [fds, tables.mem_filter_iff found, cached.current, List.mem_cons]
          tauto
      case closed =>
          intro other member
          rcases List.mem_cons.mp member with rfl | member
          · exact ((cached.current _).mp here).1
          · exact cached.closed other member
      case dropped => exact cached.dropped
      case distinct => exact cached.distinct
      case inside => exact cached.inside

theorem Kept.refl (r : SelectReactor) : Kept r r := ⟨rfl, rfl, id, fun _ => id⟩

theorem Kept.trans {first second third : SelectReactor} (earlier : Kept first second)
    (later : Kept second third) : Kept first third := by
  constructor
  case newSockets => exact later.newSockets.trans earlier.newSockets
  case clientChange => exact later.clientChange.trans earlier.clientChange
  case tables => exact fun tables => later.tables (earlier.tables tables)
  case cached =>
      exact fun tables cached => later.cached (earlier.tables tables) (earlier.cached tables cached)

theorem Kept.foldl {Step : Type} {act : SelectReactor → Step → SelectReactor}
    {steps : List Step} (each : ∀ step ∈ steps, ∀ r, Kept r (act r step)) (r : SelectReactor) :
    Kept r (steps.foldl act r) :=
  List.foldlRecOn steps act (Kept.refl r)
    fun _ kept step member => kept.trans (each step member _)

theorem kept_closeSocket (r : SelectReactor) (id : SocketId) : Kept r (r.closeSocket id) := by
  have newSockets : (r.closeSocket id).newSockets = r.newSockets := by
    rw [closeSocket]
    cases r.sockets.lookup id with
    | none => rfl
    | some fd => rfl
  constructor
  case newSockets => exact newSockets
  case clientChange =>
      rw [closeSocket]
      cases r.sockets.lookup id with
      | none => rfl
      | some fd => rfl
  case tables => exact fun tables => tables.closeSocket id newSockets
  case cached => exact fun tables cached => cached.closeSocket tables id

theorem kept_closeSockets (r : SelectReactor) (ids : List SocketId) :
    Kept r (ids.foldl closeSocket r) :=
  Kept.foldl (fun id _ r => kept_closeSocket r id) r

theorem kept_sendMessage (r : SelectReactor) (target : SocketId × Bool) :
    Kept r (r.sendMessage target) := by
  rw [sendMessage]
  split
  next => exact ⟨rfl, rfl, fun tables => ⟨tables.ids, tables.fds⟩, fun _ cached =>
    cached.of_same rfl rfl rfl rfl rfl⟩
  next => exact Kept.refl r

theorem kept_handleNetCommand (r : SelectReactor) (command : SelectCommand) :
    Kept r (r.handleNetCommand command) := by
  cases command with
  | quit => exact ⟨rfl, rfl, fun tables => ⟨tables.ids, tables.fds⟩, fun _ cached =>
      cached.of_same rfl rfl rfl rfl rfl⟩
  | close id =>
      rw [handleNetCommand]
      split
      next => exact kept_closeSocket r id
      next => exact Kept.refl r
  | message id encoded failed =>
      rw [handleNetCommand]
      split
      next =>
          split
          next => exact kept_sendMessage r _
          next => exact kept_closeSocket r id
      next => exact Kept.refl r
  | broadcast encoded targets =>
      rw [handleNetCommand]
      split
      next => exact Kept.foldl (fun target _ r => kept_sendMessage r target) r
      next => exact Kept.refl r

theorem kept_onNetCommand (r : SelectReactor) (commands : List SelectCommand) :
    Kept r (r.onNetCommand commands) := by
  induction commands generalizing r with
  | nil => exact Kept.refl r
  | cons command rest ih =>
      have handled := kept_handleNetCommand r command
      cases command with
      | quit => exact handled
      | close | message | broadcast => exact handled.trans (ih _)

theorem kept_onSocketRead (r : SelectReactor) (id : SocketId) (read : SelectRead) :
    Kept r (r.onSocketRead id read).2 := by
  cases read with
  | failed =>
      rw [onSocketRead]
      split
      next => exact Kept.refl r
      next => exact kept_closeSocket r id
  | ended dataArrive closed peerClose =>
      have received : Kept r (if dataArrive = true then closed.foldl closeSocket r else r) := by
        split
        next => exact kept_closeSockets r closed
        next => exact Kept.refl r
      simp only [onSocketRead]
      generalize (if dataArrive = true then closed.foldl closeSocket r else r) = middle
        at received ⊢
      split
      next => exact Kept.refl r
      next =>
          split
          next =>
              split
              next => exact received
              next => exact received.trans (kept_closeSocket _ id)
          next => exact received

theorem Cached.drop (cached : r.Cached built) (member : fd ∈ built) :
    Cached built { r with fdReadBack := r.fdReadBack.del fd, dropped := fd :: r.dropped } := by
  constructor
  case back =>
      intro other
      simp only [FDSet.del, cached.distinct.mem_erase_iff, cached.back, List.mem_cons]
      tauto
  case current => exact cached.current
  case closed => exact cached.closed
  case dropped =>
      intro other dropped
      rcases List.mem_cons.mp dropped with rfl | dropped
      · exact member
      · exact cached.dropped other dropped
  case distinct => exact cached.distinct.erase fd
  case inside => exact le_trans List.erase_sublist.length_le cached.inside

structure Reads (built : List Fd) (before after : SelectReactor) : Prop where
  newSockets : after.newSockets = before.newSockets
  clientChange : after.clientChange = before.clientChange
  tables : after.Tables
  cached : after.Cached built

theorem reads_readDescriptor {event : Fd × SelectRead} (tables : r.Tables)
    (cached : r.Cached built) (member : event.1 ∈ built) :
    Reads built r (r.readDescriptor event) := by
  rw [readDescriptor]
  split
  next => exact ⟨rfl, rfl, tables, cached⟩
  next id _ =>
      have kept := kept_onSocketRead r id event.2
      have after := kept.cached tables cached
      dsimp only
      split
      next =>
          exact ⟨kept.newSockets, kept.clientChange,
            ⟨(kept.tables tables).ids, (kept.tables tables).fds⟩, after.drop member⟩
      next => exact ⟨kept.newSockets, kept.clientChange, kept.tables tables, after⟩

theorem reads_doNetEvent {answer : SelectAnswer} (tables : r.Tables) (cached : r.Cached built)
    (answers : SelectRun.Answers r answer) (asked : ∀ fd ∈ r.fdRead.fds, fd ∈ built) :
    Reads built r (r.doNetEvent answer) := by
  cases answer with
  | error interrupted =>
      rw [doNetEvent]
      split
      next => exact ⟨rfl, rfl, tables, cached⟩
      next => exact ⟨rfl, rfl, ⟨tables.ids, tables.fds⟩,
        cached.of_same rfl rfl rfl rfl rfl⟩
  | ready reads =>
      apply List.foldlRecOn (motive := Reads built r) reads readDescriptor ⟨rfl, rfl, tables, cached⟩
      intro middle done event member
      have next := reads_readDescriptor done.tables done.cached (asked _ (answers event member))
      exact ⟨next.newSockets.trans done.newSockets, next.clientChange.trans done.clientChange,
        next.tables, next.cached⟩

theorem takeSocket_sockets (r : SelectReactor) (socket : SocketId × Fd) :
    (r.takeSocket socket).sockets =
      if (r.sockets.lookup socket.1).isSome then r.sockets else r.sockets ++ [socket] := by
  simp only [takeSocket]
  split
  next => rfl
  next => rfl

theorem foldl_takeSocket (news : List (SocketId × Fd)) (ids : (r.sockets.map Prod.fst).Nodup)
    (fds : ((r.sockets ++ news).map Prod.snd).Nodup) :
    ((news.foldl takeSocket r).sockets.map Prod.fst).Nodup ∧
      ((news.foldl takeSocket r).sockets.map Prod.snd).Nodup := by
  induction news generalizing r with
  | nil => exact ⟨ids, by simpa using fds⟩
  | cons socket rest ih =>
      rw [List.foldl_cons]
      apply ih
      · rw [takeSocket_sockets]
        split
        next => exact ids
        next missing =>
            rw [Option.not_isSome_iff_eq_none, List.lookup_eq_none_iff] at missing
            rw [List.map_append, List.map_singleton]
            apply ids.append (List.nodup_singleton _)
            rw [List.disjoint_singleton]
            intro taken
            obtain ⟨old, member, same⟩ := List.mem_map.mp taken
            have apart := missing old member
            simp [same] at apart
      · rw [takeSocket_sockets]
        split
        next =>
            have fewer := List.Sublist.append_left (List.sublist_cons_self socket rest) r.sockets
            exact fds.sublist (fewer.map _)
        next =>
            rw [List.append_assoc]
            exact fds

theorem Tables.takeSockets (tables : r.Tables) : r.takeSockets.Tables := by
  rw [SelectReactor.takeSockets]
  split
  next => exact tables
  next =>
      obtain ⟨ids, fds⟩ := foldl_takeSocket r.newSockets tables.ids tables.fds
      exact ⟨ids, by simpa using fds⟩

theorem prepareRead_fds (r : SelectReactor) : r.prepareRead.fds = r.fds := by
  rw [prepareRead]
  split
  next => rfl
  next => rfl

theorem prepareRead_built (change : r.clientChange = true) (tables : r.Tables) :
    r.prepareRead.fdRead.fds = r.fds.take fdSetSize ∧
      r.prepareRead.fdRead.room = r.fdRead.room := by
  have distinct : (r.fdRead.zero.fds ++ r.fds).Nodup := by
    simpa [FDSet.zero] using tables.fds_nodup
  obtain ⟨stored, room⟩ := FDSet.foldl_add r.fds distinct
  simp only [prepareRead, change, if_true]
  exact ⟨by simpa [FDSet.zero] using stored, room⟩

end SelectReactor

namespace SelectRun

open SelectReactor

structure Sound (run : SelectRun) : Prop where
  tables : run.reactor.Tables
  cached : run.reactor.clientChange = false → ∃ built, run.reactor.Cached built
  selecting : run.phase = .selecting →
    run.reactor.clientChange = false ∧ run.reactor.fdRead.fds = run.reactor.fdReadBack.fds

variable {run next : SelectRun} {event : SelectEvent}

theorem Sound.start (wide : Bool) (maxConnectionNum : Int) :
    (start wide maxConnectionNum).Sound := by
  constructor
  case tables => exact ⟨List.nodup_nil, List.nodup_nil⟩
  case cached =>
      intro _
      refine ⟨[], ?_, ?_, ?_, ?_, List.nodup_nil, Nat.zero_le _⟩
      · simp [SelectRun.start, SelectReactor.create, FDSet.create]
      · simp [SelectRun.start, SelectReactor.create, SelectReactor.fds]
      · simp [SelectRun.start, SelectReactor.create]
      · simp [SelectRun.start, SelectReactor.create]
  case selecting => nofun

theorem Sound.kept (sound : run.Sound) {reactor : SelectReactor} {phase : SelectPhase}
    (kept : run.reactor.Kept reactor) (apart : phase ≠ .selecting) :
    ({ reactor := reactor, phase := phase } : SelectRun).Sound := by
  constructor
  case tables => exact kept.tables sound.tables
  case cached =>
      intro unchanged
      obtain ⟨built, cached⟩ := sound.cached (kept.clientChange.symm.trans unchanged)
      exact ⟨built, kept.cached sound.tables cached⟩
  case selecting => exact fun selecting => absurd selecting apart

theorem Sound.prepare (sound : run.Sound)
    (inStep : InStep { reactor := run.reactor.prepareRead, phase := .selecting }) :
    Sound { reactor := run.reactor.prepareRead, phase := .selecting } := by
  have current := inStep rfl
  cases change : run.reactor.clientChange with
  | true =>
      have built := prepareRead_built change sound.tables
      have read : run.reactor.prepareRead.fdReadBack.fds = run.reactor.prepareRead.fdRead.fds := by
        simp [prepareRead, change, FDSet.copy]
      have cleared : run.reactor.prepareRead.closed = [] ∧
          run.reactor.prepareRead.dropped = [] ∧
          run.reactor.prepareRead.clientChange = false := by
        simp [prepareRead, change]
      have tables : run.reactor.prepareRead.Tables := by
        simp only [prepareRead, change, if_true]
        exact ⟨sound.tables.ids, sound.tables.fds⟩
      constructor
      case tables => exact tables
      case cached =>
          intro _
          refine ⟨run.reactor.prepareRead.fds, ?_, ?_, ?_, ?_, ?_, ?_⟩
          · simpa [read, cleared] using current.2
          · simp [cleared]
          · simp [cleared]
          · simp [cleared]
          · rw [read, built.1]
            exact sound.tables.fds_nodup.sublist (List.take_sublist _ _)
          · rw [read]
            exact current.1
      case selecting => exact fun _ => ⟨cleared.2.2, read.symm⟩
  | false =>
      obtain ⟨built, cached⟩ := sound.cached change
      simp only [prepareRead, change, Bool.false_eq_true, if_false]
      constructor
      case tables => exact ⟨sound.tables.ids, sound.tables.fds⟩
      case cached =>
          exact fun _ => ⟨built, cached.of_same rfl rfl rfl rfl rfl⟩
      case selecting => exact fun _ => ⟨rfl, rfl⟩

theorem not_selecting_of_step (taken : run.step event = some next) (other : event ≠ .prepare)
    (loop : ∀ id fd, event ≠ .attach id fd) : next.phase ≠ .selecting := by
  cases event with
  | attach id fd => exact absurd rfl (loop id fd)
  | prepare => exact absurd rfl other
  | head =>
      simp only [SelectRun.step, Option.ite_none_right_eq_some, Option.some.injEq] at taken
      obtain ⟨-, rfl⟩ := taken
      dsimp only
      split
      next => decide
      next => decide
  | select | write =>
      simp only [SelectRun.step, Option.ite_none_right_eq_some, Option.some.injEq] at taken
      obtain ⟨-, rfl⟩ := taken
      simp
  | checkTimeout closed =>
      simp only [SelectRun.step, Option.ite_none_right_eq_some, Option.some.injEq] at taken
      obtain ⟨-, rfl⟩ := taken
      dsimp only
      split
      next => decide
      next => decide

theorem Sound.step (sound : run.Sound) (taken : run.step event = some next)
    (inStep : next.InStep) : next.Sound := by
  cases event with
  | attach id fd =>
      simp only [SelectRun.step, Option.ite_none_right_eq_some, Option.some.injEq] at taken
      obtain ⟨⟨closed, fresh⟩, rfl⟩ := taken
      constructor
      case tables =>
          refine ⟨sound.tables.ids, ?_⟩
          have distinct := sound.tables.fds
          simp only [attachSocket, ← List.append_assoc]
          rw [List.map_append]
          apply distinct.append (List.nodup_singleton _)
          rw [List.disjoint_singleton, List.map_append, List.mem_append, not_or]
          exact ⟨closed, fresh⟩
      case cached =>
          intro unchanged
          obtain ⟨built, cached⟩ := sound.cached unchanged
          exact ⟨built, cached.of_same rfl rfl rfl rfl rfl⟩
      case selecting => exact sound.selecting
  | head =>
      have apart := not_selecting_of_step taken (by simp) (by simp)
      simp only [SelectRun.step, Option.ite_none_right_eq_some, Option.some.injEq] at taken
      obtain ⟨-, rfl⟩ := taken
      constructor
      case tables => exact sound.tables.takeSockets
      case cached =>
          intro unchanged
          rw [takeSockets] at unchanged ⊢
          split at unchanged
          next none_new =>
              rw [if_pos none_new]
              exact sound.cached unchanged
          next => cases unchanged
      case selecting => exact fun selecting => absurd selecting apart
  | prepare =>
      simp only [SelectRun.step, Option.ite_none_right_eq_some, Option.some.injEq] at taken
      obtain ⟨-, rfl⟩ := taken
      exact sound.prepare inStep
  | select answer =>
      have apart := not_selecting_of_step taken (by simp) (by simp)
      simp only [SelectRun.step, Option.ite_none_right_eq_some, Option.some.injEq] at taken
      obtain ⟨⟨selecting, answers⟩, rfl⟩ := taken
      obtain ⟨unchanged, same⟩ := sound.selecting selecting
      obtain ⟨built, cached⟩ := sound.cached unchanged
      have asked : ∀ fd ∈ run.reactor.fdRead.fds, fd ∈ built := by
        intro fd member
        rw [same] at member
        exact ((cached.back fd).mp member).1
      have reads := reads_doNetEvent sound.tables cached answers asked
      constructor
      case tables => exact reads.tables
      case cached => exact fun _ => ⟨built, reads.cached⟩
      case selecting => exact fun selecting => absurd selecting apart
  | write commands =>
      have apart := not_selecting_of_step taken (by simp) (by simp)
      simp only [SelectRun.step, Option.ite_none_right_eq_some, Option.some.injEq] at taken
      obtain ⟨-, rfl⟩ := taken
      exact sound.kept (kept_onNetCommand _ commands) apart
  | checkTimeout closed =>
      have apart := not_selecting_of_step taken (by simp) (by simp)
      simp only [SelectRun.step, Option.ite_none_right_eq_some, Option.some.injEq] at taken
      obtain ⟨-, rfl⟩ := taken
      exact sound.kept (kept_closeSockets _ closed) apart

theorem inStep_built_iff (sound : run.Sound) (change : run.reactor.clientChange = true) :
    InStep { reactor := run.reactor.prepareRead, phase := .selecting } ↔
      run.reactor.sockets.length ≤ run.reactor.fdRead.room := by
  obtain ⟨built, same⟩ := prepareRead_built change sound.tables
  have count : run.reactor.fds.length = run.reactor.sockets.length := List.length_map _
  have small := run.reactor.fdRead.small
  simp only [InStep, true_imp_iff, built, same, prepareRead_fds]
  constructor
  · rintro ⟨inside, all⟩
    have fewer := List.Nodup.length_le_of_subset sound.tables.fds_nodup fun fd => (all fd).mpr
    omega
  · intro room
    rw [List.take_of_length_le (by omega), count]
    exact ⟨room, fun fd => Iff.rfl⟩

theorem inStep_cached_iff (sound : run.Sound) (unchanged : run.reactor.clientChange = false) :
    InStep { reactor := run.reactor.prepareRead, phase := .selecting } ↔
      ∀ fd, fd ∈ run.reactor.closed ↔ fd ∈ run.reactor.dropped := by
  obtain ⟨built, cached⟩ := sound.cached unchanged
  have read : run.reactor.prepareRead.fdRead.fds = run.reactor.fdReadBack.fds ∧
      run.reactor.prepareRead.fdRead.room = run.reactor.fdRead.room := by
    simp [prepareRead, unchanged, FDSet.copy]
  simp only [InStep, true_imp_iff, read, prepareRead_fds, cached.back, cached.current,
    cached.inside, true_and]
  apply forall_congr'
  intro fd
  have closed := cached.closed fd
  have dropped := cached.dropped fd
  tauto

theorem inStep_iff_fits (sound : run.Sound) (inStep : run.InStep)
    (taken : run.step event = some next) : next.InStep ↔ run.Fits event := by
  cases event with
  | attach id fd =>
      simp only [step, Option.ite_none_right_eq_some, Option.some.injEq] at taken
      obtain ⟨-, rfl⟩ := taken
      exact iff_of_true inStep trivial
  | prepare =>
      simp only [step, Option.ite_none_right_eq_some, Option.some.injEq] at taken
      obtain ⟨net, rfl⟩ := taken
      simp only [Fits, net, true_imp_iff]
      cases change : run.reactor.clientChange with
      | true => simpa using inStep_built_iff sound change
      | false => simpa using inStep_cached_iff sound change
  | head | select _ | write _ | checkTimeout _ =>
      apply iff_of_true _ trivial
      intro selecting
      exact absurd selecting (not_selecting_of_step taken (by simp) (by simp))

theorem fits_of_stuck (stuck : run.step event = none) : run.Fits event := by
  cases event with
  | prepare =>
      intro net
      simp [step, net] at stuck
  | attach | head | select | write | checkTimeout => trivial

/-- `select` is always asked for the sockets there are exactly in the runs whose steps all fit. -/
theorem read_set_in_step_iff (wide : Bool) (maxConnectionNum : Int) (events : List SelectEvent) :
    Every step InStep (start wide maxConnectionNum) events ↔
      Along step Fits (start wide maxConnectionNum) events := by
  have preserved {run : SelectRun} {event : SelectEvent} {next : SelectRun} (sound : run.Sound)
      (_ : (fun _ _ => True : SelectRun → SelectEvent → Prop) run event)
      (taken : run.step event = some next) (inStep : next.InStep) : next.Sound :=
    sound.step taken inStep
  have initial : (start wide maxConnectionNum).InStep := nofun
  exact every_iff_along_of_kept preserved
    (fun sound _ inStep taken => inStep_iff_fits sound inStep taken)
    (fun _ _ stuck => fits_of_stuck stuck) (Sound.start wide maxConnectionNum) initial
    (along_always _ events)

/-- A CLOSE command closes the first of two sockets, and `select` is asked for it again. -/
theorem select_asked_for_closed :
    ¬ Every step InStep (start true 64)
      [.attach 1 5, .attach 2 6, .head, .prepare, .select (.ready []), .write [.close 1],
        .checkTimeout [], .head, .prepare] := by
  intro every
  have reached : ∃ finish, run step (start true 64)
      [.attach 1 5, .attach 2 6, .head, .prepare, .select (.ready []), .write [.close 1],
        .checkTimeout [], .head, .prepare] = some finish ∧ finish.phase = .selecting ∧
      finish.reactor.fdRead.fds = [5, 6] ∧ finish.reactor.fds = [6] :=
    ⟨_, rfl, rfl, rfl, rfl⟩
  obtain ⟨finish, reached, selecting, read, fds⟩ := reached
  have current := (every.finish reached selecting).2 5
  rw [read, fds] at current
  revert current
  decide

end SelectRun

end ZBlueNet
