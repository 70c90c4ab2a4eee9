import ZBlueNet.ConnectionSpread
import ZBlueNet.Semaphore

/-!
The ids of sockets: `SocketIdAllocator` puts a counter of 31 bits over the descriptor. The counter
comes back to 0, so an id can be that of an earlier socket, but not of one that is open.
-/

namespace ZBlueNet

open Runs

def IsDescriptor (fd : Int) : Prop := 0 ≤ fd ∧ fd < 2147483648

instance : DecidablePred IsDescriptor := fun _ => inferInstanceAs (Decidable (_ ∧ _))

def toUInt64 (value : Int) : Int := value % 18446744073709551616

def toInt64 (value : Int) : Int := Int.bmod value 18446744073709551616

structure SocketIdAllocator where
  value : Int
deriving DecidableEq, Repr

namespace SocketIdAllocator

def create : SocketIdAllocator := { value := 0 }

/-- The increment is that of an `int32_t`, the shift and the sum are those of a `uint64_t`. -/
def nextId (allocator : SocketIdAllocator) (fd : Int) : SocketId × SocketIdAllocator :=
  let next := wrapInt (allocator.value + 1)
  let value := if next < 0 then 0 else next
  let shifted := toUInt64 (toUInt64 value * 4294967296)
  (toInt64 (toUInt64 (shifted + toUInt64 fd)), { value := value })

def nextIds (allocator : SocketIdAllocator) : List Int → List SocketId
  | [] => []
  | fd :: fds => (allocator.nextId fd).1 :: (allocator.nextId fd).2.nextIds fds

/-- The id that belongs to a descriptor when `nextId` has been called so many times. -/
def idAfter (calls fd : Int) : Int := calls % 2147483648 * 4294967296 + fd

/-- Each id tells its descriptor, and returns only with its descriptor and after so many calls. -/
structure Identifies (fds : List Int) (ids : List SocketId) : Prop where
  nonnegative : ∀ id ∈ ids, 0 ≤ id
  low : ids.map (fun id => id % 4294967296) = fds
  distinct : ∀ i j : Nat, fds[i]? ≠ fds[j]? → ids[i]? ≠ ids[j]?
  apart : ∀ i j : Nat, i < j → j < ids.length → j - i < 2147483648 → ids[i]? ≠ ids[j]?

structure Sound (allocator : SocketIdAllocator) : Prop where
  lower : 0 ≤ allocator.value
  upper : allocator.value < 2147483648

variable {allocator : SocketIdAllocator} {fd : Int} {fds : List Int}

theorem create_sound : create.Sound := ⟨by decide, by decide⟩

theorem Sound.nextValue (sound : allocator.Sound) :
    (if wrapInt (allocator.value + 1) < 0 then 0 else wrapInt (allocator.value + 1)) =
      (allocator.value + 1) % 2147483648 := by
  obtain ⟨lower, upper⟩ := sound
  rw [wrapInt, Int.bmod_def]
  norm_num
  split_ifs <;> omega

theorem Sound.nextId_eq (sound : allocator.Sound) (descriptor : IsDescriptor fd) :
    allocator.nextId fd =
      (idAfter (allocator.value + 1) fd, ⟨(allocator.value + 1) % 2147483648⟩) := by
  obtain ⟨lower, upper⟩ := descriptor
  have small : 0 ≤ (allocator.value + 1) % 2147483648 ∧
      (allocator.value + 1) % 2147483648 < 2147483648 := by omega
  rw [nextId, sound.nextValue, idAfter]
  generalize (allocator.value + 1) % 2147483648 = value at small
  have shifted : toUInt64 (toUInt64 value * 4294967296) = value * 4294967296 := by
    simp only [toUInt64]
    omega
  have sum : toUInt64 (value * 4294967296 + toUInt64 fd) = value * 4294967296 + fd := by
    simp only [toUInt64]
    omega
  rw [shifted, sum, toInt64, Int.bmod_eq_of_le] <;> omega

theorem Sound.nextId (sound : allocator.Sound) (descriptor : IsDescriptor fd) :
    (allocator.nextId fd).2.Sound := by
  rw [sound.nextId_eq descriptor]
  constructor <;> dsimp only <;> omega

theorem idAfter_nonneg (calls : Int) (descriptor : IsDescriptor fd) : 0 ≤ idAfter calls fd := by
  obtain ⟨lower, -⟩ := descriptor
  rw [idAfter]
  omega

theorem idAfter_low (calls : Int) (descriptor : IsDescriptor fd) :
    idAfter calls fd % 4294967296 = fd := by
  obtain ⟨lower, upper⟩ := descriptor
  rw [idAfter]
  omega

theorem idAfter_eq_iff (calls others : Int) {other : Int} (descriptor : IsDescriptor fd)
    (otherDescriptor : IsDescriptor other) :
    idAfter calls fd = idAfter others other ↔
      fd = other ∧ calls % 2147483648 = others % 2147483648 := by
  obtain ⟨lower, upper⟩ := descriptor
  obtain ⟨otherLower, otherUpper⟩ := otherDescriptor
  simp only [idAfter]
  omega

theorem Sound.nextIds_eq (sound : allocator.Sound) (descriptors : ∀ fd ∈ fds, IsDescriptor fd) :
    allocator.nextIds fds =
      fds.mapIdx fun (i : Nat) fd => idAfter (allocator.value + 1 + i) fd := by
  induction fds generalizing allocator with
  | nil => rfl
  | cons fd fds ih =>
      simp only [List.forall_mem_cons] at descriptors
      obtain ⟨descriptor, others⟩ := descriptors
      have next := sound.nextId_eq descriptor
      rw [nextIds, ih (sound.nextId descriptor) others, List.mapIdx_cons, next]
      congr 1
      · simp
      · apply List.mapIdx_eq_mapIdx_iff.mpr
        intro i inside
        dsimp only
        rw [idAfter, idAfter]
        push_cast
        omega

theorem nextIds_getElem? (descriptors : ∀ fd ∈ fds, IsDescriptor fd) (i : Nat) :
    (create.nextIds fds)[i]? = fds[i]?.map (idAfter (1 + i)) := by
  rw [create_sound.nextIds_eq descriptors, List.getElem?_mapIdx]
  simp [create]

/-- The ids of two calls are the same exactly when they are for one descriptor and the number of
calls between them is a multiple of the counter's period. -/
theorem nextIds_eq_iff (descriptors : ∀ fd ∈ fds, IsDescriptor fd) {i j : Nat}
    (first : i < fds.length) (second : j < fds.length) :
    (create.nextIds fds)[i]? = (create.nextIds fds)[j]? ↔
      fds[i]? = fds[j]? ∧ i % 2147483648 = j % 2147483648 := by
  have same := idAfter_eq_iff (1 + i) (1 + j)
    (descriptors fds[i] (List.getElem_mem first)) (descriptors fds[j] (List.getElem_mem second))
  rw [nextIds_getElem? descriptors, nextIds_getElem? descriptors, List.getElem?_eq_getElem first,
    List.getElem?_eq_getElem second, Option.map_some, Option.map_some, Option.some_inj,
    Option.some_inj, same]
  apply and_congr_right
  intro _
  omega

theorem nextIds_length (allocator : SocketIdAllocator) (fds : List Int) :
    (allocator.nextIds fds).length = fds.length := by
  induction fds generalizing allocator with
  | nil => rfl
  | cons fd fds ih => rw [nextIds, List.length_cons, ih, List.length_cons]

theorem nextIds_identifies (descriptors : ∀ fd ∈ fds, IsDescriptor fd) :
    Identifies fds (create.nextIds fds) := by
  have low : (create.nextIds fds).map (fun id => id % 4294967296) = fds := by
    apply List.ext_getElem?
    intro i
    rw [List.getElem?_map, nextIds_getElem? descriptors]
    cases found : fds[i]? with
    | none => rfl
    | some fd =>
        have descriptor := descriptors fd (List.mem_of_getElem? found)
        exact congrArg some (idAfter_low (1 + i) descriptor)
  constructor
  case low => exact low
  case nonnegative =>
    intro id member
    obtain ⟨i, found⟩ := List.mem_iff_getElem?.mp member
    rw [nextIds_getElem? descriptors, Option.map_eq_some_iff] at found
    obtain ⟨fd, given, rfl⟩ := found
    exact idAfter_nonneg (1 + i) (descriptors fd (List.mem_of_getElem? given))
  case distinct =>
    intro i j different same
    apply different
    rw [← low, List.getElem?_map, List.getElem?_map, same]
  case apart =>
    intro i j order inside near same
    rw [nextIds_length] at inside
    have period := (nextIds_eq_iff descriptors (by omega) inside).mp same
    omega

theorem nextIds_nodup (descriptors : ∀ fd ∈ fds, IsDescriptor fd)
    (few : fds.length ≤ 2147483648) : (create.nextIds fds).Nodup := by
  rw [List.nodup_iff_getElem?_ne_getElem?]
  intro i j order inside
  have size := nextIds_length create fds
  exact (nextIds_identifies descriptors).apart i j order inside (by omega)

end SocketIdAllocator

/-! The acceptors, with the sockets that are open. -/

structure PeerSocket where
  fd : Int
  id : SocketId
deriving DecidableEq, Repr

inductive AcceptAnswer
  | accepted (fd : Int)
  | again
  | aborted
  | tooManyFiles
  | failed
deriving DecidableEq, Repr

/-- `opened` are the sockets that the acceptor has handed over and that are not closed yet. -/
structure Acceptor where
  socketIdAllocator : SocketIdAllocator
  newConnCb : Bool
  opened : List PeerSocket
deriving DecidableEq, Repr

/-- A turn of the loop in `onListenSocketRead`, a call of `accept`, and the end of a socket. -/
inductive AcceptorEvent
  | listenSocketRead (answer : AcceptAnswer)
  | accept (answer : AcceptAnswer)
  | close (fd : Int)
deriving DecidableEq, Repr

namespace Acceptor

open SocketIdAllocator

def start (newConnCb : Bool) : Acceptor :=
  { socketIdAllocator := .create, newConnCb := newConnCb, opened := [] }

/-- A socket that no callback takes is closed at the end of the turn. -/
def handOver (acceptor : Acceptor) (fd : Int) : Acceptor :=
  let next := acceptor.socketIdAllocator.nextId fd
  { acceptor with
    socketIdAllocator := next.2
    opened := if acceptor.newConnCb then acceptor.opened ++ [⟨fd, next.1⟩] else acceptor.opened }

/-- One turn of the loop in `EPollAcceptor::onListenSocketRead`, with what it returns if it ends. -/
def onListenSocketRead (acceptor : Acceptor) : AcceptAnswer → Option Int × Acceptor
  | .accepted fd => (none, acceptor.handOver fd)
  | .again => (some 0, acceptor)
  | .aborted => (none, acceptor)
  | .tooManyFiles => (some (-1), acceptor)
  | .failed => (some (-1), acceptor)

def accept (acceptor : Acceptor) : AcceptAnswer → Bool × Acceptor
  | .accepted fd => (true, acceptor.handOver fd)
  | _ => (false, acceptor)

def close (acceptor : Acceptor) (fd : Int) : Acceptor :=
  { acceptor with opened := acceptor.opened.filter fun socket => socket.fd ≠ fd }

def step (acceptor : Acceptor) : AcceptorEvent → Option Acceptor
  | .listenSocketRead answer => some (acceptor.onListenSocketRead answer).2
  | .accept answer => some (acceptor.accept answer).2
  | .close fd => some (acceptor.close fd)

def acceptedFd : AcceptorEvent → Option Int
  | .listenSocketRead (.accepted fd) | .accept (.accepted fd) => some fd
  | _ => none

def Unused (acceptor : Acceptor) (event : AcceptorEvent) : Prop :=
  ∀ fd ∈ acceptedFd event, IsDescriptor fd ∧ fd ∉ acceptor.opened.map PeerSocket.fd

instance (acceptor : Acceptor) (event : AcceptorEvent) : Decidable (acceptor.Unused event) :=
  inferInstanceAs (Decidable (∀ fd ∈ acceptedFd event, _ ∧ _))

def OpenIdsDiffer (acceptor : Acceptor) : Prop := (acceptor.opened.map PeerSocket.id).Nodup

structure Sound (acceptor : Acceptor) : Prop where
  allocator : acceptor.socketIdAllocator.Sound
  opened : (acceptor.opened.map PeerSocket.fd).Nodup
  low : ∀ socket ∈ acceptor.opened, socket.id % 4294967296 = socket.fd

variable {acceptor next : Acceptor} {fd : Int}

theorem start_sound (newConnCb : Bool) : (start newConnCb).Sound := by
  constructor
  case allocator => exact create_sound
  case opened => exact List.nodup_nil
  case low => simp [start]

theorem Sound.openIdsDiffer (sound : acceptor.Sound) : acceptor.OpenIdsDiffer := by
  have low : (acceptor.opened.map PeerSocket.id).map (fun id => id % 4294967296) =
      acceptor.opened.map PeerSocket.fd := by
    rw [List.map_map]
    exact List.map_congr_left sound.low
  have opened := sound.opened
  rw [← low] at opened
  exact opened.of_map

theorem Sound.handOver (sound : acceptor.Sound) (descriptor : IsDescriptor fd)
    (unused : fd ∉ acceptor.opened.map PeerSocket.fd) : (acceptor.handOver fd).Sound := by
  have next := sound.allocator.nextId_eq descriptor
  constructor
  case allocator => exact sound.allocator.nextId descriptor
  case opened =>
    rw [Acceptor.handOver]
    dsimp only
    split
    · rw [List.map_append, List.nodup_append']
      refine ⟨sound.opened, List.nodup_singleton _, ?_⟩
      simpa using unused
    · exact sound.opened
  case low =>
    rw [Acceptor.handOver]
    dsimp only
    split
    · intro socket member
      rw [List.mem_append, List.mem_singleton] at member
      rcases member with old | rfl
      · exact sound.low socket old
      · dsimp only
        rw [next]
        exact idAfter_low _ descriptor
    · exact sound.low

theorem Sound.close (sound : acceptor.Sound) (fd : Int) : (acceptor.close fd).Sound := by
  constructor
  case allocator => exact sound.allocator
  case opened => exact sound.opened.sublist (List.filter_sublist.map _)
  case low =>
    intro socket member
    exact sound.low socket (List.mem_of_mem_filter member)

theorem Sound.step (sound : acceptor.Sound) {event : AcceptorEvent}
    (unused : acceptor.Unused event) (taken : acceptor.step event = some next) : next.Sound := by
  cases event with
  | close fd =>
      cases taken
      exact sound.close fd
  | listenSocketRead answer | accept answer =>
      cases taken
      cases answer with
      | accepted fd =>
          obtain ⟨descriptor, unused⟩ := unused fd rfl
          exact sound.handOver descriptor unused
      | again | aborted | tooManyFiles | failed => exact sound

/-- Ids tell descriptors, stay apart for a whole period of the counter, and never meet on two
sockets that are open at the same time. -/
theorem socketIds_unique :
    (∀ fds : List Int, (∀ fd ∈ fds, IsDescriptor fd) → Identifies fds (create.nextIds fds)) ∧
    ∀ (newConnCb : Bool) (events : List AcceptorEvent),
      Along step Unused (start newConnCb) events →
      Every step OpenIdsDiffer (start newConnCb) events := by
  constructor
  · intro fds descriptors
    exact nextIds_identifies descriptors
  · intro newConnCb events unused
    have every := every_of_invariant (fun sound unused taken => Sound.step sound unused taken)
      (start_sound newConnCb) unused
    exact every.mono fun sound => sound.openIdsDiffer

def descriptorReturns : List AcceptorEvent :=
  [.listenSocketRead (.accepted 7), .listenSocketRead (.accepted 8), .listenSocketRead .again,
    .close 7, .listenSocketRead .aborted, .listenSocketRead (.accepted 7)]

theorem socketIds_unique_descriptorReturns :
    Identifies [7, 8, 7] [4294967303, 8589934600, 12884901895] ∧
      Every step OpenIdsDiffer (start true) descriptorReturns := by
  constructor
  · exact socketIds_unique.1 [7, 8, 7] (by decide)
  · apply socketIds_unique.2 true descriptorReturns
    decide

end Acceptor

/-! The service, whose runs rest on ids that no socket has had. -/

namespace ServiceLoad

variable {Message : Type} {s next : ServiceLoad Message} {event : LoadEvent}

def acceptedId : LoadEvent → Option SocketId
  | .accept socketId => some socketId
  | .close _ _ => none

theorem step_accepted (taken : s.step event = some next) :
    next.accepted = s.accepted ++ (acceptedId event).toList := by
  cases event with
  | close i socketId =>
      cases taken
      exact (List.append_nil _).symm
  | accept socketId =>
      rw [step] at taken
      split at taken
      · cases taken
        rfl
      · cases taken

theorem fresh_of_nodup {events : List LoadEvent}
    (nodup : (s.accepted ++ events.filterMap acceptedId).Nodup) : Along step Fresh s events := by
  induction events generalizing s with
  | nil => trivial
  | cons event events ih =>
      have cut : (event :: events).filterMap acceptedId =
          (acceptedId event).toList ++ events.filterMap acceptedId := by
        cases event <;> rfl
      rw [cut, ← List.append_assoc] at nodup
      constructor
      · have here := nodup.of_append_left
        cases event with
        | close i socketId => trivial
        | accept socketId =>
            rw [acceptedId, Option.toList_some, ← List.concat_eq_append, List.nodup_concat] at here
            exact here.1
      · intro next taken
        apply ih
        rw [step_accepted taken]
        exact nodup

/-- For a whole period of the counter the ids of the allocator are ids that no socket has had. -/
theorem fresh_of_nextIds {netThreadNum : Nat} {createMessageFunc : Int → Option Message}
    {events : List LoadEvent} {fds : List Int} (descriptors : ∀ fd ∈ fds, IsDescriptor fd)
    (few : fds.length ≤ 2147483648)
    (ids : events.filterMap acceptedId = SocketIdAllocator.create.nextIds fds) :
    Along step Fresh (start netThreadNum createMessageFunc) events := by
  apply fresh_of_nodup
  rw [ids]
  exact SocketIdAllocator.nextIds_nodup descriptors few

end ServiceLoad

end ZBlueNet
