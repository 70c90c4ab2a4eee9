import Mathlib.Data.Finset.Basic
import Mathlib.Data.List.Nodup

/-!
`Epoller::doEvent` on the devices behind the pointers of `epoll_event`. A callback may
delete devices, its own and those of later events of the batch included; the batch keeps
its pointers, and `removed_io_devices_` tells which of them are dead.
-/

namespace ZBlueNet

abbrev DevicePtr := Nat

inductive DeviceCallback
  | write
  | read
  | error
deriving DecidableEq

structure EpollEvent where
  events : UInt32
  device : DevicePtr
deriving DecidableEq

namespace EpollEvent

def epollin : UInt32 := 0x001
def epollpri : UInt32 := 0x002
def epollout : UInt32 := 0x004
def epollerr : UInt32 := 0x008
def epollhup : UInt32 := 0x010
def epollrdhup : UInt32 := 0x2000

def bits : DeviceCallback → UInt32
  | .write => epollout
  | .read => epollin ||| epollpri ||| epollrdhup
  | .error => epollerr ||| epollhup

def asks (event : EpollEvent) (callback : DeviceCallback) : Bool :=
  event.events &&& bits callback != 0

def asked (event : EpollEvent) : List DeviceCallback :=
  [.write, .read, .error].filter event.asks

end EpollEvent

/-- `registered` is the kernel's list, `eventsSize` the size of `events_`. -/
structure DeviceEpoller where
  registered : Finset DevicePtr
  removedIODevices : Finset DevicePtr
  eventsSize : Nat

inductive EpollerUse
  | add (device : DevicePtr) (granted : Bool)
  | del (device : DevicePtr)

inductive DispatchEntry
  | called (device : DevicePtr) (callback : DeviceCallback)
  | removed (device : DevicePtr)
deriving DecidableEq

/-- What a callback does may depend on all that has happened in the batch. -/
abbrev DeviceBehaviour := List DispatchEntry → List EpollerUse

namespace DeviceEpoller

def create : DeviceEpoller := { registered := ∅, removedIODevices := ∅, eventsSize := 32 }

/-- `epoll_ctl(EPOLL_CTL_ADD)` fails for a registered device, and may fail for another. -/
def add (epoller : DeviceEpoller) (device : DevicePtr) (granted : Bool) : Bool × DeviceEpoller :=
  if granted ∧ device ∉ epoller.registered then
    (true, { epoller with registered := insert device epoller.registered })
  else (false, epoller)

def del (epoller : DeviceEpoller) (device : DevicePtr) : Bool × DeviceEpoller :=
  if device ∈ epoller.registered then
    (true, { epoller with
      registered := epoller.registered.erase device
      removedIODevices := insert device epoller.removedIODevices })
  else (false, epoller)

def checkIODeviceExist (epoller : DeviceEpoller) (device : DevicePtr) : Bool :=
  device ∉ epoller.removedIODevices

end DeviceEpoller

structure Dispatch where
  epoller : DeviceEpoller
  trace : List DispatchEntry

namespace Dispatch

def use (s : Dispatch) : EpollerUse → Dispatch
  | .add device granted => { s with epoller := (s.epoller.add device granted).2 }
  | .del device =>
      let deleted := s.epoller.del device
      { epoller := deleted.2
        trace := if deleted.1 then s.trace ++ [.removed device] else s.trace }

def invoke (behaviour : DeviceBehaviour) (s : Dispatch) (device : DevicePtr)
    (callback : DeviceCallback) : Dispatch :=
  let called := { s with trace := s.trace ++ [.called device callback] }
  (behaviour called.trace).foldl use called

/-- The guarded calls for one event. A guard that fails gives up the rest of the event. -/
def answer (behaviour : DeviceBehaviour) (event : EpollEvent) :
    List DeviceCallback → Dispatch → Dispatch
  | [], s => s
  | callback :: rest, s =>
      if event.asks callback then
        if s.epoller.checkIODeviceExist event.device = false then s
        else answer behaviour event rest (s.invoke behaviour event.device callback)
      else answer behaviour event rest s

def handleEvent (behaviour : DeviceBehaviour) (s : Dispatch) (event : EpollEvent) : Dispatch :=
  s.answer behaviour event [.write, .read, .error]

end Dispatch

inductive EpollWait
  | error (errno : Int)
  | events (batch : List EpollEvent)

def eintr : Int := 4

def DeviceEpoller.doEvent (epoller : DeviceEpoller) (behaviour : DeviceBehaviour) :
    EpollWait → Int × DeviceEpoller × List DispatchEntry
  | .error errno => (if errno = eintr then 0 else -1, epoller, [])
  | .events batch =>
      let handled := batch.foldl (Dispatch.handleEvent behaviour) { epoller := epoller, trace := [] }
      (0, { handled.epoller with
        removedIODevices := ∅
        eventsSize := if batch.length ≥ epoller.eventsSize then epoller.eventsSize * 2
          else epoller.eventsSize }, handled.trace)

/-- A batch has each device at most once, and only registered ones. -/
structure EpollBatch (epoller : DeviceEpoller) where
  events : List EpollEvent
  distinct : (events.map EpollEvent.device).Nodup
  registered : ∀ event ∈ events, event.device ∈ epoller.registered

def callsOf (device : DevicePtr) (trace : List DispatchEntry) : List DeviceCallback :=
  trace.filterMap fun
    | .called other callback => if other = device then some callback else none
    | .removed _ => none

def NoLateCall (trace : List DispatchEntry) : Prop :=
  trace.Pairwise fun earlier later =>
    ∀ device callback, earlier = .removed device → later ≠ .called device callback

/-- No callback of a device after its removal, and all callbacks that the bits ask for when there is
no removal. -/
structure Delivered (batch : List EpollEvent) (trace : List DispatchEntry) : Prop where
  noLateCall : NoLateCall trace
  exact : ∀ event ∈ batch, .removed event.device ∉ trace → callsOf event.device trace = event.asked

structure Dispatch.Tracked (already : Finset DevicePtr) (s : Dispatch) : Prop where
  removed : ∀ device, device ∈ s.epoller.removedIODevices ↔
    device ∈ already ∨ .removed device ∈ s.trace
  noLateCall : NoLateCall s.trace

namespace Dispatch

variable {already : Finset DevicePtr} {s : Dispatch} {device other : DevicePtr}
  {behaviour : DeviceBehaviour} {event : EpollEvent}

theorem use_del (present : device ∈ s.epoller.registered) :
    s.use (.del device) = {
      epoller := (s.epoller.del device).2
      trace := s.trace ++ [.removed device] } := by
  simp [use, DeviceEpoller.del, present]

theorem use_del_of_missing (missing : device ∉ s.epoller.registered) :
    s.use (.del device) = s := by
  simp [use, DeviceEpoller.del, missing]

theorem use_add_removed (granted : Bool) :
    (s.use (.add device granted)).epoller.removedIODevices = s.epoller.removedIODevices := by
  simp only [use, DeviceEpoller.add]
  split
  next => rfl
  next => rfl

theorem Tracked.use (tracked : s.Tracked already) (used : EpollerUse) :
    (s.use used).Tracked already := by
  cases used with
  | add device granted =>
      constructor
      case removed =>
          rw [use_add_removed]
          exact tracked.removed
      case noLateCall => exact tracked.noLateCall
  | del device =>
      by_cases present : device ∈ s.epoller.registered
      · rw [use_del present]
        constructor
        case removed =>
            intro other
            simp only [DeviceEpoller.del, present, if_true, Finset.mem_insert, tracked.removed,
              List.mem_append, List.mem_singleton, DispatchEntry.removed.injEq]
            tauto
        case noLateCall =>
            apply List.pairwise_append.mpr ⟨tracked.noLateCall, List.pairwise_singleton _ _, _⟩
            intro earlier _ later member device' callback _
            rw [List.mem_singleton.mp member]
            nofun
      · rw [use_del_of_missing present]
        exact tracked

theorem Tracked.invoke (tracked : s.Tracked already)
    (alive : s.epoller.checkIODeviceExist device = true) (callback : DeviceCallback) :
    (s.invoke behaviour device callback).Tracked already := by
  have apart : .removed device ∉ s.trace := by
    intro removed
    have dead := (tracked.removed device).mpr (.inr removed)
    simp [DeviceEpoller.checkIODeviceExist, dead] at alive
  have called : Tracked already { s with trace := s.trace ++ [.called device callback] } := by
    constructor
    case removed => simpa using tracked.removed
    case noLateCall =>
        apply List.pairwise_append.mpr ⟨tracked.noLateCall, List.pairwise_singleton _ _, _⟩
        rintro earlier before later member device' callback' rfl
        rw [List.mem_singleton.mp member]
        rintro ⟨⟩
        exact apart before
  exact List.foldlRecOn _ _ called fun _ kept used _ => kept.use used

theorem Tracked.answer (tracked : s.Tracked already) (callbacks : List DeviceCallback) :
    (s.answer behaviour event callbacks).Tracked already := by
  induction callbacks generalizing s with
  | nil => exact tracked
  | cons callback rest ih =>
      rw [Dispatch.answer]
      split
      next =>
          split
          next => exact tracked
          next alive => exact ih (tracked.invoke (by simpa using alive) callback)
      next => exact ih tracked

theorem Tracked.handleEvent (tracked : s.Tracked already) (event : EpollEvent) :
    (s.handleEvent behaviour event).Tracked already :=
  tracked.answer [.write, .read, .error]

theorem Tracked.batch (tracked : s.Tracked already) (batch : List EpollEvent) :
    (batch.foldl (Dispatch.handleEvent behaviour) s).Tracked already :=
  List.foldlRecOn batch _ tracked fun _ kept event _ => kept.handleEvent event

theorem callsOf_append (device : DevicePtr) (first second : List DispatchEntry) :
    callsOf device (first ++ second) = callsOf device first ++ callsOf device second :=
  List.filterMap_append

theorem callsOf_use (used : EpollerUse) : callsOf other (s.use used).trace = callsOf other s.trace := by
  cases used with
  | add device granted => rfl
  | del device =>
      by_cases present : device ∈ s.epoller.registered
      · rw [use_del present, callsOf_append]
        exact List.append_nil _
      · rw [use_del_of_missing present]

theorem callsOf_invoke (callback : DeviceCallback) :
    callsOf other (s.invoke behaviour device callback).trace =
      callsOf other s.trace ++ if device = other then [callback] else [] := by
  have called : callsOf other (s.trace ++ [.called device callback]) =
      callsOf other s.trace ++ if device = other then [callback] else [] := by
    rw [callsOf_append]
    congr 1
    by_cases same : device = other
    · simp [callsOf, same]
    · simp [callsOf, same]
  rw [← called]
  exact List.foldlRecOn (motive := fun s' : Dispatch => callsOf other s'.trace = _) _ _ rfl
    fun _ kept used _ => (callsOf_use used).trans kept

theorem trace_use (used : EpollerUse) : s.trace <+: (s.use used).trace := by
  cases used with
  | add device granted => exact List.prefix_rfl
  | del device =>
      by_cases present : device ∈ s.epoller.registered
      · rw [use_del present]
        exact List.prefix_append _ _
      · rw [use_del_of_missing present]

theorem trace_invoke (callback : DeviceCallback) :
    s.trace <+: (s.invoke behaviour device callback).trace :=
  List.foldlRecOn (motive := fun s' : Dispatch => s.trace <+: s'.trace) _ _ (List.prefix_append _ _)
    fun _ kept used _ => kept.trans (trace_use used)

theorem trace_answer (callbacks : List DeviceCallback) :
    s.trace <+: (s.answer behaviour event callbacks).trace := by
  induction callbacks generalizing s with
  | nil => exact List.prefix_rfl
  | cons callback rest ih =>
      rw [answer]
      split
      next =>
          split
          next => exact List.prefix_rfl
          next => exact (trace_invoke callback).trans ih
      next => exact ih

theorem trace_batch (batch : List EpollEvent) :
    s.trace <+: (batch.foldl (handleEvent behaviour) s).trace :=
  List.foldlRecOn (motive := fun s' : Dispatch => s.trace <+: s'.trace) batch _ List.prefix_rfl
    fun _ kept _ _ => kept.trans (trace_answer _)

theorem callsOf_answer_other (apart : event.device ≠ other) (callbacks : List DeviceCallback) :
    callsOf other (s.answer behaviour event callbacks).trace = callsOf other s.trace := by
  induction callbacks generalizing s with
  | nil => rfl
  | cons callback rest ih =>
      rw [answer]
      split
      next =>
          split
          next => rfl
          next => rw [ih, callsOf_invoke, if_neg apart, List.append_nil]
      next => exact ih

theorem answer_of_dead (dead : s.epoller.checkIODeviceExist event.device = false)
    (callbacks : List DeviceCallback) : s.answer behaviour event callbacks = s := by
  induction callbacks with
  | nil => rfl
  | cons callback rest ih =>
      rw [answer, if_pos dead, ih, ite_self]

theorem callsOf_answer (tracked : s.Tracked already) (fresh : event.device ∉ already)
    (callbacks : List DeviceCallback)
    (stays : .removed event.device ∉ (s.answer behaviour event callbacks).trace) :
    callsOf event.device (s.answer behaviour event callbacks).trace =
      callsOf event.device s.trace ++ callbacks.filter event.asks := by
  induction callbacks generalizing s with
  | nil => exact (List.append_nil _).symm
  | cons callback rest ih =>
      have here : .removed event.device ∉ s.trace :=
        fun removed => stays ((trace_answer _).subset removed)
      have alive : s.epoller.checkIODeviceExist event.device = true := by
        simp [DeviceEpoller.checkIODeviceExist, tracked.removed, fresh, here]
      rw [answer] at stays ⊢
      by_cases asks : event.asks callback = true
      · simp only [asks, if_true, alive, Bool.true_eq_false, if_false] at stays ⊢
        rw [ih (tracked.invoke alive callback) stays, callsOf_invoke, if_pos rfl,
          List.filter_cons_of_pos asks, List.append_assoc]
        rfl
      · simp only [asks, Bool.false_eq_true, if_false] at stays ⊢
        rw [ih tracked stays, List.filter_cons_of_neg asks]

theorem callsOf_batch_other {batch : List EpollEvent}
    (apart : ∀ event ∈ batch, event.device ≠ other) :
    callsOf other (batch.foldl (handleEvent behaviour) s).trace = callsOf other s.trace :=
  List.foldlRecOn (motive := fun s' : Dispatch => callsOf other s'.trace = callsOf other s.trace) batch _ rfl
    fun _ kept event member => (callsOf_answer_other (apart event member) _).trans kept

theorem callsOf_batch {batch : List EpollEvent} (tracked : s.Tracked already)
    (distinct : (batch.map EpollEvent.device).Nodup) (member : event ∈ batch)
    (fresh : event.device ∉ already)
    (stays : .removed event.device ∉ (batch.foldl (handleEvent behaviour) s).trace) :
    callsOf event.device (batch.foldl (handleEvent behaviour) s).trace =
      callsOf event.device s.trace ++ event.asked := by
  induction batch generalizing s with
  | nil => cases member
  | cons head rest ih =>
      simp only [List.map_cons, List.nodup_cons, List.mem_map, not_exists, not_and] at distinct
      obtain ⟨apart, distinct⟩ := distinct
      rw [List.foldl_cons] at stays ⊢
      rcases List.mem_cons.mp member with rfl | member
      · rw [callsOf_batch_other apart]
        apply callsOf_answer tracked fresh
        exact fun removed => stays ((trace_batch rest).subset removed)
      · rw [ih (tracked.handleEvent head) distinct member stays]
        congr 1
        apply callsOf_answer_other
        exact fun same => apart event member same.symm

theorem callsOf_batch_dead {batch : List EpollEvent} (tracked : s.Tracked already)
    (dead : device ∈ already) :
    callsOf device (batch.foldl (handleEvent behaviour) s).trace = callsOf device s.trace := by
  induction batch generalizing s with
  | nil => rfl
  | cons head rest ih =>
      rw [List.foldl_cons, ih (tracked.handleEvent head)]
      by_cases same : head.device = device
      · rw [handleEvent, answer_of_dead]
        simp [DeviceEpoller.checkIODeviceExist, same, tracked.removed, dead]
      · exact callsOf_answer_other same _

theorem removed_batch_idle {batch : List EpollEvent} (kept : .removed device ∉ s.trace) :
    .removed device ∉ (batch.foldl (handleEvent fun _ => []) s).trace := by
  have answered (callbacks : List DeviceCallback) (s : Dispatch) (event : EpollEvent)
      (kept : .removed device ∉ s.trace) :
      .removed device ∉ (s.answer (fun _ => []) event callbacks).trace := by
    induction callbacks generalizing s with
    | nil => exact kept
    | cons callback rest ih =>
        rw [answer]
        split
        next =>
            split
            next => exact kept
            next => exact ih _ (by simpa [invoke] using kept)
        next => exact ih s kept
  exact List.foldlRecOn (motive := fun s' : Dispatch => .removed device ∉ s'.trace) batch _ kept
    fun _ kept event _ => answered _ _ event kept

end Dispatch

/-- A batch is delivered whatever its callbacks do exactly when no device that is due a callback
stands at an address that was dead before. -/
theorem doEvent_delivers_iff (epoller : DeviceEpoller) (batch : EpollBatch epoller) :
    (∀ behaviour, Delivered batch.events (epoller.doEvent behaviour (.events batch.events)).2.2) ↔
      ∀ event ∈ batch.events, event.asked ≠ [] → event.device ∉ epoller.removedIODevices := by
  have tracked : Dispatch.Tracked epoller.removedIODevices { epoller := epoller, trace := [] } :=
    ⟨fun device => by simp, List.Pairwise.nil⟩
  constructor
  · intro delivered event member asked dead
    have nothing : DispatchEntry.removed event.device ∉
        (batch.events.foldl (Dispatch.handleEvent fun _ => [])
          { epoller := epoller, trace := [] }).trace :=
      Dispatch.removed_batch_idle List.not_mem_nil
    have calls := (delivered fun _ => []).exact event member nothing
    exact asked (calls.symm.trans (Dispatch.callsOf_batch_dead tracked dead))
  · intro fresh behaviour
    constructor
    case noLateCall => exact (tracked.batch batch.events).noLateCall
    case exact =>
        intro event member stays
        by_cases dead : event.device ∈ epoller.removedIODevices
        · have asked : event.asked = [] := by
            by_contra asked
            exact fresh event member asked dead
          rw [asked]
          exact Dispatch.callsOf_batch_dead tracked dead
        · exact Dispatch.callsOf_batch tracked batch.distinct member dead stays

/-- A device is deleted between two batches, and the next one at its address misses its event. -/
theorem doEvent_skips_new_device :
    let deleted := ((DeviceEpoller.create.add 1 true).2.del 1).2
    let epoller := (deleted.add 1 true).2
    ¬ Delivered [⟨EpollEvent.epollin, 1⟩]
      (epoller.doEvent (fun _ => []) (.events [⟨EpollEvent.epollin, 1⟩])).2.2 := by
  intro deleted epoller delivered
  have calls := delivered.exact ⟨EpollEvent.epollin, 1⟩ List.mem_cons_self (by decide)
  revert calls
  decide

end ZBlueNet
