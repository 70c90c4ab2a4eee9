import ZBlueNet.TimerIndex
import ZBlueNet.Lib.Runs

/-!
The heap order over whole runs. Insertion and `checkTimeout` keep it; a removal keeps
it exactly when the last timer may take the free place, because `minHeapErase` only
sinks it. Whoever reads the top relies on the order.
-/

namespace ZBlueNet

open BinaryHeap Runs TimerHeap

variable {Callback : Type}

def TimerEvent.Normalised : TimerEvent Callback → Prop
  | .addTimer now .. => now.Normalised
  | .checkTimeout now => now.Normalised
  | _ => True

theorem TimerHeap.next_of_ahead {h : TimerHeap Callback} {ptr : TimerPtr} {now : Timestamp}
    (top : h.minHeapTop = some ptr) (normal : now.Normalised)
    (topNormal : (h.valueOf ptr).Normalised) (ahead : (h.valueOf ptr).less now = false) :
    h.getNextTimeoutMillisecond now = (h.valueOf ptr).milliseconds - now.milliseconds := by
  rw [getNextTimeoutMillisecond, top]
  dsimp only
  rw [ahead, if_neg Bool.false_ne_true]
  exact normal.distanceMillisecond_eq topNormal ((Timestamp.less_eq_false_iff _ _).mp ahead)

namespace TimerCalls

structure HeapProperty (calls : TimerCalls Callback) : Prop where
  ordered : ∀ i, 2 ≤ i → i < calls.heap.timerMinHeap.size →
    (calls.heap.valueAt i).less (calls.heap.valueAt (i / 2)) = false
  earliest : ∀ ptr, calls.heap.minHeapTop = some ptr →
    ∃ timer, calls.heap.live ptr = some timer ∧
      ∀ other otherTimer, calls.heap.live other = some otherTimer →
        otherTimer.value.less timer.value = false
  wait : ∀ now : Timestamp, now.Normalised → ∀ ptr timer, calls.heap.live ptr = some timer →
    calls.heap.getNextTimeoutMillisecond now = -1 ∨
      calls.heap.getNextTimeoutMillisecond now ≤ timer.value.milliseconds - now.milliseconds
  answered : ∀ event now next, calls.checkedAt event = some now → calls.step event = some next →
    next.checking = none →
    ∀ ptr timer, next.heap.live ptr = some timer → now.millisecondLess timer.value = true

/-- A live timer is only removed while the last timer of the array may take its place. -/
def RemovalFits (calls : TimerCalls Callback) : TimerEvent Callback → Prop
  | .removeTimer timerId => ∀ ptr timer, calls.heap.timerMap timerId = some ptr →
      calls.heap.timers ptr = some timer → calls.heap.LastFits timer.heapPos.toNat
  | _ => True

structure Sound (calls : TimerCalls Callback) : Prop where
  indexed : Indexed calls.heap
  deadlines : ∀ ptr timer, calls.heap.live ptr = some timer →
    timer.value.Normalised ∧ 0 ≤ timer.timeoutMillisec

theorem start_sound : Sound (start : TimerCalls Callback) :=
  ⟨empty_indexed, by simp [start, live, TimerHeap.empty]⟩

variable {calls next : TimerCalls Callback} {event : TimerEvent Callback}

theorem step_turn {now : Timestamp} (checked : calls.checkedAt event = some now)
    (taken : calls.step event = some next) : next = calls.turn now := by
  cases event with
  | addTimer => simp [checkedAt] at checked
  | removeTimer => simp [checkedAt] at checked
  | checkTimeout argument =>
      simp only [checkedAt, Option.some.injEq] at checked
      simp only [step] at taken
      split at taken
      · rw [checked, Option.some.injEq] at taken
        exact taken.symm
      · simp at taken
  | callbackReturns =>
      simp only [checkedAt] at checked
      simp only [step, checked, Option.some.injEq] at taken
      exact taken.symm

theorem turn_cases (calls : TimerCalls Callback) (now : Timestamp) :
    calls.heap.checkTurn now = none ∧ calls.turn now = { calls with checking := none } ∨
      ∃ firing heap, calls.heap.checkTurn now = some (firing, heap) ∧
        calls.turn now =
          { heap := heap, checking := some now, fired := calls.fired ++ [firing] } := by
  simp only [turn]
  cases turned : calls.heap.checkTurn now with
  | none => exact .inl ⟨rfl, rfl⟩
  | some result => exact .inr ⟨result.1, result.2, rfl, rfl⟩

theorem Sound.turn (sound : Sound calls) (now : Timestamp) : Sound (calls.turn now) := by
  obtain ⟨-, same⟩ | ⟨firing, heap, turned, moved⟩ := turn_cases calls now
  · rw [same]
    exact ⟨sound.indexed, sound.deadlines⟩
  · obtain ⟨ptr, timer, fired⟩ := sound.indexed.checkTurn_some turned
    obtain ⟨normal, positive⟩ := sound.deadlines ptr timer fired.found
    rw [moved]
    refine ⟨fired.indexed, ?_⟩
    intro other otherTimer found
    rcases rearmed_cases fired.live found with ⟨-, -, rfl⟩ | ⟨-, old⟩
    · exact ⟨normal.add positive, positive⟩
    · exact sound.deadlines other otherTimer old

theorem Sound.step (sound : Sound calls) (clock : event.Normalised)
    (taken : calls.step event = some next) : Sound next := by
  cases event with
  | addTimer now timeoutMs timerCb callTimes =>
      simp only [TimerCalls.step, Option.some.injEq] at taken
      rw [← taken]
      refine ⟨(sound.indexed.addTimer now timeoutMs timerCb callTimes).1, ?_⟩
      intro ptr timer found
      rcases sound.indexed.addTimer_live found with ⟨-, rfl⟩ | old
      · have positive : 0 ≤ max 0 timeoutMs := le_max_left _ _
        exact ⟨Timestamp.Normalised.add clock positive, positive⟩
      · exact sound.deadlines ptr timer old
  | removeTimer timerId =>
      simp only [TimerCalls.step, Option.some.injEq] at taken
      rw [← taken]
      refine ⟨(sound.indexed.removeTimer timerId).1, ?_⟩
      intro ptr timer found
      exact sound.deadlines ptr timer (sound.indexed.removeTimer_live found).1
  | checkTimeout now =>
      rw [step_turn rfl taken]
      exact sound.turn now
  | callbackReturns =>
      cases checking : calls.checking with
      | none => simp [TimerCalls.step, checking] at taken
      | some now =>
          rw [step_turn (show calls.checkedAt .callbackReturns = some now from checking) taken]
          exact sound.turn now

theorem Sound.turn_inOrder (sound : Sound calls) (now : Timestamp) (ordered : InOrder calls.heap) :
    InOrder (calls.turn now).heap := by
  obtain ⟨-, same⟩ | ⟨firing, heap, turned, moved⟩ := turn_cases calls now
  · rw [same]
    exact ordered
  · obtain ⟨ptr, timer, fired⟩ := sound.indexed.checkTurn_some turned
    rw [moved]
    exact fired.inOrder ordered

theorem Sound.step_inOrder (sound : Sound calls) (ordered : InOrder calls.heap)
    (taken : calls.step event = some next) : InOrder next.heap ↔ RemovalFits calls event := by
  cases event with
  | addTimer now timeoutMs timerCb callTimes =>
      simp only [TimerCalls.step, Option.some.injEq] at taken
      rw [← taken]
      exact iff_of_true ((sound.indexed.addTimer now timeoutMs timerCb callTimes).2.1 ordered)
        trivial
  | removeTimer timerId =>
      simp only [TimerCalls.step, Option.some.injEq] at taken
      obtain ⟨-, absent, present⟩ := sound.indexed.removeTimer timerId
      rw [← taken]
      cases known : calls.heap.timerMap timerId with
      | none =>
          rw [absent known]
          exact iff_of_true ordered (by simp [RemovalFits, known])
      | some ptr =>
          obtain ⟨timer, held, -, keeps⟩ := present ptr known
          rw [keeps ordered]
          refine ⟨?_, fun fits => fits ptr timer known held⟩
          intro fits other otherTimer otherKnown otherHeld
          rw [known, Option.some.injEq] at otherKnown
          rw [← otherKnown, held, Option.some.injEq] at otherHeld
          exact otherHeld ▸ fits
  | checkTimeout now =>
      rw [step_turn rfl taken]
      exact iff_of_true (sound.turn_inOrder now ordered) trivial
  | callbackReturns =>
      cases checking : calls.checking with
      | none => simp [TimerCalls.step, checking] at taken
      | some now =>
          rw [step_turn (show calls.checkedAt .callbackReturns = some now from checking) taken]
          exact iff_of_true (sound.turn_inOrder now ordered) trivial

theorem Sound.wait (sound : Sound calls) (ordered : InOrder calls.heap) {now : Timestamp}
    (normal : now.Normalised) {ptr : TimerPtr} {timer : Timer Callback}
    (found : calls.heap.live ptr = some timer) :
    calls.heap.getNextTimeoutMillisecond now = -1 ∨
      calls.heap.getNextTimeoutMillisecond now ≤ timer.value.milliseconds - now.milliseconds := by
  cases top : calls.heap.minHeapTop with
  | none =>
      left
      rw [getNextTimeoutMillisecond, top]
  | some first =>
      obtain ⟨topTimer, topFound, -, -, least⟩ := sound.indexed.minHeapTop_spec top
      have value : calls.heap.valueOf first = topTimer.value := by simp [valueOf_eq_live, topFound]
      have topNormal := (sound.deadlines first topTimer topFound).1
      have later := topNormal.milliseconds_mono (sound.deadlines ptr timer found).1
        (least ordered ptr timer found)
      cases ahead : (calls.heap.valueOf first).less now with
      | true =>
          left
          rw [getNextTimeoutMillisecond, top]
          exact if_pos ahead
      | false =>
          right
          rw [next_of_ahead top normal (value ▸ topNormal) ahead, value]
          omega

theorem Sound.heapProperty_iff (sound : Sound calls) :
    HeapProperty calls ↔ InOrder calls.heap := by
  constructor
  · intro property i lower upper
    have inOrder := property.ordered i lower upper
    rw [Timestamp.less_eq_false_iff] at inOrder
    exact inOrder
  · intro ordered
    refine ⟨?_, ?_, fun now normal ptr timer found => sound.wait ordered normal found, ?_⟩
    · intro i lower upper
      rw [Timestamp.less_eq_false_iff]
      exact ordered i lower upper
    · intro ptr top
      obtain ⟨timer, found, -, -, least⟩ := sound.indexed.minHeapTop_spec top
      refine ⟨timer, found, ?_⟩
      intro other otherTimer otherFound
      rw [Timestamp.less_eq_false_iff]
      exact least ordered other otherTimer otherFound
    · intro event now next checked taken returned ptr timer found
      rw [step_turn checked taken] at returned found
      obtain ⟨turned, same⟩ | ⟨firing, heap, -, moved⟩ := turn_cases calls now
      · rw [same] at found
        exact sound.indexed.checkTurn_none ordered turned found
      · simp [moved] at returned

/-- Along a run the heap property holds in every state exactly when every removal of a live timer
is of one whose place the last timer may take. -/
theorem heapProperty_every (events : List (TimerEvent Callback))
    (clocks : ∀ event ∈ events, event.Normalised) :
    Every TimerCalls.step HeapProperty start events ↔
      Along TimerCalls.step RemovalFits start events := by
  refine every_iff_along (fun sound clock taken => sound.step clock taken)
    (fun {calls event next} sound clock property taken => ?_) (fun {calls event} blocked => ?_)
    start_sound ?_ (Along.of_forall clocks start)
  · rw [(sound.step clock taken).heapProperty_iff]
    exact sound.step_inOrder (sound.heapProperty_iff.mp property) taken
  · cases event <;> simp [TimerCalls.step, RemovalFits] at blocked ⊢
  · exact start_sound.heapProperty_iff.mpr empty_inOrder

def leafRemoval : List (TimerEvent Unit) :=
  [3, 2, 4].map (fun timeoutMs => .addTimer ⟨0, 0⟩ timeoutMs () 1) ++ [.removeTimer 3]

theorem heapProperty_every_leafRemoval :
    Every TimerCalls.step HeapProperty start leafRemoval ↔
      Along TimerCalls.step RemovalFits start leafRemoval :=
  heapProperty_every leafRemoval (by
    simp only [leafRemoval, List.mem_append, List.mem_map, List.mem_singleton]
    rintro event (⟨timeoutMs, -, rfl⟩ | rfl)
    · exact ⟨by decide, by decide⟩
    · trivial)

/-- Seven timers with deadlines 1, 10, 2, 11, 12, 3 and 4 ms; the fourth is removed. -/
def misplacedRemoval : List (TimerEvent Unit) :=
  [1, 10, 2, 11, 12, 3, 4].map (fun timeoutMs => .addTimer ⟨0, 0⟩ timeoutMs () 1) ++
    [.removeTimer 4]

theorem misplacedRemoval_breaks :
    ¬Every TimerCalls.step HeapProperty (start : TimerCalls Unit) misplacedRemoval := by
  intro every
  have broken : (run TimerCalls.step start misplacedRemoval).map (fun calls =>
      (calls.heap.timerMinHeap.size, (calls.heap.valueAt 4).less (calls.heap.valueAt 2))) =
        some (7, true) := by decide
  obtain ⟨finish, reached, values⟩ := Option.map_eq_some_iff.mp broken
  simp only [Prod.mk.injEq] at values
  have inOrder := (every.finish reached).ordered 4 (by omega) (by omega)
  rw [values.2] at inOrder
  contradiction

end TimerCalls

end ZBlueNet
