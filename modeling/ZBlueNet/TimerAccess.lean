import ZBlueNet.TimerIndex
import ZBlueNet.Lib.Runs

/-!
The index integrity over whole runs, whatever the callbacks do. The heap functions
are written once more with accesses that can fail: outside the array, or at a pointer
that holds no timer. No call ever fails.
-/

namespace ZBlueNet

open Runs

variable {Callback : Type}

namespace TimerHeap

def slotChecked (h : TimerHeap Callback) (index : Nat) : Option TimerPtr := h.timerMinHeap[index]?

def valueChecked (h : TimerHeap Callback) (index : Nat) : Option Timestamp := do
  let ptr ← h.slotChecked index
  let timer ← h.timers ptr
  return timer.value

def setSlotChecked (h : TimerHeap Callback) (index : Nat) (ptr : TimerPtr) :
    Option (TimerHeap Callback) :=
  if index < h.timerMinHeap.size then some (h.setSlot index ptr) else none

def setHeapPosChecked (h : TimerHeap Callback) (ptr : TimerPtr) (heapPos : Int) :
    Option (TimerHeap Callback) :=
  match h.timers ptr with
  | none => none
  | some _ => some (h.setHeapPos ptr heapPos)

def swapSlotsChecked (h : TimerHeap Callback) (upper lower : Nat) :
    Option (TimerHeap Callback) := do
  let first ← h.slotChecked upper
  let moved ← h.setHeapPosChecked first lower
  let second ← moved.slotChecked lower
  let marked ← moved.setHeapPosChecked second upper
  let replaced ← marked.setSlotChecked upper second
  replaced.setSlotChecked lower first

-- a loop that needs more turns than its fuel fails, too
def siftUpChecked : Nat → TimerHeap Callback → Nat → Option (TimerHeap Callback)
  | 0, _, _ => none
  | fuel + 1, h, curIndex =>
      let parentIndex := curIndex / 2
      if parentIndex = 0 then some h
      else do
        let parentValue ← h.valueChecked parentIndex
        let value ← h.valueChecked curIndex
        if parentValue.less value then some h
        else do
          let swapped ← h.swapSlotsChecked parentIndex curIndex
          siftUpChecked fuel swapped parentIndex

def lesserChildChecked (h : TimerHeap Callback) (curIndex : Nat) : Option Nat :=
  let childIndex := curIndex * 2
  if childIndex + 1 < h.timerMinHeap.size then do
    let second ← h.valueChecked (childIndex + 1)
    let first ← h.valueChecked childIndex
    return if second.less first then childIndex + 1 else childIndex
  else some childIndex

def siftDownChecked : Nat → TimerHeap Callback → Nat → Option (TimerHeap Callback)
  | 0, _, _ => none
  | fuel + 1, h, curIndex =>
      if curIndex * 2 ≥ h.timerMinHeap.size then some h
      else do
        let childIndex ← h.lesserChildChecked curIndex
        let value ← h.valueChecked curIndex
        let childValue ← h.valueChecked childIndex
        if value.less childValue then some h
        else do
          let swapped ← h.swapSlotsChecked curIndex childIndex
          siftDownChecked fuel swapped childIndex

def minHeapInsertChecked (h : TimerHeap Callback) (ptr : TimerPtr) :
    Option (TimerHeap Callback) := do
  let curIndex := h.timerMinHeap.size
  let pushed := { h with timerMinHeap := h.timerMinHeap.push ptr }
  let marked ← pushed.setHeapPosChecked ptr curIndex
  siftUpChecked curIndex marked curIndex

def minHeapEraseChecked (h : TimerHeap Callback) (ptr : TimerPtr) :
    Option (TimerHeap Callback) := do
  let timer ← h.timers ptr
  if timer.heapPos < 0 then some h
  else do
    let curIndex := timer.heapPos.toNat
    let unplaced ← h.setHeapPosChecked ptr (-1)
    let last ← unplaced.slotChecked (unplaced.timerMinHeap.size - 1)
    let replaced ← unplaced.setSlotChecked curIndex last
    let moved ← replaced.slotChecked curIndex
    let marked ← replaced.setHeapPosChecked moved curIndex
    siftDownChecked h.timerMinHeap.size { marked with timerMinHeap := marked.timerMinHeap.pop }
      curIndex

def addTimerChecked (h : TimerHeap Callback) (now : Timestamp) (timeoutMs : Int)
    (timerCb : Callback) (callTimes : Int) : Option (TimerId × TimerHeap Callback) :=
  let timerId := nextTimerId h.timerId
  let timeout := max 0 timeoutMs
  match h.timerMap timerId with
  | some _ => some (-1, { h with timerId := timerId })
  | none =>
      let ptr := h.nextPtr
      let timer := Timer.create timerId (now.add timeout) timeout timerCb callTimes
      let stored :=
        { h with
          timerId := timerId
          nextPtr := ptr + 1
          timerMap := fun other => if other = timerId then some ptr else h.timerMap other
          timers := fun other => if other = ptr then some timer else h.timers other }
      (stored.minHeapInsertChecked ptr).map fun inserted => (timerId, inserted)

def removeTimerChecked (h : TimerHeap Callback) (timerId : TimerId) :
    Option (TimerHeap Callback) :=
  match h.timerMap timerId with
  | none => some h
  | some ptr => (h.minHeapEraseChecked ptr).map fun erased => erased.deleteTimer timerId ptr

/-- The outer `none` is an access that fails, the inner one the return of `checkTimeout`. -/
def checkTurnChecked (h : TimerHeap Callback) (now : Timestamp) :
    Option (Option (Firing Callback × TimerHeap Callback)) :=
  match h.minHeapTop with
  | none => some none
  | some ptr => do
      let timer ← h.timers ptr
      if now.millisecondLess timer.value then some none
      else do
        let erased ← h.minHeapEraseChecked ptr
        let next ←
          if timer.callTimes = 1 then some (erased.deleteTimer timer.timerId ptr)
          else (erased.modify ptr Timer.rearm).minHeapInsertChecked ptr
        return some (⟨timer.timerId, timer.timerCb, timer.value⟩, next)

section Checked

variable {h : TimerHeap Callback} {ptr : TimerPtr} {index pos : Nat}

theorem slotChecked_eq (bound : index < h.timerMinHeap.size) :
    h.slotChecked index = some (h.slot index) := by
  simp [slotChecked, slot, bound]

theorem Placed.valueChecked_eq (placed : Placed h) (lower : 1 ≤ index)
    (bound : index < h.timerMinHeap.size) : h.valueChecked index = some (h.valueAt index) := by
  obtain ⟨timer, found, -⟩ := placed.held index lower bound
  simp [valueChecked, slotChecked_eq bound, found, valueAt, valueOf]

theorem setSlotChecked_eq (bound : index < h.timerMinHeap.size) :
    h.setSlotChecked index ptr = some (h.setSlot index ptr) :=
  if_pos bound

theorem setHeapPosChecked_eq (known : (h.live ptr).isSome) (heapPos : Int) :
    h.setHeapPosChecked ptr heapPos = some (h.setHeapPos ptr heapPos) := by
  simp only [live, Option.isSome_map] at known
  obtain ⟨timer, found⟩ := Option.isSome_iff_exists.mp known
  simp [setHeapPosChecked, found]

theorem Placed.live_isSome (placed : Placed h) (lower : 1 ≤ index)
    (bound : index < h.timerMinHeap.size) : (h.live (h.slot index)).isSome := by
  obtain ⟨timer, found, -⟩ := placed.held index lower bound
  simp [live, found]

theorem Placed.swapSlotsChecked_eq (placed : Placed h) {upper lower : Nat}
    (upperBounds : 1 ≤ upper ∧ upper < h.timerMinHeap.size)
    (lowerBounds : 1 ≤ lower ∧ lower < h.timerMinHeap.size) :
    h.swapSlotsChecked upper lower = some (h.swapSlots upper lower) := by
  have first := placed.live_isSome upperBounds.1 upperBounds.2
  have second : ((h.setHeapPos (h.slot upper) lower).live (h.slot lower)).isSome := by
    rw [setHeapPos_live]
    exact placed.live_isSome lowerBounds.1 lowerBounds.2
  have read : (h.setHeapPos (h.slot upper) lower).slotChecked lower = some (h.slot lower) :=
    slotChecked_eq lowerBounds.2
  simp only [swapSlotsChecked, Option.bind_eq_bind]
  rw [slotChecked_eq upperBounds.2, Option.bind_some, setHeapPosChecked_eq first, Option.bind_some,
    read, Option.bind_some, setHeapPosChecked_eq second, Option.bind_some,
    setSlotChecked_eq (by exact upperBounds.2), Option.bind_some,
    setSlotChecked_eq (by rw [setSlot_size]; exact lowerBounds.2)]
  rfl

theorem Placed.siftUpChecked_eq (placed : Placed h) (fuel : Nat) (positive : 1 ≤ pos)
    (enough : pos ≤ fuel) (bound : pos < h.timerMinHeap.size) :
    siftUpChecked fuel h pos = some (TimerHeap.siftUp fuel h pos) := by
  induction fuel generalizing h pos with
  | zero => omega
  | succ fuel ih =>
      simp only [siftUpChecked, TimerHeap.siftUp]
      split
      · rfl
      · rw [placed.valueChecked_eq (by omega) (by omega), placed.valueChecked_eq positive bound]
        simp only [Option.bind_eq_bind, Option.bind_some]
        split
        · rfl
        · have swapped := placed.swapSlots_sifted (pos / 2) pos (by omega) (by omega) (by omega)
          rw [placed.swapSlotsChecked_eq (by omega) (by omega), Option.bind_some]
          exact ih swapped.placed (by omega) (by omega) (by rw [swapped.size]; omega)

theorem Placed.lesserChildChecked_eq (placed : Placed h) (positive : 1 ≤ pos)
    (room : pos * 2 < h.timerMinHeap.size) :
    h.lesserChildChecked pos = some (h.lesserChild pos) := by
  simp only [lesserChildChecked, lesserChild]
  split
  · rename_i second
    rw [placed.valueChecked_eq (by omega) second, placed.valueChecked_eq (by omega) room]
    simp [second]
  · rename_i single
    rw [if_neg fun both => single both.1]

theorem Placed.siftDownChecked_eq (placed : Placed h) (fuel : Nat) (positive : 1 ≤ pos)
    (enough : h.timerMinHeap.size < fuel + pos) (started : 1 ≤ fuel) :
    siftDownChecked fuel h pos = some (TimerHeap.siftDown fuel h pos) := by
  induction fuel generalizing h pos with
  | zero => omega
  | succ fuel ih =>
      simp only [siftDownChecked, TimerHeap.siftDown]
      split
      · rfl
      · rename_i room
        have child := lesserChild_cases h pos (by omega)
        rw [placed.lesserChildChecked_eq positive (by omega)]
        simp only [Option.bind_eq_bind, Option.bind_some]
        rw [placed.valueChecked_eq positive (by omega), placed.valueChecked_eq (by omega) child.1]
        simp only [Option.bind_some]
        split
        · rfl
        · have swapped := placed.swapSlots_sifted pos (h.lesserChild pos) (by omega) (by omega)
            (by omega)
          rw [placed.swapSlotsChecked_eq (by omega) (by omega), Option.bind_some]
          exact ih swapped.placed (by omega) (by rw [swapped.size]; omega) (by omega)

theorem Placed.minHeapInsertChecked_eq (placed : Placed h) {timer : Timer Callback}
    (found : h.timers ptr = some timer) (unplaced : ¬h.Stored ptr) :
    h.minHeapInsertChecked ptr = some (h.minHeapInsert ptr) := by
  have dummy := placed.dummy
  have size := push_size h ptr
  have known : (TimerHeap.live { h with timerMinHeap := h.timerMinHeap.push ptr } ptr).isSome := by
    simp [live, found]
  rw [minHeapInsertChecked, setHeapPosChecked_eq known]
  exact (placed.push found unplaced).siftUpChecked_eq h.timerMinHeap.size dummy le_rfl (by omega)

theorem Placed.minHeapEraseChecked_eq (placed : Placed h) (stored : h.Stored ptr) :
    h.minHeapEraseChecked ptr = some (h.minHeapErase ptr) := by
  obtain ⟨pos, lower, bound, here⟩ := stored
  obtain ⟨timer, found, position⟩ := placed.held pos lower bound
  have last : ((h.setHeapPos ptr (-1)).live (h.slot (h.timerMinHeap.size - 1))).isSome := by
    rw [setHeapPos_live]
    exact placed.live_isSome (by omega) (by omega)
  have removed := placed.replaceByLast lower bound here
  have size := removed.size
  have sunk := removed.placed.siftDownChecked_eq h.timerMinHeap.size lower (by omega) (by omega)
  rw [here] at found
  have index : timer.heapPos.toNat = pos := by omega
  have read : (h.setHeapPos ptr (-1)).slotChecked ((h.setHeapPos ptr (-1)).timerMinHeap.size - 1) =
      some (h.slot (h.timerMinHeap.size - 1)) :=
    slotChecked_eq (by simp only [setHeapPos, modify]; omega)
  have replaced : ((h.setHeapPos ptr (-1)).setSlot pos (h.slot (h.timerMinHeap.size - 1))).slotChecked
      pos = some (h.slot (h.timerMinHeap.size - 1)) := by
    rw [slotChecked_eq (by rw [setSlot_size]; exact bound),
      slot_setSlot (h.setHeapPos ptr (-1)) _ _ _ bound, if_pos rfl]
  rw [placed.minHeapErase_eq lower bound here, ← sunk, minHeapEraseChecked, found,
    Option.bind_eq_bind, Option.bind_some, if_neg (by omega), index,
    setHeapPosChecked_eq (by simp [live, found])]
  simp only [Option.bind_eq_bind, Option.bind_some]
  rw [read, Option.bind_some, setSlotChecked_eq (by exact bound), Option.bind_some, replaced,
    Option.bind_some, setHeapPosChecked_eq (by exact last), Option.bind_some]
  rfl

end Checked

section Operations

variable {h : TimerHeap Callback}

theorem Indexed.addTimerChecked_eq (indexed : Indexed h) (now : Timestamp) (timeoutMs : Int)
    (timerCb : Callback) (callTimes : Int) :
    h.addTimerChecked now timeoutMs timerCb callTimes =
      some (h.addTimer now timeoutMs timerCb callTimes) := by
  cases taken : h.timerMap (nextTimerId h.timerId) with
  | some other => simp only [addTimerChecked, TimerHeap.addTimer, taken]
  | none =>
      simp only [addTimerChecked, TimerHeap.addTimer, taken]
      have missing := indexed.fresh h.nextPtr le_rfl
      have unplaced : ¬h.Stored h.nextPtr := by simp [indexed.owned, missing]
      have stow : Stowed h h.nextPtr (Timer.create (nextTimerId h.timerId)
          (now.add (max 0 timeoutMs)) (max 0 timeoutMs) timerCb callTimes)
          { h with
            timerId := nextTimerId h.timerId
            nextPtr := h.nextPtr + 1
            timerMap := fun other =>
              if other = nextTimerId h.timerId then some h.nextPtr else h.timerMap other
            timers := fun other => if other = h.nextPtr then some (Timer.create
              (nextTimerId h.timerId) (now.add (max 0 timeoutMs)) (max 0 timeoutMs) timerCb
              callTimes) else h.timers other } :=
        ⟨rfl, if_pos rfl, fun other different => if_neg different⟩
      rw [(indexed.placed.stow unplaced stow).minHeapInsertChecked_eq stow.here
        (by rwa [stow.stored])]
      rfl

theorem Indexed.removeTimerChecked_eq (indexed : Indexed h) (timerId : TimerId) :
    h.removeTimerChecked timerId = some (h.removeTimer timerId) := by
  cases known : h.timerMap timerId with
  | none => simp only [removeTimerChecked, TimerHeap.removeTimer, known]
  | some ptr =>
      simp only [removeTimerChecked, TimerHeap.removeTimer, known]
      obtain ⟨timer, found, -⟩ := (indexed.mapped timerId ptr).mp known
      rw [indexed.placed.minHeapEraseChecked_eq ((indexed.owned ptr).mpr (by simp [found]))]
      rfl

theorem Indexed.checkTurnChecked_eq (indexed : Indexed h) (now : Timestamp) :
    h.checkTurnChecked now = some (h.checkTurn now) := by
  simp only [checkTurnChecked, checkTurn]
  cases top : h.minHeapTop with
  | none => rfl
  | some ptr =>
      obtain ⟨timer, found, here, large, -⟩ := indexed.minHeapTop_spec top
      obtain ⟨memory, held, rfl⟩ := live_some found
      have stored : h.Stored ptr := ⟨1, le_rfl, large, here⟩
      have removed := indexed.placed.minHeapErase stored
      simp only [held, Option.bind_eq_bind, Option.bind_some]
      split
      · rfl
      · rw [indexed.placed.minHeapEraseChecked_eq stored, Option.bind_some]
        split
        · rfl
        · have kept : (h.minHeapErase ptr).live ptr = some memory.unplaced := by
            rw [removed.same.live, found]
          obtain ⟨erased, erasedHeld, -⟩ := live_some kept
          have unplaced : ¬(h.minHeapErase ptr).Stored ptr := fun again =>
            ((removed.stored ptr).mp again).2 rfl
          have stow : Stowed (h.minHeapErase ptr) ptr erased.rearm
              ((h.minHeapErase ptr).modify ptr Timer.rearm) :=
            ⟨rfl, by simp [modify, erasedHeld], fun other different => by simp [modify, different]⟩
          rw [(removed.placed.stow unplaced stow).minHeapInsertChecked_eq stow.here
            (by rwa [stow.stored]), Option.bind_some]
          rfl

end Operations

end TimerHeap

namespace TimerCalls

open TimerHeap

def turnChecked (calls : TimerCalls Callback) (now : Timestamp) : Option (TimerCalls Callback) :=
  match calls.heap.checkTurnChecked now with
  | none => none
  | some none => some { calls with checking := none }
  | some (some (firing, heap)) =>
      some { heap := heap, checking := some now, fired := calls.fired ++ [firing] }

/-- As in `step`, the inner `none` is an event that is not possible. -/
def stepChecked (calls : TimerCalls Callback) :
    TimerEvent Callback → Option (Option (TimerCalls Callback))
  | .addTimer now timeoutMs timerCb callTimes =>
      (calls.heap.addTimerChecked now timeoutMs timerCb callTimes).map fun added =>
        some { calls with heap := added.2 }
  | .removeTimer timerId =>
      (calls.heap.removeTimerChecked timerId).map fun heap => some { calls with heap := heap }
  | .checkTimeout now =>
      match calls.checking with
      | none => (calls.turnChecked now).map some
      | some _ => some none
  | .callbackReturns =>
      match calls.checking with
      | none => some none
      | some now => (calls.turnChecked now).map some

/-- The map, the array and the positions agree, and whatever is called next stays inside. -/
structure IndexIntegrity (calls : TimerCalls Callback) : Prop where
  positions : ∀ i, 1 ≤ i → i < calls.heap.timerMinHeap.size →
    ∃ timer, calls.heap.timers (calls.heap.slot i) = some timer ∧ timer.heapPos = i
  mapped : ∀ timerId ptr, calls.heap.timerMap timerId = some ptr →
    ∃ timer, calls.heap.timers ptr = some timer ∧ timer.timerId = timerId
  same : ∀ ptr, (∃ timerId, calls.heap.timerMap timerId = some ptr) ↔
    ∃ i, 1 ≤ i ∧ i < calls.heap.timerMinHeap.size ∧ calls.heap.slot i = ptr
  once : ∀ i j, 1 ≤ i → i < calls.heap.timerMinHeap.size → 1 ≤ j →
    j < calls.heap.timerMinHeap.size → calls.heap.slot i = calls.heap.slot j → i = j
  accesses : ∀ event, calls.stepChecked event = some (calls.step event)

variable {calls next : TimerCalls Callback} {event : TimerEvent Callback}

theorem turnChecked_eq (indexed : Indexed calls.heap) (now : Timestamp) :
    calls.turnChecked now = some (calls.turn now) := by
  simp only [turnChecked, turn, indexed.checkTurnChecked_eq now]
  cases calls.heap.checkTurn now <;> rfl

theorem stepChecked_eq (indexed : Indexed calls.heap) (event : TimerEvent Callback) :
    calls.stepChecked event = some (calls.step event) := by
  cases event with
  | addTimer now timeoutMs timerCb callTimes =>
      simp only [stepChecked, step, indexed.addTimerChecked_eq, Option.map_some]
  | removeTimer timerId =>
      simp only [stepChecked, step, indexed.removeTimerChecked_eq, Option.map_some]
  | checkTimeout now =>
      simp only [stepChecked, step, turnChecked_eq indexed, Option.map_some]
      cases calls.checking <;> rfl
  | callbackReturns =>
      simp only [stepChecked, step, turnChecked_eq indexed, Option.map_some]
      cases calls.checking <;> rfl

theorem indexed_turn (indexed : Indexed calls.heap) (now : Timestamp) :
    Indexed (calls.turn now).heap := by
  simp only [turn]
  cases turned : calls.heap.checkTurn now with
  | none => exact indexed
  | some result =>
      obtain ⟨ptr, timer, fired⟩ := indexed.checkTurn_some turned
      exact fired.indexed

theorem indexed_step (indexed : Indexed calls.heap) (taken : calls.step event = some next) :
    Indexed next.heap := by
  cases event with
  | addTimer now timeoutMs timerCb callTimes =>
      cases taken
      exact (indexed.addTimer now timeoutMs timerCb callTimes).1
  | removeTimer timerId =>
      cases taken
      exact (indexed.removeTimer timerId).1
  | checkTimeout now =>
      simp only [step] at taken
      split at taken
      · cases taken
        exact indexed_turn indexed now
      · cases taken
  | callbackReturns =>
      simp only [step] at taken
      split at taken
      · cases taken
      · rename_i now checking
        cases taken
        exact indexed_turn indexed now

theorem integrity_of_indexed (indexed : Indexed calls.heap) : IndexIntegrity calls := by
  refine ⟨indexed.placed.held, ?_, ?_, ?_, stepChecked_eq indexed⟩
  · intro timerId ptr known
    obtain ⟨timer, found, id⟩ := (indexed.mapped timerId ptr).mp known
    obtain ⟨memory, held, rfl⟩ := live_some found
    exact ⟨memory, held, id⟩
  · intro ptr
    refine Iff.trans ?_ (indexed.owned ptr).symm
    constructor
    · rintro ⟨timerId, known⟩
      obtain ⟨timer, found, -⟩ := (indexed.mapped timerId ptr).mp known
      simp [found]
    · intro known
      obtain ⟨timer, found⟩ := Option.isSome_iff_exists.mp known
      exact ⟨timer.timerId, (indexed.mapped timer.timerId ptr).mpr ⟨timer, found, rfl⟩⟩
  · intro i j iLower iUpper jLower jUpper same
    exact indexed.placed.slot_injective iLower iUpper jLower jUpper same

/-- In whatever order timers are added, removed and checked, inside of callbacks or not, the index
stays sound and no access of the heap functions fails. -/
theorem indexIntegrity_every (events : List (TimerEvent Callback)) :
    Every TimerCalls.step IndexIntegrity start events := by
  have every : Every TimerCalls.step (fun calls => Indexed calls.heap) start events :=
    every_of_invariant (fun indexed _ taken => indexed_step indexed taken) empty_indexed
      (along_always start events)
  exact every.mono integrity_of_indexed

end TimerCalls

end ZBlueNet
