import ZBlueNet.TimerHeapCore
import ZBlueNet.Lib.BinaryHeap

/-!
Both sifting loops only rearrange the heap: every timer keeps its data and knows
its new position. Over that, the heap functions insert and remove one timer, and
the order is what `BinaryHeap` says about the deadlines.
-/

namespace ZBlueNet.TimerHeap

open BinaryHeap

variable {Callback : Type} {h : TimerHeap Callback}

/-- The memory without the positions in the heap. -/
def live (h : TimerHeap Callback) (ptr : TimerPtr) : Option (Timer Callback) :=
  (h.timers ptr).map Timer.unplaced

def Stored (h : TimerHeap Callback) (ptr : TimerPtr) : Prop :=
  ∃ index, 1 ≤ index ∧ index < h.timerMinHeap.size ∧ h.slot index = ptr

def keys (h : TimerHeap Callback) (index : Nat) : ℤ ×ₗ ℤ := (h.valueAt index).key

/-- Every slot but the first holds a timer that knows its position. -/
structure Placed (h : TimerHeap Callback) : Prop where
  dummy : 1 ≤ h.timerMinHeap.size
  held : ∀ index, 1 ≤ index → index < h.timerMinHeap.size →
    ∃ timer, h.timers (h.slot index) = some timer ∧ timer.heapPos = index

structure SameTimers (h other : TimerHeap Callback) : Prop where
  live : other.live = h.live
  timerMap : other.timerMap = h.timerMap
  timerId : other.timerId = h.timerId
  nextPtr : other.nextPtr = h.nextPtr

theorem SameTimers.refl (h : TimerHeap Callback) : SameTimers h h := ⟨rfl, rfl, rfl, rfl⟩

theorem SameTimers.trans {second third : TimerHeap Callback} (first : SameTimers h second)
    (next : SameTimers second third) : SameTimers h third :=
  ⟨next.live.trans first.live, next.timerMap.trans first.timerMap,
    next.timerId.trans first.timerId, next.nextPtr.trans first.nextPtr⟩

theorem valueOf_eq_live (ptr : TimerPtr) :
    h.valueOf ptr = ((h.live ptr).map Timer.value).getD ⟨0, 0⟩ := by
  simp [valueOf, live, Option.map_map, Function.comp_def, Timer.unplaced]

theorem SameTimers.valueOf {other : TimerHeap Callback} (same : SameTimers h other)
    (ptr : TimerPtr) : other.valueOf ptr = h.valueOf ptr := by
  rw [valueOf_eq_live, valueOf_eq_live, same.live]

theorem Placed.slot_injective (placed : Placed h) {first second : Nat} (firstLower : 1 ≤ first)
    (firstUpper : first < h.timerMinHeap.size) (secondLower : 1 ≤ second)
    (secondUpper : second < h.timerMinHeap.size) (same : h.slot first = h.slot second) :
    first = second := by
  obtain ⟨timer, found, position⟩ := placed.held first firstLower firstUpper
  obtain ⟨other, otherFound, otherPosition⟩ := placed.held second secondLower secondUpper
  rw [same, otherFound] at found
  cases found
  omega

@[simp] theorem setSlot_size (index : Nat) (ptr : TimerPtr) :
    (h.setSlot index ptr).timerMinHeap.size = h.timerMinHeap.size := by
  simp [setSlot]

theorem slot_setSlot (h : TimerHeap Callback) (index other : Nat) (ptr : TimerPtr)
    (bound : index < h.timerMinHeap.size) :
    (h.setSlot index ptr).slot other = if other = index then ptr else h.slot other := by
  simp only [setSlot, slot, Array.getD_eq_getD_getElem?, Array.getElem?_setIfInBounds]
  by_cases same : index = other
  · simp [same, same ▸ bound]
  · rw [if_neg same, if_neg (Ne.symm same)]

theorem setHeapPos_live (ptr : TimerPtr) (heapPos : Int) :
    (h.setHeapPos ptr heapPos).live = h.live := by
  funext other
  simp only [setHeapPos, modify, live]
  split
  · rename_i same
    rw [same]
    cases h.timers ptr <;> rfl
  · rfl

theorem setHeapPos_same (h : TimerHeap Callback) (ptr : TimerPtr) (heapPos : Int) :
    SameTimers h (h.setHeapPos ptr heapPos) :=
  ⟨setHeapPos_live ptr heapPos, rfl, rfl, rfl⟩

/-! Exchanging two slots. -/

theorem swapSlots_same (upper lower : Nat) : SameTimers h (h.swapSlots upper lower) := by
  have marked := (setHeapPos_same h (h.slot upper) lower).trans
    (setHeapPos_same _ (h.slot lower) upper)
  exact ⟨marked.live, rfl, rfl, rfl⟩

@[simp] theorem swapSlots_size (upper lower : Nat) :
    (h.swapSlots upper lower).timerMinHeap.size = h.timerMinHeap.size := by
  simp [swapSlots, setHeapPos, modify]

theorem swapSlots_slot {upper lower : Nat} (upperBound : upper < h.timerMinHeap.size)
    (lowerBound : lower < h.timerMinHeap.size) (index : Nat) :
    (h.swapSlots upper lower).slot index = h.slot (Equiv.swap upper lower index) := by
  simp only [swapSlots]
  rw [slot_setSlot _ _ _ _ (by simpa [setHeapPos, modify] using lowerBound),
    slot_setSlot _ _ _ _ (by simpa [setHeapPos, modify] using upperBound), Equiv.swap_apply_def]
  by_cases first : index = upper
  · by_cases second : index = lower
    · rw [if_pos second, if_pos first, ← second, ← first]
    · rw [if_neg second, if_pos first, if_pos first]
  · by_cases second : index = lower
    · rw [if_pos second, if_neg first, if_pos second]
    · rw [if_neg second, if_neg first, if_neg first, if_neg second]
      rfl

theorem swapSlots_keys {upper lower : Nat} (upperBound : upper < h.timerMinHeap.size)
    (lowerBound : lower < h.timerMinHeap.size) :
    (h.swapSlots upper lower).keys = h.keys ∘ Equiv.swap upper lower := by
  funext index
  simp only [keys, valueAt, Function.comp, (swapSlots_same upper lower).valueOf,
    swapSlots_slot upperBound lowerBound]

theorem swapSlots_stored {upper lower : Nat} (upperBounds : 1 ≤ upper ∧ upper < h.timerMinHeap.size)
    (lowerBounds : 1 ≤ lower ∧ lower < h.timerMinHeap.size) (ptr : TimerPtr) :
    (h.swapSlots upper lower).Stored ptr ↔ h.Stored ptr := by
  have inside (index : Nat) (bounds : 1 ≤ index ∧ index < h.timerMinHeap.size) :
      1 ≤ Equiv.swap upper lower index ∧
        Equiv.swap upper lower index < h.timerMinHeap.size := by
    rw [Equiv.swap_apply_def]
    split
    · exact lowerBounds
    · split
      · exact upperBounds
      · exact bounds
  simp only [Stored, swapSlots_size, swapSlots_slot upperBounds.2 lowerBounds.2]
  constructor
  · rintro ⟨index, lowerIndex, upperIndex, found⟩
    have bounds := inside index ⟨lowerIndex, upperIndex⟩
    exact ⟨_, bounds.1, bounds.2, found⟩
  · rintro ⟨index, lowerIndex, upperIndex, found⟩
    have bounds := inside index ⟨lowerIndex, upperIndex⟩
    exact ⟨_, bounds.1, bounds.2, by rwa [Equiv.swap_apply_self]⟩

theorem Placed.swapSlots (placed : Placed h) {upper lower : Nat}
    (upperBounds : 1 ≤ upper ∧ upper < h.timerMinHeap.size)
    (lowerBounds : 1 ≤ lower ∧ lower < h.timerMinHeap.size) (different : upper ≠ lower) :
    Placed (h.swapSlots upper lower) := by
  have slots : h.slot upper ≠ h.slot lower := fun same => different
    (placed.slot_injective upperBounds.1 upperBounds.2 lowerBounds.1 lowerBounds.2 same)
  obtain ⟨upperTimer, upperFound, -⟩ := placed.held upper upperBounds.1 upperBounds.2
  obtain ⟨lowerTimer, lowerFound, -⟩ := placed.held lower lowerBounds.1 lowerBounds.2
  have timers (ptr : TimerPtr) : (h.swapSlots upper lower).timers ptr =
      if ptr = h.slot lower then some { lowerTimer with heapPos := upper }
      else if ptr = h.slot upper then some { upperTimer with heapPos := lower }
      else h.timers ptr := by
    simp only [TimerHeap.swapSlots, setHeapPos, modify, setSlot, upperFound]
    rw [if_neg (Ne.symm slots), lowerFound]
    rfl
  refine ⟨by simpa using placed.dummy, ?_⟩
  intro index lowerIndex upperIndex
  rw [swapSlots_size] at upperIndex
  rw [swapSlots_slot upperBounds.2 lowerBounds.2, timers, Equiv.swap_apply_def]
  by_cases first : index = upper
  · rw [if_pos first, if_pos rfl]
    exact ⟨_, rfl, by rw [first]⟩
  · by_cases second : index = lower
    · rw [if_neg first, if_pos second, if_neg slots, if_pos rfl]
      exact ⟨_, rfl, by rw [second]⟩
    · have notLower : h.slot index ≠ h.slot lower := fun same => second
        (placed.slot_injective lowerIndex upperIndex lowerBounds.1 lowerBounds.2 same)
      have notUpper : h.slot index ≠ h.slot upper := fun same => first
        (placed.slot_injective lowerIndex upperIndex upperBounds.1 upperBounds.2 same)
      rw [if_neg first, if_neg second, if_neg notLower, if_neg notUpper]
      exact placed.held index lowerIndex upperIndex

structure Sifted (h sifted : TimerHeap Callback) : Prop where
  placed : Placed sifted
  same : SameTimers h sifted
  size : sifted.timerMinHeap.size = h.timerMinHeap.size
  stored : ∀ ptr, sifted.Stored ptr ↔ h.Stored ptr

theorem Sifted.refl (placed : Placed h) : Sifted h h :=
  ⟨placed, SameTimers.refl h, rfl, fun _ => Iff.rfl⟩

theorem Sifted.trans {second third : TimerHeap Callback} (first : Sifted h second)
    (next : Sifted second third) : Sifted h third :=
  ⟨next.placed, first.same.trans next.same, next.size.trans first.size,
    fun ptr => (next.stored ptr).trans (first.stored ptr)⟩

theorem Placed.swapSlots_sifted (placed : Placed h) (upper lower : Nat)
    (upperBounds : 1 ≤ upper ∧ upper < h.timerMinHeap.size)
    (lowerBounds : 1 ≤ lower ∧ lower < h.timerMinHeap.size) (different : upper ≠ lower) :
    Sifted h (h.swapSlots upper lower) :=
  ⟨placed.swapSlots upperBounds lowerBounds different, swapSlots_same upper lower,
    swapSlots_size upper lower, swapSlots_stored upperBounds lowerBounds⟩

/-! The loops. -/

theorem lesserChild_cases (h : TimerHeap Callback) (curIndex : Nat)
    (room : curIndex * 2 < h.timerMinHeap.size) :
    h.lesserChild curIndex < h.timerMinHeap.size ∧ h.lesserChild curIndex / 2 = curIndex := by
  simp only [lesserChild]
  split
  · omega
  · omega

theorem lesserChild_least (h : TimerHeap Callback) (curIndex other : Nat)
    (bound : other < h.timerMinHeap.size) (child : other / 2 = curIndex) :
    h.keys (h.lesserChild curIndex) ≤ h.keys other := by
  simp only [lesserChild]
  split
  · rename_i second
    have before := (Timestamp.less_iff _ _).mp second.2
    by_cases same : other = curIndex * 2 + 1
    · rw [same]
    · rw [show other = curIndex * 2 by omega]
      exact before.le
  · rename_i second
    by_cases same : other = curIndex * 2
    · rw [same]
    · rw [not_and, Timestamp.less_iff, not_lt] at second
      rw [show other = curIndex * 2 + 1 by omega]
      exact second (by omega)

theorem Placed.siftUp (placed : Placed h) (fuel pos : Nat) (bound : pos < h.timerMinHeap.size) :
    Sifted h (siftUp fuel h pos) := by
  induction fuel generalizing h pos with
  | zero => exact Sifted.refl placed
  | succ fuel ih =>
      simp only [TimerHeap.siftUp]
      split
      · exact Sifted.refl placed
      · split
        · exact Sifted.refl placed
        · have swapped := placed.swapSlots_sifted (pos / 2) pos (by omega) (by omega) (by omega)
          exact swapped.trans (ih swapped.placed (pos / 2) (by rw [swapped.size]; omega))

theorem Placed.siftDown (placed : Placed h) (fuel pos : Nat) (positive : 1 ≤ pos) :
    Sifted h (siftDown fuel h pos) := by
  induction fuel generalizing h pos with
  | zero => exact Sifted.refl placed
  | succ fuel ih =>
      simp only [TimerHeap.siftDown]
      split
      · exact Sifted.refl placed
      · rename_i room
        have child := lesserChild_cases h pos (by omega)
        split
        · exact Sifted.refl placed
        · have swapped := placed.swapSlots_sifted pos (h.lesserChild pos) (by omega) (by omega)
            (by omega)
          exact swapped.trans (ih swapped.placed (h.lesserChild pos) (by omega))

theorem siftUp_ordered (fuel pos : Nat) (enough : pos ≤ fuel) (bound : pos < h.timerMinHeap.size)
    (rising : Rising h.keys h.timerMinHeap.size pos) :
    Ordered (siftUp fuel h pos).keys h.timerMinHeap.size := by
  induction fuel generalizing h pos with
  | zero => exact rising.finish (by omega)
  | succ fuel ih =>
      simp only [siftUp]
      split
      · exact rising.finish (by omega)
      · split
        · rename_i inOrder
          exact rising.finish fun _ => ((Timestamp.less_iff _ _).mp inOrder).le
        · rename_i before
          rw [Timestamp.less_iff, not_lt] at before
          have swapped := rising.swap (by omega) bound before
          rw [← swapSlots_keys (by omega) bound] at swapped
          have result := @ih (h.swapSlots (pos / 2) pos) (pos / 2) (by omega)
            (by rw [swapSlots_size]; omega) (by rwa [swapSlots_size])
          rwa [swapSlots_size] at result

theorem siftDown_ordered (fuel pos : Nat) (enough : h.timerMinHeap.size ≤ fuel + pos)
    (positive : 1 ≤ pos) (sinking : Sinking h.keys h.timerMinHeap.size pos) :
    Ordered (siftDown fuel h pos).keys h.timerMinHeap.size := by
  induction fuel generalizing h pos with
  | zero => exact sinking.finish (by omega)
  | succ fuel ih =>
      simp only [siftDown]
      split
      · exact sinking.finish (by omega)
      · rename_i room
        have child := lesserChild_cases h pos (by omega)
        have least := fun other => lesserChild_least h pos other
        split
        · rename_i inOrder
          have before := ((Timestamp.less_iff _ _).mp inOrder).le
          exact sinking.finish fun other _ bound isChild =>
            le_trans before (least other bound isChild)
        · rename_i before
          rw [Timestamp.less_iff, not_lt] at before
          have swapped := sinking.swap positive child.1 child.2 least before
          rw [← swapSlots_keys (by omega) child.1] at swapped
          have result := @ih (h.swapSlots pos (h.lesserChild pos)) (h.lesserChild pos)
            (by rw [swapSlots_size]; omega) (by omega) (by rwa [swapSlots_size])
          rwa [swapSlots_size] at result

theorem siftDown_stays (fuel pos : Nat)
    (before : ∀ child, child < h.timerMinHeap.size → child / 2 = pos → h.keys pos < h.keys child) :
    siftDown fuel h pos = h := by
  cases fuel with
  | zero => rfl
  | succ fuel =>
      simp only [siftDown]
      split
      · rfl
      · have child := lesserChild_cases h pos (by omega)
        rw [if_pos ((Timestamp.less_iff _ _).mpr (before _ child.1 child.2))]

/-! Removal from the heap. -/

structure Removed (h : TimerHeap Callback) (ptr : TimerPtr) (result : TimerHeap Callback) : Prop where
  placed : Placed result
  same : SameTimers h result
  size : result.timerMinHeap.size + 1 = h.timerMinHeap.size
  stored : ∀ other, result.Stored other ↔ h.Stored other ∧ other ≠ ptr

section Erase

variable {ptr : TimerPtr} {pos : Nat}

theorem replaceByLast_size (ptr : TimerPtr) (bound : pos < h.timerMinHeap.size) :
    (h.replaceByLast ptr pos).timerMinHeap.size + 1 = h.timerMinHeap.size := by
  simp only [replaceByLast, setHeapPos, modify, setSlot, Array.size_pop, Array.size_setIfInBounds]
  omega

theorem replaceByLast_same (h : TimerHeap Callback) (ptr : TimerPtr) (pos : Nat) :
    SameTimers h (h.replaceByLast ptr pos) := by
  have marked := setHeapPos_same h ptr (-1)
  have moved := setHeapPos_same ((h.setHeapPos ptr (-1)).setSlot pos
    (h.slot (h.timerMinHeap.size - 1))) (h.slot (h.timerMinHeap.size - 1)) pos
  exact ⟨moved.live.trans marked.live, rfl, rfl, rfl⟩

theorem replaceByLast_slot (ptr : TimerPtr) (bound : pos < h.timerMinHeap.size) (index : Nat)
    (indexBound : index + 1 < h.timerMinHeap.size) :
    (h.replaceByLast ptr pos).slot index =
      if index = pos then h.slot (h.timerMinHeap.size - 1) else h.slot index := by
  have kept := slot_setSlot h pos index (h.slot (h.timerMinHeap.size - 1)) bound
  rw [← kept]
  simp only [replaceByLast, setHeapPos, modify, setSlot, slot, Array.getD_eq_getD_getElem?,
    Array.getElem?_pop, Array.size_setIfInBounds]
  rw [if_pos (by omega)]

theorem replaceByLast_keys (ptr : TimerPtr) (bound : pos < h.timerMinHeap.size) (index : Nat)
    (indexBound : index + 1 < h.timerMinHeap.size) :
    (h.replaceByLast ptr pos).keys index =
      if index = pos then h.keys (h.timerMinHeap.size - 1) else h.keys index := by
  simp only [keys, valueAt, (replaceByLast_same h ptr pos).valueOf,
    replaceByLast_slot ptr bound index indexBound]
  split <;> rfl

theorem Placed.replaceByLast (placed : Placed h) (lower : 1 ≤ pos)
    (bound : pos < h.timerMinHeap.size) (here : h.slot pos = ptr) :
    Removed h ptr (h.replaceByLast ptr pos) := by
  have size := replaceByLast_size ptr bound
  have slots := replaceByLast_slot ptr bound
  refine ⟨⟨by omega, fun index indexLower indexUpper => ?_⟩, replaceByLast_same h ptr pos, size,
    fun other => ⟨?_, ?_⟩⟩
  · have timers (other : TimerPtr) (notRemoved : other ≠ ptr)
        (notLast : other ≠ h.slot (h.timerMinHeap.size - 1)) :
        (h.replaceByLast ptr pos).timers other = h.timers other := by
      simp [TimerHeap.replaceByLast, setHeapPos, modify, setSlot, notRemoved, notLast]
    obtain ⟨last, found, -⟩ := placed.held (h.timerMinHeap.size - 1) (by omega) (by omega)
    rw [slots index (by omega)]
    by_cases same : index = pos
    · have different : h.slot (h.timerMinHeap.size - 1) ≠ ptr := fun equal => by
        have collision := placed.slot_injective (by omega) (by omega) lower bound
          (equal.trans here.symm)
        omega
      rw [if_pos same]
      refine ⟨{ last with heapPos := pos }, ?_, by rw [same]⟩
      simp [TimerHeap.replaceByLast, setHeapPos, modify, setSlot, different, found]
    · have notRemoved : h.slot index ≠ ptr := fun equal => same
        (placed.slot_injective indexLower (by omega) lower bound (equal.trans here.symm))
      have notLast : h.slot index ≠ h.slot (h.timerMinHeap.size - 1) := fun equal => by
        have collision := placed.slot_injective indexLower (by omega) (by omega) (by omega) equal
        omega
      rw [if_neg same, timers _ notRemoved notLast]
      exact placed.held index indexLower (by omega)
  · rintro ⟨index, indexLower, indexUpper, found⟩
    rw [slots index (by omega)] at found
    by_cases same : index = pos
    · rw [if_pos same] at found
      refine ⟨⟨h.timerMinHeap.size - 1, by omega, by omega, found⟩, ?_⟩
      intro equal
      have collision := placed.slot_injective (by omega) (by omega) lower bound
        (found.trans (equal.trans here.symm))
      omega
    · rw [if_neg same] at found
      refine ⟨⟨index, indexLower, by omega, found⟩, fun equal => same ?_⟩
      exact placed.slot_injective indexLower (by omega) lower bound
        (found.trans (equal.trans here.symm))
  · rintro ⟨⟨index, indexLower, indexUpper, found⟩, different⟩
    have notHere : index ≠ pos := fun equal => different (by rw [← found, equal, here])
    by_cases same : index = h.timerMinHeap.size - 1
    · exact ⟨pos, lower, by omega, by rw [slots pos (by omega), if_pos rfl, ← same, found]⟩
    · exact ⟨index, indexLower, by omega, by rw [slots index (by omega), if_neg notHere, found]⟩

theorem Placed.minHeapErase_eq (placed : Placed h) (lower : 1 ≤ pos)
    (bound : pos < h.timerMinHeap.size) (here : h.slot pos = ptr) :
    h.minHeapErase ptr =
      TimerHeap.siftDown h.timerMinHeap.size (h.replaceByLast ptr pos) pos := by
  obtain ⟨timer, found, position⟩ := placed.held pos lower bound
  rw [here] at found
  simp only [minHeapErase, found]
  rw [if_neg (by omega), show timer.heapPos.toNat = pos by omega]

theorem Placed.minHeapErase (placed : Placed h) (stored : h.Stored ptr) :
    Removed h ptr (h.minHeapErase ptr) := by
  obtain ⟨pos, lower, bound, here⟩ := stored
  have removed := placed.replaceByLast lower bound here
  have sifted := removed.placed.siftDown h.timerMinHeap.size pos lower
  rw [placed.minHeapErase_eq lower bound here]
  exact ⟨sifted.placed, removed.same.trans sifted.same, by rw [sifted.size]; exact removed.size,
    fun other => (sifted.stored other).trans (removed.stored other)⟩

/-- The last timer may take the place of the one at `pos`: it is not before the parent there. -/
def LastFits (h : TimerHeap Callback) (pos : Nat) : Prop :=
  2 ≤ pos → (h.valueAt (h.timerMinHeap.size - 1)).less (h.valueAt (pos / 2)) = false

theorem lastFits_iff (h : TimerHeap Callback) (pos : Nat) :
    h.LastFits pos ↔ (2 ≤ pos → h.keys (pos / 2) ≤ h.keys (h.timerMinHeap.size - 1)) := by
  simp only [LastFits, keys, ← Bool.not_eq_true, Timestamp.less_iff, not_lt]

/-- Sinking alone repairs the heap exactly when the last timer may take the free place. -/
theorem Placed.minHeapErase_ordered (placed : Placed h)
    (ordered : Ordered h.keys h.timerMinHeap.size) (lower : 1 ≤ pos)
    (bound : pos < h.timerMinHeap.size) (here : h.slot pos = ptr) :
    Ordered (h.minHeapErase ptr).keys (h.minHeapErase ptr).timerMinHeap.size ↔ h.LastFits pos := by
  have removed := placed.replaceByLast lower bound here
  have sifted := removed.placed.siftDown h.timerMinHeap.size pos lower
  have size := removed.size
  have moved := replaceByLast_keys ptr bound
  rw [placed.minHeapErase_eq lower bound here, sifted.size, lastFits_iff]
  by_cases last : pos + 1 = h.timerMinHeap.size
  · have unmoved : Ordered (h.replaceByLast ptr pos).keys
        (h.replaceByLast ptr pos).timerMinHeap.size := by
      intro index indexLower indexUpper
      rw [moved index (by omega), moved (index / 2) (by omega), if_neg (by omega),
        if_neg (by omega)]
      exact ordered index indexLower (by omega)
    refine iff_of_true ?_ fun deep => ?_
    · exact siftDown_ordered _ _ (by omega) lower
        ⟨fun index indexLower indexUpper _ => unmoved index indexLower indexUpper,
          fun _ child childUpper isChild => by omega⟩
    · rw [← last, Nat.add_sub_cancel]
      exact ordered pos deep bound
  · have before : h.timerMinHeap.size = (h.replaceByLast ptr pos).timerMinHeap.size + 1 := by omega
    have children (child : Nat) (upper : child < (h.replaceByLast ptr pos).timerMinHeap.size)
        (isChild : child / 2 = pos) : (h.replaceByLast ptr pos).keys child = h.keys child := by
      rw [moved child (by omega), if_neg (by omega)]
    constructor
    · intro repaired deep
      by_contra misplaced
      rw [not_le] at misplaced
      rw [siftDown_stays _ _ fun child upper isChild => by
        rw [moved pos (by omega), if_pos rfl, children child upper isChild]
        have above := ordered pos deep bound
        have below := ordered child (by omega) (by omega)
        rw [isChild] at below
        exact lt_of_lt_of_le misplaced (le_trans above below)] at repaired
      have wrong := repaired pos deep (by omega)
      rw [moved pos (by omega), if_pos rfl, moved (pos / 2) (by omega), if_neg (by omega)] at wrong
      exact absurd wrong (not_le.mpr misplaced)
    · intro fits
      apply siftDown_ordered _ _ (by omega) lower
      refine Ordered.sinking (before ▸ ordered) (by omega) ?_ (fun index upper different => ?_) ?_
      · rw [moved pos (by omega), if_pos rfl, before, Nat.add_sub_cancel]
      · rw [moved index (by omega), if_neg different]
      · rw [before, Nat.add_sub_cancel] at fits
        exact fits

end Erase

/-! Insertion into the heap. -/

def push (h : TimerHeap Callback) (ptr : TimerPtr) : TimerHeap Callback :=
  ({ h with timerMinHeap := h.timerMinHeap.push ptr }).setHeapPos ptr h.timerMinHeap.size

structure Inserted (h : TimerHeap Callback) (ptr : TimerPtr) (result : TimerHeap Callback) :
    Prop where
  placed : Placed result
  same : SameTimers h result
  stored : ∀ other, result.Stored other ↔ h.Stored other ∨ other = ptr
  ordered : Ordered h.keys h.timerMinHeap.size → Ordered result.keys result.timerMinHeap.size

section Insert

variable {ptr : TimerPtr} {timer : Timer Callback}

theorem push_slot (h : TimerHeap Callback) (ptr : TimerPtr) (index : Nat) :
    (h.push ptr).slot index = if index = h.timerMinHeap.size then ptr else h.slot index := by
  simp only [push, setHeapPos, modify, slot, Array.getD_eq_getD_getElem?, Array.getElem?_push]
  split <;> rfl

theorem push_size (h : TimerHeap Callback) (ptr : TimerPtr) :
    (h.push ptr).timerMinHeap.size = h.timerMinHeap.size + 1 :=
  Array.size_push _

theorem push_same (h : TimerHeap Callback) (ptr : TimerPtr) : SameTimers h (h.push ptr) :=
  ⟨setHeapPos_live ptr h.timerMinHeap.size, rfl, rfl, rfl⟩

theorem Placed.push (placed : Placed h) (found : h.timers ptr = some timer)
    (unplaced : ¬h.Stored ptr) : Placed (h.push ptr) := by
  have size := push_size h ptr
  refine ⟨by omega, ?_⟩
  intro index lower upper
  rw [push_slot]
  by_cases last : index = h.timerMinHeap.size
  · exact ⟨{ timer with heapPos := h.timerMinHeap.size },
      by simp [TimerHeap.push, setHeapPos, modify, last, found], by rw [last]⟩
  · have different : h.slot index ≠ ptr := fun equal =>
      unplaced ⟨index, lower, by omega, equal⟩
    rw [if_neg last]
    simpa [TimerHeap.push, setHeapPos, modify, different] using placed.held index lower (by omega)

theorem Placed.minHeapInsert (placed : Placed h) (found : h.timers ptr = some timer)
    (unplaced : ¬h.Stored ptr) : Inserted h ptr (h.minHeapInsert ptr) := by
  have dummy := placed.dummy
  have size := push_size h ptr
  have same := push_same h ptr
  have slots := push_slot h ptr
  have keys (index : Nat) (bound : index < h.timerMinHeap.size) :
      (h.push ptr).keys index = h.keys index := by
    simp only [TimerHeap.keys, valueAt, same.valueOf, slots]
    rw [if_neg (by omega)]
  have sifted := (placed.push found unplaced).siftUp h.timerMinHeap.size h.timerMinHeap.size
    (by omega)
  refine ⟨sifted.placed, same.trans sifted.same, fun other => (sifted.stored other).trans ?_, ?_⟩
  · constructor
    · rintro ⟨index, lower, upper, here⟩
      rw [slots] at here
      by_cases last : index = h.timerMinHeap.size
      · rw [if_pos last] at here
        exact .inr here.symm
      · rw [if_neg last] at here
        exact .inl ⟨index, lower, by omega, here⟩
    · rintro (⟨index, lower, upper, here⟩ | rfl)
      · exact ⟨index, lower, by omega, by rw [slots, if_neg (by omega), here]⟩
      · exact ⟨h.timerMinHeap.size, by omega, by omega, by rw [slots, if_pos rfl]⟩
  · intro ordered
    have risen := siftUp_ordered h.timerMinHeap.size h.timerMinHeap.size le_rfl (by omega)
      (size.symm ▸ ordered.rising keys : Rising (h.push ptr).keys (h.push ptr).timerMinHeap.size _)
    change Ordered (TimerHeap.siftUp h.timerMinHeap.size (h.push ptr) h.timerMinHeap.size).keys
      (TimerHeap.siftUp h.timerMinHeap.size (h.push ptr) h.timerMinHeap.size).timerMinHeap.size
    rw [sifted.size]
    exact risen

end Insert

structure Stowed (h : TimerHeap Callback) (ptr : TimerPtr) (timer : Timer Callback)
    (stowed : TimerHeap Callback) : Prop where
  array : stowed.timerMinHeap = h.timerMinHeap
  here : stowed.timers ptr = some timer
  others : ∀ other, other ≠ ptr → stowed.timers other = h.timers other

section Stow

variable {ptr : TimerPtr} {timer : Timer Callback} {stowed : TimerHeap Callback}

theorem Stowed.stored (stow : Stowed h ptr timer stowed) (other : TimerPtr) :
    stowed.Stored other ↔ h.Stored other := by
  simp only [Stored, slot, stow.array]

theorem Placed.stow (placed : Placed h) (unplaced : ¬h.Stored ptr)
    (stow : Stowed h ptr timer stowed) : Placed stowed := by
  refine ⟨by rw [stow.array]; exact placed.dummy, ?_⟩
  intro index lower upper
  rw [stow.array] at upper
  have apart : h.slot index ≠ ptr := fun equal => unplaced ⟨index, lower, upper, equal⟩
  have same : stowed.slot index = h.slot index := by simp only [slot, stow.array]
  rw [same, stow.others _ apart]
  exact placed.held index lower upper

theorem Placed.stow_insert (placed : Placed h) (unplaced : ¬h.Stored ptr)
    (stow : Stowed h ptr timer stowed) :
    Inserted stowed ptr (stowed.minHeapInsert ptr) ∧
      (stowed.minHeapInsert ptr).live =
        (fun other => if other = ptr then some timer.unplaced else h.live other) ∧
      (∀ other, (stowed.minHeapInsert ptr).Stored other ↔ h.Stored other ∨ other = ptr) ∧
      (Ordered h.keys h.timerMinHeap.size →
        Ordered (stowed.minHeapInsert ptr).keys (stowed.minHeapInsert ptr).timerMinHeap.size) := by
  have inserted := (placed.stow unplaced stow).minHeapInsert stow.here (by rwa [stow.stored])
  refine ⟨inserted, ?_, ?_, fun ordered => inserted.ordered ?_⟩
  · rw [inserted.same.live]
    funext other
    simp only [live]
    by_cases same : other = ptr
    · simp [same, stow.here]
    · simp [same, stow.others other same]
  · intro other
    rw [inserted.stored, stow.stored]
  · rw [stow.array]
    intro index lower upper
    have keys (index : Nat) (lower : 1 ≤ index) (upper : index < h.timerMinHeap.size) :
        stowed.keys index = h.keys index := by
      have apart : h.slot index ≠ ptr := fun equal => unplaced ⟨index, lower, upper, equal⟩
      have same : stowed.slot index = h.slot index := by simp only [slot, stow.array]
      simp only [TimerHeap.keys, valueAt, valueOf, same, stow.others _ apart]
    rw [keys index (by omega) upper, keys (index / 2) (by omega) (by omega)]
    exact ordered index lower upper

end Stow

end ZBlueNet.TimerHeap
