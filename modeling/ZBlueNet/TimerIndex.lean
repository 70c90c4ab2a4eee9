import ZBlueNet.TimerHeap

/-!
The index integrity of the timer heap: the map, the heap array and the memory hold
the same timers. Each operation is described by what it does to the live timers.
-/

namespace ZBlueNet.TimerHeap

open BinaryHeap

variable {Callback : Type} {h : TimerHeap Callback}

structure Indexed (h : TimerHeap Callback) : Prop where
  placed : Placed h
  owned : ∀ ptr, h.Stored ptr ↔ (h.live ptr).isSome
  mapped : ∀ timerId ptr,
    h.timerMap timerId = some ptr ↔ ∃ timer, h.live ptr = some timer ∧ timer.timerId = timerId
  fresh : ∀ ptr, h.nextPtr ≤ ptr → h.live ptr = none

def InOrder (h : TimerHeap Callback) : Prop := Ordered h.keys h.timerMinHeap.size

theorem empty_stored (ptr : TimerPtr) : ¬(empty : TimerHeap Callback).Stored ptr := by
  rintro ⟨index, lower, upper, -⟩
  simp only [empty, List.size_toArray, List.length_cons, List.length_nil] at upper
  omega

theorem empty_indexed : Indexed (empty : TimerHeap Callback) := by
  refine ⟨⟨by simp [empty], fun index lower upper => ?_⟩, ?_, ?_, fun ptr _ => rfl⟩
  · exact absurd ⟨index, lower, upper, rfl⟩ (empty_stored _)
  · intro ptr
    exact iff_of_false (empty_stored ptr) (by simp [empty, live])
  · intro timerId ptr
    simp [empty, live]

theorem empty_inOrder : InOrder (empty : TimerHeap Callback) := by
  intro index lower upper
  simp only [empty, List.size_toArray, List.length_cons, List.length_nil] at upper
  omega

theorem live_some {ptr : TimerPtr} {timer : Timer Callback} (found : h.live ptr = some timer) :
    ∃ stored, h.timers ptr = some stored ∧ timer = stored.unplaced := by
  simp only [live, Option.map_eq_some_iff] at found
  obtain ⟨stored, memory, same⟩ := found
  exact ⟨stored, memory, same.symm⟩

section Delete

variable {timerId : TimerId} {ptr : TimerPtr}

theorem deleteTimer_live (h : TimerHeap Callback) (timerId : TimerId) (ptr : TimerPtr) :
    (h.deleteTimer timerId ptr).live = fun other => if other = ptr then none else h.live other := by
  funext other
  simp only [deleteTimer, live]
  split <;> rfl

theorem delete_inOrder (unplaced : ¬h.Stored ptr) :
    InOrder (h.deleteTimer timerId ptr) ↔ InOrder h := by
  have keys (index : Nat) (lower : 1 ≤ index) (upper : index < h.timerMinHeap.size) :
      (h.deleteTimer timerId ptr).keys index = h.keys index := by
    have different : h.slot index ≠ ptr := fun equal => unplaced ⟨index, lower, upper, equal⟩
    simp only [TimerHeap.keys, valueAt, valueOf]
    congr 3
    exact if_neg different
  constructor <;> intro ordered index lower upper
  · rw [← keys index (by omega) upper, ← keys (index / 2) (by omega)
      (show index / 2 < h.timerMinHeap.size from by omega)]
    exact ordered index lower upper
  · have bound : index < h.timerMinHeap.size := upper
    rw [keys index (by omega) bound, keys (index / 2) (by omega) (by omega)]
    exact ordered index lower bound

theorem Indexed.erase_delete (indexed : Indexed h) {timer : Timer Callback}
    (found : h.live ptr = some timer) (id : timer.timerId = timerId) :
    Indexed ((h.minHeapErase ptr).deleteTimer timerId ptr) := by
  have stored : h.Stored ptr := (indexed.owned ptr).mpr (by simp [found])
  have removed := indexed.placed.minHeapErase stored
  have deleted := deleteTimer_live (h.minHeapErase ptr) timerId ptr
  rw [removed.same.live] at deleted
  refine ⟨⟨removed.placed.dummy, fun index lower upper => ?_⟩, ?_, ?_, ?_⟩
  · obtain ⟨entry, held, position⟩ := removed.placed.held index lower upper
    have different := ((removed.stored _).mp ⟨index, lower, upper, rfl⟩).2
    refine ⟨entry, ?_, position⟩
    simp only [deleteTimer]
    rw [← held]
    exact if_neg different
  · intro other
    rw [deleted]
    refine (removed.stored other).trans ?_
    by_cases same : other = ptr
    · simp [same]
    · simp [same, indexed.owned other]
  · intro otherId other
    rw [deleted]
    simp only [deleteTimer, removed.same.timerMap]
    have here := (indexed.mapped timerId ptr).mpr ⟨timer, found, id⟩
    by_cases sameId : otherId = timerId
    · rw [if_pos sameId]
      apply iff_of_false (by simp)
      rintro ⟨entry, held, entryId⟩
      split at held
      · simp at held
      · rename_i different
        have twice := (indexed.mapped timerId other).mpr ⟨entry, held, entryId.trans sameId⟩
        rw [here, Option.some.injEq] at twice
        exact different twice.symm
    · rw [if_neg sameId, indexed.mapped]
      by_cases same : other = ptr
      · simp only [same, if_true, reduceCtorEq, false_and, exists_false, iff_false]
        rintro ⟨entry, held, entryId⟩
        rw [found, Option.some.injEq] at held
        exact sameId (by rw [← entryId, ← held, id])
      · simp [same]
  · intro other bound
    rw [deleted]
    have missing := indexed.fresh other (by rw [← removed.same.nextPtr]; exact bound)
    simp [missing]

theorem Indexed.erase_rearm (indexed : Indexed h) {timer : Timer Callback}
    (found : h.live ptr = some timer) :
    let result := ((h.minHeapErase ptr).modify ptr Timer.rearm).minHeapInsert ptr
    Indexed result ∧
      result.live = (fun other =>
        if other = ptr then some timer.rearm.unplaced else h.live other) ∧
      result.nextPtr = h.nextPtr ∧ (InOrder (h.minHeapErase ptr) → InOrder result) := by
  have stored : h.Stored ptr := (indexed.owned ptr).mpr (by simp [found])
  have removed := indexed.placed.minHeapErase stored
  have kept : (h.minHeapErase ptr).live ptr = some timer := by rw [removed.same.live, found]
  obtain ⟨memory, held, same⟩ := live_some kept
  have stow : Stowed (h.minHeapErase ptr) ptr memory.rearm
      ((h.minHeapErase ptr).modify ptr Timer.rearm) :=
    ⟨rfl, by simp [modify, held], fun other different => by simp [modify, different]⟩
  obtain ⟨inserted, live, storedIff, ordered⟩ := removed.placed.stow_insert
    (fun again => ((removed.stored ptr).mp again).2 rfl) stow
  have rearmed : memory.rearm.unplaced = timer.rearm.unplaced := by
    rw [same]
    rfl
  rw [rearmed, removed.same.live] at live
  refine ⟨⟨inserted.placed, fun other => ?_, fun timerId other => ?_, fun other bound => ?_⟩, live,
    inserted.same.nextPtr.trans removed.same.nextPtr, ordered⟩
  · rw [storedIff, removed.stored, live]
    by_cases here : other = ptr
    · simp [here]
    · simp [here, indexed.owned other]
  · rw [inserted.same.timerMap, live]
    have before := indexed.mapped timerId other
    rw [← removed.same.timerMap] at before
    apply before.trans
    by_cases here : other = ptr
    · simp [here, found, Timer.rearm, Timer.unplaced]
    · simp [here]
  · rw [inserted.same.nextPtr] at bound
    have before : h.nextPtr ≤ other := by
      rw [← removed.same.nextPtr]
      exact bound
    have missing := indexed.fresh other before
    have different : other ≠ ptr := fun equal => by
      rw [equal, found] at missing
      simp at missing
    simp [live, different, missing]

end Delete

section Operations

theorem minHeapTop_none (placed : Placed h) : h.minHeapTop = none ↔ h.timerMinHeap.size = 1 := by
  have dummy := placed.dummy
  simp only [minHeapTop]
  split
  · simp only [true_iff]
    omega
  · simp only [reduceCtorEq, false_iff]
    omega

theorem Indexed.minHeapTop_spec (indexed : Indexed h) {ptr : TimerPtr}
    (top : h.minHeapTop = some ptr) :
    ∃ timer, h.live ptr = some timer ∧ h.slot 1 = ptr ∧ 1 < h.timerMinHeap.size ∧
      (InOrder h → ∀ other otherTimer, h.live other = some otherTimer →
        timer.value.key ≤ otherTimer.value.key) := by
  simp only [minHeapTop] at top
  split at top
  · simp at top
  · rename_i large
    simp only [Option.some.injEq] at top
    have stored : h.Stored ptr := ⟨1, le_rfl, by omega, top⟩
    obtain ⟨timer, found⟩ := Option.isSome_iff_exists.mp ((indexed.owned ptr).mp stored)
    refine ⟨timer, found, top, by omega, ?_⟩
    intro ordered other otherTimer otherFound
    obtain ⟨index, lower, upper, here⟩ := (indexed.owned other).mpr (by simp [otherFound])
    have least := ordered.top_le index lower upper
    simpa [keys, valueAt, valueOf_eq_live, top, here, found, otherFound] using least

theorem Indexed.minHeapTop_none_live (indexed : Indexed h) (top : h.minHeapTop = none)
    (ptr : TimerPtr) : h.live ptr = none := by
  rw [minHeapTop_none indexed.placed] at top
  rw [← Option.not_isSome_iff_eq_none, ← indexed.owned]
  rintro ⟨index, lower, upper, -⟩
  omega

theorem Indexed.addTimer (indexed : Indexed h) (now : Timestamp) (timeoutMs : Int)
    (timerCb : Callback) (callTimes : Int) :
    let result := h.addTimer now timeoutMs timerCb callTimes
    let timer := Timer.create (nextTimerId h.timerId) (now.add (max 0 timeoutMs))
      (max 0 timeoutMs) timerCb callTimes
    Indexed result.2 ∧ (InOrder h → InOrder result.2) ∧
      (result.1 = -1 ∧ result.2.live = h.live ∧ result.2.nextPtr = h.nextPtr ∨
        result.1 = nextTimerId h.timerId ∧ h.timerMap (nextTimerId h.timerId) = none ∧
        result.2.nextPtr = h.nextPtr + 1 ∧
        result.2.live = fun other =>
          if other = h.nextPtr then some timer.unplaced else h.live other) := by
  intro result timer
  cases taken : h.timerMap (nextTimerId h.timerId) with
  | some other =>
      have unchanged : result = (-1, { h with timerId := nextTimerId h.timerId }) := by
        simp [result, TimerHeap.addTimer, taken]
      rw [unchanged]
      exact ⟨⟨⟨indexed.placed.dummy, indexed.placed.held⟩, indexed.owned, indexed.mapped,
        indexed.fresh⟩, fun ordered => ordered, .inl ⟨rfl, rfl, rfl⟩⟩
  | none =>
      let stored : TimerHeap Callback :=
        { h with
          timerId := nextTimerId h.timerId
          nextPtr := h.nextPtr + 1
          timerMap := fun other =>
            if other = nextTimerId h.timerId then some h.nextPtr else h.timerMap other
          timers := fun other => if other = h.nextPtr then some timer else h.timers other }
      have added : result = (nextTimerId h.timerId, stored.minHeapInsert h.nextPtr) := by
        simp [result, TimerHeap.addTimer, taken, stored, timer]
      have missing := indexed.fresh h.nextPtr le_rfl
      have unplaced : ¬h.Stored h.nextPtr := by simp [indexed.owned, missing]
      have stow : Stowed h h.nextPtr timer stored :=
        ⟨rfl, by simp [stored], fun other different => by simp [stored, different]⟩
      obtain ⟨inserted, live, storedIff, ordered⟩ := indexed.placed.stow_insert unplaced stow
      rw [added]
      refine ⟨⟨inserted.placed, fun other => ?_, fun timerId other => ?_, fun other bound => ?_⟩,
        ordered, .inr ⟨rfl, rfl, inserted.same.nextPtr, live⟩⟩
      · rw [storedIff, live, indexed.owned]
        by_cases here : other = h.nextPtr <;> simp [here]
      · rw [inserted.same.timerMap, live]
        have apart := indexed.mapped (nextTimerId h.timerId) other
        rw [taken] at apart
        by_cases sameId : timerId = nextTimerId h.timerId
        · by_cases here : other = h.nextPtr
          · simp [stored, sameId, here, timer, Timer.create, Timer.unplaced]
          · simp only [reduceCtorEq, false_iff] at apart
            simp [stored, sameId, here, Ne.symm here, apart]
        · have elsewhere := indexed.mapped timerId other
          by_cases here : other = h.nextPtr
          · have different : nextTimerId h.timerId ≠ timerId := Ne.symm sameId
            rw [here, missing] at elsewhere
            simp [stored, sameId, here, timer, Timer.create, Timer.unplaced, different, elsewhere]
          · simp [stored, sameId, here, elsewhere]
      · rw [inserted.same.nextPtr] at bound
        have later : h.nextPtr < other := bound
        simp [live, later.ne', indexed.fresh other later.le]

theorem Indexed.removeTimer (indexed : Indexed h) (timerId : TimerId) :
    Indexed (h.removeTimer timerId) ∧
      (h.timerMap timerId = none → h.removeTimer timerId = h) ∧
      (∀ ptr, h.timerMap timerId = some ptr → ∃ timer, h.timers ptr = some timer ∧
        (h.removeTimer timerId).live = (fun other => if other = ptr then none else h.live other) ∧
        (InOrder h → (InOrder (h.removeTimer timerId) ↔ h.LastFits timer.heapPos.toNat))) := by
  cases known : h.timerMap timerId with
  | none =>
      have unchanged : h.removeTimer timerId = h := by simp [TimerHeap.removeTimer, known]
      rw [unchanged]
      exact ⟨indexed, fun _ => rfl, by simp⟩
  | some ptr =>
      have changed : h.removeTimer timerId = (h.minHeapErase ptr).deleteTimer timerId ptr := by
        simp [TimerHeap.removeTimer, known]
      obtain ⟨timer, found, id⟩ := (indexed.mapped timerId ptr).mp known
      obtain ⟨pos, lower, upper, here⟩ := (indexed.owned ptr).mpr (by simp [found])
      have removed := indexed.placed.minHeapErase ⟨pos, lower, upper, here⟩
      rw [changed]
      refine ⟨indexed.erase_delete found id, by simp, ?_⟩
      rintro other ⟨rfl⟩
      obtain ⟨memory, held, position⟩ := indexed.placed.held pos lower upper
      rw [here] at held
      have posEq : memory.heapPos.toNat = pos := by omega
      refine ⟨memory, held, ?_, ?_⟩
      · rw [deleteTimer_live, removed.same.live]
      · intro ordered
        rw [posEq, ← indexed.placed.minHeapErase_ordered ordered lower upper here]
        exact delete_inOrder fun again => ((removed.stored ptr).mp again).2 rfl

theorem Indexed.checkTurn_none (indexed : Indexed h) (ordered : InOrder h) {now : Timestamp}
    (returned : h.checkTurn now = none) {ptr : TimerPtr} {timer : Timer Callback}
    (found : h.live ptr = some timer) : now.millisecondLess timer.value = true := by
  cases top : h.minHeapTop with
  | none => simp [indexed.minHeapTop_none_live top ptr] at found
  | some first =>
      obtain ⟨topTimer, topFound, -, -, least⟩ := indexed.minHeapTop_spec top
      obtain ⟨memory, held, same⟩ := live_some topFound
      have undue : now.millisecondLess topTimer.value = true := by
        by_contra due
        simp only [same, Timer.unplaced] at due
        simp [checkTurn, top, held, due] at returned
      exact Timestamp.millisecondLess_of_le undue (least ordered ptr timer found)

structure Fired (h : TimerHeap Callback) (now : Timestamp) (firing : Firing Callback)
    (result : TimerHeap Callback) (ptr : TimerPtr) (timer : Timer Callback) : Prop where
  found : h.live ptr = some timer
  due : now.millisecondLess timer.value = false
  firing : firing = ⟨timer.timerId, timer.timerCb, timer.value⟩
  indexed : Indexed result
  live : result.live = fun other =>
    if other = ptr then if timer.callTimes = 1 then none else some timer.rearm else h.live other
  nextPtr : result.nextPtr = h.nextPtr
  inOrder : InOrder h → InOrder result
  least : InOrder h → ∀ other otherTimer, h.live other = some otherTimer →
    timer.value.key ≤ otherTimer.value.key

theorem Indexed.checkTurn_some (indexed : Indexed h) {now : Timestamp} {firing : Firing Callback}
    {result : TimerHeap Callback} (turned : h.checkTurn now = some (firing, result)) :
    ∃ ptr timer, Fired h now firing result ptr timer := by
  cases top : h.minHeapTop with
  | none => simp [checkTurn, top] at turned
  | some ptr =>
      obtain ⟨timer, found, here, large, least⟩ := indexed.minHeapTop_spec top
      obtain ⟨memory, held, rfl⟩ := live_some found
      have removed := indexed.placed.minHeapErase ⟨1, le_rfl, large, here⟩
      have repaired (ordered : InOrder h) : InOrder (h.minHeapErase ptr) :=
        (indexed.placed.minHeapErase_ordered ordered le_rfl large here).mpr fun deep => by omega
      simp only [checkTurn, top, held] at turned
      split at turned
      · simp at turned
      · rename_i due
        simp only [Option.some.injEq, Prod.mk.injEq] at turned
        obtain ⟨rfl, rfl⟩ := turned
        refine ⟨ptr, memory.unplaced, ?_⟩
        by_cases last : memory.callTimes = 1
        · rw [if_pos last]
          refine ⟨found, Bool.eq_false_iff.mpr due, rfl, indexed.erase_delete found rfl, ?_,
            removed.same.nextPtr, ?_, least⟩
          · rw [deleteTimer_live, removed.same.live]
            funext other
            simp [Timer.unplaced, last]
          · intro ordered
            exact (delete_inOrder fun again => ((removed.stored ptr).mp again).2 rfl).mpr
              (repaired ordered)
        · rw [if_neg last]
          obtain ⟨rearmed, live, nextPtr, ordered⟩ := indexed.erase_rearm found
          refine ⟨found, Bool.eq_false_iff.mpr due, rfl, rearmed, ?_, nextPtr,
            fun before => ordered (repaired before), least⟩
          rw [live]
          funext other
          simp only [Timer.unplaced, last, if_false]
          rfl

/-! Where a timer that is live afterwards comes from. -/

theorem Indexed.live_lt (indexed : Indexed h) {ptr : TimerPtr} {timer : Timer Callback}
    (found : h.live ptr = some timer) : ptr < h.nextPtr := by
  by_contra beyond
  rw [indexed.fresh ptr (not_lt.mp beyond)] at found
  cases found

theorem Indexed.addTimer_live (indexed : Indexed h) {now : Timestamp} {timeoutMs callTimes : Int}
    {timerCb : Callback} {ptr : TimerPtr} {timer : Timer Callback}
    (found : (h.addTimer now timeoutMs timerCb callTimes).2.live ptr = some timer) :
    ptr = h.nextPtr ∧ timer = (Timer.create (nextTimerId h.timerId) (now.add (max 0 timeoutMs))
        (max 0 timeoutMs) timerCb callTimes).unplaced ∨ h.live ptr = some timer := by
  obtain ⟨-, -, outcome⟩ := indexed.addTimer now timeoutMs timerCb callTimes
  obtain ⟨-, live, -⟩ | ⟨-, -, -, live⟩ := outcome
  · exact .inr (live ▸ found)
  · rw [live] at found
    by_cases here : ptr = h.nextPtr
    · simp only [here, if_true, Option.some.injEq] at found
      exact .inl ⟨here, found.symm⟩
    · simp only [here, if_false] at found
      exact .inr found

theorem Indexed.removeTimer_live (indexed : Indexed h) {timerId : TimerId} {ptr : TimerPtr}
    {timer : Timer Callback} (found : (h.removeTimer timerId).live ptr = some timer) :
    h.live ptr = some timer ∧ timer.timerId ≠ timerId := by
  obtain ⟨-, absent, present⟩ := indexed.removeTimer timerId
  have mapped := indexed.mapped timerId ptr
  cases known : h.timerMap timerId with
  | none =>
      rw [absent known] at found
      refine ⟨found, ?_⟩
      intro same
      rw [known] at mapped
      cases mapped.mpr ⟨timer, found, same⟩
  | some holder =>
      obtain ⟨-, -, live, -⟩ := present holder known
      rw [live] at found
      by_cases here : ptr = holder
      · simp only [here, if_true] at found
        cases found
      · simp only [here, if_false] at found
        refine ⟨found, fun same => here ?_⟩
        rw [known] at mapped
        exact (Option.some.inj (mapped.mpr ⟨timer, found, same⟩)).symm

theorem rearmed_cases {before after : TimerPtr → Option (Timer Callback)} {ptr other : TimerPtr}
    {timer otherTimer : Timer Callback}
    (rearmed : after = fun other =>
      if other = ptr then if timer.callTimes = 1 then none else some timer.rearm else before other)
    (found : after other = some otherTimer) :
    other = ptr ∧ timer.callTimes ≠ 1 ∧ otherTimer = timer.rearm ∨
      other ≠ ptr ∧ before other = some otherTimer := by
  rw [rearmed] at found
  by_cases here : other = ptr
  · by_cases last : timer.callTimes = 1
    · simp [here, last] at found
    · simp only [here, last, if_true, if_false, Option.some.injEq] at found
      exact .inl ⟨here, last, found.symm⟩
  · simp only [here, if_false] at found
    exact .inr ⟨here, found⟩

end Operations

end ZBlueNet.TimerHeap
