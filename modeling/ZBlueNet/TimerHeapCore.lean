import ZBlueNet.Timestamp
import Mathlib.Tactic.Ring

/-!
The timers of `timer_heap.cc`. Timers live behind pointers: the index maps ids to
pointers, the heap is an array of pointers whose slot 0 is empty, and every timer
stores its own position in the heap. One turn of `checkTimeout` runs up to the call
of the timer's callback.
-/

namespace ZBlueNet

abbrev TimerId := Int

abbrev TimerPtr := Nat

structure Timer (Callback : Type) where
  timerId : TimerId
  value : Timestamp
  timeoutMillisec : Int
  timerCb : Callback
  callTimes : Int
  heapPos : Int
deriving DecidableEq, Repr

def Timer.create {Callback : Type} (timerId : TimerId) (timestamp : Timestamp)
    (timeoutMillisec : Int) (timerCb : Callback) (callTimes : Int) : Timer Callback :=
  { timerId := timerId
    value := timestamp
    timeoutMillisec := timeoutMillisec
    timerCb := timerCb
    callTimes := callTimes
    heapPos := -1 }

def Timer.rearm {Callback : Type} (timer : Timer Callback) : Timer Callback :=
  { timer with
    callTimes := if timer.callTimes > 0 then timer.callTimes - 1 else timer.callTimes
    value := timer.value.add timer.timeoutMillisec }

def Timer.unplaced {Callback : Type} (timer : Timer Callback) : Timer Callback :=
  { timer with heapPos := 0 }

structure TimerHeap (Callback : Type) where
  timerId : TimerId
  timers : TimerPtr → Option (Timer Callback)
  nextPtr : TimerPtr
  timerMap : TimerId → Option TimerPtr
  timerMinHeap : Array TimerPtr

structure Firing (Callback : Type) where
  timerId : TimerId
  timerCb : Callback
  deadline : Timestamp
deriving DecidableEq, Repr

/-- `TimerIdAllocator::nextId`, the increment in two's complement. -/
def nextTimerId (timerId : TimerId) : TimerId :=
  let next := Int.bmod (timerId + 1) (2 ^ 64)
  if next < 0 then 0 else next

namespace TimerHeap

variable {Callback : Type}

def empty : TimerHeap Callback :=
  { timerId := 0
    timers := fun _ => none
    nextPtr := 1
    timerMap := fun _ => none
    timerMinHeap := #[0] }

def slot (h : TimerHeap Callback) (index : Nat) : TimerPtr := h.timerMinHeap.getD index 0

def setSlot (h : TimerHeap Callback) (index : Nat) (ptr : TimerPtr) : TimerHeap Callback :=
  { h with timerMinHeap := h.timerMinHeap.setIfInBounds index ptr }

def modify (h : TimerHeap Callback) (ptr : TimerPtr) (change : Timer Callback → Timer Callback) :
    TimerHeap Callback :=
  { h with timers := fun other => if other = ptr then (h.timers ptr).map change else h.timers other }

def setHeapPos (h : TimerHeap Callback) (ptr : TimerPtr) (heapPos : Int) : TimerHeap Callback :=
  h.modify ptr fun timer => { timer with heapPos := heapPos }

def valueOf (h : TimerHeap Callback) (ptr : TimerPtr) : Timestamp :=
  ((h.timers ptr).map Timer.value).getD ⟨0, 0⟩

def valueAt (h : TimerHeap Callback) (index : Nat) : Timestamp := h.valueOf (h.slot index)

/-- The three statements with which both sifting loops exchange two slots. -/
def swapSlots (h : TimerHeap Callback) (upper lower : Nat) : TimerHeap Callback :=
  let marked := (h.setHeapPos (h.slot upper) lower).setHeapPos (h.slot lower) upper
  (marked.setSlot upper (h.slot lower)).setSlot lower (h.slot upper)

def siftUp : Nat → TimerHeap Callback → Nat → TimerHeap Callback
  | 0, h, _ => h
  | fuel + 1, h, curIndex =>
      let parentIndex := curIndex / 2
      if parentIndex = 0 then h
      else if (h.valueAt parentIndex).less (h.valueAt curIndex) then h
      else siftUp fuel (h.swapSlots parentIndex curIndex) parentIndex

def lesserChild (h : TimerHeap Callback) (curIndex : Nat) : Nat :=
  let childIndex := curIndex * 2
  if childIndex + 1 < h.timerMinHeap.size ∧
      (h.valueAt (childIndex + 1)).less (h.valueAt childIndex) then childIndex + 1
  else childIndex

def siftDown : Nat → TimerHeap Callback → Nat → TimerHeap Callback
  | 0, h, _ => h
  | fuel + 1, h, curIndex =>
      if curIndex * 2 ≥ h.timerMinHeap.size then h
      else
        let childIndex := h.lesserChild curIndex
        if (h.valueAt curIndex).less (h.valueAt childIndex) then h
        else siftDown fuel (h.swapSlots curIndex childIndex) childIndex

def minHeapInsert (h : TimerHeap Callback) (ptr : TimerPtr) : TimerHeap Callback :=
  let curIndex := h.timerMinHeap.size
  let pushed := { h with timerMinHeap := h.timerMinHeap.push ptr }
  siftUp curIndex (pushed.setHeapPos ptr curIndex) curIndex

/-- `minHeapErase` up to its loop: the last slot replaces the timer's. -/
def replaceByLast (h : TimerHeap Callback) (ptr : TimerPtr) (curIndex : Nat) :
    TimerHeap Callback :=
  let last := h.slot (h.timerMinHeap.size - 1)
  let moved := ((h.setHeapPos ptr (-1)).setSlot curIndex last).setHeapPos last curIndex
  { moved with timerMinHeap := moved.timerMinHeap.pop }

def minHeapErase (h : TimerHeap Callback) (ptr : TimerPtr) : TimerHeap Callback :=
  match h.timers ptr with
  | none => h
  | some timer =>
      if timer.heapPos < 0 then h
      else
        let curIndex := timer.heapPos.toNat
        siftDown h.timerMinHeap.size (h.replaceByLast ptr curIndex) curIndex

def minHeapTop (h : TimerHeap Callback) : Option TimerPtr :=
  if h.timerMinHeap.size ≤ 1 then none else some (h.slot 1)

def deleteTimer (h : TimerHeap Callback) (timerId : TimerId) (ptr : TimerPtr) :
    TimerHeap Callback :=
  { h with
    timerMap := fun other => if other = timerId then none else h.timerMap other
    timers := fun other => if other = ptr then none else h.timers other }

def getNextTimeoutMillisecond (h : TimerHeap Callback) (now : Timestamp) : Int :=
  match h.minHeapTop with
  | none => -1
  | some ptr =>
      if (h.valueOf ptr).less now then -1 else now.distanceMillisecond (h.valueOf ptr)

def addTimer (h : TimerHeap Callback) (now : Timestamp) (timeoutMs : Int) (timerCb : Callback)
    (callTimes : Int := -1) : TimerId × TimerHeap Callback :=
  let timerId := nextTimerId h.timerId
  let timeout := max 0 timeoutMs
  match h.timerMap timerId with
  | some _ => (-1, { h with timerId := timerId })
  | none =>
      let ptr := h.nextPtr
      let timer := Timer.create timerId (now.add timeout) timeout timerCb callTimes
      let stored :=
        { h with
          timerId := timerId
          nextPtr := ptr + 1
          timerMap := fun other => if other = timerId then some ptr else h.timerMap other
          timers := fun other => if other = ptr then some timer else h.timers other }
      (timerId, stored.minHeapInsert ptr)

def removeTimer (h : TimerHeap Callback) (timerId : TimerId) : TimerHeap Callback :=
  match h.timerMap timerId with
  | none => h
  | some ptr => (h.minHeapErase ptr).deleteTimer timerId ptr

/-- One turn of the loop of `checkTimeout` up to the callback; `none` where it returns. -/
def checkTurn (h : TimerHeap Callback) (now : Timestamp) :
    Option (Firing Callback × TimerHeap Callback) :=
  match h.minHeapTop with
  | none => none
  | some ptr =>
      match h.timers ptr with
      | none => none
      | some timer =>
          if now.millisecondLess timer.value then none
          else
            let erased := h.minHeapErase ptr
            some (⟨timer.timerId, timer.timerCb, timer.value⟩,
              if timer.callTimes = 1 then erased.deleteTimer timer.timerId ptr
              else (erased.modify ptr Timer.rearm).minHeapInsert ptr)

/-- `checkTimeout` with callbacks that leave the heap alone: the callbacks called, in order. -/
def checkTimeout : Nat → TimerHeap Callback → Timestamp →
    Option (List (Firing Callback) × TimerHeap Callback)
  | 0, _, _ => none
  | fuel + 1, h, now =>
      match h.checkTurn now with
      | none => some ([], h)
      | some (firing, next) =>
          (checkTimeout fuel next now).map fun result => (firing :: result.1, result.2)

end TimerHeap

/-- A timer heap in use. While a call of `checkTimeout` waits for a callback to return, `checking`
holds its argument; `fired` lists the callbacks called so far. -/
structure TimerCalls (Callback : Type) where
  heap : TimerHeap Callback
  checking : Option Timestamp
  fired : List (Firing Callback)

inductive TimerEvent (Callback : Type)
  | addTimer (now : Timestamp) (timeoutMs : Int) (timerCb : Callback) (callTimes : Int)
  | removeTimer (timerId : TimerId)
  | checkTimeout (now : Timestamp)
  | callbackReturns
deriving DecidableEq, Repr

namespace TimerCalls

variable {Callback : Type}

def start : TimerCalls Callback := { heap := .empty, checking := none, fired := [] }

/-- `checkTimeout` from the head of its loop to its next callback, or to its return. -/
def turn (calls : TimerCalls Callback) (now : Timestamp) : TimerCalls Callback :=
  match calls.heap.checkTurn now with
  | none => { calls with checking := none }
  | some (firing, heap) =>
      { heap := heap, checking := some now, fired := calls.fired ++ [firing] }

def step (calls : TimerCalls Callback) : TimerEvent Callback → Option (TimerCalls Callback)
  | .addTimer now timeoutMs timerCb callTimes =>
      some { calls with heap := (calls.heap.addTimer now timeoutMs timerCb callTimes).2 }
  | .removeTimer timerId => some { calls with heap := calls.heap.removeTimer timerId }
  | .checkTimeout now =>
      match calls.checking with
      | none => some (calls.turn now)
      | some _ => none
  | .callbackReturns =>
      match calls.checking with
      | none => none
      | some now => some (calls.turn now)

def checkedAt (calls : TimerCalls Callback) : TimerEvent Callback → Option Timestamp
  | .checkTimeout now => some now
  | .callbackReturns => calls.checking
  | _ => none

end TimerCalls

end ZBlueNet
