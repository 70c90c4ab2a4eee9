import Mathlib.Data.List.ReduceOption
import ZBlueNet.ConcurrentQueue
import ZBlueNet.DynamicBuffer
import ZBlueNet.Lib.Ownership
import ZBlueNet.ThreadClose

/-!
`LoggerAsyncSink`: threads that log fill buffers from a pool and push them, and the log thread
pops them, logs them and returns them to the pool. A step is what one thread does while it holds a
mutex, or a call on the buffer that it holds. The log thread is there if the constructor has
launched it.
-/

namespace ZBlueNet

open Runs Ownership ConditionVariable

inductive LogParty (Thread : Type)
  | caller (thread : Thread)
  | destructor
  | logThread
deriving DecidableEq, Repr

/-- Where a thread stands in its call of `LoggerAsyncSink::log`, with the bytes it was given. -/
inductive LogCall
  | outside
  | entered (bytes : List UInt8)
  | got (pointer : Pointer) (bytes : List UInt8)
  | reserved (pointer : Pointer) (bytes : List UInt8)
  | copied (pointer : Pointer) (bytes : List UInt8)
  | written (pointer : Pointer) (bytes : List UInt8)
deriving DecidableEq, Repr

namespace LogCall

def pointers : LogCall → List Pointer
  | .outside | .entered _ => []
  | .got pointer _ | .reserved pointer _ | .copied pointer _ | .written pointer _ => [pointer]

def bytes : LogCall → List (List UInt8)
  | .outside => []
  | .entered bytes | .got _ bytes | .reserved _ bytes | .copied _ bytes | .written _ bytes =>
      [bytes]

end LogCall

/-- Where the log thread stands in a turn of its loop, if it was launched. -/
inductive LogTurn
  | absent
  | popping
  | popped (pointer : Pointer)
  | logged (pointer : Pointer)
  | drained (pointer : Pointer)
  | ended
deriving DecidableEq, Repr

def LogTurn.pointers : LogTurn → List Pointer
  | .absent | .popping | .ended => []
  | .popped pointer | .logged pointer | .drained pointer => [pointer]

/-- The destructor pushes a null pointer, and `close` returns when the log thread has ended. -/
inductive LogClosing
  | running
  | pushing
  | pushed
  | closed
deriving DecidableEq, Repr

/-- `logged` has what the adapted sink's `log` was called with. `called` and `pushed` are the calls
in the order in which they began and in which their buffers were pushed. -/
structure LoggerAsyncSink (Thread : Type) where
  memory : Memory DynamicBuffer
  pool : List Pointer
  queue : ConcurrentQueue (LogParty Thread) (Option Pointer)
  calling : Thread → LogCall
  logTurn : LogTurn
  closing : LogClosing
  logged : List (List UInt8)
  called : List (Thread × List UInt8)
  pushed : List (Thread × List UInt8)

/-- `notified` is whom `notify_one` wakes. A thread that was woken tests its loop condition again
with the same step. -/
inductive LogEvent (Thread : Type)
  | call (thread : Thread) (bytes : List UInt8)
  | getObject (thread : Thread)
  | reserve (thread : Thread)
  | copy (thread : Thread)
  | write (thread : Thread)
  | push (thread : Thread) (notified : Option (LogParty Thread))
  | pop (notified : Option (LogParty Thread))
  | log
  | read
  | returnObject
  | destroy
  | pushNull (notified : Option (LogParty Thread))
  | close
  | spuriousNotFull (party : LogParty Thread)
  | spuriousNotEmpty (party : LogParty Thread)

namespace LoggerAsyncSink

variable {Thread : Type}

def callbacks : ThreadPhase → Option Unit
  | .onRun => some ()
  | .onCreate | .onDestroy => none

/-- The constructor of `Thread` leaves `is_run_` as the memory has it. -/
def start (queueSize : Nat) (isRun : Bool) : LoggerAsyncSink Thread :=
  let logThread : ZBlueNet.Thread Unit := { ZBlueNet.Thread.create with isRun := isRun }
  { memory := .empty
    pool := []
    queue := .create queueSize
    calling := fun _ => .outside
    logTurn := if (logThread.start callbacks).1.isEmpty then .absent else .popping
    closing := .running
    logged := []
    called := []
    pushed := [] }

theorem start_launched (queueSize : Nat) :
    (start queueSize false : LoggerAsyncSink Thread).logTurn = .popping := rfl

theorem start_refused (queueSize : Nat) :
    (start queueSize true : LoggerAsyncSink Thread).logTurn = .absent := rfl

section Steps

variable [DecidableEq Thread]

def setCalling (s : LoggerAsyncSink Thread) (thread : Thread) (phase : LogCall) :
    LoggerAsyncSink Thread :=
  { s with calling := Function.update s.calling thread phase }

/-- `ObjectPool::getObject`: the last of the pool, or a new buffer of the default size. -/
def getObject (s : LoggerAsyncSink Thread) : Pointer × LoggerAsyncSink Thread :=
  match s.pool.getLast? with
  | some pointer => (pointer, { s with pool := s.pool.dropLast })
  | none => (s.memory.next, { s with memory := s.memory.new (.create 1024 1024) })

def onBuffer (s : LoggerAsyncSink Thread) (pointer : Pointer)
    (change : DynamicBuffer → DynamicBuffer) : Option (LoggerAsyncSink Thread) :=
  (s.memory.objects pointer).map fun b => { s with memory := s.memory.set pointer (change b) }

def step (s : LoggerAsyncSink Thread) : LogEvent Thread → Option (LoggerAsyncSink Thread)
  | .call thread bytes =>
      match s.calling thread with
      | .outside =>
          some { s.setCalling thread (.entered bytes) with
            called := s.called ++ [(thread, bytes)] }
      | _ => none
  | .getObject thread =>
      match s.calling thread with
      | .entered bytes => some (s.getObject.2.setCalling thread (.got s.getObject.1 bytes))
      | _ => none
  | .reserve thread =>
      match s.calling thread with
      | .got pointer bytes =>
          (s.onBuffer pointer (·.reserveWritableBytes bytes.length)).map
            (·.setCalling thread (.reserved pointer bytes))
      | _ => none
  | .copy thread =>
      match s.calling thread with
      | .reserved pointer bytes =>
          (s.onBuffer pointer (·.store 0 bytes)).map
            (·.setCalling thread (.copied pointer bytes))
      | _ => none
  | .write thread =>
      match s.calling thread with
      | .copied pointer bytes =>
          (s.onBuffer pointer (·.write bytes.length)).map
            (·.setCalling thread (.written pointer bytes))
      | _ => none
  | .push thread notified =>
      match s.calling thread with
      | .written pointer bytes =>
          if .caller thread ∈ s.queue.notFullCond.waiting then none
          else
            (s.queue.push (.caller thread) (some pointer) notified).map fun queue =>
              if s.queue.fullNoLock then { s with queue := queue }
              else { s.setCalling thread .outside with
                queue := queue
                pushed := s.pushed ++ [(thread, bytes)] }
      | _ => none
  | .pop notified =>
      match s.logTurn with
      | .popping =>
          if .logThread ∈ s.queue.notEmptyCond.waiting then none
          else
            (s.queue.pop .logThread notified).map fun popped =>
              match popped.1 with
              | none => { s with queue := popped.2 }
              | some none => { s with queue := popped.2, logTurn := .ended }
              | some (some pointer) => { s with queue := popped.2, logTurn := .popped pointer }
      | _ => none
  | .log =>
      match s.logTurn with
      | .popped pointer =>
          (s.memory.objects pointer).map fun b =>
            { s with logTurn := .logged pointer, logged := s.logged ++ [b.content] }
      | _ => none
  | .read =>
      match s.logTurn with
      | .logged pointer =>
          (s.onBuffer pointer fun b => b.read b.readableBytes).map
            ({ · with logTurn := .drained pointer })
      | _ => none
  | .returnObject =>
      match s.logTurn with
      | .drained pointer => some { s with pool := s.pool ++ [pointer], logTurn := .popping }
      | _ => none
  | .destroy =>
      match s.closing with
      | .running => some { s with closing := .pushing }
      | _ => none
  | .pushNull notified =>
      match s.closing with
      | .pushing =>
          if .destructor ∈ s.queue.notFullCond.waiting then none
          else
            (s.queue.push .destructor none notified).map fun queue =>
              if s.queue.fullNoLock then { s with queue := queue }
              else { s with queue := queue, closing := .pushed }
      | _ => none
  | .close =>
      match s.closing, s.logTurn with
      | .pushed, .ended => some { s with closing := .closed }
      | _, _ => none
  | .spuriousNotFull party =>
      (s.queue.notFullCond.wake party).map fun cond =>
        { s with queue := { s.queue with notFullCond := cond } }
  | .spuriousNotEmpty party =>
      (s.queue.notEmptyCond.wake party).map fun cond =>
        { s with queue := { s.queue with notEmptyCond := cond } }

end Steps

/-- What the callers promise: no call while the sink is destroyed and none inside it then, and bytes
that are in memory. -/
def Promised (s : LoggerAsyncSink Thread) : LogEvent Thread → Prop
  | .call _ bytes => s.closing = .running ∧ bytes.length < 2 ^ 63
  | .destroy => ∀ thread, s.calling thread = .outside
  | _ => True

instance [Fintype Thread] (s : LoggerAsyncSink Thread) :
    ∀ event, Decidable (s.Promised event)
  | .call _ _ => inferInstanceAs (Decidable (_ ∧ _))
  | .destroy => inferInstanceAs (Decidable (∀ thread, s.calling thread = .outside))
  | .getObject _ | .reserve _ | .copy _ | .write _ | .push _ _ | .pop _ | .log | .read
  | .returnObject | .pushNull _ | .close | .spuriousNotFull _ | .spuriousNotEmpty _ =>
      .isTrue trivial

inductive Place (Thread : Type)
  | pool
  | caller (thread : Thread)
  | queue
  | logThread
deriving DecidableEq

def held (s : LoggerAsyncSink Thread) : Place Thread → List Pointer
  | .pool => s.pool
  | .caller thread => (s.calling thread).pointers
  | .queue => s.queue.queue.reduceOption
  | .logThread => s.logTurn.pointers

def ofThread [DecidableEq Thread] (thread : Thread) (calls : List (Thread × List UInt8)) :
    List (List UInt8) :=
  (calls.filter fun call => call.1 = thread).map Prod.snd

/-! What is in a buffer at each place. -/

structure Cleared (b : DynamicBuffer) : Prop where
  valid : b.Valid
  expandSize : b.expandSize = 1024
  readIndex : b.readIndex = 0
  writeIndex : b.writeIndex = 0

structure Sized (b : DynamicBuffer) : Prop where
  valid : b.Valid
  expandSize : b.expandSize = 1024

def Filled (bytes : List UInt8) (b : DynamicBuffer) : Prop := Sized b ∧ b.content = bytes

def Reserved (bytes : List UInt8) (b : DynamicBuffer) : Prop :=
  ∃ c, Cleared c ∧ b = c.reserveWritableBytes bytes.length

def Copied (bytes : List UInt8) (b : DynamicBuffer) : Prop :=
  ∃ c, Reserved bytes c ∧ b = c.store 0 bytes

variable {b : DynamicBuffer} {bytes : List UInt8}

theorem cleared_create : Cleared (.create 1024 1024) :=
  ⟨DynamicBuffer.create_valid _ _ (by decide) (by decide), rfl, rfl, rfl⟩

theorem Cleared.content (cleared : Cleared b) : b.content = [] := by
  rw [DynamicBuffer.content, cleared.writeIndex, List.take_zero, List.drop_nil]

theorem Cleared.grows (cleared : Cleared b) {size : Nat} (small : size < 2 ^ 63) :
    b.Grows size := by
  have bound := cleared.valid.sizeBound
  have modulus : sizeModulus = 2 ^ 64 := rfl
  have free : b.discardableBytes + b.writableBytes = b.buffer.length := by
    rw [DynamicBuffer.discardableBytes, DynamicBuffer.writableBytes, cleared.readIndex,
      cleared.writeIndex, Nat.zero_add, Nat.sub_zero]
  have quotient := Nat.mul_div_le (size - b.buffer.length) 1024
  rw [DynamicBuffer.Grows, DynamicBuffer.neededSize, cleared.expandSize, free,
    DynamicBuffer.capacity]
  split_ifs <;> omega

theorem Copied.write (copied : Copied bytes b) (small : bytes.length < 2 ^ 63) :
    Filled bytes (b.write bytes.length) := by
  obtain ⟨_, ⟨c, cleared, rfl⟩, rfl⟩ := copied
  have grows := cleared.grows small
  have written : ((c.reserveWritableBytes bytes.length).store 0 bytes).write bytes.length =
      c.append bytes := rfl
  rw [written]
  refine ⟨⟨cleared.valid.append bytes grows, ?_⟩, ?_⟩
  · rw [DynamicBuffer.append_expandSize, cleared.expandSize]
  · rw [cleared.valid.append_content bytes grows, cleared.content, List.nil_append]

theorem Sized.read (sized : Sized b) : Cleared (b.read b.readableBytes) := by
  have bound := sized.valid.readBound
  have emptied : b.read b.readableBytes = b.clear := by
    rw [DynamicBuffer.read, Nat.min_self]
    dsimp only
    rw [if_pos (by simp only [DynamicBuffer.readableBytes]; omega)]
    rfl
  rw [emptied]
  exact ⟨sized.valid.clear, sized.expandSize, rfl, rfl⟩

def Behind (memory : Memory DynamicBuffer) (pointer : Pointer) (fine : DynamicBuffer → Prop) :
    Prop :=
  ∃ b, memory.objects pointer = some b ∧ fine b

def CallFits (memory : Memory DynamicBuffer) : LogCall → Prop
  | .outside => True
  | .entered bytes => bytes.length < 2 ^ 63
  | .got pointer bytes => bytes.length < 2 ^ 63 ∧ Behind memory pointer Cleared
  | .reserved pointer bytes => bytes.length < 2 ^ 63 ∧ Behind memory pointer (Reserved bytes)
  | .copied pointer bytes => bytes.length < 2 ^ 63 ∧ Behind memory pointer (Copied bytes)
  | .written pointer bytes => Behind memory pointer (Filled bytes)

def TurnFits (memory : Memory DynamicBuffer) : LogTurn → Prop
  | .absent | .popping | .ended => True
  | .popped pointer | .logged pointer => Behind memory pointer Sized
  | .drained pointer => Behind memory pointer Cleared

def bytesAt (memory : Memory DynamicBuffer) (pointer : Pointer) : List UInt8 :=
  ((memory.objects pointer).map DynamicBuffer.content).getD []

/-- The buffers that are still to be logged, in order. -/
def ahead (s : LoggerAsyncSink Thread) : List Pointer :=
  match s.logTurn with
  | .popped pointer => pointer :: s.queue.queue.reduceOption
  | _ => s.queue.queue.reduceOption

structure Contents (s : LoggerAsyncSink Thread) : Prop where
  pool : ∀ pointer ∈ s.pool, Behind s.memory pointer Cleared
  calls : ∀ thread, CallFits s.memory (s.calling thread)
  turn : TurnFits s.memory s.logTurn
  ahead : ∀ pointer ∈ s.ahead, Behind s.memory pointer Sized
  order : s.logged ++ s.ahead.map (bytesAt s.memory) = s.pushed.map Prod.snd

variable {s next : LoggerAsyncSink Thread} {memory : Memory DynamicBuffer} {place : Place Thread}
  {queueSize : Nat} {thread : Thread} {pointer : Pointer}

def AgreesOff (s : LoggerAsyncSink Thread) (memory : Memory DynamicBuffer) (place : Place Thread) :
    Prop :=
  ∀ other ≠ place, ∀ pointer ∈ s.held other, memory.objects pointer = s.memory.objects pointer

theorem agreesOff_set (owned : Owned s.memory s.held) (member : pointer ∈ s.held place)
    (b : DynamicBuffer) : AgreesOff s (s.memory.set pointer b) place := by
  intro other apart any listed
  apply Function.update_of_ne
  rintro rfl
  exact apart (owned.apart other place any listed member)

theorem agreesOff_new (owned : Owned s.memory s.held) (b : DynamicBuffer)
    (place : Place Thread) : AgreesOff s (s.memory.new b) place := by
  intro other _ any listed
  apply Function.update_of_ne
  exact Nat.ne_of_lt (owned.lt_next listed)

theorem Behind.of_eq {fine : DynamicBuffer → Prop} {old : Memory DynamicBuffer}
    (behind : Behind old pointer fine) (same : memory.objects pointer = old.objects pointer) :
    Behind memory pointer fine := by
  rw [Behind, same]
  exact behind

theorem callFits_of_eq {old : Memory DynamicBuffer} {phase : LogCall} (fits : CallFits old phase)
    (same : ∀ pointer ∈ phase.pointers, memory.objects pointer = old.objects pointer) :
    CallFits memory phase := by
  cases phase with
  | outside | entered => exact fits
  | got pointer | reserved pointer | copied pointer =>
      exact ⟨fits.1, fits.2.of_eq (same pointer List.mem_cons_self)⟩
  | written pointer => exact Behind.of_eq fits (same pointer List.mem_cons_self)

theorem turnFits_of_eq {old : Memory DynamicBuffer} {turn : LogTurn} (fits : TurnFits old turn)
    (same : ∀ pointer ∈ turn.pointers, memory.objects pointer = old.objects pointer) :
    TurnFits memory turn := by
  cases turn with
  | absent | popping | ended => exact fits
  | popped pointer | logged pointer | drained pointer =>
      exact Behind.of_eq fits (same pointer List.mem_cons_self)

theorem ahead_subset (listed : pointer ∈ s.ahead) :
    pointer ∈ s.held .queue ∨ pointer ∈ s.held .logThread := by
  rw [ahead] at listed
  split at listed
  · rename_i popped turn
    rw [List.mem_cons] at listed
    refine listed.symm.imp_right fun here => ?_
    rw [held, turn, here]
    exact List.mem_cons_self
  · exact .inl listed

theorem Contents.of_same {other : LoggerAsyncSink Thread} (contents : Contents s)
    (memory : other.memory = s.memory) (pool : other.pool = s.pool)
    (calling : other.calling = s.calling) (turn : TurnFits s.memory other.logTurn)
    (ahead : other.ahead = s.ahead) (logged : other.logged = s.logged)
    (pushed : other.pushed = s.pushed) : Contents other := by
  constructor
  case pool =>
    rw [memory, pool]
    exact contents.pool
  case calls =>
    rw [memory, calling]
    exact contents.calls
  case turn => rwa [memory]
  case ahead =>
    rw [memory, ahead]
    exact contents.ahead
  case order =>
    rw [memory, ahead, logged, pushed]
    exact contents.order

section Off

variable (contents : Contents s) (agrees : AgreesOff s memory place)
include contents agrees

theorem Contents.pool_off (apart : Place.pool ≠ place) :
    ∀ pointer ∈ s.pool, Behind memory pointer Cleared := by
  intro pointer listed
  exact (contents.pool pointer listed).of_eq (agrees .pool apart pointer listed)

theorem Contents.calls_off (apart : Place.caller thread ≠ place) :
    CallFits memory (s.calling thread) :=
  callFits_of_eq (contents.calls thread) (agrees (.caller thread) apart)

theorem Contents.turn_off (apart : Place.logThread ≠ place) : TurnFits memory s.logTurn :=
  turnFits_of_eq contents.turn (agrees .logThread apart)

theorem Contents.ahead_off (queue : Place.queue ≠ place)
    (logThread : Place.logThread = place → ∀ pointer, s.logTurn ≠ .popped pointer) :
    (∀ pointer ∈ s.ahead, Behind memory pointer Sized) ∧
      s.ahead.map (bytesAt memory) = s.ahead.map (bytesAt s.memory) := by
  have same : ∀ pointer ∈ s.ahead, memory.objects pointer = s.memory.objects pointer := by
    intro pointer listed
    rcases ahead_subset listed with queued | taken
    · exact agrees .queue queue pointer queued
    · by_cases apart : Place.logThread = place
      · -- then nothing popped is ahead, and the pointer is in the queue
        have still := logThread apart
        rw [LoggerAsyncSink.ahead] at listed
        split at listed
        · rename_i popped turn
          exact absurd turn (still popped)
        · exact agrees .queue queue pointer listed
      · exact agrees .logThread apart pointer taken
  constructor
  · intro pointer listed
    exact (contents.ahead pointer listed).of_eq (same pointer listed)
  · apply List.map_congr_left
    intro pointer listed
    rw [bytesAt, bytesAt, same pointer listed]

end Off

theorem held_entered (entered : s.calling thread = .entered bytes) :
    s.held (.caller thread) = [] := by
  rw [held, entered]
  rfl

theorem Contents.entered_small (contents : Contents s)
    (entered : s.calling thread = .entered bytes) : bytes.length < 2 ^ 63 := by
  have fits := contents.calls thread
  rwa [entered] at fits

variable [DecidableEq Thread]

def Null (s : LoggerAsyncSink Thread) : Prop :=
  (s.closing = .pushed ∨ s.closing = .closed) ∧ s.logTurn ≠ .ended

/-- How far the threads have got with each other. -/
structure Protocol (queueSize : Nat) (s : LoggerAsyncSink Thread) : Prop where
  queue : s.queue.Sound queueSize
  items : ∃ pointers : List Pointer, s.Null ∧ s.queue.queue = pointers.map some ++ [none] ∨
    ¬ s.Null ∧ s.queue.queue = pointers.map some
  accounts : ∀ thread,
    ofThread thread s.pushed ++ (s.calling thread).bytes = ofThread thread s.called
  quiet : s.closing ≠ .running → ∀ thread, s.calling thread = .outside
  ended : s.logTurn = .ended →
    (s.closing = .pushed ∨ s.closing = .closed) ∧ s.queue.queue = []
  closed : s.closing = .closed → s.logTurn = .ended
  pushers : ∀ party, s.queue.notFullCond.Inside party → queueSize ≠ 0 ∧
    ((∃ thread pointer bytes,
        party = .caller thread ∧ s.calling thread = .written pointer bytes) ∨
      party = .destructor ∧ s.closing = .pushing)
  popper : ∀ party, s.queue.notEmptyCond.Inside party →
    party = .logThread ∧ s.logTurn = .popping
  launched : s.logTurn ≠ .absent

structure Formed (queueSize : Nat) (s : LoggerAsyncSink Thread) : Prop where
  owned : Owned s.memory s.held
  contents : Contents s
  protocol : Protocol queueSize s

theorem held_setCalling (phase : LogCall) (other : Place Thread) :
    (s.setCalling thread phase).held other =
      if other = .caller thread then phase.pointers else s.held other := by
  cases other with
  | caller other =>
      simp only [held, setCalling, Function.update_apply, Place.caller.injEq]
      split <;> rfl
  | pool | queue | logThread => rfl

theorem held_setCalling_same {phase : LogCall}
    (pointers : phase.pointers = (s.calling thread).pointers) :
    (s.setCalling thread phase).held = s.held := by
  funext other
  rw [held_setCalling]
  split
  · rename_i here
    rw [here, pointers]
    rfl
  · rfl

theorem callFits_update {calling : Thread → LogCall} {phase : LogCall}
    (fits : CallFits memory phase)
    (others : ∀ other ≠ thread, CallFits memory (calling other)) (other : Thread) :
    CallFits memory (Function.update calling thread phase other) := by
  by_cases same : other = thread
  · rw [same, Function.update_self]
    exact fits
  · rw [Function.update_of_ne same]
    exact others other same

omit [DecidableEq Thread] in
theorem caller_ne {other : Thread} (different : other ≠ thread) :
    Place.caller other ≠ Place.caller thread := by
  intro equal
  exact different (Place.caller.inj equal)

theorem Protocol.running_of_busy (protocol : Protocol queueSize s)
    (busy : s.calling thread ≠ .outside) : s.closing = .running := by
  by_contra closing
  exact busy (protocol.quiet closing thread)

theorem Protocol.setCalling (protocol : Protocol queueSize s) {phase : LogCall}
    {called : List (Thread × List UInt8)} (running : s.closing = .running)
    (unwritten : ∀ pointer bytes, s.calling thread ≠ .written pointer bytes)
    (accounts : ofThread thread s.pushed ++ phase.bytes = ofThread thread called)
    (others : ∀ other ≠ thread, ofThread other called = ofThread other s.called) :
    Protocol queueSize { s.setCalling thread phase with called := called } := by
  constructor
  case queue => exact protocol.queue
  case items => exact protocol.items
  case accounts =>
    intro other
    by_cases same : other = thread
    · rw [same]
      simpa only [LoggerAsyncSink.setCalling, Function.update_self] using accounts
    · rw [others other same]
      simpa only [LoggerAsyncSink.setCalling, Function.update_of_ne same] using
        protocol.accounts other
  case quiet => exact fun closing => absurd running closing
  case ended => exact protocol.ended
  case closed => exact protocol.closed
  case pushers =>
    intro party inside
    obtain ⟨bounded, known⟩ := protocol.pushers party inside
    refine ⟨bounded, known.imp_left ?_⟩
    rintro ⟨other, pointer, bytes, rfl, written⟩
    have apart : other ≠ thread := by
      rintro rfl
      exact unwritten pointer bytes written
    exact ⟨other, pointer, bytes, rfl, (Function.update_of_ne apart ..).trans written⟩
  case popper => exact protocol.popper
  case launched => exact protocol.launched

theorem Protocol.of_same {other : LoggerAsyncSink Thread} (protocol : Protocol queueSize s)
    (queue : other.queue = s.queue) (calling : other.calling = s.calling)
    (logTurn : other.logTurn = s.logTurn) (closing : other.closing = s.closing)
    (called : other.called = s.called) (pushed : other.pushed = s.pushed) :
    Protocol queueSize other := by
  obtain ⟨sound, items, accounts, quiet, ended, closed, pushers, popper, launched⟩ := protocol
  rw [Null] at items
  constructor
  all_goals simp only [Null, queue, calling, logTurn, closing, called, pushed] at *
  all_goals assumption

theorem Formed.onBuffer (formed : Formed queueSize s) {phase : LogCall} {b : DynamicBuffer}
    (old : (s.calling thread).pointers = [pointer]) (new : phase.pointers = [pointer])
    (bytes : phase.bytes = (s.calling thread).bytes)
    (unwritten : ∀ pointer bytes, s.calling thread ≠ .written pointer bytes)
    (fits : CallFits (s.memory.set pointer b) phase) :
    Formed queueSize ({ s with memory := s.memory.set pointer b }.setCalling thread phase) := by
  obtain ⟨owned, contents, protocol⟩ := formed
  have member : pointer ∈ s.held (.caller thread) := by
    rw [held, old]
    exact List.mem_singleton_self _
  have busy : s.calling thread ≠ .outside := by
    intro outside
    rw [outside] at old
    cases old
  have agrees := agreesOff_set owned member b
  constructor
  case owned =>
    have same : ({ s with memory := s.memory.set pointer b }.setCalling thread phase).held =
        s.held := held_setCalling_same (s := { s with memory := s.memory.set pointer b })
          (new.trans old.symm)
    rw [same]
    exact owned.set member b
  case contents =>
    obtain ⟨aheadFits, aheadSame⟩ := contents.ahead_off agrees (by simp) (by simp)
    constructor
    case pool => exact contents.pool_off agrees (by simp)
    case calls =>
      apply callFits_update fits
      intro other different
      exact contents.calls_off agrees (caller_ne different)
    case turn => exact contents.turn_off agrees (by simp)
    case ahead => exact aheadFits
    case order => exact (congrArg (s.logged ++ ·) aheadSame).trans contents.order
  case protocol =>
    have accounts : ofThread thread s.pushed ++ phase.bytes = ofThread thread s.called := by
      rw [bytes]
      exact protocol.accounts thread
    have kept := protocol.setCalling (protocol.running_of_busy busy) unwritten accounts
      fun other _ => rfl
    exact kept.of_same rfl rfl rfl rfl rfl rfl

theorem ofThread_append (thread other : Thread) (calls : List (Thread × List UInt8))
    (bytes : List UInt8) :
    ofThread thread (calls ++ [(other, bytes)]) =
      ofThread thread calls ++ if other = thread then [bytes] else [] := by
  by_cases same : other = thread
  · simp [ofThread, List.filter_append, same]
  · simp [ofThread, List.filter_append, same]

theorem Formed.call (formed : Formed queueSize s) (outside : s.calling thread = .outside)
    (running : s.closing = .running) (small : bytes.length < 2 ^ 63) :
    Formed queueSize { s.setCalling thread (.entered bytes) with
      called := s.called ++ [(thread, bytes)] } := by
  obtain ⟨owned, contents, protocol⟩ := formed
  constructor
  case owned =>
    have same : (s.setCalling thread (.entered bytes)).held = s.held :=
      held_setCalling_same (by rw [outside]; rfl)
    exact owned.same same
  case contents =>
    obtain ⟨pool, calls, turn, aheadFits, order⟩ := contents
    refine ⟨pool, ?_, turn, aheadFits, order⟩
    exact callFits_update small fun other _ => calls other
  case protocol =>
    apply protocol.setCalling running
    · intro pointer bytes written
      rw [outside] at written
      cases written
    · have accounts := protocol.accounts thread
      rw [outside] at accounts
      rw [ofThread_append, if_pos rfl, ← accounts]
      simp [LogCall.bytes]
    · intro other apart
      rw [ofThread_append, if_neg (Ne.symm apart), List.append_nil]

section Got

variable (entered : s.calling thread = .entered bytes)
include entered

theorem Protocol.got (protocol : Protocol queueSize s) (pointer : Pointer) :
    Protocol queueSize { s.setCalling thread (.got pointer bytes) with called := s.called } := by
  have busy : s.calling thread ≠ .outside := by
    rw [entered]
    simp
  apply protocol.setCalling (protocol.running_of_busy busy)
  · rw [entered]
    simp
  · rw [← protocol.accounts thread, entered]
    rfl
  · exact fun _ _ => rfl

theorem Formed.takePooled (formed : Formed queueSize s) {rest : List Pointer}
    (pool : s.pool = rest ++ [pointer]) :
    Formed queueSize ({ s with pool := rest }.setCalling thread (.got pointer bytes)) := by
  obtain ⟨owned, contents, protocol⟩ := formed
  have small := contents.entered_small entered
  have cleared := contents.pool pointer (by simp [pool])
  constructor
  case owned =>
    have between : (Place.pool : Place Thread) ≠ .caller thread := by simp
    apply owned.moveLast between pool
    · rfl
    · rw [held_setCalling, if_pos rfl, held_entered entered]
      rfl
    · intro other source goal
      rw [held_setCalling, if_neg goal]
      cases other with
      | pool => exact absurd rfl source
      | caller | queue | logThread => rfl
  case contents =>
    obtain ⟨pooled, calls, turn, aheadFits, order⟩ := contents
    refine ⟨?_, ?_, turn, aheadFits, order⟩
    · intro other listed
      apply pooled
      rw [pool]
      exact List.mem_append_left _ listed
    · have fits : CallFits s.memory (.got pointer bytes) := ⟨small, cleared⟩
      exact callFits_update fits fun other _ => calls other
  case protocol => exact (protocol.got entered pointer).of_same rfl rfl rfl rfl rfl rfl

theorem Formed.makeNew (formed : Formed queueSize s) :
    Formed queueSize ({ s with memory := s.memory.new (.create 1024 1024) }.setCalling thread
      (.got s.memory.next bytes)) := by
  obtain ⟨owned, contents, protocol⟩ := formed
  have small := contents.entered_small entered
  have cleared : Behind (s.memory.new (.create 1024 1024)) s.memory.next Cleared :=
    ⟨_, Function.update_self .., cleared_create⟩
  have agrees := agreesOff_new owned (.create 1024 1024) (.caller thread)
  constructor
  case owned =>
    have here : ({ s with memory := s.memory.new (.create 1024 1024) }.setCalling thread
        (.got s.memory.next bytes)).held (.caller thread) =
          s.held (.caller thread) ++ [s.memory.next] := by
      rw [held_setCalling, if_pos rfl, held_entered entered]
      rfl
    apply owned.new (.create 1024 1024) here
    intro other goal
    rw [held_setCalling, if_neg goal]
    cases other <;> rfl
  case contents =>
    obtain ⟨aheadFits, aheadSame⟩ := contents.ahead_off agrees (by simp) (by simp)
    constructor
    case pool => exact contents.pool_off agrees (by simp)
    case calls =>
      have fits : CallFits (s.memory.new (.create 1024 1024)) (.got s.memory.next bytes) :=
        ⟨small, cleared⟩
      apply callFits_update fits
      intro other different
      exact contents.calls_off agrees (caller_ne different)
    case turn => exact contents.turn_off agrees (by simp)
    case ahead => exact aheadFits
    case order => exact (congrArg (s.logged ++ ·) aheadSame).trans contents.order
  case protocol => exact (protocol.got entered s.memory.next).of_same rfl rfl rfl rfl rfl rfl

theorem Formed.getObject (formed : Formed queueSize s) :
    Formed queueSize (s.getObject.2.setCalling thread (.got s.getObject.1 bytes)) := by
  rw [LoggerAsyncSink.getObject]
  split
  next pointer last =>
      obtain ⟨rest, pool⟩ := List.getLast?_eq_some_iff.mp last
      have fewer : s.pool.dropLast = rest := by rw [pool, List.dropLast_concat]
      rw [fewer]
      exact formed.takePooled entered pool
  next => exact formed.makeNew entered

end Got

end LoggerAsyncSink

end ZBlueNet
