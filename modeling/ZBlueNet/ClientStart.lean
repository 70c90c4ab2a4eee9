import ZBlueNet.MessageQueue

/-!
`TcpClient::start` and the thread it starts: the commands of the network thread go to a
queue whose pipe is opened only afterwards. Until then `SelfPipe::write` has no
descriptor to write to.
-/

namespace ZBlueNet

open Runs

inductive StartPhase
  | constructed
  | clientCreated
  | callbackSet
  | pipeOpened
  | queueAttached
  | returned
deriving DecidableEq, Repr

structure ClientStart (Thread T : Type) where
  run : QueueRun Thread T
  phase : StartPhase
  pipeOpen : Bool
  attached : Bool

/-- `openPipe` and `attachIOService` are the halves of `MessageQueue::attach`, with their results;
the events of the queue are those of all threads. -/
inductive StartEvent (Thread T : Type)
  | createClient
  | setRecvMessageCallback
  | openPipe (opened : Bool)
  | attachIOService (attached : Bool)
  | returned
  | queue (event : QueueEvent Thread T)

namespace ClientStart

variable {Thread T : Type}

def start : ClientStart Thread T :=
  { run := .start, phase := .constructed, pipeOpen := false, attached := false }

/-- The network thread runs once the client is created; the main loop runs behind `start`, and sees
a pipe that is attached. -/
def possible (s : ClientStart Thread T) : QueueEvent Thread T → Bool
  | .enqueue _ _ => s.phase ≠ .constructed
  | .pipeWrite _ => true
  | .wake | .pipeRead | .pop | .processed => s.phase = .returned ∧ s.attached

/-- `write` to a pipe that is not open leaves no byte. -/
def pipeCapacity (capacity : Nat) (s : ClientStart Thread T) : Nat :=
  if s.pipeOpen then capacity else 0

def step [DecidableEq Thread] (capacity : Nat) (s : ClientStart Thread T) :
    StartEvent Thread T → Option (ClientStart Thread T)
  | .createClient =>
      if s.phase = .constructed then some { s with phase := .clientCreated } else none
  | .setRecvMessageCallback =>
      if s.phase = .clientCreated then some { s with phase := .callbackSet } else none
  | .openPipe opened =>
      if s.phase = .callbackSet then
        some { s with phase := .pipeOpened, pipeOpen := opened, attached := false }
      else none
  | .attachIOService attached =>
      if s.phase = .pipeOpened then
        some { s with phase := .queueAttached, attached := s.pipeOpen && attached }
      else none
  | .returned =>
      if s.phase = .queueAttached then some { s with phase := .returned } else none
  | .queue event =>
      if s.possible event then
        (s.run.step .tcpClient (s.pipeCapacity capacity) event).map fun next =>
          { s with run := next }
      else none

def Readable (s : ClientStart Thread T) : Prop :=
  s.pipeOpen = true ∧ s.attached = true ∧ 0 < s.run.messages.pipe

/-- Behind `start`, between pushes and outside the callback, waiting commands have a pipe that is
open, attached and readable. -/
def Awake (s : ClientStart Thread T) : Prop :=
  s.phase = .returned → (∀ thread, s.run.pushing thread = false) → s.run.consumer = .idle →
    s.run.messages.queue ≠ [] → s.Readable

def Covered (s : ClientStart Thread T) : Prop :=
  s.run.messages.queue = [] ∨ s.Readable ∨ ∃ thread, s.run.pushing thread = true

/-- When `start` returns, and when a batch ends at its limit, no command is left behind; and no push
ends behind `start` without an attached pipe. -/
def StartCovered (s : ClientStart Thread T) : StartEvent Thread T → Prop
  | .returned => s.phase = .queueAttached → s.run.consumer = .idle → s.Covered
  | .queue (.processed) => ∀ count, s.run.consumer = .processing count →
      count + 1 ≥ QueueReader.batchLimit .tcpClient → s.phase = .returned → s.attached = true →
        s.Covered
  | .queue (.pipeWrite thread) => s.run.pushing thread = true → s.phase = .returned →
      s.attached = true ∨ s.run.consumer ≠ .idle ∨ s.run.messages.queue = [] ∨
        ∃ other, other ≠ thread ∧ s.run.pushing other = true
  | _ => True

instance [Fintype Thread] : DecidablePred (Awake : ClientStart Thread T → Prop)
  | ⟨⟨messages, pushing, consumer⟩, phase, pipeOpen, attached⟩ =>
      inferInstanceAs (Decidable (phase = .returned → (∀ thread, pushing thread = false) →
        consumer = .idle → messages.queue ≠ [] →
          pipeOpen = true ∧ attached = true ∧ 0 < messages.pipe))

def AttachedOpen (s : ClientStart Thread T) : Prop := s.attached = true → s.pipeOpen = true

variable {s next : ClientStart Thread T} {capacity : Nat}

theorem awake_of_covered (covered : s.Covered) : Awake s := by
  intro _ settled _ waiting
  rcases covered with none | readable | ⟨thread, pushing⟩
  · exact absurd none waiting
  · exact readable
  · rw [settled thread] at pushing
    cases pushing

theorem covered_of_awake (awake : Awake s) (returned : s.phase = .returned)
    (idle : s.run.consumer = .idle) : s.Covered := by
  by_contra missed
  simp only [Covered, not_or, not_exists, Bool.not_eq_true] at missed
  obtain ⟨waiting, silent, settled⟩ := missed
  exact silent (awake returned settled idle waiting)

theorem awake_before (unfinished : s.phase ≠ .returned) : Awake s := by
  intro returned
  exact absurd returned unfinished

theorem awake_iff_run (returned : s.phase = .returned) (opened : s.pipeOpen = true)
    (attached : s.attached = true) : Awake s ↔ s.run.Awake := by
  constructor
  · intro awake settled idle waiting
    exact (awake returned settled idle waiting).2.2
  · intro awake _ settled idle waiting
    exact ⟨opened, attached, awake settled idle waiting⟩

variable [DecidableEq Thread]

theorem step_attachedOpen {event : StartEvent Thread T} (opened : AttachedOpen s)
    (taken : s.step capacity event = some next) : AttachedOpen next := by
  cases event with
  | queue event =>
      simp only [step, Option.ite_none_right_eq_some, Option.map_eq_some_iff] at taken
      obtain ⟨-, run, -, rfl⟩ := taken
      exact opened
  | attachIOService attached =>
      simp only [step, Option.ite_none_right_eq_some, Option.some.injEq] at taken
      obtain ⟨-, rfl⟩ := taken
      intro both
      exact (Bool.and_eq_true_iff.mp both).1
  | openPipe opens =>
      simp only [step, Option.ite_none_right_eq_some, Option.some.injEq] at taken
      obtain ⟨-, rfl⟩ := taken
      intro attached
      cases attached
  | createClient | setRecvMessageCallback | returned =>
      simp only [step, Option.ite_none_right_eq_some, Option.some.injEq] at taken
      obtain ⟨-, rfl⟩ := taken
      exact opened

theorem pipeWrite_awake_iff (positive : 0 < capacity) (opened : AttachedOpen s)
    {thread : Thread} (taken : s.step capacity (.queue (.pipeWrite thread)) = some next) :
    Awake next ↔ StartCovered s (.queue (.pipeWrite thread)) := by
  simp only [step, possible, if_true, Option.map_eq_some_iff, QueueRun.step,
    Option.ite_none_right_eq_some, Option.some.injEq] at taken
  obtain ⟨run, ⟨pushing, rfl⟩, rfl⟩ := taken
  have queue : (s.run.messages.pipeWrite (s.pipeCapacity capacity)).queue =
      s.run.messages.queue := by
    unfold MessageQueue.pipeWrite
    split <;> rfl
  cases attached : s.attached with
  | true =>
      have byte : 0 < (s.run.messages.pipeWrite (s.pipeCapacity capacity)).pipe := by
        apply QueueRun.pipeWrite_positive
        rw [pipeCapacity, opened attached]
        exact positive
      apply iff_of_true
      · exact awake_of_covered (.inr (.inl ⟨opened attached, rfl, byte⟩))
      · intro _ _
        exact .inl attached
  | false =>
      constructor
      · intro awake _ returned
        by_contra missed
        simp only [not_or, not_exists, not_and, not_not, Bool.not_eq_true] at missed
        obtain ⟨-, idle, waiting, others⟩ := missed
        have settled (other : Thread) : Function.update s.run.pushing thread false other = false := by
          by_cases same : other = thread
          · rw [same, Function.update_self]
          · rw [Function.update_of_ne same]
            exact others other same
        have readable := awake returned settled idle (by rw [queue]; exact waiting)
        cases readable.2.1
      · intro covered returned settled idle waiting
        rw [queue] at waiting
        rcases covered pushing returned with here | busy | none | ⟨other, different, late⟩
        · rw [attached] at here
          cases here
        · exact absurd idle busy
        · exact absurd none waiting
        · have done : Function.update s.run.pushing thread false other = false := settled other
          rw [Function.update_of_ne different, late] at done
          cases done

theorem reader_awake_iff (positive : 0 < capacity) (opened : AttachedOpen s)
    {event : QueueEvent Thread T} (possible : s.phase = .returned ∧ s.attached = true)
    {run : QueueRun Thread T}
    (taken : s.run.step .tcpClient (s.pipeCapacity capacity) event = some run) :
    Awake { s with run := run } ↔ s.run.LimitCovered .tcpClient event := by
  have pipe := opened possible.2
  have same : Awake { s with run := run } ↔ run.Awake := by
    apply awake_iff_run
    · exact possible.1
    · exact pipe
    · exact possible.2
  rw [same]
  apply QueueRun.step_awake_iff ?_ taken
  rw [pipeCapacity, pipe]
  exact positive

theorem step_awake_iff (positive : 0 < capacity) (opened : AttachedOpen s)
    {event : StartEvent Thread T} (taken : s.step capacity event = some next) :
    Awake next ↔ StartCovered s event := by
  cases event with
  | createClient | setRecvMessageCallback | openPipe | attachIOService =>
      simp only [step, Option.ite_none_right_eq_some, Option.some.injEq] at taken
      obtain ⟨-, rfl⟩ := taken
      refine iff_of_true (awake_before ?_) trivial
      intro returned
      cases returned
  | returned =>
      simp only [step, Option.ite_none_right_eq_some, Option.some.injEq] at taken
      obtain ⟨phase, rfl⟩ := taken
      constructor
      · intro awake _ idle
        have covered := covered_of_awake awake rfl idle
        exact covered
      · intro covered returned settled idle waiting
        exact awake_of_covered (covered phase idle) returned settled idle waiting
  | queue event =>
      cases event with
      | pipeWrite thread => exact pipeWrite_awake_iff positive opened taken
      | enqueue thread item =>
          simp only [step, Option.ite_none_right_eq_some, Option.map_eq_some_iff, QueueRun.step,
            Option.ite_none_left_eq_some, Option.some.injEq] at taken
          obtain ⟨-, run, ⟨-, rfl⟩, rfl⟩ := taken
          exact iff_of_true (awake_of_covered (.inr (.inr ⟨thread, Function.update_self ..⟩)))
            trivial
      | wake | pipeRead | pop =>
          simp only [step, possible, Option.ite_none_right_eq_some, Option.map_eq_some_iff,
            decide_eq_true_eq] at taken
          obtain ⟨running, run, stepped, rfl⟩ := taken
          exact reader_awake_iff positive opened running stepped
      | processed =>
          simp only [step, possible, Option.ite_none_right_eq_some, Option.map_eq_some_iff,
            decide_eq_true_eq] at taken
          obtain ⟨running, run, stepped, rfl⟩ := taken
          rw [reader_awake_iff positive opened running stepped]
          constructor
          · intro covered count processing limit _ _
            rcases covered count processing limit with none | byte | late
            · exact .inl none
            · exact .inr (.inl ⟨opened running.2, running.2, byte⟩)
            · exact .inr (.inr late)
          · intro covered count processing limit
            rcases covered count processing limit running.1 running.2 with none | readable | late
            · exact .inl none
            · exact .inr (.inl readable.2.2)
            · exact .inr (.inr late)

theorem stuck_covered {event : StartEvent Thread T} (stuck : s.step capacity event = none) :
    StartCovered s event := by
  cases event with
  | createClient | setRecvMessageCallback | openPipe | attachIOService => trivial
  | returned =>
      intro phase
      simp [step, phase] at stuck
  | queue event =>
      cases event with
      | enqueue | wake | pipeRead | pop => trivial
      | pipeWrite thread =>
          intro pushing
          simp [step, possible, QueueRun.step, pushing] at stuck
      | processed =>
          intro count processing limit returned attached
          simp [step, possible, QueueRun.step, returned, attached, processing, limit] at stuck

/-- Once `start` has returned no command is stranded, exactly as long as every one that came too early
for the pipe, or is left by a full batch, has a later wake-up. -/
theorem startedAwake_every_iff (positive : 0 < capacity) (events : List (StartEvent Thread T)) :
    Every (step capacity) Awake start events ↔
      Along (step capacity) StartCovered start events := by
  have closed : AttachedOpen (start : ClientStart Thread T) := by
    intro attached
    cases attached
  have early : Awake (start : ClientStart Thread T) := by
    apply awake_before
    intro returned
    cases returned
  have preserved {s next : ClientStart Thread T} {event : StartEvent Thread T}
      (opened : AttachedOpen s)
      (_ : (fun _ _ => True : ClientStart Thread T → StartEvent Thread T → Prop) s event)
      (taken : s.step capacity event = some next) : AttachedOpen next :=
    step_attachedOpen opened taken
  apply every_iff_along preserved ?_ ?_ closed early (along_always start events)
  · intro s event next opened _ _ taken
    exact step_awake_iff positive opened taken
  · intro s event stuck
    exact stuck_covered stuck

def earlyConnect : List (StartEvent Unit Nat) :=
  [.createClient, .queue (.enqueue () 0), .queue (.pipeWrite ()), .setRecvMessageCallback,
    .openPipe true, .attachIOService true, .returned]

theorem earlyConnect_strands : ¬Every (step 65536) Awake start earlyConnect := by
  decide +kernel

theorem startedAwake_every_iff_lateConnect :
    Every (step 65536) Awake (start : ClientStart Unit Nat)
        [.createClient, .setRecvMessageCallback, .openPipe true, .queue (.enqueue () 0),
          .queue (.pipeWrite ()), .attachIOService true, .returned, .queue .wake] ↔
      Along (step 65536) StartCovered (start : ClientStart Unit Nat)
        [.createClient, .setRecvMessageCallback, .openPipe true, .queue (.enqueue () 0),
          .queue (.pipeWrite ()), .attachIOService true, .returned, .queue .wake] :=
  startedAwake_every_iff (by decide) _

end ClientStart

end ZBlueNet
