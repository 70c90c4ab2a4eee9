import ZBlueNet.Lib.Runs
import Mathlib.Order.Lattice
import Mathlib.Data.Fintype.Basic

/-!
`message_queue.h`: a queue of commands and a pipe that wakes its reader. `push` has
two steps and any number of threads; the reader drains the pipe and then takes at
most a batch of commands. The steps of all threads interleave.
-/

namespace ZBlueNet

open Runs

structure MessageQueue (T : Type) where
  queue : List T
  pipe : Nat
deriving DecidableEq, Repr

namespace MessageQueue

variable {T : Type}

def empty : MessageQueue T := { queue := [], pipe := 0 }

/-- The first half of `push`. -/
def enqueue (q : MessageQueue T) (item : T) : MessageQueue T :=
  { q with queue := q.queue ++ [item] }

def pipeWrite (capacity : Nat) (q : MessageQueue T) : MessageQueue T :=
  if q.pipe < capacity then { q with pipe := q.pipe + 1 } else q

def push (capacity : Nat) (q : MessageQueue T) (item : T) : MessageQueue T :=
  (q.enqueue item).pipeWrite capacity

def pop (q : MessageQueue T) : Option (T × MessageQueue T) :=
  match q.queue with
  | [] => none
  | item :: rest => some (item, { q with queue := rest })

/-- One `pipe_.read(buffer, 1024)`; zero stands for `EAGAIN`. -/
def pipeRead (q : MessageQueue T) : Nat × MessageQueue T :=
  (min 1024 q.pipe, { q with pipe := q.pipe - min 1024 q.pipe })

theorem pop_some {q : MessageQueue T} {popped : T × MessageQueue T} (taken : q.pop = some popped) :
    q.queue = popped.1 :: popped.2.queue := by
  simp only [pop] at taken
  split at taken
  · cases taken
  · rename_i front
    cases taken
    exact front

theorem pop_none {q : MessageQueue T} (nothing : q.pop = none) : q.queue = [] := by
  simp only [pop] at nothing
  split at nothing
  · assumption
  · cases nothing

theorem push_queue (capacity : Nat) (q : MessageQueue T) (item : T) :
    (q.push capacity item).queue = q.queue ++ [item] := by
  rw [push, pipeWrite]
  split <;> rfl

end MessageQueue

/-- The owner of the callback: `onClientNetCommandQueueRead` exists twice. -/
inductive QueueReader
  | tcpService
  | tcpClient
deriving DecidableEq, Repr

def QueueReader.batchLimit : QueueReader → Nat
  | .tcpService => 100
  | .tcpClient => 100

/-- `onClientNetCommandQueueRead` without other threads: what it processes and what it leaves. -/
def onClientNetCommandQueueRead {T : Type} (reader : QueueReader) : Nat → List T → List T × List T
  | _, [] => ([], [])
  | count, item :: rest =>
      if count + 1 ≥ reader.batchLimit then ([item], rest)
      else
        let later := onClientNetCommandQueueRead reader (count + 1) rest
        (item :: later.1, later.2)

inductive Consumer
  | idle
  | draining
  | popping (count : Nat)
  | processing (count : Nat)
deriving DecidableEq, Repr

/-- The queue, the threads between the halves of `push`, and the reader. -/
structure QueueRun (Thread T : Type) where
  messages : MessageQueue T
  pushing : Thread → Bool
  consumer : Consumer

inductive QueueEvent (Thread T : Type)
  | enqueue (thread : Thread) (item : T)
  | pipeWrite (thread : Thread)
  | wake
  | pipeRead
  | pop
  | processed
deriving DecidableEq, Repr

namespace QueueRun

variable {Thread T : Type} {s : QueueRun Thread T}

def start : QueueRun Thread T :=
  { messages := .empty, pushing := fun _ => false, consumer := .idle }

/-- Between pushes and outside the callback, waiting commands have a byte in the pipe. -/
def Awake (s : QueueRun Thread T) : Prop :=
  (∀ thread, s.pushing thread = false) → s.consumer = .idle →
    s.messages.queue ≠ [] → 0 < s.messages.pipe

instance [Fintype Thread] : DecidablePred (Awake : QueueRun Thread T → Prop)
  | ⟨messages, pushing, consumer⟩ =>
      inferInstanceAs (Decidable ((∀ thread, pushing thread = false) → consumer = .idle →
        messages.queue ≠ [] → 0 < messages.pipe))

theorem awake_of_pushing {thread : Thread} (pushing : s.pushing thread = true) : Awake s := by
  intro settled
  rw [settled thread] at pushing
  cases pushing

theorem awake_of_busy (busy : s.consumer ≠ .idle) : Awake s := by
  intro _ idle
  exact absurd idle busy

theorem awake_of_byte (byte : 0 < s.messages.pipe) : Awake s := by
  intro _ _ _
  exact byte

variable [DecidableEq Thread]

def step (reader : QueueReader) (capacity : Nat) (s : QueueRun Thread T) :
    QueueEvent Thread T → Option (QueueRun Thread T)
  | .enqueue thread item =>
      if s.pushing thread then none
      else some { s with
        messages := s.messages.enqueue item
        pushing := Function.update s.pushing thread true }
  | .pipeWrite thread =>
      if s.pushing thread then some { s with
        messages := s.messages.pipeWrite capacity
        pushing := Function.update s.pushing thread false }
      else none
  | .wake =>
      match s.consumer with
      | .idle => if s.messages.pipe > 0 then some { s with consumer := .draining } else none
      | _ => none
  | .pipeRead =>
      match s.consumer with
      | .draining =>
          if s.messages.pipeRead.1 > 0 then some { s with messages := s.messages.pipeRead.2 }
          else some { s with consumer := .popping 0 }
      | _ => none
  | .pop =>
      match s.consumer with
      | .popping count =>
          match s.messages.pop with
          | none => some { s with consumer := .idle }
          | some (_, rest) => some { s with messages := rest, consumer := .processing count }
      | _ => none
  | .processed =>
      match s.consumer with
      | .processing count =>
          if count + 1 ≥ reader.batchLimit then some { s with consumer := .idle }
          else some { s with consumer := .popping (count + 1) }
      | _ => none

/-- A callback that ends at its limit leaves an empty queue, a byte or an unfinished push. -/
def LimitCovered (reader : QueueReader) (s : QueueRun Thread T) : QueueEvent Thread T → Prop
  | .processed => ∀ count, s.consumer = .processing count → count + 1 ≥ reader.batchLimit →
      s.messages.queue = [] ∨ 0 < s.messages.pipe ∨ ∃ thread, s.pushing thread = true
  | _ => True

variable {reader : QueueReader} {capacity : Nat} {next : QueueRun Thread T}
  {event : QueueEvent Thread T}

theorem pipeWrite_positive (positive : 0 < capacity) (q : MessageQueue T) :
    0 < (q.pipeWrite capacity).pipe := by
  simp only [MessageQueue.pipeWrite]
  split
  · exact Nat.succ_pos _
  · rename_i full
    omega

/-- Only the end of a full batch can leave commands behind. -/
theorem step_awake_iff (positive : 0 < capacity)
    (taken : s.step reader capacity event = some next) :
    Awake next ↔ LimitCovered reader s event := by
  cases event with
  | enqueue thread item =>
      simp only [step] at taken
      split at taken
      · cases taken
      · cases taken
        have pushing := Function.update_self thread true s.pushing
        exact iff_of_true (awake_of_pushing pushing) trivial
  | pipeWrite thread =>
      simp only [step] at taken
      split at taken
      · cases taken
        exact iff_of_true (awake_of_byte (pipeWrite_positive positive s.messages)) trivial
      · cases taken
  | wake =>
      simp only [step] at taken
      split at taken
      · split at taken
        · cases taken
          exact iff_of_true (awake_of_busy (by simp)) trivial
        · cases taken
      · cases taken
  | pipeRead =>
      simp only [step] at taken
      split at taken
      · rename_i draining
        split at taken
        · cases taken
          exact iff_of_true (awake_of_busy (by simp [draining])) trivial
        · cases taken
          exact iff_of_true (awake_of_busy (by simp)) trivial
      · cases taken
  | pop =>
      simp only [step] at taken
      split at taken
      · cases found : s.messages.pop with
        | none =>
            rw [found] at taken
            cases taken
            refine iff_of_true ?_ trivial
            intro _ _ waiting
            exact absurd (MessageQueue.pop_none found) waiting
        | some popped =>
            rw [found] at taken
            cases taken
            exact iff_of_true (awake_of_busy (by simp)) trivial
      · cases taken
  | processed =>
      simp only [step] at taken
      split at taken
      · rename_i count processing
        split at taken
        · rename_i limit
          cases taken
          constructor
          · intro still current same _
            by_contra missed
            simp only [not_or, not_exists, Bool.not_eq_true] at missed
            exact missed.2.1 (still missed.2.2 rfl missed.1)
          · intro covered settled _ waiting
            rcases covered count processing limit with none | byte | ⟨thread, pushing⟩
            · exact absurd none waiting
            · exact byte
            · rw [settled thread] at pushing
              cases pushing
        · rename_i below
          cases taken
          apply iff_of_true (awake_of_busy (by simp))
          intro current same limit
          rw [processing] at same
          cases same
          exact absurd limit below
      · cases taken

theorem asleep_step (asleep : ¬Awake s) (taken : s.step reader capacity event = some next) :
    ∃ thread item, event = .enqueue thread item := by
  simp only [Awake, not_forall, exists_prop] at asleep
  rcases asleep with ⟨settled, idle, -, silent⟩
  cases event with
  | enqueue thread item => exact ⟨thread, item, rfl⟩
  | pipeWrite thread => simp [step, settled thread] at taken
  | wake => simp [step, idle, silent] at taken
  | pipeRead => simp [step, idle] at taken
  | pop => simp [step, idle] at taken
  | processed => simp [step, idle] at taken

def batch : Nat → List (QueueEvent Thread T)
  | 0 => []
  | count + 1 => .pop :: .processed :: batch count

theorem run_batch (messages : MessageQueue T) (pushing : Thread → Bool) (count : Nat)
    (waiting : count < reader.batchLimit)
    (enough : reader.batchLimit ≤ count + messages.queue.length) :
    run (step reader capacity) { messages := messages, pushing := pushing, consumer := .popping count }
        (batch (reader.batchLimit - count)) =
      some { messages := { messages with
                queue := (onClientNetCommandQueueRead reader count messages.queue).2 }
             pushing := pushing
             consumer := .idle } := by
  rcases messages with ⟨queue, pipe⟩
  induction queue generalizing count with
  | nil =>
      simp only [List.length_nil] at enough
      omega
  | cons item rest ih =>
      have more : reader.batchLimit - count = reader.batchLimit - (count + 1) + 1 := by omega
      rw [more, batch]
      by_cases limit : count + 1 ≥ reader.batchLimit
      · have done : reader.batchLimit - (count + 1) = 0 := by omega
        simp [run, step, MessageQueue.pop, onClientNetCommandQueueRead, limit, done, batch]
      · simp only [List.length_cons] at enough
        have later := ih (count + 1) (by omega) (by simp only; omega)
        simpa [run, step, MessageQueue.pop, onClientNetCommandQueueRead, limit] using later

/-- Whatever the threads do, no wake-up is lost exactly as long as each batch that ends at its
limit is covered. -/
theorem awake_every_iff (reader : QueueReader) (positive : 0 < capacity)
    (events : List (QueueEvent Thread T)) :
    Every (step reader capacity) Awake start events ↔
      Along (step reader capacity) (LimitCovered reader) start events := by
  have preserved {s next : QueueRun Thread T} {event : QueueEvent Thread T} (_ : True)
      (_ : (fun _ _ => True : QueueRun Thread T → QueueEvent Thread T → Prop) s event)
      (_ : step reader capacity s event = some next) : True :=
    trivial
  apply every_iff_along preserved
  · intro s event next _ _ _ taken
    exact step_awake_iff positive taken
  · intro s event stuck
    cases event with
    | processed =>
        intro count processing
        simp only [step, processing] at stuck
        split at stuck <;> cases stuck
    | _ => trivial
  · trivial
  · intro _ _ waiting
    exact absurd rfl waiting
  · exact along_always start events

def burst : List (QueueEvent Unit Nat) :=
  (List.range 101).flatMap (fun item => [.enqueue () item, .pipeWrite ()]) ++
    [.wake, .pipeRead, .pipeRead] ++ batch 100

theorem burst_breaks :
    ¬Every (step .tcpService 65536) Awake start burst ∧
      ¬Every (step .tcpClient 65536) Awake start burst := by
  decide +kernel

theorem awake_every_iff_oneCommand :
    Every (step .tcpService 65536) Awake (start : QueueRun Unit Nat)
      [.enqueue () 5, .pipeWrite (), .wake, .pipeRead, .pipeRead, .pop, .processed, .pop] := by
  apply (awake_every_iff .tcpService (by decide) _).mpr
  iterate 6 refine (along_cons rfl).mpr ⟨trivial, ?_⟩
  refine (along_cons rfl).mpr ⟨?_, (along_cons rfl).mpr ⟨trivial, trivial⟩⟩
  intro count processing limit
  cases processing
  exact absurd limit (by decide)

end QueueRun

end ZBlueNet
