import ZBlueNet.NetThreadDeeds
import ZBlueNet.TcpServiceCore
import ZBlueNet.Lib.Ownership
import ZBlueNet.Lib.Runs
import Mathlib.Data.List.ReduceOption

/-!
The commands of a server as objects: who creates them, through which queues their raw
pointers go, and who deletes them. A net thread takes a popped command into a
`unique_ptr`; the main thread processes it through the raw pointer.
-/

namespace ZBlueNet

open Runs Ownership

inductive Turn
  | idle
  | popped (pointer : Pointer)
  | processed (pointer : Pointer)
deriving DecidableEq, Repr

def Turn.pointers : Turn → List Pointer
  | .idle => []
  | .popped pointer | .processed pointer => [pointer]

/-- The queues hold pointers, so those of the threads are not in use. The commands of a handler wait
in `handed` until its thread creates and pushes them, the NEW command of an attached socket in
`accepted`; `dropped` has the pointers that the main thread is done with. -/
structure ReleaseRun (n : Nat) (Message : Type) where
  memory : Memory (NetCommand Message)
  service : TcpService
  threads : Fin n → NetThread Unit Message
  queues : Fin n → List (Option Pointer)
  handed : Fin n → List (NetCommand Message)
  handling : Fin n → Turn
  accepted : List (NetCommand Message)
  clientNetCommandQueue : List Pointer
  processing : Turn
  dropped : List Pointer

inductive ReleaseEvent (n : Nat) (Message : Type)
  | attach (i : Fin n) (socketId : SocketId) (granted : Bool)
  | sendNetCommandNew
  | handle (i : Fin n) (event : NetThreadEvent Message)
  | pushClientNetCommand (i : Fin n)
  | pop (i : Fin n)
  | onNetCommand (i : Fin n) (env : SocketId → SendEnv)
  | turnEnds (i : Fin n)
  | push (cmd : NetCommand Message)
  | disconnect (id : NetId)
  | stop (i : Fin n)
  | popClient
  | processNetCommand (now : Int)
  | processed
  | destroyQueue (i : Fin n)
  | destroyClientQueue

inductive Place (n : Nat)
  | queue (i : Fin n)
  | handling (i : Fin n)
  | clientNetCommandQueue
  | processing
  | dropped
deriving DecidableEq

namespace ReleaseRun

variable {n : Nat} {Message : Type}

def start (n : Nat) (createMessageFunc : Int → Option Message) (maxRequestPerSecond : Int) :
    ReleaseRun n Message :=
  { memory := .empty
    service := .create maxRequestPerSecond
    threads := fun i =>
      ((NetThread.create 40960 40960 createMessageFunc).init i 81920 409600 (some ()) true).2
    queues := fun _ => []
    handed := fun _ => []
    handling := fun _ => .idle
    accepted := []
    clientNetCommandQueue := []
    processing := .idle
    dropped := [] }

/-- `new`, `push(cmd.get())` and `release()`. -/
def pushTo (s : ReleaseRun n Message) (i : Fin n) (cmd : NetCommand Message) :
    ReleaseRun n Message :=
  { s with
    memory := s.memory.new cmd
    queues := Function.update s.queues i (s.queues i ++ [some s.memory.next]) }

/-- `TcpService::push`; there is no thread behind the end of the vector. -/
def push (s : ReleaseRun n Message) (cmd : NetCommand Message) : Option (ReleaseRun n Message) :=
  if inside : cmd.id.reactorId.toNat < n ∧ 0 ≤ cmd.id.reactorId then
    some (s.pushTo ⟨cmd.id.reactorId.toNat, inside.1⟩ cmd)
  else none

def pushClientNetCommand (s : ReleaseRun n Message) (cmd : NetCommand Message) :
    ReleaseRun n Message :=
  { s with
    memory := s.memory.new cmd
    clientNetCommandQueue := s.clientNetCommandQueue ++ [s.memory.next] }

def perform (s : ReleaseRun n Message) :
    List (ServiceCall Message) → Option (ReleaseRun n Message)
  | [] => some s
  | .push cmd :: calls => (s.push cmd).bind fun next => next.perform calls
  | _ :: calls => s.perform calls

def setThread (s : ReleaseRun n Message) (i : Fin n) (thread : NetThread Unit Message)
    (handed : List (NetCommand Message)) : ReleaseRun n Message :=
  { s with
    threads := Function.update s.threads i thread
    handed := Function.update s.handed i handed }

def setHandling (s : ReleaseRun n Message) (i : Fin n) (turn : Turn) : ReleaseRun n Message :=
  { s with handling := Function.update s.handling i turn }

def setQueue (s : ReleaseRun n Message) (i : Fin n) (queue : List (Option Pointer)) :
    ReleaseRun n Message :=
  { s with queues := Function.update s.queues i queue }

def step [BaseStruct Message] (server : GameServer Message) (s : ReleaseRun n Message) :
    ReleaseEvent n Message → Option (ReleaseRun n Message)
  | .attach i socketId granted =>
      ((s.threads i).attach socketId granted).map fun outcome =>
        { s with
          threads := Function.update s.threads i outcome.1
          accepted := s.accepted ++ outcome.2.map Prod.snd }
  | .sendNetCommandNew =>
      match s.accepted with
      | [] => none
      | cmd :: rest => some { s.pushClientNetCommand cmd with accepted := rest }
  | .handle i event =>
      match s.handling i, s.handed i, event with
      | _, _, .onNetCommand _ _ => none
      | .idle, [], event =>
          ((s.threads i).handle server event).map fun outcome =>
            s.setThread i outcome.1 (outcome.2.map Prod.snd)
      | _, _, _ => none
  | .pushClientNetCommand i =>
      match s.handed i with
      | [] => none
      | cmd :: rest =>
          some { s.pushClientNetCommand cmd with handed := Function.update s.handed i rest }
  | .pop i =>
      match s.handling i, s.handed i, s.queues i with
      | .idle, [], none :: rest => some ((s.setQueue i rest).setThread i (s.threads i).quit [])
      | .idle, [], some pointer :: rest => some ((s.setQueue i rest).setHandling i (.popped pointer))
      | _, _, _ => none
  | .onNetCommand i env =>
      match s.handling i with
      | .popped pointer =>
          (s.memory.objects pointer).bind fun cmd =>
            ((s.threads i).handleNetCommand env cmd).map fun outcome =>
              (s.setThread i outcome.1 (outcome.2.map Prod.snd)).setHandling i (.processed pointer)
      | _ => none
  | .turnEnds i =>
      match s.handling i, s.handed i with
      | .processed pointer, [] =>
          some { s.setHandling i .idle with memory := s.memory.delete pointer }
      | _, _ => none
  | .push cmd => s.push cmd
  | .disconnect id =>
      let outcome := s.service.disconnect id
      ({ s with service := outcome.1 }).perform outcome.2
  | .stop i => some (s.setQueue i (s.queues i ++ [none]))
  | .popClient =>
      match s.processing, s.clientNetCommandQueue with
      | .idle, pointer :: rest =>
          some { s with clientNetCommandQueue := rest, processing := .popped pointer }
      | _, _ => none
  | .processNetCommand now =>
      match s.processing with
      | .popped pointer =>
          (s.memory.objects pointer).bind fun cmd =>
            let outcome := s.service.processNetCommand now cmd
            ({ s with service := outcome.1, processing := .processed pointer }).perform outcome.2
      | _ => none
  | .processed =>
      match s.processing with
      | .processed pointer => some { s with processing := .idle, dropped := s.dropped ++ [pointer] }
      | _ => none
  | .destroyQueue i =>
      some { s.setQueue i [] with memory := s.memory.deleteAll (s.queues i).reduceOption }
  | .destroyClientQueue =>
      some { s with
        memory := s.memory.deleteAll s.clientNetCommandQueue
        clientNetCommandQueue := [] }

def held (s : ReleaseRun n Message) : Place n → List Pointer
  | .queue i => (s.queues i).reduceOption
  | .handling i => (s.handling i).pointers
  | .clientNetCommandQueue => s.clientNetCommandQueue
  | .processing => s.processing.pointers
  | .dropped => s.dropped

/-- The live commands are in a queue or being processed, and none has been deleted twice. -/
def Released (s : ReleaseRun n Message) : Prop :=
  (∀ pointer, (s.memory.objects pointer).isSome ↔
    (∃ i, some pointer ∈ s.queues i) ∨ pointer ∈ s.clientNetCommandQueue ∨
      (∃ i, pointer ∈ (s.handling i).pointers) ∨ pointer ∈ s.processing.pointers) ∧
    s.memory.deleted.Nodup

def StillProcessing (s : ReleaseRun n Message) : ReleaseEvent n Message → Prop
  | .processed => ∀ pointer, s.processing ≠ .processed pointer
  | _ => True

def Sound (s : ReleaseRun n Message) : Prop := Owned s.memory s.held

variable {s next : ReleaseRun n Message}

theorem Sound.released_iff (sound : Sound s) : Released s ↔ s.dropped = [] := by
  have places (pointer : Pointer) : (∃ place, pointer ∈ s.held place) ↔
      ((∃ i, some pointer ∈ s.queues i) ∨ pointer ∈ s.clientNetCommandQueue ∨
        (∃ i, pointer ∈ (s.handling i).pointers) ∨ pointer ∈ s.processing.pointers) ∨
        pointer ∈ s.dropped := by
    constructor
    · rintro ⟨place, member⟩
      cases place with
      | queue i => exact .inl (.inl ⟨i, List.reduceOption_mem_iff.mp member⟩)
      | handling i => exact .inl (.inr (.inr (.inl ⟨i, member⟩)))
      | clientNetCommandQueue => exact .inl (.inr (.inl member))
      | processing => exact .inl (.inr (.inr (.inr member)))
      | dropped => exact .inr member
    · rintro ((⟨i, waits⟩ | waits | ⟨i, member⟩ | member) | member)
      · exact ⟨.queue i, List.reduceOption_mem_iff.mpr waits⟩
      · exact ⟨.clientNetCommandQueue, waits⟩
      · exact ⟨.handling i, member⟩
      · exact ⟨.processing, member⟩
      · exact ⟨.dropped, member⟩
  constructor
  · rintro ⟨live, -⟩
    apply List.eq_nil_iff_forall_not_mem.mpr
    intro pointer dropped
    have elsewhere (place : Place n) (member : pointer ∈ s.held place) : place = .dropped :=
      sound.apart place .dropped pointer member dropped
    have present := (sound.live pointer).mpr ⟨.dropped, dropped⟩
    rcases (live pointer).mp present with ⟨i, waits⟩ | waits | ⟨i, member⟩ | member
    · cases elsewhere (.queue i) (List.reduceOption_mem_iff.mpr waits)
    · cases elsewhere .clientNetCommandQueue waits
    · cases elsewhere (.handling i) member
    · cases elsewhere .processing member
  · intro none
    refine ⟨fun pointer => ?_, sound.once⟩
    rw [sound.live, places, none]
    simp

/-! Each step leaves every pointer at one place. -/

variable {i : Fin n}

theorem update_queue {queue : List (Option Pointer)} {other : Place n} (apart : other ≠ .queue i) :
    (s.setQueue i queue).held other = s.held other := by
  cases other with
  | queue j =>
      have different : j ≠ i := fun same => apart (same ▸ rfl)
      exact congrArg List.reduceOption (Function.update_of_ne different ..)
  | _ => rfl

theorem update_handling {turn : Turn} {other : Place n} (apart : other ≠ .handling i) :
    (s.setHandling i turn).held other = s.held other := by
  cases other with
  | handling j =>
      have different : j ≠ i := fun same => apart (same ▸ rfl)
      exact congrArg Turn.pointers (Function.update_of_ne different ..)
  | _ => rfl

theorem queue_here (queue : List (Option Pointer)) :
    (s.setQueue i queue).held (.queue i) = queue.reduceOption :=
  congrArg List.reduceOption (Function.update_self ..)

theorem handling_here (turn : Turn) : (s.setHandling i turn).held (.handling i) = turn.pointers :=
  congrArg Turn.pointers (Function.update_self ..)

theorem Sound.of_held (sound : Sound s) (memory : next.memory = s.memory)
    (held : next.held = s.held) : Sound next := by
  rw [Sound, memory, held]
  exact sound

theorem Sound.setThread (sound : Sound s) (thread : NetThread Unit Message)
    (handed : List (NetCommand Message)) : Sound (s.setThread i thread handed) :=
  sound.of_held rfl rfl

theorem Sound.setQueue (sound : Sound s) {queue : List (Option Pointer)}
    (same : queue.reduceOption = (s.queues i).reduceOption) : Sound (s.setQueue i queue) := by
  refine sound.of_held rfl (funext fun place => ?_)
  by_cases here : place = .queue i
  · rw [here, queue_here, same]
    rfl
  · exact update_queue here

theorem Sound.setHandling (sound : Sound s) {turn : Turn}
    (same : turn.pointers = (s.handling i).pointers) : Sound (s.setHandling i turn) := by
  refine sound.of_held rfl (funext fun place => ?_)
  by_cases here : place = .handling i
  · rw [here, handling_here, same]
    rfl
  · exact update_handling here

theorem Sound.pushTo (sound : Sound s) (cmd : NetCommand Message) : Sound (s.pushTo i cmd) := by
  have here : (s.pushTo i cmd).held (.queue i) = s.held (.queue i) ++ [s.memory.next] := by
    refine (queue_here (s.queues i ++ [some s.memory.next])).trans ?_
    rw [List.reduceOption_append]
    rfl
  have elsewhere (other : Place n) (apart : other ≠ .queue i) :
      (s.pushTo i cmd).held other = s.held other := update_queue apart
  exact sound.new cmd here elsewhere

theorem Sound.pushClientNetCommand (sound : Sound s) (cmd : NetCommand Message) :
    Sound (s.pushClientNetCommand cmd) := by
  have here : (s.pushClientNetCommand cmd).held .clientNetCommandQueue =
      s.held .clientNetCommandQueue ++ [s.memory.next] := rfl
  refine sound.new cmd here ?_
  intro other apart
  cases other with
  | clientNetCommandQueue => exact absurd rfl apart
  | _ => rfl

theorem Sound.push (sound : Sound s) {cmd : NetCommand Message} (pushed : s.push cmd = some next) :
    Sound next ∧ next.dropped = s.dropped := by
  simp only [ReleaseRun.push] at pushed
  split at pushed
  · cases pushed
    exact ⟨sound.pushTo cmd, rfl⟩
  · cases pushed

theorem Sound.perform (sound : Sound s) {calls : List (ServiceCall Message)}
    (performed : s.perform calls = some next) : Sound next ∧ next.dropped = s.dropped := by
  induction calls generalizing s with
  | nil =>
      cases performed
      exact ⟨sound, rfl⟩
  | cons call calls ih =>
      cases call with
      | push cmd =>
          simp only [ReleaseRun.perform, Option.bind_eq_some_iff] at performed
          obtain ⟨middle, pushed, later⟩ := performed
          obtain ⟨pushed, same⟩ := sound.push pushed
          obtain ⟨sound', kept⟩ := ih pushed later
          exact ⟨sound', kept.trans same⟩
      | messageHandler handler id message => exact ih sound performed
      | onExceedRequestFrequencyLimit id => exact ih sound performed

theorem Sound.pop {pointer : Pointer} {rest : List (Option Pointer)} (sound : Sound s)
    (idle : s.handling i = .idle) (front : s.queues i = some pointer :: rest) :
    Sound ((s.setQueue i rest).setHandling i (.popped pointer)) := by
  have before : s.held (.queue i) = pointer :: rest.reduceOption :=
    (congrArg List.reduceOption front).trans (List.reduceOption_cons_of_some ..)
  have left : ((s.setQueue i rest).setHandling i (.popped pointer)).held (.queue i) =
      rest.reduceOption := queue_here rest
  have here : ((s.setQueue i rest).setHandling i (.popped pointer)).held (.handling i) =
      s.held (.handling i) ++ [pointer] := by
    rw [handling_here, held, idle]
    rfl
  have between : (Place.queue i : Place n) ≠ .handling i := nofun
  refine Owned.move sound between before left here ?_
  intro other apart beside
  exact (update_handling beside).trans (update_queue apart)

theorem Sound.turnEnds {pointer : Pointer} (sound : Sound s)
    (handled : s.handling i = .processed pointer) :
    Sound { s.setHandling i .idle with memory := s.memory.delete pointer } := by
  have before : s.held (.handling i) = [pointer] := congrArg Turn.pointers handled
  have left : ({ s.setHandling i .idle with memory := s.memory.delete pointer } :
      ReleaseRun n Message).held (.handling i) = [] := handling_here .idle
  refine sound.delete before left ?_
  intro other apart
  have same : (s.setHandling i .idle).held other = s.held other := update_handling apart
  exact same

theorem Sound.popClient {pointer : Pointer} {rest : List Pointer} (sound : Sound s)
    (idle : s.processing = .idle) (front : s.clientNetCommandQueue = pointer :: rest) :
    Sound { s with clientNetCommandQueue := rest, processing := .popped pointer } := by
  have here : ({ s with clientNetCommandQueue := rest, processing := .popped pointer } :
      ReleaseRun n Message).held .processing = s.held .processing ++ [pointer] := by
    simp only [held, idle]
    rfl
  have between : (Place.clientNetCommandQueue : Place n) ≠ .processing := nofun
  refine Owned.move sound between front rfl here ?_
  intro other apart beside
  cases other with
  | clientNetCommandQueue => exact absurd rfl apart
  | processing => exact absurd rfl beside
  | _ => rfl

theorem Sound.processed {pointer : Pointer} (sound : Sound s)
    (done : s.processing = .processed pointer) :
    Sound { s with processing := .idle, dropped := s.dropped ++ [pointer] } := by
  have before : s.held .processing = [pointer] := congrArg Turn.pointers done
  have here : ({ s with processing := .idle, dropped := s.dropped ++ [pointer] } :
      ReleaseRun n Message).held .dropped = s.held .dropped ++ [pointer] := rfl
  have between : (Place.processing : Place n) ≠ .dropped := nofun
  refine Owned.move sound between before rfl here ?_
  intro other apart beside
  cases other with
  | processing => exact absurd rfl apart
  | dropped => exact absurd rfl beside
  | _ => rfl

theorem start_sound (n : Nat) (createMessageFunc : Int → Option Message)
    (maxRequestPerSecond : Int) : Sound (start n createMessageFunc maxRequestPerSecond) := by
  refine owned_empty.same (funext fun place => ?_)
  cases place <;> rfl

section Steps

variable [BaseStruct Message] {server : GameServer Message} {event : ReleaseEvent n Message}

theorem Sound.step (sound : Sound s) (taken : s.step server event = some next) :
    Sound next ∧ (StillProcessing s event ∧ next.dropped = s.dropped ∨
      ¬StillProcessing s event ∧ ∃ pointer, next.dropped = s.dropped ++ [pointer]) := by
  cases event with
  | attach i socketId granted =>
      simp only [ReleaseRun.step, Option.map_eq_some_iff] at taken
      obtain ⟨outcome, -, rfl⟩ := taken
      exact ⟨sound.of_held rfl rfl, .inl ⟨trivial, rfl⟩⟩
  | sendNetCommandNew =>
      simp only [ReleaseRun.step] at taken
      split at taken
      · cases taken
      · rename_i cmd rest _
        cases taken
        have pushed := sound.pushClientNetCommand cmd
        exact ⟨pushed.of_held rfl rfl, .inl ⟨trivial, rfl⟩⟩
  | handle i event =>
      simp only [ReleaseRun.step] at taken
      split at taken
      · cases taken
      · rw [Option.map_eq_some_iff] at taken
        obtain ⟨outcome, -, rfl⟩ := taken
        exact ⟨sound.setThread outcome.1 _, .inl ⟨trivial, rfl⟩⟩
      · cases taken
  | pushClientNetCommand i =>
      simp only [ReleaseRun.step] at taken
      split at taken
      · cases taken
      · rename_i cmd rest _
        cases taken
        have pushed := sound.pushClientNetCommand cmd
        exact ⟨pushed.of_held rfl rfl, .inl ⟨trivial, rfl⟩⟩
  | pop i =>
      simp only [ReleaseRun.step] at taken
      split at taken
      · rename_i rest _ _ front
        cases taken
        have waiting : rest.reduceOption = (s.queues i).reduceOption := by
          rw [front, List.reduceOption_cons_of_none]
        exact ⟨(sound.setQueue waiting).setThread _ _, .inl ⟨trivial, rfl⟩⟩
      · rename_i pointer rest idle _ front
        cases taken
        exact ⟨sound.pop idle front, .inl ⟨trivial, rfl⟩⟩
      · cases taken
  | onNetCommand i env =>
      simp only [ReleaseRun.step] at taken
      split at taken
      · rename_i pointer popped
        simp only [Option.bind_eq_some_iff, Option.map_eq_some_iff] at taken
        obtain ⟨cmd, -, outcome, -, rfl⟩ := taken
        have threaded : Sound (s.setThread i outcome.1 (outcome.2.map Prod.snd)) :=
          sound.setThread outcome.1 _
        have handled : Sound ((s.setThread i outcome.1 (outcome.2.map Prod.snd)).setHandling i
            (.processed pointer)) := by
          apply threaded.setHandling
          exact (congrArg Turn.pointers popped).symm
        exact ⟨handled, .inl ⟨trivial, rfl⟩⟩
      · cases taken
  | turnEnds i =>
      simp only [ReleaseRun.step] at taken
      split at taken
      · rename_i pointer handled _
        cases taken
        exact ⟨sound.turnEnds handled, .inl ⟨trivial, rfl⟩⟩
      · cases taken
  | push cmd =>
      obtain ⟨sound', same⟩ := sound.push taken
      exact ⟨sound', .inl ⟨trivial, same⟩⟩
  | disconnect id =>
      let outcome : TcpService × List (ServiceCall Message) := s.service.disconnect id
      have forgotten : Sound { s with service := outcome.1 } := sound.of_held rfl rfl
      obtain ⟨sound', same⟩ := forgotten.perform taken
      exact ⟨sound', .inl ⟨trivial, same⟩⟩
  | stop i =>
      cases taken
      refine ⟨sound.setQueue ?_, .inl ⟨trivial, rfl⟩⟩
      rw [List.reduceOption_append]
      exact List.append_nil _
  | popClient =>
      simp only [ReleaseRun.step] at taken
      split at taken
      · rename_i pointer rest idle front
        cases taken
        exact ⟨sound.popClient idle front, .inl ⟨trivial, rfl⟩⟩
      · cases taken
  | processNetCommand now =>
      simp only [ReleaseRun.step] at taken
      split at taken
      · rename_i pointer popped
        rw [Option.bind_eq_some_iff] at taken
        obtain ⟨cmd, -, performed⟩ := taken
        have handled : Sound { s with
            service := (s.service.processNetCommand now cmd).1
            processing := .processed pointer } := by
          refine sound.of_held rfl (funext fun place => ?_)
          cases place with
          | processing => exact (congrArg Turn.pointers popped).symm
          | _ => rfl
        obtain ⟨sound', same⟩ := handled.perform performed
        exact ⟨sound', .inl ⟨trivial, same⟩⟩
      · cases taken
  | processed =>
      simp only [ReleaseRun.step] at taken
      split at taken
      · rename_i pointer done
        cases taken
        exact ⟨sound.processed done, .inr ⟨fun still => still pointer done, pointer, rfl⟩⟩
      · cases taken
  | destroyQueue i =>
      cases taken
      have left : ({ s.setQueue i [] with memory := s.memory.deleteAll (s.queues i).reduceOption } :
          ReleaseRun n Message).held (.queue i) = [] := queue_here []
      exact ⟨sound.deleteAll left fun other apart => update_queue apart, .inl ⟨trivial, rfl⟩⟩
  | destroyClientQueue =>
      cases taken
      refine ⟨?_, .inl ⟨trivial, rfl⟩⟩
      have left : ({ s with
          memory := s.memory.deleteAll s.clientNetCommandQueue
          clientNetCommandQueue := [] } : ReleaseRun n Message).held .clientNetCommandQueue = [] :=
        rfl
      refine sound.deleteAll left ?_
      intro other apart
      cases other with
      | clientNetCommandQueue => exact absurd rfl apart
      | _ => rfl

/-- Whatever the main thread drops, no command is deleted twice and all others are released. -/
theorem sound_every (server : GameServer Message) (createMessageFunc : Int → Option Message)
    (maxRequestPerSecond : Int) (events : List (ReleaseEvent n Message)) :
    Every (step server) Sound (start n createMessageFunc maxRequestPerSecond) events :=
  every_of_invariant (fun sound _ taken => (sound.step taken).1)
    (start_sound n createMessageFunc maxRequestPerSecond) (along_always _ events)

theorem released_every_iff (server : GameServer Message) (createMessageFunc : Int → Option Message)
    (maxRequestPerSecond : Int) (events : List (ReleaseEvent n Message)) :
    Every (step server) Released (start n createMessageFunc maxRequestPerSecond) events ↔
      Along (step server) StillProcessing (start n createMessageFunc maxRequestPerSecond)
        events := by
  have initial := start_sound n createMessageFunc maxRequestPerSecond
  refine every_iff_along (fun sound _ taken => (sound.step taken).1) ?_ ?_ initial
    (initial.released_iff.mpr rfl) (along_always _ events)
  · intro s event next sound _ released taken
    obtain ⟨sound', still⟩ := sound.step taken
    have before := sound.released_iff.mp released
    rw [sound'.released_iff]
    rcases still with ⟨still, same⟩ | ⟨done, pointer, dropped⟩
    · exact iff_of_true (same.trans before) still
    · refine iff_of_false ?_ done
      simp [dropped]
  · intro s event stuck
    cases event with
    | processed =>
        intro pointer done
        simp [ReleaseRun.step, done] at stuck
    | _ => trivial

/-- The NEW command of the first connection stays behind when the main thread has processed it. -/
theorem firstCommand_leaks :
    ¬Every (step (rawServer 40960)) Released
      (start 1 (rawServer 40960).netProtocol.createMessageFunc 0)
      [.attach 0 9 true, .sendNetCommandNew, .popClient, .processNetCommand 0, .processed] := by
  intro every
  have finished : (run (step (rawServer 40960))
      (start 1 (rawServer 40960).netProtocol.createMessageFunc 0)
      [.attach 0 9 true, .sendNetCommandNew, .popClient, .processNetCommand 0, .processed]).map
        (fun s => ((s.memory.objects 0).isSome, s.queues 0, s.clientNetCommandQueue,
          (s.handling 0).pointers, s.processing.pointers)) = some (true, [], [], [], []) := by
    decide +kernel
  rw [Option.map_eq_some_iff] at finished
  obtain ⟨s, reached, values⟩ := finished
  simp only [Prod.mk.injEq] at values
  obtain ⟨live, queue, client, handling, processing⟩ := values
  have released := (every.finish reached).1 0
  simp [live, queue, client, handling, processing] at released

end Steps

end ReleaseRun

end ZBlueNet
