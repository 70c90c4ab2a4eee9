import ZBlueNet.Lib.ConditionVariable
import ZBlueNet.Lib.Runs

/-!
`ConcurrentQueue` with any number of producers and consumers. A step is what a thread
does while it holds `data_mutex_`: up to the end of its call or up to `wait`, and from
there, once it was woken, the next turn of its loop.
-/

namespace ZBlueNet

open Runs ConditionVariable

/-- `pushing` has the item of each thread that waits in `push`. -/
structure ConcurrentQueue (Thread T : Type) where
  queue : List T
  maxSize : Nat
  isBounded : Bool
  notFullCond : Waiters Thread
  notEmptyCond : Waiters Thread
  pushing : Thread → Option T

namespace ConcurrentQueue

variable {Thread T : Type}

def create (maxSize : Nat) : ConcurrentQueue Thread T :=
  { queue := [], maxSize := maxSize, isBounded := maxSize != 0
    notFullCond := Waiters.empty, notEmptyCond := Waiters.empty, pushing := fun _ => none }

def fullNoLock (q : ConcurrentQueue Thread T) : Bool :=
  if !q.isBounded then false else q.queue.length ≥ q.maxSize

/-- Whoever sleeps is matched by a thread that is up for each item, or for each free place. -/
structure NoneStranded (maxSize : Nat) (q : ConcurrentQueue Thread T) : Prop where
  poppers : q.notEmptyCond.waiting.Nonempty → q.queue.length ≤ q.notEmptyCond.woken.card
  pushers : q.notFullCond.waiting.Nonempty →
    maxSize - q.queue.length ≤ q.notFullCond.woken.card
  size : maxSize ≠ 0 → q.queue.length ≤ maxSize

theorem NoneStranded.quiet {maxSize : Nat} {q : ConcurrentQueue Thread T}
    (none_stranded : q.NoneStranded maxSize)
    (poppers : q.notEmptyCond.woken = ∅) (pushers : q.notFullCond.woken = ∅) :
    (q.notEmptyCond.waiting.Nonempty → q.queue = []) ∧
      (q.notFullCond.waiting.Nonempty → maxSize ≤ q.queue.length) := by
  constructor
  · intro asleep
    have few := none_stranded.poppers asleep
    simpa [poppers] using few
  · intro asleep
    have few := none_stranded.pushers asleep
    rw [pushers, Finset.card_empty] at few
    omega

structure Sound (maxSize : Nat) (q : ConcurrentQueue Thread T) : Prop where
  limit : q.maxSize = maxSize
  bounded : q.isBounded = (maxSize != 0)
  size : maxSize ≠ 0 → q.queue.length ≤ maxSize
  poppers : q.notEmptyCond.Covers q.queue.length
  pushers : q.notFullCond.Covers (maxSize - q.queue.length)
  items : ∀ thread, q.notFullCond.Inside thread → (q.pushing thread).isSome

theorem Sound.full_iff {maxSize : Nat} {q : ConcurrentQueue Thread T} (sound : q.Sound maxSize) :
    q.fullNoLock = true ↔ maxSize ≠ 0 ∧ maxSize ≤ q.queue.length := by
  simp [fullNoLock, sound.limit, sound.bounded]

theorem Sound.create (maxSize : Nat) : (create maxSize : ConcurrentQueue Thread T).Sound maxSize := by
  constructor
  case limit => rfl
  case bounded => rfl
  case size => exact fun _ => Nat.zero_le maxSize
  case poppers => exact Waiters.covers_zero _
  case pushers => exact fun asleep => absurd asleep Finset.not_nonempty_empty
  case items =>
      intro thread inside
      simp [ConcurrentQueue.create, Waiters.empty, Waiters.Inside] at inside

variable [DecidableEq Thread]

def pushBack (q : ConcurrentQueue Thread T) (item : T) (notified : Option Thread) :
    Option (ConcurrentQueue Thread T) :=
  (q.notEmptyCond.notifyOne notified).map fun cond =>
    { q with queue := q.queue ++ [item], notEmptyCond := cond }

def popFront (q : ConcurrentQueue Thread T) (notified : Option Thread) :
    Option (ConcurrentQueue Thread T) :=
  (q.notFullCond.notifyOne notified).map fun cond =>
    { q with queue := q.queue.tail, notFullCond := cond }

/-- One test of the loop condition of `push`, and what follows from it. -/
def push (q : ConcurrentQueue Thread T) (thread : Thread) (item : T) (notified : Option Thread) :
    Option (ConcurrentQueue Thread T) :=
  if q.fullNoLock then
    some { q with
      notFullCond := q.notFullCond.block thread
      pushing := Function.update q.pushing thread (some item) }
  else
    pushBack { q with
      notFullCond := q.notFullCond.leave thread
      pushing := Function.update q.pushing thread none } item notified

def pushIfNotFull (q : ConcurrentQueue Thread T) (item : T) (notified : Option Thread) :
    Option (Bool × ConcurrentQueue Thread T) :=
  if q.fullNoLock then some (false, q)
  else (q.pushBack item notified).map (true, ·)

def pop (q : ConcurrentQueue Thread T) (thread : Thread) (notified : Option Thread) :
    Option (Option T × ConcurrentQueue Thread T) :=
  match q.queue with
  | [] => some (none, { q with notEmptyCond := q.notEmptyCond.block thread })
  | front :: _ =>
      (popFront { q with notEmptyCond := q.notEmptyCond.leave thread } notified).map (some front, ·)

def popIfNotEmpty (q : ConcurrentQueue Thread T) (notified : Option Thread) :
    Option (Option T × ConcurrentQueue Thread T) :=
  match q.queue with
  | [] => some (none, q)
  | front :: _ => (q.popFront notified).map (some front, ·)

/-- The steps of the threads. `notified` is the sleeper that `notify_one` wakes, if the step gets
there; a thread that was woken has the mutex again at `lockNotFull` and `lockNotEmpty`. -/
inductive Event (Thread T : Type)
  | push (thread : Thread) (item : T) (notified : Option Thread)
  | pushIfNotFull (thread : Thread) (item : T) (notified : Option Thread)
  | pop (thread : Thread) (notified : Option Thread)
  | popIfNotEmpty (thread : Thread) (notified : Option Thread)
  | lockNotFull (thread : Thread) (notified : Option Thread)
  | lockNotEmpty (thread : Thread) (notified : Option Thread)
  | spuriousNotFull (thread : Thread)
  | spuriousNotEmpty (thread : Thread)

def Free (q : ConcurrentQueue Thread T) (thread : Thread) : Prop :=
  ¬ q.notFullCond.Inside thread ∧ ¬ q.notEmptyCond.Inside thread

instance (q : ConcurrentQueue Thread T) (thread : Thread) : Decidable (q.Free thread) :=
  inferInstanceAs (Decidable (_ ∧ _))

def step (q : ConcurrentQueue Thread T) : Event Thread T → Option (ConcurrentQueue Thread T)
  | .push thread item notified => if q.Free thread then q.push thread item notified else none
  | .pushIfNotFull thread item notified =>
      if q.Free thread then (q.pushIfNotFull item notified).map Prod.snd else none
  | .pop thread notified =>
      if q.Free thread then (q.pop thread notified).map Prod.snd else none
  | .popIfNotEmpty thread notified =>
      if q.Free thread then (q.popIfNotEmpty notified).map Prod.snd else none
  | .lockNotFull thread notified =>
      if thread ∈ q.notFullCond.woken then
        (q.pushing thread).bind fun item => q.push thread item notified
      else none
  | .lockNotEmpty thread notified =>
      if thread ∈ q.notEmptyCond.woken then (q.pop thread notified).map Prod.snd else none
  | .spuriousNotFull thread =>
      (q.notFullCond.wake thread).map fun cond => { q with notFullCond := cond }
  | .spuriousNotEmpty thread =>
      (q.notEmptyCond.wake thread).map fun cond => { q with notEmptyCond := cond }

variable {maxSize : Nat} {q after : ConcurrentQueue Thread T} {thread : Thread} {item : T}
  {notified : Option Thread}

theorem Sound.pushBack (sound : q.Sound maxSize) (room : ¬ q.fullNoLock = true)
    {cond : Waiters Thread} {pushing : Thread → Option T}
    (pushers : cond.Covers (maxSize - (q.queue.length + 1)))
    (items : ∀ thread, cond.Inside thread → (pushing thread).isSome)
    (taken : pushBack { q with notFullCond := cond, pushing := pushing } item notified = some after) :
    after.Sound maxSize := by
  simp only [ConcurrentQueue.pushBack, Option.map_eq_some_iff] at taken
  obtain ⟨notEmptyCond, notify, rfl⟩ := taken
  have poppers := sound.poppers.notifyOne notify
  rw [sound.full_iff] at room
  constructor
  case limit => exact sound.limit
  case bounded => exact sound.bounded
  case size =>
      intro bounded
      simp only [List.length_append, List.length_singleton]
      omega
  case poppers => simpa using poppers
  case pushers => simpa using pushers
  case items => exact items

theorem Sound.popFront (sound : q.Sound maxSize) (present : 0 < q.queue.length)
    {cond : Waiters Thread} (poppers : cond.Covers (q.queue.length - 1))
    (items : ∀ thread, q.notFullCond.Inside thread → (q.pushing thread).isSome)
    (taken : popFront { q with notEmptyCond := cond } notified = some after) :
    after.Sound maxSize := by
  simp only [ConcurrentQueue.popFront, Option.map_eq_some_iff] at taken
  obtain ⟨notFullCond, notify, rfl⟩ := taken
  have pushers := sound.pushers.notifyOne notify
  constructor
  case limit => exact sound.limit
  case bounded => exact sound.bounded
  case size =>
      intro bounded
      have size := sound.size bounded
      simp only [List.length_tail]
      omega
  case poppers => simpa using poppers
  case pushers =>
      apply pushers.mono
      simp only [List.length_tail]
      omega
  case items =>
      intro thread inside
      apply items thread
      exact (Waiters.inside_notifyOne notify thread).mp inside

theorem Sound.push (sound : q.Sound maxSize) (awake : thread ∉ q.notFullCond.waiting)
    (taken : q.push thread item notified = some after) : after.Sound maxSize := by
  rw [ConcurrentQueue.push] at taken
  split at taken
  next full =>
      cases taken
      rw [sound.full_iff] at full
      constructor
      case limit => exact sound.limit
      case bounded => exact sound.bounded
      case size => exact sound.size
      case poppers => exact sound.poppers
      case pushers =>
          have nothing : maxSize - q.queue.length = 0 := by omega
          simp only [nothing]
          exact Waiters.covers_zero _
      case items =>
          intro other inside
          rw [Waiters.inside_block] at inside
          by_cases same : other = thread
          · simp [same]
          · dsimp only
            rw [Function.update_of_ne same]
            exact sound.items other (inside.resolve_left same)
  next room =>
      apply sound.pushBack room _ _ taken
      · by_cases filled : maxSize - q.queue.length = 0
        · apply Waiters.Covers.mono (Waiters.covers_zero _)
          omega
        · apply Waiters.Covers.leave
          apply sound.pushers.mono
          omega
      · intro other inside
        rw [Waiters.inside_leave awake] at inside
        rw [Function.update_of_ne inside.1]
        exact sound.items other inside.2

theorem push_turn (awake : thread ∉ q.notFullCond.waiting)
    (taken : q.push thread item notified = some after) :
    (∀ other, after.notEmptyCond.Inside other ↔ q.notEmptyCond.Inside other) ∧
      (q.fullNoLock = true ∧ after.queue = q.queue ∧
          (∀ other, after.notFullCond.Inside other ↔ other = thread ∨ q.notFullCond.Inside other) ∨
        q.fullNoLock = false ∧ after.queue = q.queue ++ [item] ∧
          ∀ other, after.notFullCond.Inside other ↔
            other ≠ thread ∧ q.notFullCond.Inside other) := by
  rw [ConcurrentQueue.push] at taken
  split at taken
  next full =>
      cases taken
      exact ⟨fun _ => Iff.rfl, .inl ⟨full, rfl, Waiters.inside_block _ _⟩⟩
  next room =>
      simp only [ConcurrentQueue.pushBack, Option.map_eq_some_iff] at taken
      obtain ⟨cond, notify, rfl⟩ := taken
      rw [Bool.not_eq_true] at room
      exact ⟨Waiters.inside_notifyOne notify, .inr ⟨room, rfl, Waiters.inside_leave awake⟩⟩

theorem pop_turn (awake : thread ∉ q.notEmptyCond.waiting) {front : Option T}
    (taken : q.pop thread notified = some (front, after)) :
    (∀ other, after.notFullCond.Inside other ↔ q.notFullCond.Inside other) ∧
      (q.queue = [] ∧ front = none ∧ after.queue = [] ∧
          (∀ other, after.notEmptyCond.Inside other ↔
            other = thread ∨ q.notEmptyCond.Inside other) ∨
        ∃ item, q.queue = item :: after.queue ∧ front = some item ∧
          ∀ other, after.notEmptyCond.Inside other ↔
            other ≠ thread ∧ q.notEmptyCond.Inside other) := by
  rw [ConcurrentQueue.pop] at taken
  split at taken
  next empty =>
      cases taken
      exact ⟨fun _ => Iff.rfl, .inl ⟨empty, rfl, empty, Waiters.inside_block _ _⟩⟩
  next item rest items =>
      simp only [ConcurrentQueue.popFront, Option.map_eq_some_iff, Prod.mk.injEq] at taken
      obtain ⟨_, ⟨cond, notify, rfl⟩, rfl, rfl⟩ := taken
      refine ⟨Waiters.inside_notifyOne notify, .inr ⟨item, ?_, rfl, Waiters.inside_leave awake⟩⟩
      rw [items, List.tail_cons]

theorem push_possible (q : ConcurrentQueue Thread T) (thread : Thread) (item : T) :
    ∃ notified, (q.push thread item notified).isSome := by
  obtain ⟨notified, cond, notify⟩ := Waiters.notifyOne_possible q.notEmptyCond
  refine ⟨notified, ?_⟩
  by_cases full : q.fullNoLock = true
  · simp [ConcurrentQueue.push, full]
  · simp [ConcurrentQueue.push, full, ConcurrentQueue.pushBack, notify]

theorem pop_possible (q : ConcurrentQueue Thread T) (thread : Thread) :
    ∃ notified, (q.pop thread notified).isSome := by
  obtain ⟨notified, cond, notify⟩ := Waiters.notifyOne_possible q.notFullCond
  refine ⟨notified, ?_⟩
  cases items : q.queue with
  | nil => simp [ConcurrentQueue.pop, items]
  | cons front rest => simp [ConcurrentQueue.pop, items, ConcurrentQueue.popFront, notify]

theorem Sound.pushIfNotFull (sound : q.Sound maxSize) {pushed : Bool}
    (taken : q.pushIfNotFull item notified = some (pushed, after)) : after.Sound maxSize := by
  rw [ConcurrentQueue.pushIfNotFull] at taken
  split at taken
  next full =>
      cases taken
      exact sound
  next room =>
      simp only [Option.map_eq_some_iff, Prod.mk.injEq] at taken
      obtain ⟨_, taken, -, rfl⟩ := taken
      exact sound.pushBack room (sound.pushers.mono (by omega)) sound.items taken

theorem Sound.pop (sound : q.Sound maxSize) {front : Option T}
    (taken : q.pop thread notified = some (front, after)) : after.Sound maxSize := by
  rw [ConcurrentQueue.pop] at taken
  split at taken
  next empty =>
      cases taken
      constructor
      case limit => exact sound.limit
      case bounded => exact sound.bounded
      case size => exact sound.size
      case poppers =>
          simp only [empty, List.length_nil]
          exact Waiters.covers_zero _
      case pushers => exact sound.pushers
      case items => exact sound.items
  next item rest items =>
      simp only [Option.map_eq_some_iff, Prod.mk.injEq] at taken
      obtain ⟨_, taken, -, rfl⟩ := taken
      have present : 0 < q.queue.length := by simp [items]
      apply sound.popFront present _ sound.items taken
      apply Waiters.Covers.leave
      apply sound.poppers.mono
      omega

theorem Sound.popIfNotEmpty (sound : q.Sound maxSize) {front : Option T}
    (taken : q.popIfNotEmpty notified = some (front, after)) : after.Sound maxSize := by
  rw [ConcurrentQueue.popIfNotEmpty] at taken
  split at taken
  next empty =>
      cases taken
      exact sound
  next item rest items =>
      simp only [Option.map_eq_some_iff, Prod.mk.injEq] at taken
      obtain ⟨_, taken, -, rfl⟩ := taken
      have present : 0 < q.queue.length := by simp [items]
      exact sound.popFront present (sound.poppers.mono (by omega)) sound.items taken

theorem Sound.spuriousNotFull (sound : q.Sound maxSize) {cond : Waiters Thread}
    (woke : q.notFullCond.wake thread = some cond) :
    ({ q with notFullCond := cond } : ConcurrentQueue Thread T).Sound maxSize := by
  constructor
  case limit => exact sound.limit
  case bounded => exact sound.bounded
  case size => exact sound.size
  case poppers => exact sound.poppers
  case pushers => exact sound.pushers.wake woke
  case items =>
      intro other inside
      exact sound.items other ((Waiters.inside_wake woke other).mp inside)

theorem Sound.spuriousNotEmpty (sound : q.Sound maxSize) {cond : Waiters Thread}
    (woke : q.notEmptyCond.wake thread = some cond) :
    ({ q with notEmptyCond := cond } : ConcurrentQueue Thread T).Sound maxSize := by
  constructor
  case limit => exact sound.limit
  case bounded => exact sound.bounded
  case size => exact sound.size
  case poppers => exact sound.poppers.wake woke
  case pushers => exact sound.pushers
  case items => exact sound.items

theorem Sound.step {event : Event Thread T} (sound : q.Sound maxSize)
    (taken : q.step event = some after) : after.Sound maxSize := by
  cases event with
  | push thread item notified =>
      simp only [ConcurrentQueue.step, Option.ite_none_right_eq_some] at taken
      have awake : thread ∉ q.notFullCond.waiting := fun asleep => taken.1.1 (.inl asleep)
      exact sound.push awake taken.2
  | pushIfNotFull thread item notified =>
      simp only [ConcurrentQueue.step, Option.ite_none_right_eq_some, Option.map_eq_some_iff]
        at taken
      obtain ⟨-, ⟨pushed, _⟩, taken, rfl⟩ := taken
      exact sound.pushIfNotFull taken
  | pop thread notified =>
      simp only [ConcurrentQueue.step, Option.ite_none_right_eq_some, Option.map_eq_some_iff]
        at taken
      obtain ⟨-, ⟨front, _⟩, taken, rfl⟩ := taken
      exact sound.pop taken
  | popIfNotEmpty thread notified =>
      simp only [ConcurrentQueue.step, Option.ite_none_right_eq_some, Option.map_eq_some_iff]
        at taken
      obtain ⟨-, ⟨front, _⟩, taken, rfl⟩ := taken
      exact sound.popIfNotEmpty taken
  | lockNotFull thread notified =>
      simp only [ConcurrentQueue.step, Option.ite_none_right_eq_some, Option.bind_eq_some_iff]
        at taken
      obtain ⟨woken, item, -, taken⟩ := taken
      exact sound.push (Waiters.awake_of_woken woken) taken
  | lockNotEmpty thread notified =>
      simp only [ConcurrentQueue.step, Option.ite_none_right_eq_some, Option.map_eq_some_iff]
        at taken
      obtain ⟨-, ⟨front, _⟩, taken, rfl⟩ := taken
      exact sound.pop taken
  | spuriousNotFull thread =>
      simp only [ConcurrentQueue.step, Option.map_eq_some_iff] at taken
      obtain ⟨cond, woke, rfl⟩ := taken
      exact sound.spuriousNotFull woke
  | spuriousNotEmpty thread =>
      simp only [ConcurrentQueue.step, Option.map_eq_some_iff] at taken
      obtain ⟨cond, woke, rfl⟩ := taken
      exact sound.spuriousNotEmpty woke

/-- Every step of every thread leaves enough threads up for what there is to do. -/
theorem no_waiter_stranded (maxSize : Nat) (events : List (Event Thread T)) :
    Every step (NoneStranded maxSize) (create maxSize : ConcurrentQueue Thread T) events := by
  have preserved {q : ConcurrentQueue Thread T} {event : Event Thread T}
      {next : ConcurrentQueue Thread T} (sound : q.Sound maxSize)
      (_ : (fun _ _ => True : ConcurrentQueue Thread T → Event Thread T → Prop) q event)
      (taken : q.step event = some next) : next.Sound maxSize :=
    sound.step taken
  apply Every.mono _ (every_of_invariant preserved (Sound.create maxSize) (along_always _ events))
  intro q sound
  exact ⟨sound.poppers, sound.pushers, sound.size⟩

/-- A thread that was woken always has a turn, so being up is no dead end. -/
theorem Sound.turn_possible (sound : q.Sound maxSize) (thread : Thread) :
    (thread ∈ q.notEmptyCond.woken →
      ∃ notified, (q.step (.lockNotEmpty thread notified)).isSome) ∧
    (thread ∈ q.notFullCond.woken →
      ∃ notified, (q.step (.lockNotFull thread notified)).isSome) := by
  constructor
  · intro woken
    obtain ⟨notified, possible⟩ := q.pop_possible thread
    refine ⟨notified, ?_⟩
    rwa [ConcurrentQueue.step, if_pos woken, Option.isSome_map]
  · intro woken
    obtain ⟨item, pushing⟩ := Option.isSome_iff_exists.mp (sound.items thread (.inr woken))
    obtain ⟨notified, possible⟩ := q.push_possible thread item
    refine ⟨notified, ?_⟩
    rwa [ConcurrentQueue.step, if_pos woken, pushing, Option.bind_some]

end ConcurrentQueue

end ZBlueNet
