import ZBlueNet.Semaphore

/-!
`Thread`: a controlling thread calls `start` and `close`, and every `start` that finds
`is_run_` false launches a body on a thread of its own. `close` clears `is_run_` and then
waits for a permit of `sem_`, which each body leaves when it is through its callbacks.
-/

namespace ZBlueNet

open Runs ConditionVariable

inductive ThreadPhase
  | onCreate
  | onRun
  | onDestroy
deriving DecidableEq

/-- Where a body stands in `onRun`. It tests the callback of a phase at `before`. -/
inductive ThreadBody (Callback : Type)
  | before (phase : ThreadPhase)
  | calling (phase : ThreadPhase) (callback : Callback)
  | signalling
  | clearing
  | done

/-- The controlling thread is the only one that waits for `sem_`. -/
structure Thread (Callback : Type) where
  callbacks : ThreadPhase → Option Callback
  sem : Semaphore Unit
  isRun : Bool

namespace Thread

variable {Callback : Type}

def create : Thread Callback :=
  { callbacks := fun _ => none, sem := Semaphore.create, isRun := false }

def behind : ThreadPhase → ThreadBody Callback
  | .onCreate => .before .onRun
  | .onRun => .before .onDestroy
  | .onDestroy => .signalling

/-- The body that `start` launches, if it does. A null callback leaves the one there is. -/
def start (thread : Thread Callback) (callbacks : ThreadPhase → Option Callback) :
    List (ThreadBody Callback) × Thread Callback :=
  if thread.isRun = false then
    ([.before .onCreate], { thread with
      isRun := true
      callbacks := fun phase => (callbacks phase).or (thread.callbacks phase) })
  else ([], thread)

def onRun (thread : Thread Callback) (notified : Option Unit) :
    ThreadBody Callback → Option (ThreadBody Callback × Thread Callback)
  | .before phase =>
      match thread.callbacks phase with
      | some callback => some (.calling phase callback, thread)
      | none => some (behind phase, thread)
  | .calling phase _ => some (behind phase, thread)
  | .signalling => (thread.sem.wakeup notified).map fun sem => (.clearing, { thread with sem := sem })
  | .clearing => some (.done, { thread with isRun := false })
  | .done => none

end Thread

/-- The controlling thread is at `closing` between the two lines of `close`, at `blocked` inside
`sem_.wait`, and at `closed` when `close` has returned. -/
inductive ThreadController
  | free
  | closing
  | blocked
  | closed
deriving DecidableEq

structure ThreadRun (Callback : Type) where
  thread : Thread Callback
  bodies : List (ThreadBody Callback)
  controller : ThreadController

/-- `lock` and `spurious` are the steps of the controlling thread inside `sem_.wait`. -/
inductive ThreadEvent (Callback : Type)
  | start (callbacks : ThreadPhase → Option Callback)
  | close
  | wait
  | lock
  | spurious
  | body (index : Nat) (notified : Option Unit)

namespace ThreadRun

variable {Callback : Type}

def create : ThreadRun Callback :=
  { thread := Thread.create, bodies := [], controller := .free }

def AtRest (run : ThreadRun Callback) : Prop :=
  run.controller = .free ∨ run.controller = .closed

instance (run : ThreadRun Callback) : Decidable run.AtRest :=
  inferInstanceAs (Decidable (_ ∨ _))

def waited (run : ThreadRun Callback) (result : Bool × Semaphore Unit) : ThreadRun Callback :=
  { run with
    thread := { run.thread with sem := result.2 }
    controller := if result.1 then .closed else .blocked }

def step (run : ThreadRun Callback) : ThreadEvent Callback → Option (ThreadRun Callback)
  | .start callbacks =>
      if run.AtRest then
        let (launched, thread) := run.thread.start callbacks
        some { thread := thread, bodies := run.bodies ++ launched, controller := .free }
      else none
  | .close =>
      if run.AtRest then
        if run.thread.isRun then
          some { run with thread := { run.thread with isRun := false }, controller := .closing }
        else some { run with controller := .closed }
      else none
  | .wait =>
      if run.controller = .closing then some (run.waited (run.thread.sem.wait ())) else none
  | .lock =>
      if () ∈ run.thread.sem.conditionVar.woken then some (run.waited (run.thread.sem.test ()))
      else none
  | .spurious =>
      (run.thread.sem.conditionVar.wake ()).map fun cond =>
        { run with thread := { run.thread with sem := { run.thread.sem with conditionVar := cond } } }
  | .body index notified =>
      run.bodies[index]?.bind fun body =>
        (run.thread.onRun notified body).map fun (body, thread) =>
          { run with thread := thread, bodies := run.bodies.set index body }

end ThreadRun

def ThreadBody.InCallbacks {Callback : Type} : ThreadBody Callback → Prop
  | .before _ | .calling _ _ => True
  | .signalling | .clearing | .done => False

namespace ThreadRun

variable {Callback : Type}

def AllThrough (run : ThreadRun Callback) : Prop :=
  ∀ body ∈ run.bodies, ¬ body.InCallbacks

def AllDone (run : ThreadRun Callback) : Prop :=
  ∀ body ∈ run.bodies, body = .done

def Executing (run : ThreadRun Callback) (index : Nat) : Prop :=
  ∃ body, run.bodies[index]? = some body ∧ body ≠ .done

/-- `close` has waited for the callbacks, and no two bodies are under way. -/
structure Waited (run : ThreadRun Callback) : Prop where
  closed : run.controller = .closed → run.AllThrough
  single : ∀ first second, run.Executing first → run.Executing second → first = second

/-- `sem_.wait` would come back at once. -/
def Permit (sem : Semaphore Unit) : Prop :=
  0 ≤ wrapInt (sem.waitCount - 1) ∨ 0 < sem.wakeupCount

/-- A body is launched only when the earlier ones have come to their end, and `close` finds no
permit while a body is in its callbacks. -/
def Fits (run : ThreadRun Callback) : ThreadEvent Callback → Prop
  | .start _ => run.AtRest → run.thread.isRun = false → run.AllDone
  | .wait => run.controller = .closing → Permit run.thread.sem → run.AllThrough
  | .close | .lock | .spurious | .body _ _ => True

structure Sound (run : ThreadRun Callback) : Prop where
  single : ∀ first second, run.Executing first → run.Executing second → first = second
  running : run.thread.isRun = true → run.AtRest
  idle : run.AtRest → run.thread.isRun = false → run.AllThrough
  inside : run.thread.sem.conditionVar.Inside () → run.controller = .blocked
  blocked : run.controller = .blocked → 0 < run.thread.sem.wakeupCount → run.AllThrough

variable {run next : ThreadRun Callback} {event : ThreadEvent Callback}

theorem Sound.create : (create : ThreadRun Callback).Sound := by
  constructor
  case single =>
      rintro first second ⟨body, here, -⟩
      simp [ThreadRun.create] at here
  case running =>
      intro running
      cases running
  case idle =>
      intro _ _ body member
      simp [ThreadRun.create] at member
  case inside => simp [ThreadRun.create, Thread.create, Semaphore.create, Waiters.empty, Waiters.Inside]
  case blocked =>
      intro blocked
      cases blocked

theorem wait_passes_iff (sem : Semaphore Unit) :
    (sem.wait ()).1 = true ↔ Permit sem := by
  simp only [Semaphore.wait, Semaphore.test, Permit]
  by_cases short : wrapInt (sem.waitCount - 1) < 0
  · by_cases permit : 0 < sem.wakeupCount
    · simp [short, permit]
    · simp [short, permit]
  · simp [short, not_lt.mp short]

theorem onRun_cases {thread after : Thread Callback} {notified : Option Unit}
    {body moved : ThreadBody Callback} (taken : thread.onRun notified body = some (moved, after)) :
    body.InCallbacks ∧ after = thread ∨
    body = .signalling ∧ moved = .clearing ∧
      (∃ sem, thread.sem.wakeup notified = some sem ∧ after = { thread with sem := sem }) ∨
    body = .clearing ∧ moved = .done ∧ after = { thread with isRun := false } := by
  cases body with
  | before phase =>
      left
      rw [Thread.onRun] at taken
      split at taken
      next => cases taken; exact ⟨trivial, rfl⟩
      next => cases taken; exact ⟨trivial, rfl⟩
  | calling phase callback =>
      left
      cases taken
      exact ⟨trivial, rfl⟩
  | signalling =>
      simp only [Thread.onRun, Option.map_eq_some_iff, Prod.mk.injEq] at taken
      obtain ⟨sem, taken, rfl, rfl⟩ := taken
      exact .inr (.inl ⟨rfl, rfl, sem, taken, rfl⟩)
  | clearing =>
      cases taken
      exact .inr (.inr ⟨rfl, rfl, rfl⟩)
  | done => cases taken

theorem mem_set_cases {bodies : List (ThreadBody Callback)} {index : Nat}
    {moved other : ThreadBody Callback} (member : other ∈ bodies.set index moved) :
    other = moved ∨ ∃ place, place ≠ index ∧ bodies[place]? = some other := by
  obtain ⟨place, here⟩ := List.mem_iff_getElem?.mp member
  rw [List.getElem?_set] at here
  by_cases same : index = place
  · left
    rw [if_pos same] at here
    split at here
    next => cases here; rfl
    next => cases here
  · right
    rw [if_neg same] at here
    exact ⟨place, Ne.symm same, here⟩

theorem onRun_active {thread after : Thread Callback} {notified : Option Unit}
    {body moved : ThreadBody Callback} (taken : thread.onRun notified body = some (moved, after)) :
    body ≠ .done := by
  rintro rfl
  cases taken

theorem step_body {index : Nat} {notified : Option Unit}
    (taken : run.step (.body index notified) = some next) :
    ∃ body moved after, run.bodies[index]? = some body ∧
      run.thread.onRun notified body = some (moved, after) ∧
      next = { run with thread := after, bodies := run.bodies.set index moved } := by
  simp only [step, Option.bind_eq_some_iff, Option.map_eq_some_iff] at taken
  obtain ⟨body, here, ⟨moved, after⟩, taken, rfl⟩ := taken
  exact ⟨body, moved, after, here, taken, rfl⟩

section Body

variable {index : Nat} {notified : Option Unit} {body moved : ThreadBody Callback}
  {after : Thread Callback}

theorem executing_of_set (here : run.bodies[index]? = some body)
    (taken : run.thread.onRun notified body = some (moved, after)) {place : Nat}
    (executing : Executing { run with thread := after, bodies := run.bodies.set index moved } place) :
    run.Executing place := by
  obtain ⟨other, there, active⟩ := executing
  by_cases same : index = place
  · exact ⟨body, same ▸ here, onRun_active taken⟩
  · rw [List.getElem?_set, if_neg same] at there
    exact ⟨other, there, active⟩

theorem through_of_single (sound : run.Sound) (here : run.bodies[index]? = some body)
    (active : body ≠ .done) (through : ¬ moved.InCallbacks) :
    ∀ other ∈ run.bodies.set index moved, ¬ other.InCallbacks := by
  intro other member
  rcases mem_set_cases member with rfl | ⟨place, apart, there⟩
  · exact through
  · intro busy
    apply apart
    apply sound.single place index ⟨other, there, _⟩ ⟨body, here, active⟩
    rintro rfl
    exact busy

theorem AllThrough.set (all : run.AllThrough) (here : run.bodies[index]? = some body)
    (taken : run.thread.onRun notified body = some (moved, after)) :
    ∀ other ∈ run.bodies.set index moved, ¬ other.InCallbacks := by
  intro other member
  rcases mem_set_cases member with rfl | ⟨place, -, there⟩
  · rcases onRun_cases taken with ⟨busy, -⟩ | ⟨-, rfl, -⟩ | ⟨-, rfl, -⟩
    · exact absurd busy (all body (List.mem_of_getElem? here))
    · exact id
    · exact id
  · exact all other (List.mem_of_getElem? there)

theorem Sound.set_body (sound : run.Sound) (here : run.bodies[index]? = some body)
    (taken : run.thread.onRun notified body = some (moved, after)) :
    ({ run with thread := after, bodies := run.bodies.set index moved } :
      ThreadRun Callback).Sound := by
  have active := onRun_active taken
  have single : ∀ first second,
      Executing { run with thread := after, bodies := run.bodies.set index moved } first →
      Executing { run with thread := after, bodies := run.bodies.set index moved } second →
      first = second := by
    intro first second one two
    exact sound.single first second (executing_of_set here taken one)
      (executing_of_set here taken two)
  rcases onRun_cases taken with
    ⟨busy, rfl⟩ | ⟨rfl, rfl, sem, signal, rfl⟩ | ⟨rfl, rfl, rfl⟩
  · constructor
    case single => exact single
    case running => exact sound.running
    case idle => exact fun rest stopped => (sound.idle rest stopped).set here taken
    case inside => exact sound.inside
    case blocked => exact fun waits permit => (sound.blocked waits permit).set here taken
  · constructor
    case single => exact single
    case running => exact sound.running
    case idle => exact fun rest stopped => (sound.idle rest stopped).set here taken
    case inside =>
        intro inside
        exact sound.inside ((Semaphore.inside_wakeup signal ()).mp inside)
    case blocked => exact fun _ _ => through_of_single sound here active id
  · constructor
    case single => exact single
    case running =>
        intro running
        cases running
    case idle => exact fun _ _ => through_of_single sound here active id
    case inside => exact sound.inside
    case blocked => exact fun _ _ => through_of_single sound here active id

end Body

theorem Sound.step_body {index : Nat} {notified : Option Unit} (sound : run.Sound)
    (taken : run.step (.body index notified) = some next) : next.Sound := by
  obtain ⟨body, moved, after, here, moves, rfl⟩ := ThreadRun.step_body taken
  exact sound.set_body here moves

theorem Sound.waited (sound : run.Sound) (stopped : run.thread.isRun = false)
    {result : Bool × Semaphore Unit}
    (inside : result.1 = true → ¬ result.2.conditionVar.Inside ())
    (permits : result.1 = false → ¬ 0 < result.2.wakeupCount)
    (through : result.1 = true → run.AllThrough) : (run.waited result).Sound := by
  obtain ⟨passed, sem⟩ := result
  cases passed with
  | false =>
      constructor
      case single => exact sound.single
      case running => simp [ThreadRun.waited, stopped]
      case idle => simp [ThreadRun.waited, AtRest]
      case inside => exact fun _ => rfl
      case blocked => exact fun _ permit => absurd permit (permits rfl)
  | true =>
      constructor
      case single => exact sound.single
      case running => exact fun _ => .inr rfl
      case idle => exact fun _ _ => through rfl
      case inside => exact fun stays => absurd stays (inside rfl)
      case blocked =>
          intro blocked
          cases blocked

theorem single_append_iff {thread : Thread Callback}
    {controller : ThreadController} :
    (∀ first second,
      Executing ⟨thread, run.bodies ++ [.before .onCreate], controller⟩ first →
      Executing ⟨thread, run.bodies ++ [.before .onCreate], controller⟩ second → first = second) ↔
    run.AllDone := by
  have launched : Executing ⟨thread, run.bodies ++ [.before .onCreate], controller⟩
      run.bodies.length := ⟨.before .onCreate, by simp, nofun⟩
  constructor
  · intro single body member
    obtain ⟨place, here⟩ := List.mem_iff_getElem?.mp member
    obtain ⟨bound, -⟩ := List.getElem?_eq_some_iff.mp here
    by_contra active
    have same := single place run.bodies.length
      ⟨body, by rw [List.getElem?_append_left bound]; exact here, active⟩ launched
    omega
  · intro all
    have last : ∀ place, Executing ⟨thread, run.bodies ++ [.before .onCreate], controller⟩ place →
        place = run.bodies.length := by
      rintro place ⟨body, here, active⟩
      by_contra apart
      dsimp only at here
      by_cases bound : place < run.bodies.length
      · rw [List.getElem?_append_left bound] at here
        exact active (all body (List.mem_of_getElem? here))
      · rw [List.getElem?_eq_none (by simp; omega)] at here
        cases here
    intro first second one two
    rw [last first one, last second two]

theorem AtRest.not_blocked (rest : run.AtRest) : run.controller ≠ .blocked := by
  rcases rest with free | closed
  · simp [free]
  · simp [closed]

theorem step_start (callbacks : ThreadPhase → Option Callback)
    (taken : run.step (.start callbacks) = some next) :
    run.AtRest ∧
      (run.thread.isRun = false ∧ next = {
          thread := { run.thread with
            isRun := true
            callbacks := fun phase => (callbacks phase).or (run.thread.callbacks phase) }
          bodies := run.bodies ++ [.before .onCreate], controller := .free } ∨
        run.thread.isRun = true ∧ next = { run with controller := .free }) := by
  simp only [step, Thread.start, Option.ite_none_right_eq_some, Option.some.injEq] at taken
  obtain ⟨rest, rfl⟩ := taken
  refine ⟨rest, ?_⟩
  cases isRun : run.thread.isRun with
  | false => simp
  | true => simp

theorem Sound.of_rest (sound : run.Sound) (rest : run.AtRest)
    (sem : next.thread.sem = run.thread.sem) (apart : next.controller ≠ .blocked)
    (single : ∀ first second, next.Executing first → next.Executing second → first = second)
    (running : next.thread.isRun = true → next.AtRest)
    (idle : next.AtRest → next.thread.isRun = false → next.AllThrough) : next.Sound := by
  refine ⟨single, running, idle, ?_, ?_⟩
  · intro inside
    rw [sem] at inside
    exact absurd (sound.inside inside) rest.not_blocked
  · intro blocked
    exact absurd blocked apart

theorem Sound.step (sound : run.Sound) (taken : run.step event = some next)
    (waited : next.Waited) : next.Sound := by
  cases event with
  | start callbacks =>
      obtain ⟨rest, ⟨-, rfl⟩ | ⟨running, rfl⟩⟩ := step_start callbacks taken
      · refine sound.of_rest rest rfl (by simp) waited.single ?_ ?_
        · exact fun _ => .inl rfl
        · intro _ stopped
          cases stopped
      · refine sound.of_rest rest rfl (by simp) sound.single ?_ ?_
        · exact fun _ => .inl rfl
        · exact fun _ stopped => sound.idle rest stopped
  | close =>
      simp only [ThreadRun.step, Option.ite_none_right_eq_some] at taken
      obtain ⟨rest, taken⟩ := taken
      split at taken
      next running =>
          cases taken
          refine sound.of_rest rest rfl (by simp) sound.single ?_ ?_
          · intro running
            cases running
          · simp [AtRest]
      next =>
          cases taken
          refine sound.of_rest rest rfl (by simp) sound.single ?_ ?_
          · exact fun _ => .inr rfl
          · exact fun _ stopped => sound.idle rest stopped
  | wait =>
      simp only [ThreadRun.step, Option.ite_none_right_eq_some, Option.some.injEq] at taken
      obtain ⟨closing, rfl⟩ := taken
      have busy : ¬ run.AtRest := by simp [AtRest, closing]
      have stopped : run.thread.isRun = false := by
        simpa using fun running => busy (sound.running running)
      have new : ¬ run.thread.sem.conditionVar.Inside () := by
        intro inside
        have blocked := sound.inside inside
        simp [closing] at blocked
      apply sound.waited stopped (Semaphore.outside_of_wait new) Semaphore.no_permit_of_wait
      intro passed
      exact waited.closed (if_pos passed)
  | lock =>
      simp only [ThreadRun.step, Option.ite_none_right_eq_some, Option.some.injEq] at taken
      obtain ⟨woken, rfl⟩ := taken
      have blocked := sound.inside (.inr woken)
      have busy : ¬ run.AtRest := fun rest => rest.not_blocked blocked
      have stopped : run.thread.isRun = false := by
        simpa using fun running => busy (sound.running running)
      apply sound.waited stopped (Semaphore.outside_of_test (Waiters.awake_of_woken woken))
        Semaphore.no_permit_of_test
      intro passed
      exact waited.closed (if_pos passed)
  | spurious =>
      simp only [ThreadRun.step, Option.map_eq_some_iff] at taken
      obtain ⟨cond, woke, rfl⟩ := taken
      constructor
      case single => exact sound.single
      case running => exact sound.running
      case idle => exact sound.idle
      case inside => exact fun inside => sound.inside ((Waiters.inside_wake woke ()).mp inside)
      case blocked => exact sound.blocked
  | body index notified => exact sound.step_body taken

/-- A step keeps the promise of `close` exactly when it fits. -/
theorem waited_iff_fits (sound : run.Sound) (waited : run.Waited)
    (taken : run.step event = some next) : next.Waited ↔ run.Fits event := by
  cases event with
  | start callbacks =>
      obtain ⟨rest, ⟨stopped, rfl⟩ | ⟨running, rfl⟩⟩ := step_start callbacks taken
      · constructor
        · intro kept _ _
          exact single_append_iff.mp kept.single
        · intro fits
          exact ⟨nofun, single_append_iff.mpr (fits rest stopped)⟩
      · apply iff_of_true ⟨nofun, waited.single⟩
        intro _ stopped
        simp [running] at stopped
  | close =>
      apply iff_of_true _ trivial
      simp only [ThreadRun.step, Option.ite_none_right_eq_some] at taken
      obtain ⟨rest, taken⟩ := taken
      split at taken
      next running =>
          cases taken
          exact ⟨nofun, waited.single⟩
      next stopped =>
          cases taken
          exact ⟨fun _ => sound.idle rest (by simpa using stopped), waited.single⟩
  | wait =>
      simp only [ThreadRun.step, Option.ite_none_right_eq_some, Option.some.injEq] at taken
      obtain ⟨closing, rfl⟩ := taken
      simp only [Fits, closing, true_imp_iff, ← wait_passes_iff]
      constructor
      · intro kept passed
        exact kept.closed (if_pos passed)
      · intro through
        refine ⟨fun closed => ?_, waited.single⟩
        cases passed : (run.thread.sem.wait ()).1 with
        | true => exact through passed
        | false => simp [ThreadRun.waited, passed] at closed
  | lock =>
      apply iff_of_true _ trivial
      simp only [ThreadRun.step, Option.ite_none_right_eq_some, Option.some.injEq] at taken
      obtain ⟨woken, rfl⟩ := taken
      refine ⟨fun closed => ?_, waited.single⟩
      cases passed : (run.thread.sem.test ()).1 with
      | true =>
          exact sound.blocked (sound.inside (.inr woken)) (Semaphore.test_passes_iff.mp passed)
      | false => simp [ThreadRun.waited, passed] at closed
  | spurious =>
      apply iff_of_true _ trivial
      simp only [ThreadRun.step, Option.map_eq_some_iff] at taken
      obtain ⟨cond, woke, rfl⟩ := taken
      exact ⟨waited.closed, waited.single⟩
  | body index notified =>
      apply iff_of_true _ trivial
      obtain ⟨body, moved, after, here, moves, rfl⟩ := step_body taken
      refine ⟨fun closed => (waited.closed closed).set here moves, ?_⟩
      exact (sound.set_body here moves).single

theorem fits_of_stuck (stuck : run.step event = none) : run.Fits event := by
  cases event with
  | start callbacks =>
      intro rest
      simp [step, rest] at stuck
  | wait =>
      intro closing
      simp [step, closing] at stuck
  | close | lock | spurious | body => trivial

/-- `close` waits for the callbacks, and bodies come one after the other, in exactly the runs whose
steps all fit. -/
theorem close_waits_iff (events : List (ThreadEvent Callback)) :
    Every step Waited create events ↔ Along step Fits (create : ThreadRun Callback) events := by
  have preserved {run : ThreadRun Callback} {event : ThreadEvent Callback}
      {next : ThreadRun Callback} (sound : run.Sound)
      (_ : (fun _ _ => True : ThreadRun Callback → ThreadEvent Callback → Prop) run event)
      (taken : run.step event = some next) (waited : next.Waited) : next.Sound :=
    sound.step taken waited
  have initial : (create : ThreadRun Callback).Waited := ⟨nofun, Sound.create.single⟩
  exact every_iff_along_of_kept preserved
    (fun sound _ waited taken => waited_iff_fits sound waited taken)
    (fun _ _ stuck => fits_of_stuck stuck) Sound.create initial (along_always _ events)

/-- A body that ended by itself left a permit, with which `close` comes back at once while the next
body is in its callback. -/
theorem close_returns_early :
    ¬ Every step Waited (create : ThreadRun Unit)
      [.start fun _ => none, .body 0 none, .body 0 none, .body 0 none, .body 0 none, .body 0 none,
        .start fun _ => some (), .body 1 none, .close, .wait] := by
  intro every
  have reached : ∃ finish, run step (create : ThreadRun Unit)
      [.start fun _ => none, .body 0 none, .body 0 none, .body 0 none, .body 0 none, .body 0 none,
        .start fun _ => some (), .body 1 none, .close, .wait] = some finish ∧
      finish.controller = .closed ∧ finish.bodies = [.done, .calling .onCreate ()] :=
    ⟨_, rfl, rfl, rfl⟩
  obtain ⟨finish, reached, closed, bodies⟩ := reached
  have through := (every.finish reached).closed closed (.calling .onCreate ())
  rw [bodies] at through
  exact through (by simp) trivial

end ThreadRun

end ZBlueNet
