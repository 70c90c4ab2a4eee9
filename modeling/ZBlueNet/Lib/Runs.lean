import Mathlib.Data.Option.Basic

/-!
Runs of a state machine. An event carries all that the machine does not decide
itself, so a step is a partial function; an event that is not possible in a state
has no step.
-/

namespace Runs

variable {State Event : Type}

def run (step : State → Event → Option State) : State → List Event → Option State
  | state, [] => some state
  | state, event :: events => (step state event).bind fun next => run step next events

/-- Every step of the run is allowed in the state in which it is taken. -/
def Along (step : State → Event → Option State) (allowed : State → Event → Prop) :
    State → List Event → Prop
  | _, [] => True
  | state, event :: events =>
      allowed state event ∧ ∀ next, step state event = some next → Along step allowed next events

/-- The property holds in every state of the run, the first and the last included. -/
def Every (step : State → Event → Option State) (property : State → Prop) :
    State → List Event → Prop
  | state, [] => property state
  | state, event :: events =>
      property state ∧ ∀ next, step state event = some next → Every step property next events

instance decidableAlong (step : State → Event → Option State)
    (allowed : State → Event → Prop) [∀ state event, Decidable (allowed state event)] :
    ∀ start events, Decidable (Along step allowed start events)
  | _, [] => .isTrue trivial
  | state, event :: events =>
      have := fun next => decidableAlong step allowed next events
      inferInstanceAs (Decidable (allowed state event ∧
        ∀ next ∈ step state event, Along step allowed next events))

instance decidableEvery (step : State → Event → Option State) (property : State → Prop)
    [DecidablePred property] : ∀ start events, Decidable (Every step property start events)
  | state, [] => inferInstanceAs (Decidable (property state))
  | state, event :: events =>
      have := fun next => decidableEvery step property next events
      inferInstanceAs (Decidable (property state ∧
        ∀ next ∈ step state event, Every step property next events))

variable {step : State → Event → Option State} {allowed : State → Event → Prop}
  {invariant property : State → Prop}

theorem run_append (state : State) (first second : List Event) :
    run step state (first ++ second) = (run step state first).bind (run step · second) := by
  induction first generalizing state with
  | nil => rfl
  | cons event events ih =>
      cases taken : step state event with
      | none => simp [run, taken]
      | some next => simp [run, taken, ih]

theorem along_cons {start next : State} {event : Event} {events : List Event}
    (taken : step start event = some next) :
    Along step allowed start (event :: events) ↔
      allowed start event ∧ Along step allowed next events := by
  simp only [Along, taken, Option.some.injEq, forall_eq']

theorem along_append (start : State) (first second : List Event) :
    Along step allowed start (first ++ second) ↔
      Along step allowed start first ∧
        ∀ middle, run step start first = some middle → Along step allowed middle second := by
  induction first generalizing start with
  | nil => simp [Along, run]
  | cons event events ih =>
      cases taken : step start event with
      | none => simp [Along, run, taken]
      | some next => simp [Along, run, taken, ih, and_assoc]

theorem run_cut {start finish : State} {events before after : List Event} {event : Event}
    (reached : run step start events = some finish)
    (along : Along step allowed start events) (cut : events = before ++ event :: after) :
    ∃ middle next, run step start before = some middle ∧ Along step allowed start before ∧
      allowed middle event ∧ step middle event = some next ∧
      run step next after = some finish ∧ Along step allowed next after := by
  rw [cut, run_append, Option.bind_eq_some_iff] at reached
  rcases reached with ⟨middle, first, second⟩
  simp only [run, Option.bind_eq_some_iff] at second
  rcases second with ⟨next, taken, rest⟩
  rw [cut, along_append] at along
  have behind := along.2 middle first
  exact ⟨middle, next, first, along.1, behind.1, taken, rest, behind.2 next taken⟩

theorem run_invariant
    (preserved : ∀ {state event next}, invariant state → allowed state event →
      step state event = some next → invariant next)
    {start finish : State} {events : List Event} (initial : invariant start)
    (along : Along step allowed start events) (reached : run step start events = some finish) :
    invariant finish := by
  induction events generalizing start with
  | nil =>
      cases reached
      exact initial
  | cons event events ih =>
      simp only [run, Option.bind_eq_some_iff] at reached
      obtain ⟨next, taken, rest⟩ := reached
      exact ih (preserved initial along.1 taken) (along.2 next taken) rest

theorem Along.and {other : State → Event → Prop} {start : State} {events : List Event}
    (first : Along step allowed start events) (second : Along step other start events) :
    Along step (fun state event => allowed state event ∧ other state event) start events := by
  induction events generalizing start with
  | nil => trivial
  | cons event events ih =>
      exact ⟨⟨first.1, second.1⟩, fun next taken => ih (first.2 next taken) (second.2 next taken)⟩

theorem Along.mono {weaker : State → Event → Prop}
    (weaken : ∀ {state event}, allowed state event → weaker state event) {start : State}
    {events : List Event} (along : Along step allowed start events) :
    Along step weaker start events := by
  induction events generalizing start with
  | nil => trivial
  | cons event events ih =>
      exact ⟨weaken along.1, fun next taken => ih (along.2 next taken)⟩

theorem Along.of_forall {fine : Event → Prop} {events : List Event}
    (each : ∀ event ∈ events, fine event) (start : State) :
    Along step (fun _ event => fine event) start events := by
  induction events generalizing start with
  | nil => trivial
  | cons event events ih =>
      simp only [List.forall_mem_cons] at each
      exact ⟨each.1, fun next _ => ih each.2 next⟩

theorem along_always (start : State) (events : List Event) :
    Along step (fun _ _ => True) start events :=
  Along.of_forall (by simp) start

theorem Every.mono {weaker : State → Prop} (weaken : ∀ {state}, property state → weaker state)
    {start : State} {events : List Event} (every : Every step property start events) :
    Every step weaker start events := by
  induction events generalizing start with
  | nil => exact weaken every
  | cons event events ih =>
      exact ⟨weaken every.1, fun next taken => ih (every.2 next taken)⟩

theorem Every.finish {start finish : State} {events : List Event}
    (every : Every step property start events) (reached : run step start events = some finish) :
    property finish := by
  induction events generalizing start with
  | nil =>
      cases reached
      exact every
  | cons event events ih =>
      simp only [run, Option.bind_eq_some_iff] at reached
      obtain ⟨next, taken, rest⟩ := reached
      exact ih (every.2 next taken) rest

theorem every_of_invariant
    (preserved : ∀ {state event next}, invariant state → allowed state event →
      step state event = some next → invariant next)
    {start : State} {events : List Event} (initial : invariant start)
    (along : Along step allowed start events) : Every step invariant start events := by
  induction events generalizing start with
  | nil => exact initial
  | cons event events ih =>
      exact ⟨initial, fun next taken => ih (preserved initial along.1 taken) (along.2 next taken)⟩

/-- Where every step makes less of something, a run has no more steps than there was of it. -/
theorem run_length_le {measure : State → Nat}
    (preserved : ∀ {state event next}, invariant state → allowed state event →
      step state event = some next → invariant next ∧ measure next < measure state)
    {start finish : State} {events : List Event} (initial : invariant start)
    (along : Along step allowed start events) (reached : run step start events = some finish) :
    events.length + measure finish ≤ measure start := by
  induction events generalizing start with
  | nil =>
      cases reached
      simp
  | cons event events ih =>
      simp only [run, Option.bind_eq_some_iff] at reached
      obtain ⟨next, taken, rest⟩ := reached
      obtain ⟨holds, less⟩ := preserved initial along.1 taken
      have later := ih holds (along.2 next taken) rest
      rw [List.length_cons]
      omega

theorem along_iff_of_invariant {other : State → Event → Prop}
    (preserved : ∀ {state event next}, invariant state → allowed state event →
      step state event = some next → invariant next)
    (same : ∀ {state event}, invariant state → (allowed state event ↔ other state event))
    {start : State} {events : List Event} (initial : invariant start) :
    Along step allowed start events ↔ Along step other start events := by
  induction events generalizing start with
  | nil => exact Iff.rfl
  | cons event events ih =>
      simp only [Along]
      rw [← same initial]
      apply and_congr_right
      intro fits
      apply forall₂_congr
      intro next taken
      exact ih (preserved initial fits taken)

/-- A property that each step keeps exactly when it is allowed holds all along a run exactly when
all its steps are allowed. The invariant may rest on the property. -/
theorem every_iff_along_of_kept {admissible : State → Event → Prop}
    (preserved : ∀ {state event next}, invariant state → admissible state event →
      step state event = some next → property next → invariant next)
    (decides : ∀ {state event next}, invariant state → admissible state event → property state →
      step state event = some next → (property next ↔ allowed state event))
    (idle : ∀ {state event}, invariant state → admissible state event →
      step state event = none → allowed state event)
    {start : State} {events : List Event} (holds : invariant start) (initial : property start)
    (admitted : Along step admissible start events) :
    Every step property start events ↔ Along step allowed start events := by
  induction events generalizing start with
  | nil => exact iff_of_true initial trivial
  | cons event events ih =>
      simp only [Every, Along]
      cases taken : step start event with
      | none => simp [initial, idle holds admitted.1 taken]
      | some next =>
          have here := decides holds admitted.1 initial taken
          have later (reached : property next) :=
            ih (preserved holds admitted.1 taken reached) reached (admitted.2 next taken)
          simp only [initial, true_and, Option.some.injEq, forall_eq']
          constructor
          · intro every
            have reached : property next := by
              cases events with
              | nil => exact every
              | cons event events => exact every.1
            exact ⟨here.mp reached, (later reached).mp every⟩
          · rintro ⟨fits, rest⟩
            have reached : property next := here.mpr fits
            exact (later reached).mpr rest

theorem every_iff_along {admissible : State → Event → Prop}
    (preserved : ∀ {state event next}, invariant state → admissible state event →
      step state event = some next → invariant next)
    (decides : ∀ {state event next}, invariant state → admissible state event → property state →
      step state event = some next → (property next ↔ allowed state event))
    (idle : ∀ {state event}, step state event = none → allowed state event)
    {start : State} {events : List Event} (holds : invariant start) (initial : property start)
    (admitted : Along step admissible start events) :
    Every step property start events ↔ Along step allowed start events :=
  every_iff_along_of_kept (fun holds fits taken _ => preserved holds fits taken) decides
    (fun _ _ stuck => idle stuck) holds initial admitted

end Runs
