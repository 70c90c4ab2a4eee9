import ZBlueNet.Semaphore
import ZBlueNet.TimerHeapCore

/-!
How long the event loops block: the distance to the next timer, an `int64_t` with -1 for "none",
becomes the `int` that `epoll_wait` or `select` is given.
-/

namespace ZBlueNet

def IsInt64 (value : Int) : Prop := -2 ^ 63 ≤ value ∧ value < 2 ^ 63

def IsInt (value : Int) : Prop := -2 ^ 31 ≤ value ∧ value < 2 ^ 31

instance : DecidablePred IsInt64 := fun _ => inferInstanceAs (Decidable (_ ∧ _))

namespace Timestamp

structure Typed (t : Timestamp) : Prop where
  second : IsInt64 t.second
  nanosecond : IsInt64 t.nanosecond

def millisecondsTo (t other : Timestamp) : Int :=
  (other.second - t.second) * 1000 + (other.millisecond - t.millisecond)

def distanceTerms (t other : Timestamp) : List Int :=
  let bigger := if t.less other then other else t
  let smaller := if t.less other then t else other
  [bigger.second - smaller.second, (bigger.second - smaller.second) * 1000,
    bigger.millisecond - smaller.millisecond, t.distanceMillisecond other]

theorem distanceMillisecond_of_not_less {t other : Timestamp} (order : other.less t = false) :
    t.distanceMillisecond other = t.millisecondsTo other := by
  rw [less_eq_false_iff] at order
  simp only [distanceMillisecond, millisecondsTo]
  split
  · rfl
  · rename_i later
    rw [less_iff, not_lt] at later
    have same : t.key = other.key := le_antisymm order later
    simp only [key, EmbeddingLike.apply_eq_iff_eq, Prod.mk.injEq] at same
    simp only [millisecond, same.1, same.2, Int.sub_self]

theorem Typed.millisecond_bounds {t : Timestamp} (typed : t.Typed) :
    -2 ^ 44 ≤ t.millisecond ∧ t.millisecond ≤ 2 ^ 44 := by
  obtain ⟨lower, upper⟩ := typed.nanosecond
  have positive : (0 : Int) < 1000000 := by decide
  constructor
  · exact le_trans (by decide) (Int.tdiv_le_tdiv positive lower)
  · exact (Int.tdiv_le_tdiv positive upper.le).trans (by decide)

theorem Typed.distanceTerms_int64 {t other : Timestamp} (typed : t.Typed)
    (otherTyped : other.Typed) (near : IsInt (t.distanceMillisecond other)) :
    ∀ term ∈ t.distanceTerms other, IsInt64 term := by
  have bounds := typed.millisecond_bounds
  have otherBounds := otherTyped.millisecond_bounds
  simp only [distanceTerms, List.forall_mem_cons, IsInt64]
  simp only [distanceMillisecond, IsInt] at near ⊢
  split at near <;> simp_all <;> omega

end Timestamp

/-- The four loops that wait for the timers of a heap. -/
inductive EventLoop
  | epollReactor
  | epollService
  | epollAcceptor
  | selectAcceptor
deriving DecidableEq, Repr

def maxEpollTimeoutMsec : Int := 30 * 60 * 1000

/-- What `Epoller::doEvent` gives to `epoll_wait`. -/
def Epoller.doEventTimeout (timeout : Int) : Int := min timeout maxEpollTimeoutMsec

namespace EventLoop

variable {Callback : Type}

def epollTimeout (h : TimerHeap Callback) (now : Timestamp) : Int :=
  let timerTimeout := wrapInt (h.getNextTimeoutMillisecond now)
  if timerTimeout = -1 then 0 else timerTimeout

/-- `timeout` in `SelectAcceptor::loop`, the product in two's complement. -/
def selectTimeout (h : TimerHeap Callback) (now : Timestamp) : Int :=
  min (wrapInt (wrapInt (h.getNextTimeoutMillisecond now) * 1000)) (30 * 60 * 1000 * 1000)

def wait (h : TimerHeap Callback) (now : Timestamp) : EventLoop → Int
  | .epollReactor => Epoller.doEventTimeout (epollTimeout h now)
  | .epollService => Epoller.doEventTimeout (epollTimeout h now)
  | .epollAcceptor => Epoller.doEventTimeout (epollTimeout h now)
  | .selectAcceptor => selectTimeout h now

def unit : EventLoop → Int
  | .selectAcceptor => 1000
  | _ => 1

/-- Nothing on the way to the value overflows or is cut off: the terms of the distance, its
conversion to `int`, and the product of the loop over `select`. -/
structure Computes (loop : EventLoop) (h : TimerHeap Callback) (now : Timestamp) : Prop where
  distance : ∀ ptr, h.minHeapTop = some ptr → (h.valueOf ptr).less now = false →
    ∀ term ∈ now.distanceTerms (h.valueOf ptr), IsInt64 term
  converted : IsInt (h.getNextTimeoutMillisecond now)
  scaled : IsInt (h.getNextTimeoutMillisecond now * loop.unit)

/-- The wait fits the timers: not negative, half an hour at most, and not beyond a top that is not
due, in the milliseconds in which `checkTimeout` tells what is due. -/
structure Fits (loop : EventLoop) (h : TimerHeap Callback) (now : Timestamp) : Prop where
  nonnegative : 0 ≤ loop.wait h now
  halfHour : loop.wait h now ≤ 30 * 60 * 1000 * loop.unit
  early : ∀ ptr, h.minHeapTop = some ptr → now.millisecondLess (h.valueOf ptr) = true →
    loop.wait h now ≤ now.millisecondsTo (h.valueOf ptr) * loop.unit

def reach : EventLoop → Int
  | .selectAcceptor => 2147483
  | _ => 2147483647

def Reached (loop : EventLoop) (h : TimerHeap Callback) (now : Timestamp) : Prop :=
  ∃ ptr, h.minHeapTop = some ptr ∧ (h.valueOf ptr).less now = false ∧
    0 ≤ now.millisecondsTo (h.valueOf ptr) ∧ now.millisecondsTo (h.valueOf ptr) ≤ loop.reach

def Idle (h : TimerHeap Callback) (now : Timestamp) : Prop :=
  ∀ ptr, h.minHeapTop = some ptr → (h.valueOf ptr).less now = true

variable {h : TimerHeap Callback} {now : Timestamp} {ptr : TimerPtr}

theorem next_of_idle (idle : Idle h now) : h.getNextTimeoutMillisecond now = -1 := by
  rw [TimerHeap.getNextTimeoutMillisecond]
  split
  · rfl
  · rename_i ptr top
    rw [if_pos (idle ptr top)]

theorem next_of_top (top : h.minHeapTop = some ptr) (ahead : (h.valueOf ptr).less now = false) :
    h.getNextTimeoutMillisecond now = now.millisecondsTo (h.valueOf ptr) := by
  rw [TimerHeap.getNextTimeoutMillisecond, top]
  dsimp only
  rw [ahead, if_neg Bool.false_ne_true, Timestamp.distanceMillisecond_of_not_less ahead]

theorem idle_or_top (h : TimerHeap Callback) (now : Timestamp) :
    Idle h now ∨ ∃ ptr, h.minHeapTop = some ptr ∧ (h.valueOf ptr).less now = false := by
  by_cases idle : Idle h now
  · exact Or.inl idle
  · right
    simpa [Idle] using idle

theorem due_of_less {other : Timestamp} (earlier : other.less now = true) :
    now.millisecondLess other = false := by
  by_contra undue
  rw [Bool.not_eq_false, Timestamp.millisecondLess_lex] at undue
  rw [Timestamp.less_iff, ← not_le, Timestamp.key_le_iff] at earlier
  rcases undue with before | ⟨same, milliseconds⟩
  · omega
  · have nanoseconds : other.nanosecond ≤ now.nanosecond := by omega
    have monotone : other.millisecond ≤ now.millisecond :=
      Int.tdiv_le_tdiv (show (0 : Int) < 1000000 by decide) nanoseconds
    omega

theorem undue_of_negative {other : Timestamp} (ahead : other.less now = false)
    (negative : now.millisecondsTo other < 0) : now.millisecondLess other = true := by
  rw [Timestamp.less_eq_false_iff, Timestamp.key_le_iff] at ahead
  rw [Timestamp.millisecondLess_lex]
  rcases ahead with before | ⟨same, nanoseconds⟩
  · exact Or.inl before
  · have monotone : now.millisecond ≤ other.millisecond :=
      Int.tdiv_le_tdiv (show (0 : Int) < 1000000 by decide) nanoseconds
    rw [Timestamp.millisecondsTo] at negative
    omega

def amount (next : Int) : EventLoop → Int
  | .selectAcceptor => next * 1000
  | _ => if next = -1 then 0 else next

theorem Computes.wait_eq {loop : EventLoop} (computes : Computes loop h now) :
    loop.wait h now =
      min (loop.amount (h.getNextTimeoutMillisecond now)) (30 * 60 * 1000 * loop.unit) := by
  have converted := wrapInt_eq computes.converted.1 computes.converted.2
  have scaled := wrapInt_eq computes.scaled.1 computes.scaled.2
  cases loop
  case selectAcceptor =>
    rw [unit] at scaled
    rw [wait, selectTimeout, converted, scaled]
    rfl
  all_goals
    rw [wait, Epoller.doEventTimeout, epollTimeout, converted]
    rfl

theorem computes_of_idle (loop : EventLoop) (idle : Idle h now) : Computes loop h now := by
  constructor
  case distance =>
    intro ptr top ahead
    rw [idle ptr top] at ahead
    cases ahead
  all_goals rw [next_of_idle idle]
  case converted => exact ⟨by decide, by decide⟩
  case scaled => cases loop <;> exact ⟨by decide, by decide⟩

theorem computes_of_reached {loop : EventLoop} (typed : now.Typed)
    (topTyped : ∀ ptr, h.minHeapTop = some ptr → (h.valueOf ptr).Typed)
    (reached : Reached loop h now) : Computes loop h now := by
  obtain ⟨ptr, top, ahead, lower, upper⟩ := reached
  have bounds : IsInt (now.millisecondsTo (h.valueOf ptr)) ∧
      IsInt (now.millisecondsTo (h.valueOf ptr) * loop.unit) := by
    cases loop <;> simp only [reach, unit, IsInt] at upper ⊢ <;> omega
  constructor
  case distance =>
    intro other same _
    cases Option.some.inj (top.symm.trans same)
    apply typed.distanceTerms_int64 (topTyped ptr top)
    rw [Timestamp.distanceMillisecond_of_not_less ahead]
    exact bounds.1
  all_goals rw [next_of_top top ahead]
  case converted => exact bounds.1
  case scaled => exact bounds.2

theorem reached_of_fits {loop : EventLoop} (computes : Computes loop h now)
    (fits : Fits loop h now) (top : h.minHeapTop = some ptr)
    (ahead : (h.valueOf ptr).less now = false) : Reached loop h now := by
  have next := next_of_top top ahead
  have nonnegative := fits.nonnegative
  have early := fits.early ptr top
  have below := computes.converted.2
  have scaledBelow := computes.scaled.2
  rw [computes.wait_eq, next] at nonnegative early
  rw [next] at below scaledBelow
  have positive : 0 ≤ now.millisecondsTo (h.valueOf ptr) := by
    by_contra negative
    have late := early (undue_of_negative ahead (by omega))
    cases loop <;> simp only [amount, unit] at nonnegative late <;> omega
  refine ⟨ptr, top, ahead, positive, ?_⟩
  cases loop <;> simp only [reach, unit] at scaledBelow ⊢ <;> omega

theorem fits_of_reached {loop : EventLoop} (computes : Computes loop h now)
    (reached : Reached loop h now) : Fits loop h now := by
  obtain ⟨ptr, top, ahead, lower, -⟩ := reached
  have exact' := computes.wait_eq
  rw [next_of_top top ahead] at exact'
  constructor
  case early =>
    intro other same undue
    cases Option.some.inj (top.symm.trans same)
    cases loop <;> simp only [amount, unit] at exact' ⊢ <;> omega
  all_goals cases loop <;> simp only [amount, unit] at exact' ⊢ <;> omega

theorem fits_iff_of_idle {loop : EventLoop} (idle : Idle h now) :
    Fits loop h now ↔ loop ≠ .selectAcceptor := by
  have exact' := (computes_of_idle loop idle).wait_eq
  rw [next_of_idle idle] at exact'
  constructor
  · rintro ⟨nonnegative, -, -⟩ rfl
    simp only [amount, unit] at exact'
    omega
  · intro epoll
    have none : loop.wait h now = 0 := by
      cases loop <;> first | exact exact' | exact absurd rfl epoll
    constructor
    case early =>
      intro ptr top undue
      rw [due_of_less (idle ptr top)] at undue
      cases undue
    case nonnegative => exact none.ge
    case halfHour =>
      rw [none]
      cases loop <;> decide

/-- A loop waits well exactly for a top within its reach; the loops over an `Epoller` also where
there is nothing to wait for. -/
theorem waits_iff (h : TimerHeap Callback) (typed : now.Typed)
    (topTyped : ∀ ptr, h.minHeapTop = some ptr → (h.valueOf ptr).Typed) (loop : EventLoop) :
    Computes loop h now ∧ Fits loop h now ↔
      Reached loop h now ∨ loop ≠ .selectAcceptor ∧ Idle h now := by
  rcases idle_or_top h now with idle | ⟨ptr, top, ahead⟩
  · have unreached : ¬ Reached loop h now := by
      rintro ⟨ptr, top, ahead, -⟩
      rw [idle ptr top] at ahead
      cases ahead
    simp only [computes_of_idle loop idle, fits_iff_of_idle idle, unreached, idle, true_and,
      false_or, and_true]
  · have busy : ¬ Idle h now := by
      intro idle
      rw [idle ptr top] at ahead
      cases ahead
    simp only [busy, and_false, or_false]
    constructor
    · rintro ⟨computes, fits⟩
      exact reached_of_fits computes fits top ahead
    · intro reached
      have computes := computes_of_reached typed topTyped reached
      exact ⟨computes, fits_of_reached computes reached⟩

def oneTimer (timeoutMs : Int) : TimerHeap Unit := (TimerHeap.empty.addTimer ⟨5, 0⟩ timeoutMs ()).2

theorem waits_iff_oneTimer :
    Computes .selectAcceptor (oneTimer 250) ⟨5, 0⟩ ∧ Fits .selectAcceptor (oneTimer 250) ⟨5, 0⟩ ↔
      Reached .selectAcceptor (oneTimer 250) ⟨5, 0⟩ ∨
        EventLoop.selectAcceptor ≠ .selectAcceptor ∧ Idle (oneTimer 250) ⟨5, 0⟩ := by
  refine waits_iff (oneTimer 250) ⟨by decide, by decide⟩ ?_ .selectAcceptor
  intro ptr top
  have first : (oneTimer 250).minHeapTop = some 1 := by decide
  cases first.symm.trans top
  exact ⟨by decide, by decide⟩

/-- A timer after 25 days makes the loops over an `Epoller` wait for ever, and without a timer the
loop over `select` gives it a negative time. -/
theorem far_and_none_misfit :
    EventLoop.epollReactor.wait (oneTimer (2 ^ 31)) ⟨5, 0⟩ = -2 ^ 31 ∧
      ¬ Fits .epollReactor (oneTimer (2 ^ 31)) ⟨5, 0⟩ ∧
      EventLoop.selectAcceptor.wait (TimerHeap.empty : TimerHeap Unit) ⟨5, 0⟩ = -1000 ∧
      ¬ Fits .selectAcceptor (TimerHeap.empty : TimerHeap Unit) ⟨5, 0⟩ := by
  refine ⟨by decide, ?_, by decide, ?_⟩
  · intro fits
    exact absurd fits.nonnegative (by decide)
  · intro fits
    exact absurd fits.nonnegative (by decide)

end EventLoop

end ZBlueNet
