import ZBlueNet.TimerLife
import ZBlueNet.TimerOrder
import Mathlib.Algebra.Order.BigOperators.Group.Finset
import Mathlib.Tactic.Ring

/-!
The firing schedule: in runs of `addTimer` and `checkTimeout` alone, every timer has
been called as often as its deadline, its period and its number of calls say.
-/

namespace ZBlueNet

open TimerHeap

structure Added where
  deadline : Timestamp
  period : Int
  callTimes : Int
deriving DecidableEq, Repr

inductive HeapCall
  | addTimer (now : Timestamp) (timeoutMs : Int) (callTimes : Int)
  | checkTimeout (now : Timestamp)
deriving DecidableEq, Repr

/-- A timer heap whose callbacks are the positions of their timers in `added`. -/
structure Schedule where
  heap : TimerHeap Nat
  added : List Added
  fired : List (Firing Nat)

namespace Schedule

def start : Schedule := { heap := .empty, added := [], fired := [] }

/-- `addTimer` answers -1 for a timer that it does not add. -/
def call (fuel : Nat) (s : Schedule) : HeapCall → Option Schedule
  | .addTimer now timeoutMs callTimes =>
      let result := s.heap.addTimer now timeoutMs s.added.length callTimes
      let entry : Added := ⟨now.add (max 0 timeoutMs), max 0 timeoutMs, callTimes⟩
      some { s with
        heap := result.2
        added := if result.1 = -1 then s.added else s.added ++ [entry] }
  | .checkTimeout now =>
      (s.heap.checkTimeout fuel now).map fun result =>
        { s with heap := result.2, fired := s.fired ++ result.1 }

def calls (s : Schedule) (token : Nat) : Nat := (s.fired.map Firing.timerCb).count token

end Schedule

def Added.dueCalls (entry : Added) (now : Timestamp) : Nat :=
  if now.milliseconds < entry.deadline.milliseconds then 0
  else if entry.callTimes = 1 then 1
  else
    let turns :=
      ((now.milliseconds - entry.deadline.milliseconds) / entry.period + 1).toNat
    if entry.callTimes > 1 then min entry.callTimes.toNat turns else turns

structure Added.Tracks (entry : Added) (count : Nat) (clock : Int) (timer : Timer Nat) : Prop where
  normal : timer.value.Normalised
  deadline : timer.value.milliseconds = entry.deadline.milliseconds + count * entry.period
  period : timer.timeoutMillisec = entry.period
  remaining : timer.callTimes =
    if entry.callTimes ≥ 1 then entry.callTimes - count else entry.callTimes
  unfinished : entry.callTimes ≥ 1 → (count : Int) < entry.callTimes
  past : 1 ≤ count → entry.deadline.milliseconds + (count - 1) * entry.period ≤ clock

structure Added.Finished (entry : Added) (count : Nat) (clock : Int) : Prop where
  finite : 1 ≤ entry.callTimes
  all : (count : Int) = entry.callTimes
  past : entry.deadline.milliseconds + (entry.callTimes - 1) * entry.period ≤ clock

structure Added.Valid (entry : Added) : Prop where
  normal : entry.deadline.Normalised
  positive : 0 ≤ entry.period
  recurring : entry.callTimes ≠ 1 → 1 ≤ entry.period

section DueCalls

variable {entry : Added} {count : Nat} {clock : Int} {timer : Timer Nat} {now : Timestamp}

theorem elapsed_periods {elapsed period : Int} {count : Nat} (positive : 1 ≤ period)
    (lower : (count - 1) * period ≤ elapsed) (upper : elapsed < count * period) :
    elapsed / period + 1 = count := by
  have above := (Int.le_ediv_iff_mul_le (show 0 < period by omega)).mpr lower
  have below := (Int.ediv_lt_iff_lt_mul (show 0 < period by omega)).mpr upper
  omega

theorem Added.Tracks.dueCalls (tracks : entry.Tracks count now.milliseconds timer)
    (valid : entry.Valid) (undue : now.milliseconds < timer.value.milliseconds) :
    count = entry.dueCalls now := by
  have deadline := tracks.deadline
  simp only [Added.dueCalls]
  cases count with
  | zero =>
      rw [Int.natCast_zero, Int.zero_mul] at deadline
      rw [if_pos (by omega)]
  | succ earlier =>
      have past := tracks.past (by omega)
      have recurring : entry.callTimes ≠ 1 := fun once => by
        have unfinished := tracks.unfinished (by omega)
        omega
      have positive := valid.recurring recurring
      have elapsed : 0 ≤ ((earlier + 1 : Nat) - 1 : Int) * entry.period :=
        Int.mul_nonneg (by omega) (by omega)
      have periods := elapsed_periods positive
        (show ((earlier + 1 : Nat) - 1 : Int) * entry.period ≤
          now.milliseconds - entry.deadline.milliseconds by omega) (by omega)
      rw [if_neg (by omega), if_neg recurring, periods, Int.toNat_natCast]
      split
      · have unfinished := tracks.unfinished (by omega)
        omega
      · rfl

theorem Added.Finished.dueCalls (finished : entry.Finished count now.milliseconds)
    (valid : entry.Valid) : count = entry.dueCalls now := by
  have finite := finished.finite
  have all := finished.all
  have past := finished.past
  have positive := valid.positive
  have elapsed : 0 ≤ (entry.callTimes - 1) * entry.period := Int.mul_nonneg (by omega) positive
  simp only [Added.dueCalls]
  rw [if_neg (by omega)]
  split
  · omega
  · rename_i several
    have recurring := valid.recurring several
    have turns := (Int.le_ediv_iff_mul_le (show 0 < entry.period by omega)).mpr
      (show (entry.callTimes - 1) * entry.period ≤
        now.milliseconds - entry.deadline.milliseconds by omega)
    rw [if_pos (by omega)]
    omega

end DueCalls

structure Ledger (heap : TimerHeap Nat) (added : List Added) (count : Nat → Nat) (clock : Int) :
    Prop where
  indexed : Indexed heap
  inOrder : InOrder heap
  valid : ∀ entry ∈ added, entry.Valid
  tracks : ∀ ptr timer, heap.live ptr = some timer →
    ∃ entry, added[timer.timerCb]? = some entry ∧ entry.Tracks (count timer.timerCb) clock timer
  single : ∀ ptr other timer otherTimer, heap.live ptr = some timer →
    heap.live other = some otherTimer → timer.timerCb = otherTimer.timerCb → ptr = other
  finished : ∀ token entry, added[token]? = some entry →
    (∀ ptr timer, heap.live ptr = some timer → timer.timerCb ≠ token) →
    entry.Finished (count token) clock
  unused : ∀ token, added.length ≤ token → count token = 0

namespace Ledger

variable {heap next : TimerHeap Nat} {added : List Added} {count : Nat → Nat} {clock : Int}
  {now : Timestamp} {firing : Firing Nat}

theorem later (ledger : Ledger heap added count clock) {clock' : Int} (order : clock ≤ clock') :
    Ledger heap added count clock' := by
  refine ⟨ledger.indexed, ledger.inOrder, ledger.valid, ?_, ledger.single, ?_, ledger.unused⟩
  · intro ptr timer found
    obtain ⟨entry, known, tracks⟩ := ledger.tracks ptr timer found
    exact ⟨entry, known, { tracks with past := fun called => le_trans (tracks.past called) order }⟩
  · intro token entry known gone
    have finished := ledger.finished token entry known gone
    exact { finished with past := le_trans finished.past order }

theorem tracks_rearm {entry : Added} {calls : Nat} {timer : Timer Nat}
    (tracks : entry.Tracks calls now.milliseconds timer) (valid : entry.Valid)
    (due : timer.value.milliseconds ≤ now.milliseconds) (again : timer.callTimes ≠ 1) :
    entry.Tracks (calls + 1) now.milliseconds timer.rearm := by
  have period : 0 ≤ timer.timeoutMillisec := tracks.period ▸ valid.positive
  have moved : ((calls + 1 : Nat) : Int) * entry.period = calls * entry.period + entry.period := by
    push_cast
    ring
  have remaining := tracks.remaining
  have unfinished := tracks.unfinished
  refine ⟨tracks.normal.add period, ?_, tracks.period, ?_, ?_, ?_⟩
  · rw [moved]
    simp only [Timer.rearm]
    rw [tracks.normal.milliseconds_add period, tracks.period, tracks.deadline]
    ring
  · simp only [Timer.rearm]
    push_cast
    split at remaining <;> split <;> omega
  · intro finite
    push_cast
    rw [if_pos finite] at remaining
    have before := unfinished finite
    omega
  · intro _
    push_cast
    have deadline := tracks.deadline
    rw [show (calls : Int) + 1 - 1 = calls by ring]
    omega

theorem finished_last {entry : Added} {calls : Nat} {timer : Timer Nat}
    (tracks : entry.Tracks calls now.milliseconds timer)
    (due : timer.value.milliseconds ≤ now.milliseconds) (last : timer.callTimes = 1) :
    entry.Finished (calls + 1) now.milliseconds := by
  have remaining := tracks.remaining
  have deadline := tracks.deadline
  have finite : 1 ≤ entry.callTimes := by
    split at remaining
    · assumption
    · omega
  rw [if_pos finite] at remaining
  have all : ((calls + 1 : Nat) : Int) = entry.callTimes := by
    push_cast
    omega
  refine ⟨finite, all, ?_⟩
  rw [show entry.callTimes - 1 = calls by omega]
  omega

theorem turn (ledger : Ledger heap added count now.milliseconds) (normal : now.Normalised)
    (turned : heap.checkTurn now = some (firing, next)) :
    Ledger next added (fun token => count token + if token = firing.timerCb then 1 else 0)
      now.milliseconds := by
  obtain ⟨ptr, timer, fired⟩ := ledger.indexed.checkTurn_some turned
  obtain ⟨entry, known, tracks⟩ := ledger.tracks ptr timer fired.found
  have callback : firing.timerCb = timer.timerCb := by rw [fired.firing]
  have due := (normal.millisecondLess_eq_false_iff tracks.normal).mp fired.due
  have others (other : TimerPtr) (otherTimer : Timer Nat) (different : other ≠ ptr)
      (found : heap.live other = some otherTimer) : otherTimer.timerCb ≠ firing.timerCb := by
    rw [callback]
    exact fun same => different (ledger.single other ptr otherTimer timer found fired.found same)
  refine ⟨fired.indexed, fired.inOrder ledger.inOrder, ledger.valid, ?_, ?_, ?_, ?_⟩
  · intro other otherTimer found
    obtain ⟨-, again, rfl⟩ | ⟨different, before⟩ := rearmed_cases fired.live found
    · refine ⟨entry, known, ?_⟩
      rw [if_pos (show timer.rearm.timerCb = firing.timerCb from callback.symm)]
      exact tracks_rearm tracks (ledger.valid entry (List.mem_of_getElem? known)) due again
    · rw [if_neg (others other otherTimer different before)]
      exact ledger.tracks other otherTimer before
  · intro first second firstTimer secondTimer firstFound secondFound same
    obtain ⟨firstHere, -, rfl⟩ | ⟨firstElse, firstBefore⟩ := rearmed_cases fired.live firstFound
    · obtain ⟨secondHere, -, -⟩ | ⟨secondElse, secondBefore⟩ :=
        rearmed_cases fired.live secondFound
      · rw [firstHere, secondHere]
      · exact absurd (same.symm.trans callback.symm) (others _ _ secondElse secondBefore)
    · obtain ⟨secondHere, -, rfl⟩ | ⟨secondElse, secondBefore⟩ :=
        rearmed_cases fired.live secondFound
      · exact absurd (same.trans callback.symm) (others _ _ firstElse firstBefore)
      · exact ledger.single first second firstTimer secondTimer firstBefore secondBefore same
  · intro token other otherKnown gone
    by_cases same : token = timer.timerCb
    · rw [same, known, Option.some.injEq] at otherKnown
      rw [if_pos (same.trans callback.symm), same, ← otherKnown]
      apply finished_last tracks due
      by_contra again
      exact gone ptr timer.rearm (by simp [fired.live, again]) same.symm
    · rw [if_neg (by rwa [callback]), Nat.add_zero]
      apply ledger.finished token other otherKnown
      intro otherPtr otherTimer found
      by_cases here : otherPtr = ptr
      · rw [here, fired.found, Option.some.injEq] at found
        rw [← found]
        exact Ne.symm same
      · exact gone otherPtr otherTimer (by simp [fired.live, here, found])
  · intro token large
    have bound : timer.timerCb < added.length := (List.getElem?_eq_some_iff.mp known).1
    rw [if_neg (by omega), Nat.add_zero]
    exact ledger.unused token large

theorem tracks_recurring {entry : Added} {calls : Nat} {timer : Timer Nat}
    (tracks : entry.Tracks calls clock timer) (again : timer.callTimes ≠ 1) :
    entry.callTimes ≠ 1 := by
  intro once
  have remaining := tracks.remaining
  have unfinished := tracks.unfinished (by omega)
  rw [if_pos (by omega)] at remaining
  omega

def turnsLeft (now : Timestamp) : Option (Timer Nat) → Nat
  | none => 0
  | some timer => (now.milliseconds - timer.value.milliseconds + 1).toNat

def pendingTurns (heap : TimerHeap Nat) (now : Timestamp) : Nat :=
  ∑ ptr ∈ Finset.range heap.nextPtr, turnsLeft now (heap.live ptr)

theorem turn_pending (ledger : Ledger heap added count now.milliseconds) (normal : now.Normalised)
    (turned : heap.checkTurn now = some (firing, next)) :
    pendingTurns next now < pendingTurns heap now := by
  obtain ⟨ptr, timer, fired⟩ := ledger.indexed.checkTurn_some turned
  obtain ⟨entry, known, tracks⟩ := ledger.tracks ptr timer fired.found
  have due := (normal.millisecondLess_eq_false_iff tracks.normal).mp fired.due
  have inside : ptr < heap.nextPtr := ledger.indexed.live_lt fired.found
  have less : turnsLeft now (next.live ptr) < turnsLeft now (heap.live ptr) := by
    rw [fired.found]
    simp only [fired.live, if_true]
    split
    · simp only [turnsLeft]
      omega
    · rename_i again
      have recurring := (ledger.valid entry (List.mem_of_getElem? known)).recurring
        (tracks_recurring tracks again)
      have period : 0 ≤ timer.timeoutMillisec := by
        rw [tracks.period]
        omega
      have moved := tracks.normal.milliseconds_add period
      rw [tracks.period] at moved
      simp only [turnsLeft, Timer.rearm, tracks.period]
      omega
  simp only [pendingTurns, fired.nextPtr]
  refine Finset.sum_lt_sum (fun other _ => ?_) ⟨ptr, Finset.mem_range.mpr inside, less⟩
  by_cases same : other = ptr
  · exact same ▸ less.le
  · simp [fired.live, same]

structure Checked (heap : TimerHeap Nat) (added : List Added) (count : Nat → Nat) (now : Timestamp)
    (fired : List (Firing Nat)) (next : TimerHeap Nat) : Prop where
  ledger : Ledger next added
    (fun token => count token + (fired.map Firing.timerCb).count token) now.milliseconds
  sorted : fired.Pairwise fun first second => first.deadline.key ≤ second.deadline.key
  least : ∀ lower, (∀ ptr timer, heap.live ptr = some timer → lower ≤ timer.value.key) →
    ∀ firing ∈ fired, lower ≤ firing.deadline.key
  undue : ∀ ptr timer, next.live ptr = some timer → now.millisecondLess timer.value = true

theorem checkTimeout (ledger : Ledger heap added count now.milliseconds) (normal : now.Normalised)
    (fuel : Nat) (enough : pendingTurns heap now < fuel) :
    ∃ fired next, heap.checkTimeout fuel now = some (fired, next) ∧
      Checked heap added count now fired next := by
  induction fuel generalizing heap count with
  | zero => omega
  | succ fuel ih =>
      cases turned : heap.checkTurn now with
      | none =>
          refine ⟨[], heap, by simp [TimerHeap.checkTimeout, turned], ledger, .nil, by simp,
            fun ptr timer found => ledger.indexed.checkTurn_none ledger.inOrder turned found⟩
      | some result =>
          obtain ⟨firing, next⟩ := result
          have pending := turn_pending ledger normal turned
          obtain ⟨fired, last, ran, checked⟩ := ih (ledger.turn normal turned) (by omega)
          obtain ⟨ptr, timer, turn⟩ := ledger.indexed.checkTurn_some turned
          obtain ⟨entry, known, tracks⟩ := ledger.tracks ptr timer turn.found
          have deadline : firing.deadline = timer.value := by rw [turn.firing]
          have behind (lower : ℤ ×ₗ ℤ)
              (bound : ∀ ptr timer, heap.live ptr = some timer → lower ≤ timer.value.key) :
              ∀ ptr timer, next.live ptr = some timer → lower ≤ timer.value.key := by
            intro other otherTimer found
            rcases rearmed_cases turn.live found with ⟨-, -, rfl⟩ | ⟨-, old⟩
            · have positive := (ledger.valid entry (List.mem_of_getElem? known)).positive
              exact le_trans (bound ptr timer turn.found)
                (tracks.normal.key_le_add (tracks.period ▸ positive))
            · exact bound other otherTimer old
          refine ⟨firing :: fired, last, by simp [TimerHeap.checkTimeout, turned, ran], ?_, ?_, ?_,
            checked.undue⟩
          · have after := checked.ledger
            have total (token : Nat) :
                count token + ((firing :: fired).map Firing.timerCb).count token =
                  count token + (if token = firing.timerCb then 1 else 0) +
                    (fired.map Firing.timerCb).count token := by
              rw [List.map_cons, List.count_cons]
              by_cases same : token = firing.timerCb
              · simp only [same, beq_self_eq_true, if_true]
                omega
              · simp only [same, beq_iff_eq, Ne.symm same, if_false]
                omega
            simpa only [total] using after
          · refine List.pairwise_cons.mpr ⟨fun later member => ?_, checked.sorted⟩
            exact checked.least _ (behind _ (deadline ▸ turn.least ledger.inOrder)) later member
          · intro lower bound
            refine List.forall_mem_cons.mpr ⟨?_, checked.least lower (behind lower bound)⟩
            rw [deadline]
            exact bound ptr timer turn.found

theorem start (clock : Int) : Ledger Schedule.start.heap [] (fun _ => 0) clock := by
  refine ⟨empty_indexed, empty_inOrder, by simp, ?_, ?_, by simp, by simp⟩ <;>
    simp [Schedule.start, TimerHeap.empty, live]

theorem nextTimerId_ne (timerId : TimerId) : nextTimerId timerId ≠ -1 := by
  simp only [nextTimerId]
  split
  · decide
  · rename_i positive
    exact fun negative => positive (negative ▸ by decide)

theorem addTimer (ledger : Ledger heap added count clock) (normal : now.Normalised)
    (timeoutMs callTimes : Int) (recurring : callTimes ≠ 1 → 1 ≤ timeoutMs) :
    let result := heap.addTimer now timeoutMs added.length callTimes
    let entry : Added := ⟨now.add (max 0 timeoutMs), max 0 timeoutMs, callTimes⟩
    Ledger result.2 (if result.1 = -1 then added else added ++ [entry]) count clock := by
  intro result entry
  have positive : 0 ≤ max 0 timeoutMs := le_max_left _ _
  obtain ⟨indexed, ordered, outcome⟩ :=
    ledger.indexed.addTimer now timeoutMs added.length callTimes
  obtain ⟨refused, live, -⟩ | ⟨accepted, -, -, live⟩ := outcome
  · rw [if_pos refused]
    exact ⟨indexed, ordered ledger.inOrder, ledger.valid, live ▸ ledger.tracks,
      live ▸ ledger.single, live ▸ ledger.finished, ledger.unused⟩
  · rw [if_neg (by rw [accepted]; exact nextTimerId_ne _)]
    have valid : entry.Valid := ⟨normal.add positive, positive, fun again => by
      have period := recurring again
      simp only [entry]
      omega⟩
    have known (token : Nat) (bound : token < added.length) :
        (added ++ [entry])[token]? = added[token]? := List.getElem?_append_left bound
    have bounds (ptr : TimerPtr) (timer : Timer Nat) (found : heap.live ptr = some timer) :
        timer.timerCb < added.length := by
      obtain ⟨other, otherKnown, -⟩ := ledger.tracks ptr timer found
      exact (List.getElem?_eq_some_iff.mp otherKnown).1
    refine ⟨indexed, ordered ledger.inOrder, ?_, ?_, ?_, ?_, ?_⟩
    · intro other member
      rw [List.mem_append, List.mem_singleton] at member
      rcases member with before | rfl
      · exact ledger.valid other before
      · exact valid
    · intro ptr timer found
      obtain ⟨-, rfl⟩ | before := ledger.indexed.addTimer_live found
      · refine ⟨entry, by simp [Timer.unplaced, Timer.create], ?_⟩
        have unused : count added.length = 0 := ledger.unused _ le_rfl
        refine ⟨valid.normal, ?_, rfl, ?_, ?_, ?_⟩ <;>
          simp only [Timer.unplaced, Timer.create, unused]
        · rw [Int.natCast_zero, Int.zero_mul, Int.add_zero]
        · rw [Int.natCast_zero, Int.sub_zero, ite_self]
        · omega
        · omega
      · rw [known _ (bounds ptr timer before)]
        exact ledger.tracks ptr timer before
    · intro first second firstTimer secondTimer firstFound secondFound same
      obtain ⟨firstHere, firstNew⟩ | firstBefore := ledger.indexed.addTimer_live firstFound
      · obtain ⟨secondHere, -⟩ | secondBefore := ledger.indexed.addTimer_live secondFound
        · rw [firstHere, secondHere]
        · have bound := bounds second secondTimer secondBefore
          rw [← same, firstNew] at bound
          exact absurd bound (lt_irrefl _)
      · obtain ⟨secondHere, secondNew⟩ | secondBefore := ledger.indexed.addTimer_live secondFound
        · have bound := bounds first firstTimer firstBefore
          rw [same, secondNew] at bound
          exact absurd bound (lt_irrefl _)
        · exact ledger.single first second firstTimer secondTimer firstBefore secondBefore same
    · intro token other otherKnown gone
      have bound := (List.getElem?_eq_some_iff.mp otherKnown).1
      rw [List.length_append, List.length_singleton] at bound
      by_cases new : token = added.length
      · refine absurd new.symm (gone heap.nextPtr _ (by rw [live]; exact if_pos rfl))
      · rw [known token (by omega)] at otherKnown
        apply ledger.finished token other otherKnown
        intro ptr timer found
        apply gone ptr timer
        have different : ptr ≠ heap.nextPtr := (ledger.indexed.live_lt found).ne
        rw [live]
        simp only [different, if_false, found]
    · intro token large
      rw [List.length_append] at large
      exact ledger.unused token (by omega)

end Ledger

/-! Whole runs. -/

theorem checkTimeout_more {Callback : Type} (h : TimerHeap Callback) (now : Timestamp)
    (result : List (Firing Callback) × TimerHeap Callback) (fuel more : Nat)
    (ran : h.checkTimeout fuel now = some result) (bound : fuel ≤ more) :
    h.checkTimeout more now = some result := by
  induction fuel generalizing h result more with
  | zero => simp [TimerHeap.checkTimeout] at ran
  | succ fuel ih =>
      obtain ⟨more, rfl⟩ : ∃ fewer, more = fewer + 1 := ⟨more - 1, by omega⟩
      simp only [TimerHeap.checkTimeout] at ran ⊢
      cases turned : h.checkTurn now with
      | none => simpa [turned] using ran
      | some turn =>
          simp only [turned, Option.map_eq_some_iff] at ran ⊢
          obtain ⟨rest, restRan, same⟩ := ran
          exact ⟨rest, ih turn.2 rest more restRan (by omega), same⟩

theorem turn_run {Callback : Type} (h : TimerHeap Callback) (now : Timestamp) (fuel : Nat)
    (fired : List (Firing Callback)) (next : TimerHeap Callback)
    (ran : h.checkTimeout fuel now = some (fired, next)) (checking : Option Timestamp)
    (log : List (Firing Callback)) :
    Runs.run TimerCalls.step (TimerCalls.turn ⟨h, checking, log⟩ now)
      (List.replicate fired.length .callbackReturns) = some ⟨next, none, log ++ fired⟩ := by
  induction fuel generalizing h fired checking log with
  | zero => simp [TimerHeap.checkTimeout] at ran
  | succ fuel ih =>
      simp only [TimerHeap.checkTimeout] at ran
      cases turned : h.checkTurn now with
      | none =>
          simp only [turned, Option.some.injEq, Prod.mk.injEq] at ran
          obtain ⟨rfl, rfl⟩ := ran
          simp [TimerCalls.turn, turned, Runs.run]
      | some turn =>
          simp only [turned, Option.map_eq_some_iff, Prod.mk.injEq] at ran
          obtain ⟨rest, restRan, rfl, rfl⟩ := ran
          have after := ih turn.2 rest.1 restRan (some now) (log ++ [turn.1])
          rw [List.append_assoc] at after
          simpa [TimerCalls.turn, turned, Runs.run, List.replicate_succ, TimerCalls.step] using after

/-- Silent callbacks return at once: the calls and returns of `TimerCalls` make the same run. -/
theorem checkTimeout_run {Callback : Type} (h : TimerHeap Callback) (now : Timestamp) (fuel : Nat)
    (fired : List (Firing Callback)) (next : TimerHeap Callback)
    (ran : h.checkTimeout fuel now = some (fired, next)) (log : List (Firing Callback)) :
    Runs.run TimerCalls.step ⟨h, none, log⟩
      (.checkTimeout now :: List.replicate fired.length .callbackReturns) =
        some ⟨next, none, log ++ fired⟩ :=
  turn_run h now fuel fired next ran none log

/-- Time stamps come from `setNow`, and a timer that can fire twice has a period. -/
def HeapCall.Valid : HeapCall → Prop
  | .addTimer now timeoutMs callTimes => now.Normalised ∧ (callTimes ≠ 1 → 1 ≤ timeoutMs)
  | .checkTimeout now => now.Normalised

def checkTimes (calls : List HeapCall) : List Timestamp :=
  calls.filterMap fun call =>
    match call with
    | .addTimer .. => none
    | .checkTimeout now => some now

theorem calls_append (s : Schedule) (next : TimerHeap Nat) (fired : List (Firing Nat)) :
    Schedule.calls ⟨next, s.added, s.fired ++ fired⟩ =
      fun token => s.calls token + (fired.map Firing.timerCb).count token := by
  funext token
  simp [Schedule.calls]

theorem run_ledger (calls : List HeapCall) (s : Schedule) (clock finalClock : Int)
    (ledger : Ledger s.heap s.added s.calls clock) (valid : ∀ call ∈ calls, call.Valid)
    (fromClock : ∀ time ∈ checkTimes calls, clock ≤ time.milliseconds)
    (toClock : ∀ time ∈ checkTimes calls, time.milliseconds ≤ finalClock)
    (order : clock ≤ finalClock)
    (sorted : (checkTimes calls).Pairwise fun first second =>
      first.milliseconds ≤ second.milliseconds) :
    ∃ bound finish, (∀ fuel, bound ≤ fuel → Runs.run (Schedule.call fuel) s calls = some finish) ∧
      Ledger finish.heap finish.added finish.calls finalClock := by
  induction calls generalizing s clock with
  | nil => exact ⟨0, s, fun _ _ => rfl, ledger.later order⟩
  | cons call calls ih =>
      simp only [List.forall_mem_cons] at valid
      cases call with
      | addTimer now timeoutMs callTimes =>
          simp only [checkTimes, List.filterMap_cons] at fromClock toClock sorted
          have added := ledger.addTimer valid.1.1 timeoutMs callTimes valid.1.2
          obtain ⟨bound, finish, ran, final⟩ := ih ⟨_, _, s.fired⟩ clock added valid.2 fromClock
            toClock order sorted
          exact ⟨bound, finish, fun fuel enough => ran fuel enough, final⟩
      | checkTimeout now =>
          simp only [checkTimes, List.filterMap_cons, List.forall_mem_cons,
            List.pairwise_cons] at fromClock toClock sorted
          have here := ledger.later fromClock.1
          obtain ⟨fired, next, ran, checked⟩ := here.checkTimeout valid.1 _ (Nat.lt_succ_self _)
          have counted : Ledger next s.added
              (Schedule.calls ⟨next, s.added, s.fired ++ fired⟩) now.milliseconds := by
            rw [calls_append]
            exact checked.ledger
          obtain ⟨bound, finish, rest, final⟩ := ih ⟨next, s.added, s.fired ++ fired⟩
            now.milliseconds counted valid.2 sorted.1 toClock.2 toClock.1 sorted.2
          refine ⟨max bound (Ledger.pendingTurns s.heap now + 1), finish, ?_, final⟩
          intro fuel enough
          have stepped : s.call fuel (.checkTimeout now) =
              some ⟨next, s.added, s.fired ++ fired⟩ := by
            simp [Schedule.call, checkTimeout_more _ _ _ _ fuel ran (by omega)]
          simp only [Runs.run, stepped, Option.bind_some]
          exact rest fuel (by omega)

/-! Until the ids wrap around, every `addTimer` adds its timer. -/

def HeapCall.adds : HeapCall → Option Added
  | .addTimer now timeoutMs callTimes =>
      some ⟨now.add (max 0 timeoutMs), max 0 timeoutMs, callTimes⟩
  | .checkTimeout _ => none

theorem turn_timerId (calls : TimerCalls Nat) (now : Timestamp) :
    (calls.turn now).heap.timerId = calls.heap.timerId := by
  rcases TimerCalls.turn_cases calls now with ⟨-, same⟩ | ⟨firing, heap, turned, same⟩
  · rw [same]
  · rw [same]
    exact checkTurn_timerId turned

def Checks (event : TimerEvent Nat) : Prop :=
  (∃ now, event = .checkTimeout now) ∨ event = .callbackReturns

theorem Checks.numbered {calls next : TimerCalls Nat} {event : TimerEvent Nat}
    (checks : Checks event) (numbered : TimerCalls.Numbered calls)
    (taken : calls.step event = some next) :
    TimerCalls.Numbered next ∧ next.heap.timerId = calls.heap.timerId := by
  rcases checks with ⟨now, rfl⟩ | rfl
  · have left : calls.IdsLeft (.checkTimeout now) := trivial
    refine ⟨numbered.step left taken, ?_⟩
    simp only [TimerCalls.step] at taken
    split at taken
    · cases taken
      exact turn_timerId calls now
    · cases taken
  · have left : calls.IdsLeft .callbackReturns := trivial
    refine ⟨numbered.step left taken, ?_⟩
    simp only [TimerCalls.step] at taken
    split at taken
    · cases taken
    · cases taken
      exact turn_timerId calls _

theorem checkTimeout_numbered {heap next : TimerHeap Nat} {now : Timestamp} {fuel : Nat}
    {log fired : List (Firing Nat)} (numbered : TimerCalls.Numbered ⟨heap, none, log⟩)
    (ran : heap.checkTimeout fuel now = some (fired, next)) :
    TimerCalls.Numbered ⟨next, none, log ++ fired⟩ ∧ next.timerId = heap.timerId := by
  have reached := checkTimeout_run heap now fuel fired next ran log
  have checks : ∀ event ∈ TimerEvent.checkTimeout now ::
      List.replicate fired.length (TimerEvent.callbackReturns : TimerEvent Nat), Checks event := by
    intro event member
    rcases List.mem_cons.mp member with rfl | later
    · exact Or.inl ⟨now, rfl⟩
    · exact Or.inr (List.eq_of_mem_replicate later)
  have preserved {calls next : TimerCalls Nat} {event : TimerEvent Nat}
      (known : TimerCalls.Numbered calls ∧ calls.heap.timerId = heap.timerId)
      (checks : Checks event) (taken : calls.step event = some next) :
      TimerCalls.Numbered next ∧ next.heap.timerId = heap.timerId := by
    obtain ⟨numbered, same⟩ := checks.numbered known.1 taken
    exact ⟨numbered, same.trans known.2⟩
  exact Runs.run_invariant preserved ⟨numbered, rfl⟩ (Runs.Along.of_forall checks _) reached

/-- What a call adds is in `added`, and takes one id, as long as there are ids. -/
theorem Schedule.call_added {fuel : Nat} {s next : Schedule} {call : HeapCall}
    (numbered : TimerCalls.Numbered ⟨s.heap, none, s.fired⟩)
    (left : s.heap.timerId + call.adds.toList.length < 2 ^ 63)
    (stepped : s.call fuel call = some next) :
    TimerCalls.Numbered ⟨next.heap, none, next.fired⟩ ∧
      next.heap.timerId = s.heap.timerId + call.adds.toList.length ∧
      next.added = s.added ++ call.adds.toList := by
  cases call with
  | addTimer now timeoutMs callTimes =>
      have room : s.heap.timerId + 1 < 2 ^ 63 := left
      have number : (s.heap.addTimer now timeoutMs s.added.length callTimes).1 =
          s.heap.timerId + 1 := numbered.addTimer_id room
      have accepted : (s.heap.addTimer now timeoutMs s.added.length callTimes).1 ≠ -1 := by
        have nonneg := numbered.nonneg
        rw [number]
        exact (by linarith : (-1 : Int) < s.heap.timerId + 1).ne'
      have ids : TimerCalls.IdsLeft ⟨s.heap, none, s.fired⟩
        (.addTimer now timeoutMs s.added.length callTimes) := room
      have counted := TimerHeap.addTimer_timerId s.heap now timeoutMs s.added.length callTimes
      rw [TimerCalls.nextTimerId_eq numbered.nonneg room] at counted
      cases stepped
      exact ⟨numbered.step ids rfl, counted, if_neg accepted⟩
  | checkTimeout now =>
      simp only [Schedule.call, Option.map_eq_some_iff] at stepped
      obtain ⟨⟨fired, heap⟩, checked, rfl⟩ := stepped
      obtain ⟨after, same⟩ := checkTimeout_numbered numbered checked
      exact ⟨after, same.trans (add_zero _).symm, (List.append_nil _).symm⟩

theorem added_run {fuel : Nat} (calls : List HeapCall) {s finish : Schedule}
    (ran : Runs.run (Schedule.call fuel) s calls = some finish)
    (numbered : TimerCalls.Numbered ⟨s.heap, none, s.fired⟩)
    (left : s.heap.timerId + (calls.filterMap HeapCall.adds).length < 2 ^ 63) :
    finish.added = s.added ++ calls.filterMap HeapCall.adds := by
  induction calls generalizing s with
  | nil =>
      cases ran
      exact (List.append_nil _).symm
  | cons call calls ih =>
      have split : (call :: calls).filterMap HeapCall.adds =
          call.adds.toList ++ calls.filterMap HeapCall.adds := by
        cases call with
        | addTimer => rfl
        | checkTimeout => rfl
      rw [split, List.length_append] at left
      push_cast at left
      simp only [Runs.run, Option.bind_eq_some_iff] at ran
      obtain ⟨next, stepped, ran⟩ := ran
      obtain ⟨after, counted, added⟩ := Schedule.call_added numbered (by linarith) stepped
      have rest := ih ran after (by linarith)
      rw [rest, added, split, List.append_assoc]

/-- Where the checks come in order, the first of them is not before the clock. -/
theorem checkTimes_clock {calls : List HeapCall} {now : Timestamp}
    (valid : ∀ call ∈ calls ++ [.checkTimeout now], call.Valid)
    (sorted : (checkTimes (calls ++ [.checkTimeout now])).Pairwise fun first second =>
      first.key ≤ second.key) :
    ∃ clock, (∀ time ∈ checkTimes calls, clock ≤ time.milliseconds) ∧
      (∀ time ∈ checkTimes calls, time.milliseconds ≤ now.milliseconds) ∧
      clock ≤ now.milliseconds ∧ (checkTimes calls).Pairwise fun first second =>
        first.milliseconds ≤ second.milliseconds := by
  have normal : now.Normalised := valid (.checkTimeout now) (by simp)
  have normalTimes (time : Timestamp) (member : time ∈ checkTimes calls) : time.Normalised := by
    simp only [checkTimes, List.mem_filterMap] at member
    obtain ⟨call, inside, same⟩ := member
    cases call with
    | addTimer => simp at same
    | checkTimeout argument =>
        cases same
        exact valid _ (List.mem_append_left _ inside)
  have split : checkTimes (calls ++ [.checkTimeout now]) = checkTimes calls ++ [now] := by
    simp [checkTimes]
  rw [split, List.pairwise_append] at sorted
  have toNow (time : Timestamp) (member : time ∈ checkTimes calls) :
      time.milliseconds ≤ now.milliseconds :=
    (normalTimes time member).milliseconds_mono normal
      (sorted.2.2 time member now (List.mem_singleton_self now))
  have milliseconds : (checkTimes calls).Pairwise fun first second =>
      first.milliseconds ≤ second.milliseconds :=
    sorted.1.imp_of_mem fun firstMember secondMember order =>
      (normalTimes _ firstMember).milliseconds_mono (normalTimes _ secondMember) order
  cases times : checkTimes calls with
  | nil => exact ⟨now.milliseconds, by simp, by simp, le_rfl, List.Pairwise.nil⟩
  | cons first rest =>
      rw [times] at toNow milliseconds
      have behind := (List.pairwise_cons.mp milliseconds).1
      exact ⟨first.milliseconds, List.forall_mem_cons.mpr ⟨le_rfl, behind⟩, toNow,
        toNow first List.mem_cons_self, milliseconds⟩

/-- After every `checkTimeout` each timer has been called exactly as often as it was due, the calls
of this check came in the order of their deadlines, and no timer is left due. The timers are those
of all the `addTimer` calls, unless the ids have wrapped around. -/
theorem schedule_exact (calls : List HeapCall) (now : Timestamp)
    (valid : ∀ call ∈ calls ++ [.checkTimeout now], call.Valid)
    (sorted : (checkTimes (calls ++ [.checkTimeout now])).Pairwise fun first second =>
      first.key ≤ second.key) :
    ∃ bound, ∀ fuel, bound ≤ fuel → ∃ before after fired,
      Runs.run (Schedule.call fuel) Schedule.start calls = some before ∧
      before.call fuel (.checkTimeout now) = some after ∧ after.fired = before.fired ++ fired ∧
      ((calls.filterMap HeapCall.adds).length < 2 ^ 63 →
        after.added = calls.filterMap HeapCall.adds) ∧
      (∀ token entry, after.added[token]? = some entry →
        after.calls token = entry.dueCalls now) ∧
      fired.Pairwise (fun first second => second.deadline.less first.deadline = false) ∧
      ∀ ptr timer, after.heap.live ptr = some timer →
        now.millisecondLess timer.value = true := by
  have normal : now.Normalised := valid (.checkTimeout now) (by simp)
  have earlier (call : HeapCall) (member : call ∈ calls) : call.Valid :=
    valid call (List.mem_append_left _ member)
  obtain ⟨clock, fromClock, toNow, order, milliseconds⟩ := checkTimes_clock valid sorted
  obtain ⟨bound, before, ran, ledger⟩ := run_ledger calls Schedule.start clock now.milliseconds
    (Ledger.start clock) earlier fromClock toNow order milliseconds
  obtain ⟨fired, next, checkRan, checked⟩ :=
    ledger.checkTimeout normal _ (Nat.lt_succ_self _)
  refine ⟨max bound (Ledger.pendingTurns before.heap now + 1), ?_⟩
  intro fuel enough
  have reached := ran fuel (by omega)
  refine ⟨before, ⟨next, before.added, before.fired ++ fired⟩, fired, reached, ?_, rfl,
    ?_, ?_, ?_, checked.undue⟩
  · simp [Schedule.call, checkTimeout_more _ _ _ _ fuel checkRan (by omega)]
  · intro few
    have left : Schedule.start.heap.timerId + (calls.filterMap HeapCall.adds).length < 2 ^ 63 := by
      have first : Schedule.start.heap.timerId = 0 := rfl
      rw [first, zero_add]
      exact_mod_cast few
    exact added_run calls reached TimerCalls.start_numbered left
  · intro token entry known
    have valid := checked.ledger.valid entry (List.mem_of_getElem? known)
    rw [calls_append]
    by_cases alive : ∃ ptr timer, next.live ptr = some timer ∧ timer.timerCb = token
    · obtain ⟨ptr, timer, found, rfl⟩ := alive
      obtain ⟨other, otherKnown, tracks⟩ := checked.ledger.tracks ptr timer found
      have same : other = entry := Option.some.inj (otherKnown.symm.trans known)
      rw [same] at tracks
      exact tracks.dueCalls valid
        ((normal.millisecondLess_iff tracks.normal).mp (checked.undue ptr timer found))
    · refine (checked.ledger.finished token entry known fun ptr timer found same => ?_).dueCalls
        valid
      exact alive ⟨ptr, timer, found, same⟩
  · refine checked.sorted.imp fun order => ?_
    rw [Timestamp.less_eq_false_iff]
    exact order

def twoTimers : List HeapCall :=
  [.addTimer ⟨0, 0⟩ 10 (-1), .addTimer ⟨0, 500⟩ 3 1, .checkTimeout ⟨0, 5000000⟩]

theorem schedule_exact_twoTimers :
    ∃ bound, ∀ fuel, bound ≤ fuel → ∃ before after,
      Runs.run (Schedule.call fuel) Schedule.start twoTimers = some before ∧
      before.call fuel (.checkTimeout ⟨0, 35000000⟩) = some after ∧
      after.calls 0 = 3 ∧ after.calls 1 = 1 := by
  obtain ⟨bound, exact⟩ := schedule_exact twoTimers ⟨0, 35000000⟩
    (by simp [twoTimers, HeapCall.Valid, Timestamp.normalised_iff])
    (by simp [twoTimers, checkTimes, Timestamp.key_le_iff])
  refine ⟨bound, fun fuel enough => ?_⟩
  obtain ⟨before, after, fired, ran, checked, -, added, counts, -⟩ := exact fuel enough
  have all := added (by decide)
  refine ⟨before, after, ran, checked, ?_, ?_⟩
  · exact counts 0 ⟨⟨0, 10000000⟩, 10, -1⟩ (by rw [all]; decide)
  · exact counts 1 ⟨⟨0, 3000500⟩, 3, 1⟩ (by rw [all]; decide)

end ZBlueNet
