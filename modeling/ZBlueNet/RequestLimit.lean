import ZBlueNet.TcpServiceCore
import Mathlib.Data.List.Induction
import Mathlib.Order.Basic

/-!
The request limit of `tcp_service.cc` over the commands that the main thread
processes, each with the second that the clock shows then. The count of a second
starts at 0 with its first message, so one message more than the limit passes.
-/

namespace ZBlueNet

structure TimedCommand (Message : Type) where
  second : Int
  cmd : NetCommand Message
deriving DecidableEq

namespace TcpService

variable {Message : Type}

def processNext (done : TcpService × List (Int × ServiceCall Message))
    (timed : TimedCommand Message) : TcpService × List (Int × ServiceCall Message) :=
  let processed := done.1.processNetCommand timed.second timed.cmd
  (processed.1, done.2 ++ processed.2.map fun call => (timed.second, call))

def processAll (service : TcpService) (commands : List (TimedCommand Message)) :
    TcpService × List (Int × ServiceCall Message) :=
  commands.foldl processNext (service, [])

def isHandling (id : NetId) (second : Int) : Int × ServiceCall Message → Bool
  | (called, .messageHandler _ handled _) => called = second ∧ handled = id
  | _ => false

def handledWithin (id : NetId) (second : Int) (calls : List (Int × ServiceCall Message)) : Nat :=
  calls.countP (isHandling id second)

def messagesAt (id : NetId) (commands : List (TimedCommand Message)) (second : Int) :
    List (TimedCommand Message) :=
  commands.filter fun timed => timed.cmd.id = id ∧ timed.second = second

/-- No message of the connection is processed before second 0, which a new `ConnectionInfo` names
as its last request second. -/
def StartsAtZero (id : NetId) (commands : List (TimedCommand Message)) : Prop :=
  ∀ timed ∈ commands, timed.cmd.id = id → 0 ≤ timed.second

instance (id : NetId) (commands : List (TimedCommand Message)) :
    Decidable (StartsAtZero id commands) :=
  inferInstanceAs (Decidable (∀ timed ∈ commands, timed.cmd.id = id → 0 ≤ timed.second))

/-- How many messages of a second pass before the connection is given up. -/
def allowance (service : TcpService) (id : NetId) (commands : List (TimedCommand Message))
    (second : Int) : Nat :=
  if second = 0 ∧ StartsAtZero id commands then service.maxRequestPerSecond.toNat
  else service.maxRequestPerSecond.toNat + 1

/-- The messages of a second are more than may pass, so the connection is given up. -/
def Overrun (service : TcpService) (id : NetId) (commands : List (TimedCommand Message))
    (second : Int) : Prop :=
  service.allowance id commands second < (messagesAt id commands second).length

instance (service : TcpService) (id : NetId) (commands : List (TimedCommand Message))
    (second : Int) : Decidable (service.Overrun id commands second) :=
  inferInstanceAs (Decidable (_ < _))

def hasHandler (service : TcpService) (timed : TimedCommand Message) : Bool :=
  (service.messageHandlers timed.cmd.messageId).isSome

def handledAllowance (service : TcpService) (id : NetId) (commands : List (TimedCommand Message))
    (second : Int) : Nat :=
  ((messagesAt id commands second).take (service.allowance id commands second)).countP
    service.hasHandler

variable {service : TcpService} {id : NetId} {commands : List (TimedCommand Message)}
  {timed : TimedCommand Message}

theorem processAll_snoc :
    service.processAll (commands ++ [timed]) = processNext (service.processAll commands) timed := by
  rw [processAll, List.foldl_concat, processAll]

theorem messagesAt_snoc (second : Int) :
    messagesAt id (commands ++ [timed]) second =
      messagesAt id commands second ++
        if timed.cmd.id = id ∧ timed.second = second then [timed] else [] := by
  by_cases new : timed.cmd.id = id ∧ timed.second = second <;> simp [messagesAt, new]

theorem mem_messagesAt {second : Int} {other : TimedCommand Message} :
    other ∈ messagesAt id commands second ↔
      other ∈ commands ∧ other.cmd.id = id ∧ other.second = second := by
  simp [messagesAt]

theorem handledWithin_append (second : Int) (first rest : List (Int × ServiceCall Message)) :
    handledWithin id second (first ++ rest) =
      handledWithin id second first + handledWithin id second rest :=
  List.countP_append

theorem startsAtZero_snoc :
    StartsAtZero id (commands ++ [timed]) ↔
      StartsAtZero id commands ∧ (timed.cmd.id = id → 0 ≤ timed.second) := by
  simp [StartsAtZero, or_imp, forall_and]

/-! One more command. -/

theorem messagesAt_other (other : timed.cmd.id ≠ id) (second : Int) :
    messagesAt id (commands ++ [timed]) second = messagesAt id commands second := by
  simp [messagesAt_snoc, other]

theorem allowance_other (other : timed.cmd.id ≠ id) (second : Int) :
    service.allowance id (commands ++ [timed]) second =
      service.allowance id commands second := by
  simp [allowance, startsAtZero_snoc, other]

theorem allowance_own : service.allowance id (commands ++ [timed]) timed.second =
    service.allowance id commands timed.second := by
  have same : (timed.second = 0 ∧ StartsAtZero id (commands ++ [timed])) ↔
      timed.second = 0 ∧ StartsAtZero id commands := by
    rw [startsAtZero_snoc]
    constructor
    · intro both
      exact ⟨both.1, both.2.1⟩
    · intro both
      exact ⟨both.1, both.2, fun _ => both.1.ge⟩
  simp only [allowance, same]

theorem elsewhere_snoc (later : ∀ before ∈ commands, before.second ≤ timed.second)
    {second : Int} (elsewhere : second ≠ timed.second) :
    (service.Overrun id (commands ++ [timed]) second ↔ service.Overrun id commands second) ∧
      service.handledAllowance id (commands ++ [timed]) second =
        service.handledAllowance id commands second := by
  have same : messagesAt id (commands ++ [timed]) second = messagesAt id commands second := by
    simp [messagesAt_snoc, elsewhere.symm]
  rcases List.eq_nil_or_concat (messagesAt id commands second) with none | ⟨others, last, some⟩
  · simp [Overrun, handledAllowance, same, none]
  · have member : last ∈ messagesAt id commands second := by simp [some]
    rw [mem_messagesAt] at member
    have before := later last member.1
    have kept : service.allowance id (commands ++ [timed]) second =
        service.allowance id commands second := by
      by_cases zero : second = 0
      · have positive : 0 ≤ timed.second := by omega
        simp [allowance, startsAtZero_snoc, positive]
      · simp [allowance, zero]
    simp [Overrun, handledAllowance, same, kept]

theorem messagesAt_later (later : ∀ before ∈ commands, before.second ≤ timed.second)
    {second : Int} (after : timed.second < second) : messagesAt id commands second = [] := by
  rw [List.eq_nil_iff_forall_not_mem]
  intro other member
  rw [mem_messagesAt] at member
  have before := later other member.1
  omega

/-- What `ConnectionInfo` says about the messages processed so far, while the connection is not
given up. -/
structure Recorded (service : TcpService) (id : NetId) (commands : List (TimedCommand Message))
    (info : ConnectionInfo) : Prop where
  quiet : ∀ second, ¬ service.Overrun id commands second
  counted : info.requestPerSecond + service.allowance id commands info.lastRequestSecond =
    service.maxRequestPerSecond.toNat + (messagesAt id commands info.lastRequestSecond).length
  latest : ∀ before ∈ commands, before.cmd.id = id → before.second ≤ info.lastRequestSecond
  seen : info.lastRequestSecond = 0 ∧ (∀ before ∈ commands, before.cmd.id ≠ id) ∨
    ∃ before ∈ commands, before.cmd.id = id ∧ before.second = info.lastRequestSecond

theorem Recorded.initial : Recorded service id ([] : List (TimedCommand Message))
    { lastRequestSecond := 0, requestPerSecond := 0 } := by
  refine ⟨?_, ?_, ?_, ?_⟩
  · intro second
    simp [Overrun, messagesAt]
  · simp [allowance, StartsAtZero, messagesAt]
  · intro before member
    simp at member
  · simp

theorem Recorded.checked {info : ConnectionInfo} (recorded : Recorded service id commands info)
    (later : ∀ before ∈ commands, before.second ≤ timed.second) :
    (service.checkRequestFrequencyLimit timed.second info).2.lastRequestSecond = timed.second ∧
      (service.checkRequestFrequencyLimit timed.second info).2.requestPerSecond +
          service.allowance id commands timed.second =
        service.maxRequestPerSecond.toNat + (messagesAt id commands timed.second).length + 1 := by
  by_cases same : timed.second = info.lastRequestSecond
  · have counted := recorded.counted
    simp only [checkRequestFrequencyLimit, if_pos same]
    rw [← same] at counted
    exact ⟨same.symm, by omega⟩
  · simp only [checkRequestFrequencyLimit, if_neg same, true_and]
    have none : messagesAt id commands timed.second = [] := by
      rw [List.eq_nil_iff_forall_not_mem]
      intro other member
      rw [mem_messagesAt] at member
      have bound := recorded.latest other member.1 member.2.1
      rcases recorded.seen with ⟨-, fresh⟩ | ⟨before, processed, -, lastEq⟩
      · exact fresh other member.1 member.2.1
      · have order := later before processed
        omega
    have more : ¬ (timed.second = 0 ∧ StartsAtZero id commands) := by
      rintro ⟨zero, starts⟩
      rcases recorded.seen with ⟨lastEq, -⟩ | ⟨before, processed, own, lastEq⟩
      · omega
      · have positive := starts before processed own
        have order := later before processed
        omega
    rw [allowance, if_neg more, none]
    simp

theorem Recorded.refused_iff {info : ConnectionInfo} (recorded : Recorded service id commands info)
    (positive : 1 ≤ service.maxRequestPerSecond)
    (later : ∀ before ∈ commands, before.second ≤ timed.second) :
    (service.checkRequestFrequencyLimit timed.second info).1 = true ↔
      service.allowance id commands timed.second ≤
        (messagesAt id commands timed.second).length := by
  have counted := (recorded.checked later).2
  have compared : (service.checkRequestFrequencyLimit timed.second info).1 = true ↔
      service.maxRequestPerSecond <
        (service.checkRequestFrequencyLimit timed.second info).2.requestPerSecond := by
    simp [checkRequestFrequencyLimit]
  rw [compared]
  omega

theorem Recorded.next {info : ConnectionInfo} (recorded : Recorded service id commands info)
    (own : timed.cmd.id = id)
    (later : ∀ before ∈ commands, before.second ≤ timed.second)
    (passes : (messagesAt id commands timed.second).length <
      service.allowance id commands timed.second) :
    Recorded service id (commands ++ [timed])
      (service.checkRequestFrequencyLimit timed.second info).2 := by
  have checked := recorded.checked later
  have now : (messagesAt id (commands ++ [timed]) timed.second).length =
      (messagesAt id commands timed.second).length + 1 := by
    simp [messagesAt_snoc, own]
  refine ⟨?_, ?_, ?_, ?_⟩
  · intro second
    by_cases elsewhere : second = timed.second
    · rw [elsewhere, Overrun, allowance_own, now]
      omega
    · rw [(elsewhere_snoc later elsewhere).1]
      exact recorded.quiet second
  · rw [checked.1, allowance_own, now, checked.2]
    omega
  · intro before member _
    rw [checked.1]
    rcases List.mem_append.mp member with old | new
    · exact later before old
    · rw [List.mem_singleton.mp new]
  · exact Or.inr ⟨timed, by simp, own, checked.1.symm⟩

/-! The calls of handlers. -/

theorem onMessage_settings (service : TcpService) (now : Int) (cmd : NetCommand Message) :
    (service.onMessage now cmd).1.messageHandlers = service.messageHandlers ∧
      (service.onMessage now cmd).1.maxRequestPerSecond = service.maxRequestPerSecond := by
  unfold onMessage
  split
  · exact ⟨rfl, rfl⟩
  · dsimp only
    split_ifs <;> exact ⟨rfl, rfl⟩

theorem processNetCommand_settings (service : TcpService) (now : Int) (cmd : NetCommand Message) :
    (service.processNetCommand now cmd).1.messageHandlers = service.messageHandlers ∧
      (service.processNetCommand now cmd).1.maxRequestPerSecond = service.maxRequestPerSecond := by
  unfold processNetCommand
  split
  case h_3 => exact onMessage_settings service now cmd
  all_goals exact ⟨rfl, rfl⟩

theorem processNetCommand_other (service : TcpService) {cmd : NetCommand Message} (other : cmd.id ≠ id) (now : Int) :
    (service.processNetCommand now cmd).1.connectionInfos id = service.connectionInfos id ∧
      ∀ second, handledWithin id second
        ((service.processNetCommand now cmd).2.map fun call => (now, call)) = 0 := by
  have kept (changed : TcpService) (info : Option ConnectionInfo) :
      (changed.setInfo cmd.id info).connectionInfos id = changed.connectionInfos id :=
    Function.update_of_ne other.symm _ _
  have handler (changed : TcpService) (second : Int) : handledWithin id second
      ((changed.callMessageHandler cmd).map fun call => (now, call)) = 0 := by
    rw [callMessageHandler]
    split <;> simp [handledWithin, isHandling, other]
  unfold processNetCommand
  split
  · exact ⟨kept _ _, fun _ => rfl⟩
  · exact ⟨kept _ _, fun _ => rfl⟩
  · unfold onMessage
    split
    · exact ⟨rfl, fun _ => rfl⟩
    · dsimp only
      split_ifs
      · exact ⟨(kept _ _).trans (kept _ _), fun _ => rfl⟩
      · exact ⟨kept _ _, handler _⟩
      · exact ⟨rfl, handler _⟩
  all_goals exact ⟨rfl, fun _ => rfl⟩

theorem handledWithin_elsewhere {second now : Int} (elsewhere : second ≠ now)
    (calls : List (ServiceCall Message)) :
    handledWithin id second (calls.map fun call => (now, call)) = 0 := by
  rw [handledWithin, List.countP_eq_zero]
  intro call member
  obtain ⟨made, -, rfl⟩ := List.mem_map.mp member
  cases made <;> simp [isHandling, elsewhere.symm]

theorem handledWithin_callMessageHandler (service : TcpService) (now : Int) (cmd : NetCommand Message) :
    handledWithin cmd.id now ((service.callMessageHandler cmd).map fun call => (now, call)) =
      if (service.messageHandlers cmd.messageId).isSome then 1 else 0 := by
  rw [callMessageHandler]
  split <;> rename_i found <;> simp [handledWithin, isHandling, found]

structure Counted (service : TcpService) (id : NetId) (commands : List (TimedCommand Message)) :
    Prop where
  handlers : (service.processAll commands).1.messageHandlers = service.messageHandlers
  limit : (service.processAll commands).1.maxRequestPerSecond = service.maxRequestPerSecond
  given : ∀ info, (service.processAll commands).1.connectionInfos id = some info →
    Recorded service id commands info
  givenUp : (service.processAll commands).1.connectionInfos id = none →
    ∃ second, service.Overrun id commands second
  handled : ∀ second, (∀ earlier < second, ¬ service.Overrun id commands earlier) →
    handledWithin id second (service.processAll commands).2 =
      service.handledAllowance id commands second
  dropped : ∀ second, (∃ earlier < second, service.Overrun id commands earlier) →
    handledWithin id second (service.processAll commands).2 = 0

theorem Counted.initial (fresh : service.connectionInfos id =
    some { lastRequestSecond := 0, requestPerSecond := 0 }) :
    Counted service id ([] : List (TimedCommand Message)) := by
  refine ⟨rfl, rfl, ?_, ?_, ?_, ?_⟩
  · intro info given
    rw [processAll, List.foldl_nil, fresh, Option.some_inj] at given
    exact given ▸ .initial
  · intro gone
    rw [processAll, List.foldl_nil, fresh] at gone
    cases gone
  · intro second _
    simp [processAll, handledWithin, handledAllowance, messagesAt]
  · intro second _
    simp [processAll, handledWithin]

theorem processNext_handled (second : Int) :
    handledWithin id second (service.processAll (commands ++ [timed])).2 =
      handledWithin id second (service.processAll commands).2 +
        handledWithin id second (((service.processAll commands).1.processNetCommand timed.second
          timed.cmd).2.map fun call => (timed.second, call)) := by
  rw [processAll_snoc, processNext, handledWithin_append]

theorem Counted.other (counted : Counted service id commands) (other : timed.cmd.id ≠ id) :
    Counted service id (commands ++ [timed]) := by
  have overrun (second : Int) : service.Overrun id (commands ++ [timed]) second ↔
      service.Overrun id commands second := by
    rw [Overrun, messagesAt_other other, allowance_other other, Overrun]
  have allowed (second : Int) : service.handledAllowance id (commands ++ [timed]) second =
      service.handledAllowance id commands second := by
    rw [handledAllowance, messagesAt_other other, allowance_other other, handledAllowance]
  have step := processNetCommand_other (service.processAll commands).1 other
    timed.second
  have settings := processNetCommand_settings (service.processAll commands).1
    timed.second timed.cmd
  have handled (second : Int) : handledWithin id second
      (service.processAll (commands ++ [timed])).2 =
        handledWithin id second (service.processAll commands).2 := by
    rw [processNext_handled, step.2, Nat.add_zero]
  simp only [processAll_snoc, processNext] at handled
  constructor <;> simp only [processAll_snoc, processNext]
  · exact settings.1.trans counted.handlers
  · exact settings.2.trans counted.limit
  · intro info given
    rw [step.1] at given
    have recorded := counted.given info given
    refine ⟨?_, ?_, ?_, ?_⟩
    · intro second
      rw [overrun]
      exact recorded.quiet second
    · rw [messagesAt_other other, allowance_other other]
      exact recorded.counted
    · intro before member own
      rcases List.mem_append.mp member with old | new
      · exact recorded.latest before old own
      · rw [List.mem_singleton.mp new] at own
        exact absurd own other
    · rcases recorded.seen with ⟨zero, fresh⟩ | ⟨before, processed, own⟩
      · refine Or.inl ⟨zero, ?_⟩
        intro before member
        rcases List.mem_append.mp member with old | new
        · exact fresh before old
        · rwa [List.mem_singleton.mp new]
      · exact Or.inr ⟨before, List.mem_append_left _ processed, own⟩
  · intro gone
    rw [step.1] at gone
    obtain ⟨second, overran⟩ := counted.givenUp gone
    exact ⟨second, (overrun second).mpr overran⟩
  · intro second quiet
    simp only [overrun] at quiet
    rw [handled, counted.handled second quiet, allowed]
  · rintro second ⟨earlier, before, overran⟩
    rw [handled, counted.dropped second ⟨earlier, before, (overrun earlier).mp overran⟩]

theorem Counted.elsewhere (counted : Counted service id commands)
    (later : ∀ before ∈ commands, before.second ≤ timed.second)
    {second : Int} (elsewhere : second ≠ timed.second) :
    ((∀ earlier < second, ¬ service.Overrun id (commands ++ [timed]) earlier) →
      handledWithin id second (service.processAll (commands ++ [timed])).2 =
        service.handledAllowance id (commands ++ [timed]) second) ∧
    ((∃ earlier < second, service.Overrun id (commands ++ [timed]) earlier) →
      handledWithin id second (service.processAll (commands ++ [timed])).2 = 0) := by
  rw [processNext_handled, handledWithin_elsewhere elsewhere, Nat.add_zero,
    (elsewhere_snoc later elsewhere).2]
  rcases lt_or_gt_of_ne elsewhere with before | after
  · have same (earlier : Int) (order : earlier < second) :
        service.Overrun id (commands ++ [timed]) earlier ↔ service.Overrun id commands earlier :=
      (elsewhere_snoc later (by omega)).1
    constructor
    · intro quiet
      apply counted.handled
      intro earlier order overran
      exact quiet earlier order ((same earlier order).mpr overran)
    · rintro ⟨earlier, order, overran⟩
      exact counted.dropped second ⟨earlier, order, (same earlier order).mp overran⟩
  · have none : service.handledAllowance id commands second = 0 := by
      rw [handledAllowance, messagesAt_later later after]
      simp
    have nothing : handledWithin id second (service.processAll commands).2 = 0 := by
      by_cases overran : ∃ earlier < second, service.Overrun id commands earlier
      · exact counted.dropped second overran
      · push Not at overran
        rw [counted.handled second overran, none]
    rw [nothing, none]
    exact ⟨fun _ => rfl, fun _ => rfl⟩

theorem onMessage_refused {now : Int} {cmd : NetCommand Message} {info : ConnectionInfo}
    (known : service.connectionInfos cmd.id = some info)
    (positive : 1 ≤ service.maxRequestPerSecond)
    (refused : (service.checkRequestFrequencyLimit now info).1 = true) :
    (service.onMessage now cmd).1.connectionInfos cmd.id = none ∧
      ∀ second, handledWithin cmd.id second
        ((service.onMessage now cmd).2.map fun call => (now, call)) = 0 := by
  rw [onMessage, known]
  dsimp only
  rw [if_pos (by omega), if_pos refused]
  exact ⟨Function.update_self _ _ _, fun _ => rfl⟩

theorem onMessage_passed {now : Int} {cmd : NetCommand Message} {info : ConnectionInfo}
    (known : service.connectionInfos cmd.id = some info)
    (positive : 1 ≤ service.maxRequestPerSecond)
    (passes : (service.checkRequestFrequencyLimit now info).1 = false) :
    (service.onMessage now cmd).1.connectionInfos cmd.id =
        some (service.checkRequestFrequencyLimit now info).2 ∧
      handledWithin cmd.id now ((service.onMessage now cmd).2.map fun call => (now, call)) =
        if (service.messageHandlers cmd.messageId).isSome then 1 else 0 := by
  rw [onMessage, known]
  dsimp only
  rw [if_pos (by omega), if_neg (by simp [passes])]
  refine ⟨Function.update_self _ _ _, ?_⟩
  exact handledWithin_callMessageHandler (service.setInfo _ _) now cmd

theorem messagesAt_own (own : timed.cmd.id = id) :
    messagesAt id (commands ++ [timed]) timed.second =
      messagesAt id commands timed.second ++ [timed] := by
  simp [messagesAt_snoc, own]

theorem handledAllowance_full (own : timed.cmd.id = id)
    (full : service.allowance id commands timed.second ≤
      (messagesAt id commands timed.second).length) :
    service.Overrun id (commands ++ [timed]) timed.second ∧
      service.handledAllowance id (commands ++ [timed]) timed.second =
        service.handledAllowance id commands timed.second := by
  rw [Overrun, handledAllowance, allowance_own, messagesAt_own own, List.length_append,
    List.length_singleton, List.take_append_of_le_length full, handledAllowance]
  exact ⟨Nat.lt_succ_of_le full, rfl⟩

theorem handledAllowance_room (own : timed.cmd.id = id)
    (room : (messagesAt id commands timed.second).length <
      service.allowance id commands timed.second) :
    service.handledAllowance id (commands ++ [timed]) timed.second =
      service.handledAllowance id commands timed.second +
        if service.hasHandler timed then 1 else 0 := by
  rw [handledAllowance, handledAllowance, allowance_own, messagesAt_own own,
    List.take_of_length_le (by simp; omega), List.take_of_length_le (by omega),
    List.countP_append, List.countP_singleton]

/-- What is left to show for a message: its own second. -/
theorem Counted.of_own_second (counted : Counted service id commands)
    (later : ∀ before ∈ commands, before.second ≤ timed.second)
    (given : ∀ info, (service.processAll (commands ++ [timed])).1.connectionInfos id = some info →
      Recorded service id (commands ++ [timed]) info)
    (givenUp : (service.processAll (commands ++ [timed])).1.connectionInfos id = none →
      ∃ second, service.Overrun id (commands ++ [timed]) second)
    (handled : (∀ earlier < timed.second, ¬ service.Overrun id commands earlier) →
      handledWithin id timed.second (service.processAll (commands ++ [timed])).2 =
        service.handledAllowance id (commands ++ [timed]) timed.second)
    (dropped : (∃ earlier < timed.second, service.Overrun id commands earlier) →
      handledWithin id timed.second (service.processAll (commands ++ [timed])).2 = 0) :
    Counted service id (commands ++ [timed]) := by
  have settings := processNetCommand_settings (service.processAll commands).1
    timed.second timed.cmd
  have before (earlier : Int) (order : earlier < timed.second) :
      service.Overrun id (commands ++ [timed]) earlier ↔ service.Overrun id commands earlier :=
    (elsewhere_snoc later (by omega)).1
  refine ⟨?_, ?_, given, givenUp, ?_, ?_⟩
  · rw [processAll_snoc]
    exact settings.1.trans counted.handlers
  · rw [processAll_snoc]
    exact settings.2.trans counted.limit
  · intro second quiet
    by_cases elsewhere : second = timed.second
    · subst elsewhere
      apply handled
      intro earlier order overran
      exact quiet earlier order ((before earlier order).mpr overran)
    · exact (counted.elsewhere later elsewhere).1 quiet
  · rintro second ⟨earlier, order, overran⟩
    by_cases elsewhere : second = timed.second
    · subst elsewhere
      exact dropped ⟨earlier, order, (before earlier order).mp overran⟩
    · exact (counted.elsewhere later elsewhere).2 ⟨earlier, order, overran⟩

theorem processNext_message (current : TcpService × List (Int × ServiceCall Message))
    (message : timed.cmd.type = .message) :
    (processNext current timed).1 = (current.1.onMessage timed.second timed.cmd).1 ∧
      current.1.processNetCommand timed.second timed.cmd =
        current.1.onMessage timed.second timed.cmd := by
  simp [processNext, processNetCommand, message]

theorem Counted.own_unknown (counted : Counted service id commands) (own : timed.cmd.id = id)
    (message : timed.cmd.type = .message)
    (later : ∀ before ∈ commands, before.second ≤ timed.second)
    (gone : (service.processAll commands).1.connectionInfos id = none) :
    Counted service id (commands ++ [timed]) := by
  have ignored : (service.processAll commands).1.onMessage timed.second timed.cmd =
      ((service.processAll commands).1, []) := by
    rw [onMessage, own, gone]
  have nothing : handledWithin id timed.second (service.processAll (commands ++ [timed])).2 =
      handledWithin id timed.second (service.processAll commands).2 := by
    rw [processNext_handled, (processNext_message (service.processAll _) message).2,
      ignored]
    simp [handledWithin]
  have same : (service.processAll (commands ++ [timed])).1 = (service.processAll commands).1 := by
    rw [processAll_snoc, (processNext_message _ message).1, ignored]
  obtain ⟨overrun, overran⟩ := counted.givenUp gone
  -- The second in which the connection was given up is this one or an earlier one.
  have full (last : overrun = timed.second) : service.allowance id commands timed.second ≤
      (messagesAt id commands timed.second).length := by
    rw [Overrun, last] at overran
    exact overran.le
  apply counted.of_own_second later
  · intro info given
    rw [same, gone] at given
    cases given
  · intro _
    refine ⟨overrun, ?_⟩
    by_cases last : overrun = timed.second
    · rw [last]
      exact (handledAllowance_full own (full last)).1
    · exact (elsewhere_snoc later last).1.mpr overran
  · intro quiet
    have last : overrun = timed.second := by
      rcases lt_trichotomy overrun timed.second with earlier | last | after
      · exact absurd overran (quiet overrun earlier)
      · exact last
      · rw [Overrun, messagesAt_later later after] at overran
        simp at overran
    rw [nothing, counted.handled _ quiet, (handledAllowance_full own (full last)).2]
  · intro dropped
    rw [nothing, counted.dropped _ dropped]

theorem Counted.own_known (counted : Counted service id commands)
    (positive : 1 ≤ service.maxRequestPerSecond) (own : timed.cmd.id = id)
    (message : timed.cmd.type = .message)
    (later : ∀ before ∈ commands, before.second ≤ timed.second) {info : ConnectionInfo}
    (known : (service.processAll commands).1.connectionInfos id = some info) :
    Counted service id (commands ++ [timed]) := by
  have recorded := counted.given info known
  have refusedIff := recorded.refused_iff positive later
  have checks : (service.processAll commands).1.checkRequestFrequencyLimit timed.second info =
      service.checkRequestFrequencyLimit timed.second info := by
    simp only [checkRequestFrequencyLimit, counted.limit]
  have limit : 1 ≤ (service.processAll commands).1.maxRequestPerSecond := by
    rwa [counted.limit]
  have quiet : ¬ ∃ earlier < timed.second, service.Overrun id commands earlier := by
    rintro ⟨earlier, -, overran⟩
    exact recorded.quiet earlier overran
  have added : handledWithin id timed.second (service.processAll (commands ++ [timed])).2 = _ :=
    processNext_handled timed.second
  rw [(processNext_message (service.processAll _) message).2] at added
  have next : (service.processAll (commands ++ [timed])).1 =
      ((service.processAll commands).1.onMessage timed.second timed.cmd).1 := by
    rw [processAll_snoc, (processNext_message _ message).1]
  subst own
  cases refused : (service.checkRequestFrequencyLimit timed.second info).1 with
  | true =>
      have full := handledAllowance_full rfl (refusedIff.mp refused)
      have step := onMessage_refused known limit ((congrArg Prod.fst checks).trans refused)
      apply counted.of_own_second later
      · intro other given
        rw [next, step.1] at given
        cases given
      · intro _
        exact ⟨timed.second, full.1⟩
      · intro before
        rw [added, step.2, full.2, counted.handled _ before, Nat.add_zero]
      · intro dropped
        exact absurd dropped quiet
  | false =>
      have room := not_le.mp fun full => by
        rw [refusedIff.mpr full] at refused
        cases refused
      have step := onMessage_passed known limit ((congrArg Prod.fst checks).trans refused)
      apply counted.of_own_second later
      · intro other given
        rw [next, step.1, checks, Option.some_inj] at given
        exact given ▸ recorded.next rfl later room
      · intro gone
        rw [next, step.1] at gone
        cases gone
      · intro before
        rw [added, step.2, handledAllowance_room rfl room, counted.handled _ before,
          counted.handlers, hasHandler]
      · intro dropped
        exact absurd dropped quiet

theorem counted_processAll (positive : 1 ≤ service.maxRequestPerSecond)
    (fresh : service.connectionInfos id = some { lastRequestSecond := 0, requestPerSecond := 0 })
    (messages : ∀ timed ∈ commands, timed.cmd.id = id → timed.cmd.type = .message)
    (clock : commands.Pairwise fun before after => before.second ≤ after.second) :
    Counted service id commands := by
  induction commands using List.reverseRecOn with
  | nil => exact .initial fresh
  | append_singleton commands timed ih =>
      rw [List.pairwise_append] at clock
      have later : ∀ before ∈ commands, before.second ≤ timed.second := by
        intro before member
        exact clock.2.2 before member timed (by simp)
      have counted := ih (fun before member => messages before (by simp [member])) clock.1
      by_cases own : timed.cmd.id = id
      · have message := messages timed (by simp) own
        cases known : (service.processAll commands).1.connectionInfos id with
        | none => exact counted.own_unknown own message later known
        | some info => exact counted.own_known positive own message later known
      · exact counted.other own

def RequestsLimited (service : TcpService) (id : NetId) (commands : List (TimedCommand Message)) :
    Prop :=
  ∀ second, (handledWithin id second (service.processAll commands).2 : Int) ≤
    service.maxRequestPerSecond

/-- The limit holds exactly if an earlier second gave the connection up before every second whose
first messages, one more than the limit, all have a handler. -/
theorem requestsLimited_iff (positive : 1 ≤ service.maxRequestPerSecond)
    (fresh : service.connectionInfos id = some { lastRequestSecond := 0, requestPerSecond := 0 })
    (messages : ∀ timed ∈ commands, timed.cmd.id = id → timed.cmd.type = .message)
    (clock : commands.Pairwise fun before after => before.second ≤ after.second) :
    service.RequestsLimited id commands ↔
      ∀ second, service.maxRequestPerSecond < service.handledAllowance id commands second →
        ∃ earlier < second, service.Overrun id commands earlier := by
  have counted := counted_processAll positive fresh messages clock
  constructor
  · intro limited second crowded
    by_contra quiet
    push Not at quiet
    have bound := limited second
    rw [counted.handled second quiet] at bound
    omega
  · intro condition second
    by_cases overran : ∃ earlier < second, service.Overrun id commands earlier
    · rw [counted.dropped second overran]
      omega
    · have within : ¬ service.maxRequestPerSecond < service.handledAllowance id commands second :=
        fun crowded => overran (condition second crowded)
      push Not at overran
      rw [counted.handled second overran]
      omega

/-! A limit of one message in a second, and two messages in one second. -/

def oneRequest : TcpService :=
  { connectionInfos := fun _ => some { lastRequestSecond := 0, requestPerSecond := 0 }
    messageHandlers := fun _ => some 0
    maxRequestPerSecond := 1 }

def client : NetId := { reactorId := 0, socketId := 8 }

def request (second : Int) : TimedCommand Unit :=
  { second := second, cmd := { type := .message, id := client, messageId := 3, message := some () } }

theorem two_requests_exceed_one :
    ¬ ∀ (service : TcpService) (id : NetId) (commands : List (TimedCommand Unit)),
      1 ≤ service.maxRequestPerSecond →
      service.connectionInfos id = some { lastRequestSecond := 0, requestPerSecond := 0 } →
      (∀ timed ∈ commands, timed.cmd.id = id → timed.cmd.type = .message) →
      (commands.Pairwise fun before after => before.second ≤ after.second) →
      service.RequestsLimited id commands := by
  intro limited
  have bound := limited oneRequest client [request 5, request 5] (by decide) rfl (by decide)
    (by decide) 5
  revert bound
  decide

theorem spaced_requests_limited :
    oneRequest.RequestsLimited client [request 5, request 6] ↔
      ∀ second, oneRequest.maxRequestPerSecond <
          oneRequest.handledAllowance client [request 5, request 6] second →
        ∃ earlier < second, oneRequest.Overrun client [request 5, request 6] earlier :=
  requestsLimited_iff (by decide) rfl (by decide) (by decide)

end TcpService

end ZBlueNet
