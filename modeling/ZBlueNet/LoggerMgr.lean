import ZBlueNet.Logger
import ZBlueNet.Lib.Ownership

/-!
`logger_mgr.cc`: the loggers of the process, behind raw pointers in a vector. An access
through a pointer that is not alive has no result.
-/

namespace ZBlueNet

open Ownership

def Logger.setLevelFilter {Sink Args : Type} (logger : Logger Sink Args) (level : Int) :
    Logger Sink Args :=
  { logger with level := level }

structure LoggerMgr (Sink Args : Type) where
  memory : Memory (Logger Sink Args)
  loggers : List (Option Pointer)
  maxLogSize : Nat

inductive LoggerMgrEvent (Sink Args : Type)
  | setMaxLoggerCount (count : Int)
  | setMaxLogSize (size : Int)
  | registerLogger (loggerId : Int) (formatter : Option (LogFormatter Args)) (level : Int)
  | removeLogger (loggerId : Int)
  | addSink (loggerId : Int) (sink : Sink) (formatter : Option (LogFormatter Args)) (level : Int)
  | log (loggerId : Int) (message : LogMessage Args)
  | plainLog (loggerId : Int) (message : LogMessage Args)
  | setLevelFilter (loggerId : Int) (level : Int)

/-- What a call returns, what it gives to the sinks, or which sinks it deletes with their logger. -/
inductive LoggerMgrAnswer (Sink : Type)
  | returned (result : Bool)
  | logged (calls : List (Sink × List LogCell))
  | deleted (sinks : List Sink)
  | done
deriving DecidableEq, Repr

namespace LoggerMgr

variable {Sink Args : Type}

/-- The constructor sets the count to 1 and the size to 4096. -/
def create : LoggerMgr Sink Args := { memory := .empty, loggers := [none], maxLogSize := 4096 }

/-- `delete`; the destructor of a logger deletes its sinks. -/
def deleteLogger (memory : Memory (Logger Sink Args)) :
    Option Pointer → Option (List Sink × Memory (Logger Sink Args))
  | none => some ([], memory)
  | some pointer =>
      (memory.objects pointer).map fun logger =>
        (logger.sinks.map LogSink.sink, memory.delete pointer)

def deleteLoggers : Memory (Logger Sink Args) → List (Option Pointer) →
    Option (List Sink × Memory (Logger Sink Args))
  | memory, [] => some ([], memory)
  | memory, entry :: rest =>
      (deleteLogger memory entry).bind fun first =>
        (deleteLoggers first.2 rest).map fun later => (first.1 ++ later.1, later.2)

/-- `loggers_.resize(count, nullptr)` -/
def resize (entries : List (Option Pointer)) (count : Nat) : List (Option Pointer) :=
  entries.take count ++ List.replicate (count - entries.length) none

def setMaxLoggerCount (s : LoggerMgr Sink Args) (count : Int) :
    Option (List Sink × LoggerMgr Sink Args) :=
  if count < 0 then some ([], s)
  else
    (deleteLoggers s.memory (s.loggers.drop count.toNat)).map fun outcome =>
      (outcome.1, { s with
        memory := outcome.2
        loggers := resize s.loggers count.toNat })

def setMaxLogSize (s : LoggerMgr Sink Args) (size : Int) : LoggerMgr Sink Args :=
  if size ≤ 0 then s else { s with maxLogSize := size.toNat }

def entry (s : LoggerMgr Sink Args) (loggerId : Int) : Option (Option Pointer) :=
  if loggerId < 0 then none else s.loggers[loggerId.toNat]?

def registerLogger (s : LoggerMgr Sink Args) (loggerId : Int)
    (formatter : Option (LogFormatter Args)) (level : Int) : Bool × LoggerMgr Sink Args :=
  match s.entry loggerId with
  | some none =>
      (true, { s with
        memory := s.memory.new (.create formatter level s.maxLogSize)
        loggers := s.loggers.set loggerId.toNat (some s.memory.next) })
  | _ => (false, s)

def removeLogger (s : LoggerMgr Sink Args) (loggerId : Int) :
    Option (List Sink × LoggerMgr Sink Args) :=
  match s.entry loggerId with
  | some (some pointer) =>
      (deleteLogger s.memory (some pointer)).map fun outcome =>
        (outcome.1, { s with
          memory := outcome.2
          loggers := s.loggers.set loggerId.toNat none })
  | _ => some ([], s)

def onLogger (s : LoggerMgr Sink Args) (loggerId : Int) (missing : LoggerMgrAnswer Sink)
    (call : Logger Sink Args → LoggerMgrAnswer Sink × Logger Sink Args) :
    Option (LoggerMgrAnswer Sink × LoggerMgr Sink Args) :=
  match s.entry loggerId with
  | some (some pointer) =>
      (s.memory.objects pointer).map fun logger =>
        ((call logger).1, { s with memory := s.memory.set pointer (call logger).2 })
  | _ => some (missing, s)

def addSink (s : LoggerMgr Sink Args) (loggerId : Int) (sink : Sink)
    (formatter : Option (LogFormatter Args)) (level : Int) :
    Option (LoggerMgrAnswer Sink × LoggerMgr Sink Args) :=
  s.onLogger loggerId (.returned false) fun logger =>
    (.returned (logger.addSink sink formatter level).1, (logger.addSink sink formatter level).2)

def log (s : LoggerMgr Sink Args) (loggerId : Int) (message : LogMessage Args) :
    Option (LoggerMgrAnswer Sink × LoggerMgr Sink Args) :=
  s.onLogger loggerId (.logged []) fun logger => (.logged (logger.log message).calls, logger)

def plainLog (s : LoggerMgr Sink Args) (loggerId : Int) (message : LogMessage Args) :
    Option (LoggerMgrAnswer Sink × LoggerMgr Sink Args) :=
  s.onLogger loggerId (.logged []) fun logger => (.logged (logger.plainLog message).calls, logger)

def setLevelFilter (s : LoggerMgr Sink Args) (loggerId : Int) (level : Int) :
    Option (LoggerMgrAnswer Sink × LoggerMgr Sink Args) :=
  s.onLogger loggerId .done fun logger => (.done, logger.setLevelFilter level)

def destroy (s : LoggerMgr Sink Args) : Option (List Sink × Memory (Logger Sink Args)) :=
  deleteLoggers s.memory s.loggers

def perform (s : LoggerMgr Sink Args) : LoggerMgrEvent Sink Args →
    Option (LoggerMgrAnswer Sink × LoggerMgr Sink Args)
  | .setMaxLoggerCount count =>
      (s.setMaxLoggerCount count).map fun outcome => (.deleted outcome.1, outcome.2)
  | .setMaxLogSize size => some (.done, s.setMaxLogSize size)
  | .registerLogger loggerId formatter level =>
      some (.returned (s.registerLogger loggerId formatter level).1,
        (s.registerLogger loggerId formatter level).2)
  | .removeLogger loggerId =>
      (s.removeLogger loggerId).map fun outcome => (.deleted outcome.1, outcome.2)
  | .addSink loggerId sink formatter level => s.addSink loggerId sink formatter level
  | .log loggerId message => s.log loggerId message
  | .plainLog loggerId message => s.plainLog loggerId message
  | .setLevelFilter loggerId level => s.setLevelFilter loggerId level

def performAll : LoggerMgr Sink Args → List (LoggerMgrEvent Sink Args) →
    Option (List (LoggerMgrAnswer Sink) × LoggerMgr Sink Args)
  | s, [] => some ([], s)
  | s, event :: events =>
      (s.perform event).bind fun first =>
        (performAll first.2 events).map fun later => (first.1 :: later.1, later.2)

end LoggerMgr

/-- Loggers by id, for the ids below `count`: what the manager is for. -/
structure LoggerTable (Sink Args : Type) where
  count : Nat
  loggers : Nat → Option (Logger Sink Args)
  maxLogSize : Nat

namespace LoggerTable

variable {Sink Args : Type}

def create : LoggerTable Sink Args :=
  { count := 1, loggers := fun _ => none, maxLogSize := 4096 }

def sinksOf (logger : Option (Logger Sink Args)) : List Sink :=
  (logger.map fun found => found.sinks.map LogSink.sink).getD []

def sinksFrom (t : LoggerTable Sink Args) (first count : Nat) : List Sink :=
  (List.range' first count).flatMap fun id => sinksOf (t.loggers id)

def find (t : LoggerTable Sink Args) (loggerId : Int) : Option (Logger Sink Args) :=
  if loggerId < 0 then none else t.loggers loggerId.toNat

def put (t : LoggerTable Sink Args) (loggerId : Int) (logger : Option (Logger Sink Args)) :
    LoggerTable Sink Args :=
  { t with loggers := Function.update t.loggers loggerId.toNat logger }

def resize (t : LoggerTable Sink Args) (count : Nat) : LoggerTable Sink Args :=
  { t with
    count := count
    loggers := fun id => if id < count then t.loggers id else none }

def onLogger (t : LoggerTable Sink Args) (loggerId : Int) (missing : LoggerMgrAnswer Sink)
    (call : Logger Sink Args → LoggerMgrAnswer Sink × Logger Sink Args) :
    LoggerMgrAnswer Sink × LoggerTable Sink Args :=
  match t.find loggerId with
  | none => (missing, t)
  | some logger => ((call logger).1, t.put loggerId (some (call logger).2))

def perform (t : LoggerTable Sink Args) : LoggerMgrEvent Sink Args →
    LoggerMgrAnswer Sink × LoggerTable Sink Args
  | .setMaxLoggerCount count =>
      if count < 0 then (.deleted [], t)
      else (.deleted (t.sinksFrom count.toNat (t.count - count.toNat)), t.resize count.toNat)
  | .setMaxLogSize size => (.done, if size ≤ 0 then t else { t with maxLogSize := size.toNat })
  | .registerLogger loggerId formatter level =>
      if 0 ≤ loggerId ∧ loggerId < t.count ∧ t.find loggerId = none then
        (.returned true, t.put loggerId (some (.create formatter level t.maxLogSize)))
      else (.returned false, t)
  | .removeLogger loggerId =>
      match t.find loggerId with
      | none => (.deleted [], t)
      | some logger => (.deleted (logger.sinks.map LogSink.sink), t.put loggerId none)
  | .addSink loggerId sink formatter level =>
      t.onLogger loggerId (.returned false) fun logger =>
        (.returned true, (logger.addSink sink formatter level).2)
  | .log loggerId message =>
      t.onLogger loggerId (.logged []) fun logger => (.logged (logger.log message).calls, logger)
  | .plainLog loggerId message =>
      t.onLogger loggerId (.logged []) fun logger =>
        (.logged (logger.plainLog message).calls, logger)
  | .setLevelFilter loggerId level =>
      t.onLogger loggerId .done fun logger => (.done, logger.setLevelFilter level)

def performAll : LoggerTable Sink Args → List (LoggerMgrEvent Sink Args) →
    List (LoggerMgrAnswer Sink) × LoggerTable Sink Args
  | t, [] => ([], t)
  | t, event :: events =>
      let first := t.perform event
      let later := performAll first.2 events
      (first.1 :: later.1, later.2)

end LoggerTable

namespace LoggerMgr

variable {Sink Args : Type} {s : LoggerMgr Sink Args} {t : LoggerTable Sink Args}
  {memory : Memory (Logger Sink Args)} {pointer : Pointer}

def held (entries : List (Option Pointer)) (id : Nat) : List Pointer := entries[id]?.join.toList

def Accounted (memory : Memory (Logger Sink Args)) : Prop :=
  ∀ pointer < memory.next, (memory.objects pointer).isSome ∨ pointer ∈ memory.deleted

structure Represents (s : LoggerMgr Sink Args) (t : LoggerTable Sink Args) : Prop where
  count : t.count = s.loggers.length
  maxLogSize : t.maxLogSize = s.maxLogSize
  loggers : ∀ id, t.loggers id = s.loggers[id]?.join.bind s.memory.objects
  owned : Owned s.memory (held s.loggers)
  accounted : Accounted s.memory

theorem represents_create :
    Represents (create : LoggerMgr Sink Args) (LoggerTable.create : LoggerTable Sink Args) := by
  have nothing : held ([none] : List (Option Pointer)) = fun _ => [] := by
    funext id
    cases id <;> rfl
  refine ⟨rfl, rfl, ?_, ?_, ?_⟩
  · intro id
    cases id <;> rfl
  · exact owned_empty.same nothing
  · intro pointer early
    exact absurd early (Nat.not_lt_zero pointer)

/-! The memory. -/

theorem Accounted.new (accounted : Accounted memory) (logger : Logger Sink Args) :
    Accounted (memory.new logger) := by
  intro pointer early
  by_cases newest : pointer = memory.next
  · left
    simp [Memory.new, newest]
  · have before : pointer < memory.next := Nat.lt_of_le_of_ne (Nat.le_of_lt_succ early) newest
    simpa [Memory.new, newest] using accounted pointer before

theorem Accounted.set (accounted : Accounted memory) (logger : Logger Sink Args) :
    Accounted (memory.set pointer logger) := by
  intro any early
  by_cases same : any = pointer
  · left
    simp [Memory.set, same]
  · simpa [Memory.set, same] using accounted any early

theorem Accounted.delete (accounted : Accounted memory) : Accounted (memory.delete pointer) := by
  intro any early
  by_cases same : any = pointer
  · right
    simp [Memory.delete, same]
  · simpa [Memory.delete, same] using accounted any early

theorem held_live {entries : List (Option Pointer)} (owned : Owned memory (held entries)) {id : Nat}
    (found : entries[id]? = some (some pointer)) :
    ∃ logger, memory.objects pointer = some logger := by
  have member : pointer ∈ held entries id := by simp [held, found]
  exact Option.isSome_iff_exists.mp ((owned.live pointer).mpr ⟨id, member⟩)

/-- The loggers at consecutive places are deleted, with the sinks that they have. -/
theorem deleteLoggers_spec {entries : List (Option Pointer)} {places : Nat → List Pointer}
    {first : Nat} (owned : Owned memory places) (accounted : Accounted memory)
    (here : ∀ i < entries.length, places (first + i) = held entries i) :
    ∃ after, deleteLoggers memory entries =
        some (entries.flatMap fun entry => LoggerTable.sinksOf (entry.bind memory.objects), after) ∧
      Owned after (fun id => if first ≤ id ∧ id < first + entries.length then [] else places id) ∧
      (∀ pointer, some pointer ∉ entries → after.objects pointer = memory.objects pointer) ∧
      after.next = memory.next ∧ Accounted after := by
  induction entries generalizing memory places first with
  | nil =>
      refine ⟨memory, rfl, owned.same ?_, fun _ _ => rfl, rfl, accounted⟩
      funext id
      rw [if_neg (by simp only [List.length_nil]; omega)]
  | cons entry rest ih =>
      have front : places first = entry.toList := here 0 (Nat.succ_pos _)
      have later (i : Nat) (inside : i < rest.length) : places (first + 1 + i) = held rest i := by
        have place : first + (i + 1) = first + 1 + i := by omega
        exact place ▸ here (i + 1) (Nat.succ_lt_succ inside)
      have split (shorter : Nat → List Pointer) (emptied : shorter first = [])
          (others : ∀ id ≠ first, shorter id = places id) :
          (fun id => if first + 1 ≤ id ∧ id < first + 1 + rest.length then [] else shorter id) =
            fun id => if first ≤ id ∧ id < first + (entry :: rest).length then []
              else places id := by
        funext id
        by_cases source : id = first
        · rw [source, if_neg (by omega), emptied, if_pos]
          simp only [List.length_cons]
          omega
        · rw [others id source]
          congr 1
          simp only [List.length_cons, eq_iff_iff]
          omega
      cases entry with
      | none =>
          obtain ⟨after, deleted, still, same, next, all⟩ := ih owned accounted later
          refine ⟨after, ?_, still.same ?_, ?_, next, all⟩
          · simp [deleteLoggers, deleteLogger, deleted, LoggerTable.sinksOf]
          · exact (split places front fun _ _ => rfl).symm
          · intro pointer absent
            exact same pointer fun member => absent (List.mem_cons_of_mem _ member)
      | some gone =>
          have member : gone ∈ places first := by simp [front]
          obtain ⟨logger, alive⟩ := Option.isSome_iff_exists.mp
            ((owned.live gone).mpr ⟨first, member⟩)
          have fewer : Owned (memory.delete gone) (Function.update places first []) :=
            owned.delete front (Function.update_self ..)
              fun _ other => Function.update_of_ne other ..
          have elsewhere (id : Nat) (other : id ≠ first) :
              Function.update places first [] id = places id := Function.update_of_ne other ..
          obtain ⟨after, deleted, still, same, next, all⟩ := ih fewer accounted.delete
            fun i inside => (elsewhere _ (by omega)).trans (later i inside)
          -- no later place holds the logger that is gone
          have apart : some gone ∉ rest := by
            intro again
            obtain ⟨i, inside, found⟩ := List.mem_iff_getElem.mp again
            have held_again : gone ∈ places (first + 1 + i) := by
              rw [later i inside]
              simp [held, List.getElem?_eq_getElem inside, found]
            have place := owned.apart _ _ gone member held_again
            omega
          have untouched : (rest.flatMap fun entry =>
                LoggerTable.sinksOf (entry.bind (memory.delete gone).objects)) =
              rest.flatMap fun entry => LoggerTable.sinksOf (entry.bind memory.objects) := by
            apply List.flatMap_congr
            intro entry listed
            cases entry with
            | none => rfl
            | some other =>
                have different : other ≠ gone := fun equal => apart (equal ▸ listed)
                simp [Memory.delete, different]
          rw [untouched] at deleted
          refine ⟨after, ?_, still.same ?_, ?_, next, all⟩
          · simp [deleteLoggers, deleteLogger, deleted, alive, LoggerTable.sinksOf]
          · exact (split _ (Function.update_self ..) elsewhere).symm
          · intro pointer absent
            rw [List.mem_cons, not_or] at absent
            have different : pointer ≠ gone := fun equal => absent.1 (congrArg some equal)
            rw [same pointer absent.2]
            exact Function.update_of_ne different ..

/-! The calls. -/

theorem Represents.live (represents : Represents s t) {id : Nat}
    (found : s.loggers[id]? = some (some pointer)) :
    ∃ logger, s.memory.objects pointer = some logger ∧ t.loggers id = some logger := by
  obtain ⟨logger, alive⟩ := held_live represents.owned found
  refine ⟨logger, alive, ?_⟩
  rw [represents.loggers, found]
  exact alive

theorem Represents.entry (represents : Represents s t) (loggerId : Int) :
    (¬(0 ≤ loggerId ∧ loggerId < t.count) ∧ s.entry loggerId = none ∧ t.find loggerId = none) ∨
    (0 ≤ loggerId ∧ loggerId < t.count ∧ s.loggers[loggerId.toNat]? = some none ∧
      s.entry loggerId = some none ∧ t.find loggerId = none) ∨
    ∃ pointer logger, s.loggers[loggerId.toNat]? = some (some pointer) ∧
      s.entry loggerId = some (some pointer) ∧ s.memory.objects pointer = some logger ∧
      t.find loggerId = some logger := by
  rw [LoggerMgr.entry, LoggerTable.find, represents.count, represents.loggers]
  by_cases negative : loggerId < 0
  · left
    rw [if_pos negative, if_pos negative]
    exact ⟨fun inside => absurd negative (not_lt.mpr inside.1), rfl, rfl⟩
  · rw [if_neg negative, if_neg negative]
    cases found : s.loggers[loggerId.toNat]? with
    | none =>
        left
        rw [List.getElem?_eq_none_iff] at found
        exact ⟨fun inside => by omega, rfl, rfl⟩
    | some entry =>
        right
        obtain ⟨inside, -⟩ := List.getElem?_eq_some_iff.mp found
        cases entry with
        | none =>
            left
            exact ⟨by omega, by omega, rfl, rfl, rfl⟩
        | some pointer =>
            right
            obtain ⟨logger, alive, -⟩ := represents.live found
            exact ⟨pointer, logger, rfl, rfl, alive, alive⟩

theorem held_set {entries : List (Option Pointer)} {id : Nat} {old : Option Pointer}
    (found : entries[id]? = some old) (new : Option Pointer) (other : Nat) :
    held (entries.set id new) other = if other = id then new.toList else held entries other := by
  obtain ⟨inside, -⟩ := List.getElem?_eq_some_iff.mp found
  by_cases same : other = id
  · simp [held, same, inside]
  · simp [held, same, List.getElem?_set_ne (Ne.symm same)]

theorem Represents.put {id : Nat} {old new : Option Pointer} (represents : Represents s t)
    (logger : Option (Logger Sink Args)) (found : s.loggers[id]? = some old)
    (here : new.bind memory.objects = logger) (owned : Owned memory (held (s.loggers.set id new)))
    (elsewhere : ∀ other ≠ id, ∀ pointer, s.loggers[other]? = some (some pointer) →
      memory.objects pointer = s.memory.objects pointer) (accounted : Accounted memory) :
    Represents { s with memory := memory, loggers := s.loggers.set id new }
      { t with loggers := Function.update t.loggers id logger } := by
  obtain ⟨inside, -⟩ := List.getElem?_eq_some_iff.mp found
  refine ⟨?_, represents.maxLogSize, ?_, owned, accounted⟩
  · rw [represents.count, List.length_set]
  · intro other
    dsimp only
    by_cases same : other = id
    · rw [same, Function.update_self, List.getElem?_set_self inside, ← here]
      rfl
    · rw [Function.update_of_ne same, List.getElem?_set_ne (Ne.symm same), represents.loggers]
      cases listed : s.loggers[other]? with
      | none => rfl
      | some entry =>
          cases entry with
          | none => rfl
          | some pointer => exact (elsewhere other same pointer listed).symm

theorem Represents.registerLogger (represents : Represents s t) (loggerId : Int)
    (formatter : Option (LogFormatter Args)) (level : Int) :
    ∃ next, t.perform (.registerLogger loggerId formatter level) =
        (.returned (s.registerLogger loggerId formatter level).1, next) ∧
      Represents (s.registerLogger loggerId formatter level).2 next := by
  rw [LoggerMgr.registerLogger, LoggerTable.perform]
  rcases represents.entry loggerId with ⟨outside, entry, find⟩ |
    ⟨positive, inside, found, entry, find⟩ | ⟨pointer, logger, found, entry, alive, find⟩
  · refine ⟨t, ?_, ?_⟩
    · rw [if_neg fun all => outside ⟨all.1, all.2.1⟩, entry]
    · rw [entry]
      exact represents
  · have owned : Owned (s.memory.new (.create formatter level s.maxLogSize))
        (held (s.loggers.set loggerId.toNat (some s.memory.next))) := by
      have here : held (s.loggers.set loggerId.toNat (some s.memory.next)) loggerId.toNat =
          held s.loggers loggerId.toNat ++ [s.memory.next] := by
        rw [held_set found, if_pos rfl]
        simp [held, found]
      apply represents.owned.new _ here
      intro other apart
      rw [held_set found, if_neg apart]
    refine ⟨t.put loggerId (some (.create formatter level t.maxLogSize)), ?_, ?_⟩
    · rw [if_pos ⟨positive, inside, find⟩, entry]
    · rw [entry]
      refine represents.put _ found ?_ owned ?_ (represents.accounted.new _)
      · simp [Memory.new, represents.maxLogSize]
      · intro other _ pointer listed
        have member : pointer ∈ held s.loggers other := by simp [held, listed]
        exact Function.update_of_ne (Nat.ne_of_lt (represents.owned.lt_next member)) ..
  · refine ⟨t, ?_, ?_⟩
    · rw [if_neg (by simp [find]), entry]
    · rw [entry]
      exact represents

theorem Represents.removeLogger (represents : Represents s t) (loggerId : Int) :
    ∃ sinks after next, s.removeLogger loggerId = some (sinks, after) ∧
      t.perform (.removeLogger loggerId) = (.deleted sinks, next) ∧ Represents after next := by
  rw [LoggerMgr.removeLogger, LoggerTable.perform]
  rcases represents.entry loggerId with ⟨-, entry, find⟩ | ⟨-, -, -, entry, find⟩ |
    ⟨pointer, logger, found, entry, alive, find⟩
  · rw [entry, find]
    exact ⟨[], s, t, rfl, rfl, represents⟩
  · rw [entry, find]
    exact ⟨[], s, t, rfl, rfl, represents⟩
  · have front : held s.loggers loggerId.toNat = [pointer] := by simp [held, found]
    have owned : Owned (s.memory.delete pointer) (held (s.loggers.set loggerId.toNat none)) := by
      refine represents.owned.delete front ?_ ?_
      · rw [held_set found, if_pos rfl]
        rfl
      · intro other apart
        rw [held_set found, if_neg apart]
    rw [entry, find]
    refine ⟨_, { s with
      memory := s.memory.delete pointer
      loggers := s.loggers.set loggerId.toNat none }, t.put loggerId none, ?_, rfl, ?_⟩
    · simp only [deleteLogger, alive, Option.map_some]
    · refine represents.put none found rfl owned ?_ represents.accounted.delete
      intro other apart any listed
      have member : any ∈ held s.loggers other := by simp [held, listed]
      apply Function.update_of_ne
      rintro rfl
      exact apart (represents.owned.apart other _ any member (by simp [front]))

theorem Represents.onLogger (represents : Represents s t) (loggerId : Int)
    (missing : LoggerMgrAnswer Sink)
    (call : Logger Sink Args → LoggerMgrAnswer Sink × Logger Sink Args) :
    ∃ after, s.onLogger loggerId missing call =
        some ((t.onLogger loggerId missing call).1, after) ∧
      Represents after (t.onLogger loggerId missing call).2 := by
  rw [LoggerMgr.onLogger, LoggerTable.onLogger]
  rcases represents.entry loggerId with ⟨-, entry, find⟩ | ⟨-, -, -, entry, find⟩ |
    ⟨pointer, logger, found, entry, alive, find⟩
  · rw [entry, find]
    exact ⟨s, rfl, represents⟩
  · rw [entry, find]
    exact ⟨s, rfl, represents⟩
  · have member : pointer ∈ held s.loggers loggerId.toNat := by simp [held, found]
    have unmoved : s.loggers.set loggerId.toNat (some pointer) = s.loggers := by
      obtain ⟨inside, same⟩ := List.getElem?_eq_some_iff.mp found
      rw [← same, List.set_getElem_self]
    have owned : Owned (s.memory.set pointer (call logger).2)
        (held (s.loggers.set loggerId.toNat (some pointer))) := by
      rw [unmoved]
      exact represents.owned.set member _
    rw [entry, find]
    refine ⟨{ s with memory := s.memory.set pointer (call logger).2 }, ?_, ?_⟩
    · simp only [alive, Option.map_some]
    · have put := represents.put (some (call logger).2) found
        (by simp [Memory.set]) owned ?_ (represents.accounted.set _)
      · rw [unmoved] at put
        exact put
      · intro other apart any listed
        have again : any ∈ held s.loggers other := by simp [held, listed]
        apply Function.update_of_ne
        rintro rfl
        exact apart (represents.owned.apart other _ any again member)

theorem map_entries {Entry : Type} (entries : List (Option Entry)) (size : Nat) :
    (List.range' size (entries.length - size)).map (fun id => entries[id]?.join) =
      entries.drop size := by
  apply List.ext_getElem
  · simp
  · intro i first second
    rw [List.length_drop] at second
    simp [List.getElem?_eq_getElem (show size + i < entries.length by omega)]

theorem Represents.sinksFrom (represents : Represents s t) (size : Nat) :
    t.sinksFrom size (t.count - size) = (s.loggers.drop size).flatMap fun entry =>
      LoggerTable.sinksOf (entry.bind s.memory.objects) := by
  rw [LoggerTable.sinksFrom, ← map_entries s.loggers size, List.flatMap_map, represents.count]
  simp only [represents.loggers]

theorem resize_length (entries : List (Option Pointer)) (size : Nat) :
    (resize entries size).length = size := by
  simp only [resize, List.length_append, List.length_take, List.length_replicate]
  omega

theorem resize_entry (entries : List (Option Pointer)) (size id : Nat) :
    (resize entries size)[id]?.join = if id < size then entries[id]?.join else none := by
  by_cases below : id < size
  · rw [if_pos below, resize]
    by_cases inside : id < entries.length
    · rw [List.getElem?_append_left (by rw [List.length_take]; omega),
        List.getElem?_take_of_lt below]
    · rw [List.getElem?_append_right (by rw [List.length_take]; omega),
        List.getElem?_eq_none (not_lt.mp inside)]
      cases found : (List.replicate (size - entries.length) (none : Option Pointer))[id -
          (entries.take size).length]? with
      | none => rfl
      | some entry => exact (List.mem_replicate.mp (List.mem_of_getElem? found)).2
  · rw [if_neg below, List.getElem?_eq_none (by rw [resize_length]; omega)]
    rfl

theorem held_drop (entries : List (Option Pointer)) (size i : Nat) :
    held entries (size + i) = held (entries.drop size) i := by
  rw [held, held, List.getElem?_drop]

theorem held_resize (entries : List (Option Pointer)) (size : Nat) :
    held (resize entries size) = fun id =>
      if size ≤ id ∧ id < size + (entries.drop size).length then [] else held entries id := by
  funext id
  rw [held, resize_entry, List.length_drop]
  by_cases below : id < size
  · rw [if_pos below, if_neg (by omega)]
    rfl
  · rw [if_neg below]
    by_cases inside : id < entries.length
    · rw [if_pos (by omega)]
      rfl
    · rw [if_neg (by omega), held, List.getElem?_eq_none (not_lt.mp inside)]
      rfl

theorem Represents.resize (represents : Represents s t) (size : Nat)
    (owned : Owned memory (held (resize s.loggers size))) (accounted : Accounted memory)
    (same : ∀ pointer, some pointer ∉ s.loggers.drop size →
      memory.objects pointer = s.memory.objects pointer) :
    Represents { s with memory := memory, loggers := LoggerMgr.resize s.loggers size }
      (t.resize size) := by
  refine ⟨(resize_length ..).symm, represents.maxLogSize, ?_, owned, accounted⟩
  intro id
  dsimp only [LoggerTable.resize]
  rw [resize_entry]
  by_cases below : id < size
  · rw [if_pos below, if_pos below, represents.loggers]
    cases found : s.loggers[id]?.join with
    | none => rfl
    | some pointer =>
        have member : pointer ∈ held s.loggers id := by simp [held, found]
        symm
        apply same
        intro listed
        obtain ⟨i, inside, there⟩ := List.mem_iff_getElem.mp listed
        have again : pointer ∈ held s.loggers (size + i) := by
          rw [held_drop]
          simp [held, List.getElem?_eq_getElem inside, there]
        have place := represents.owned.apart _ _ pointer member again
        omega
  · rw [if_neg below, if_neg below]
    rfl

theorem Represents.setMaxLoggerCount (represents : Represents s t) (count : Int) :
    ∃ sinks after next, s.setMaxLoggerCount count = some (sinks, after) ∧
      t.perform (.setMaxLoggerCount count) = (.deleted sinks, next) ∧ Represents after next := by
  rw [LoggerMgr.setMaxLoggerCount, LoggerTable.perform]
  by_cases negative : count < 0
  · rw [if_pos negative, if_pos negative]
    exact ⟨[], s, t, rfl, rfl, represents⟩
  · rw [if_neg negative, if_neg negative]
    obtain ⟨memory, deleted, owned, same, -, accounted⟩ :=
      deleteLoggers_spec represents.owned represents.accounted
        fun i _ => held_drop s.loggers count.toNat i
    have places := owned.same (held_resize s.loggers count.toNat)
    refine ⟨_, _, _, ?_, rfl, represents.resize count.toNat places accounted same⟩
    rw [deleted, Option.map_some, represents.sinksFrom]

theorem Represents.perform (represents : Represents s t) (event : LoggerMgrEvent Sink Args) :
    ∃ after, s.perform event = some ((t.perform event).1, after) ∧
      Represents after (t.perform event).2 := by
  cases event with
  | setMaxLoggerCount count =>
      obtain ⟨sinks, after, next, deleted, same, still⟩ := represents.setMaxLoggerCount count
      rw [same]
      exact ⟨after, by rw [LoggerMgr.perform, deleted, Option.map_some], still⟩
  | setMaxLogSize size =>
      refine ⟨_, rfl, ?_⟩
      rw [LoggerTable.perform, LoggerMgr.setMaxLogSize]
      split
      · exact represents
      · exact ⟨represents.count, rfl, represents.loggers, represents.owned, represents.accounted⟩
  | registerLogger loggerId formatter level =>
      obtain ⟨next, same, still⟩ := represents.registerLogger loggerId formatter level
      rw [same]
      exact ⟨_, rfl, still⟩
  | removeLogger loggerId =>
      obtain ⟨sinks, after, next, deleted, same, still⟩ := represents.removeLogger loggerId
      rw [same]
      exact ⟨after, by rw [LoggerMgr.perform, deleted, Option.map_some], still⟩
  | addSink loggerId sink formatter level => exact represents.onLogger loggerId _ _
  | log loggerId message => exact represents.onLogger loggerId _ _
  | plainLog loggerId message => exact represents.onLogger loggerId _ _
  | setLevelFilter loggerId level => exact represents.onLogger loggerId _ _

theorem Represents.performAll (represents : Represents s t)
    (events : List (LoggerMgrEvent Sink Args)) :
    ∃ after, s.performAll events = some ((t.performAll events).1, after) ∧
      Represents after (t.performAll events).2 := by
  induction events generalizing s t with
  | nil => exact ⟨s, rfl, represents⟩
  | cons event events ih =>
      obtain ⟨middle, first, between⟩ := represents.perform event
      obtain ⟨after, later, still⟩ := ih between
      refine ⟨after, ?_, still⟩
      rw [LoggerMgr.performAll, first, Option.bind_some, later]
      rfl

theorem Represents.destroy (represents : Represents s t) :
    ∃ memory, s.destroy = some (t.sinksFrom 0 t.count, memory) ∧
      (∀ pointer, memory.objects pointer = none) ∧
      memory.deleted.Perm (List.range s.memory.next) := by
  have here (i : Nat) (_ : i < s.loggers.length) : held s.loggers (0 + i) = held s.loggers i := by
    rw [Nat.zero_add]
  obtain ⟨memory, deleted, owned, -, next, accounted⟩ :=
    deleteLoggers_spec represents.owned represents.accounted here
  have nothing (pointer : Pointer) : memory.objects pointer = none := by
    rw [← Option.not_isSome_iff_eq_none, owned.live]
    rintro ⟨id, member⟩
    split at member
    · cases member
    · rename_i outside
      have beyond : s.loggers.length ≤ id := by omega
      simp [held, List.getElem?_eq_none beyond] at member
  refine ⟨memory, ?_, nothing, ?_⟩
  · have sinks := represents.sinksFrom 0
    rw [List.drop_zero, Nat.sub_zero] at sinks
    rw [LoggerMgr.destroy, deleted, sinks]
  · rw [List.perm_ext_iff_of_nodup owned.once List.nodup_range]
    intro pointer
    rw [List.mem_range, ← next]
    constructor
    · intro gone
      by_contra beyond
      exact (owned.fresh pointer (not_lt.mp beyond)).2 gone
    · intro early
      have settled := accounted pointer early
      rw [nothing pointer] at settled
      exact settled.resolve_left Bool.false_ne_true

/-- Whatever is registered, removed and logged: the manager answers as a table of loggers by id, and
no access goes through a pointer that is not alive. The destructor then deletes the sinks that are
left in the table, and by its end every logger ever registered has been deleted exactly once. -/
theorem answers_as_table (events : List (LoggerMgrEvent Sink Args)) :
    ∃ last, (create : LoggerMgr Sink Args).performAll events =
        some ((LoggerTable.create.performAll events).1, last) ∧
      ∃ memory, last.destroy =
          some ((LoggerTable.create.performAll events).2.sinksFrom 0
            (LoggerTable.create.performAll events).2.count, memory) ∧
        (∀ pointer, memory.objects pointer = none) ∧
        memory.deleted.Perm (List.range last.memory.next) := by
  obtain ⟨last, answered, represents⟩ := represents_create.performAll events
  exact ⟨last, answered, represents.destroy⟩

end LoggerMgr

/-! The sinks. -/

def LoggerMgrAnswer.deletedSinks {Sink : Type} : LoggerMgrAnswer Sink → List Sink
  | .deleted sinks => sinks
  | .returned _ | .logged _ | .done => []

def LoggerMgrEvent.accepted {Sink Args : Type} :
    LoggerMgrEvent Sink Args → LoggerMgrAnswer Sink → List Sink
  | .addSink _ sink _ _, .returned true => [sink]
  | _, _ => []

namespace LoggerTable

variable {Sink Args : Type} {t : LoggerTable Sink Args} {old new : Option (Logger Sink Args)}

def Bounded (t : LoggerTable Sink Args) : Prop := ∀ id, t.count ≤ id → t.loggers id = none

def held (t : LoggerTable Sink Args) : List Sink := t.sinksFrom 0 t.count

theorem sinksFrom_append (t : LoggerTable Sink Args) (first size more : Nat) :
    t.sinksFrom first size ++ t.sinksFrom (first + size) more = t.sinksFrom first (size + more) := by
  rw [sinksFrom, sinksFrom, sinksFrom, ← List.flatMap_append, List.range'_append_1]

theorem sinksFrom_congr {other : LoggerTable Sink Args} {first size : Nat}
    (same : ∀ id, first ≤ id → id < first + size → t.loggers id = other.loggers id) :
    t.sinksFrom first size = other.sinksFrom first size := by
  apply List.flatMap_congr
  intro id listed
  obtain ⟨least, most⟩ := List.mem_range'_1.mp listed
  rw [same id least most]

theorem Bounded.sinksFrom_nil (bounded : Bounded t) (size : Nat) :
    t.sinksFrom t.count size = [] := by
  apply List.flatMap_eq_nil_iff.mpr
  intro id listed
  rw [bounded id (List.mem_range'_1.mp listed).1]
  rfl

theorem Bounded.find (bounded : Bounded t) {loggerId : Int} {logger : Logger Sink Args}
    (found : t.find loggerId = some logger) :
    loggerId.toNat < t.count ∧ t.loggers loggerId.toNat = some logger := by
  rw [LoggerTable.find] at found
  split at found
  · cases found
  · refine ⟨?_, found⟩
    by_contra beyond
    rw [bounded _ (not_lt.mp beyond)] at found
    cases found

theorem Bounded.put (bounded : Bounded t) {loggerId : Int} (inside : loggerId.toNat < t.count) :
    Bounded (t.put loggerId new) := by
  intro id beyond
  have other : id ≠ loggerId.toNat := by
    rintro rfl
    exact absurd inside (not_lt.mpr beyond)
  exact (Function.update_of_ne other ..).trans (bounded id beyond)

theorem held_put {loggerId : Int} (inside : loggerId.toNat < t.count)
    (found : t.loggers loggerId.toNat = old) (new : Option (Logger Sink Args)) :
    ∃ before after, t.held = before ++ sinksOf old ++ after ∧
      (t.put loggerId new).held = before ++ sinksOf new ++ after := by
  obtain ⟨rest, total⟩ := Nat.exists_eq_add_of_lt inside
  have one (t : LoggerTable Sink Args) (id : Nat) : t.sinksFrom id 1 = sinksOf (t.loggers id) := by
    simp [sinksFrom]
  have cut (t : LoggerTable Sink Args) (count : t.count = loggerId.toNat + rest + 1) :
      t.held = t.sinksFrom 0 loggerId.toNat ++ sinksOf (t.loggers loggerId.toNat) ++
        t.sinksFrom (loggerId.toNat + 1) rest := by
    rw [held, count, ← one, List.append_assoc, sinksFrom_append]
    have joined := t.sinksFrom_append 0 loggerId.toNat (1 + rest)
    rw [Nat.zero_add] at joined
    rw [joined, Nat.add_assoc, Nat.add_comm rest]
  have off (first size : Nat) (apart : ∀ id, first ≤ id → id < first + size →
      id ≠ loggerId.toNat) :
      (t.put loggerId new).sinksFrom first size = t.sinksFrom first size :=
    sinksFrom_congr fun id least most => Function.update_of_ne (apart id least most) ..
  have here : (t.put loggerId new).loggers loggerId.toNat = new := Function.update_self ..
  refine ⟨t.sinksFrom 0 loggerId.toNat, t.sinksFrom (loggerId.toNat + 1) rest, ?_, ?_⟩
  · rw [cut t total, found]
  · rw [cut (t.put loggerId new) total, off 0 _ (by omega), off _ rest (by omega), here]

theorem held_resize (bounded : Bounded t) (size : Nat) :
    ((t.sinksFrom size (t.count - size)) ++ (t.resize size).held).Perm t.held := by
  have kept : (t.resize size).held = t.sinksFrom 0 size := by
    apply sinksFrom_congr
    intro id _ most
    rw [Nat.zero_add] at most
    exact if_pos most
  have joined := t.sinksFrom_append 0 size (t.count - size)
  rw [Nat.zero_add] at joined
  refine List.perm_append_comm.trans ?_
  rw [kept, joined]
  by_cases shrinks : size ≤ t.count
  · rw [Nat.add_sub_cancel' shrinks]
    exact .refl _
  · have grown := t.sinksFrom_append 0 t.count (size - t.count)
    rw [Nat.zero_add, bounded.sinksFrom_nil, List.append_nil,
      Nat.add_sub_cancel' (by omega)] at grown
    rw [Nat.sub_eq_zero_of_le (by omega), Nat.add_zero, ← grown]
    exact .refl _

def Balanced (t : LoggerTable Sink Args) (event : LoggerMgrEvent Sink Args)
    (outcome : LoggerMgrAnswer Sink × LoggerTable Sink Args) : Prop :=
  Bounded outcome.2 ∧
    (outcome.1.deletedSinks ++ outcome.2.held).Perm (t.held ++ event.accepted outcome.1)

theorem Bounded.unchanged (bounded : Bounded t) {event : LoggerMgrEvent Sink Args}
    {answer : LoggerMgrAnswer Sink} (deletes : answer.deletedSinks = [])
    (accepts : event.accepted answer = []) : Balanced t event (answer, t) := by
  refine ⟨bounded, ?_⟩
  rw [deletes, accepts, List.append_nil]
  exact .refl _

theorem Bounded.onLogger (bounded : Bounded t) (event : LoggerMgrEvent Sink Args) (loggerId : Int)
    {missing : LoggerMgrAnswer Sink}
    {call : Logger Sink Args → LoggerMgrAnswer Sink × Logger Sink Args}
    (absent : missing.deletedSinks = [] ∧ event.accepted missing = [])
    (present : ∀ logger, (call logger).1.deletedSinks = [] ∧
      sinksOf (some (call logger).2) =
        sinksOf (some logger) ++ event.accepted (call logger).1) :
    Balanced t event (t.onLogger loggerId missing call) := by
  rw [LoggerTable.onLogger]
  cases found : t.find loggerId with
  | none => exact bounded.unchanged absent.1 absent.2
  | some logger =>
      obtain ⟨inside, here⟩ := bounded.find found
      obtain ⟨before, after, old, new⟩ := held_put inside here (some (call logger).2)
      obtain ⟨deletes, adds⟩ := present logger
      refine ⟨bounded.put inside, ?_⟩
      dsimp only
      rw [old, new, deletes, adds, List.nil_append]
      simp only [List.append_assoc]
      exact (List.perm_append_comm.append_left _).append_left _

theorem Bounded.perform (bounded : Bounded t) (event : LoggerMgrEvent Sink Args) :
    Balanced t event (t.perform event) := by
  cases event with
  | setMaxLoggerCount count =>
      rw [LoggerTable.perform]
      split
      · exact bounded.unchanged rfl rfl
      · refine ⟨fun id beyond => if_neg (by simpa [resize] using beyond), ?_⟩
        simpa [LoggerMgrAnswer.deletedSinks, LoggerMgrEvent.accepted] using
          held_resize bounded count.toNat
  | setMaxLogSize size =>
      rw [LoggerTable.perform]
      split
      · exact bounded.unchanged rfl rfl
      · refine ⟨bounded, ?_⟩
        simp [LoggerMgrAnswer.deletedSinks, LoggerMgrEvent.accepted, held, sinksFrom]
  | registerLogger loggerId formatter level =>
      rw [LoggerTable.perform]
      split
      · rename_i free
        obtain ⟨positive, inside, absent⟩ := free
        have below : loggerId.toNat < t.count := by omega
        have empty : t.loggers loggerId.toNat = none := by
          rwa [LoggerTable.find, if_neg (by omega)] at absent
        obtain ⟨before, after, old, new⟩ :=
          held_put below empty (some (.create formatter level t.maxLogSize))
        refine ⟨bounded.put below, ?_⟩
        rw [old, new]
        simp [LoggerMgrAnswer.deletedSinks, LoggerMgrEvent.accepted, sinksOf, Logger.create]
      · exact bounded.unchanged rfl rfl
  | removeLogger loggerId =>
      rw [LoggerTable.perform]
      split
      · exact bounded.unchanged rfl rfl
      · rename_i logger found
        obtain ⟨inside, here⟩ := bounded.find found
        obtain ⟨before, after, old, new⟩ := held_put inside here none
        refine ⟨bounded.put inside, ?_⟩
        dsimp only
        rw [old, new]
        simp only [LoggerMgrAnswer.deletedSinks, LoggerMgrEvent.accepted, sinksOf, Option.map_none,
          Option.map_some, Option.getD_none, Option.getD_some, List.append_nil]
        rw [← List.append_assoc]
        exact List.perm_append_comm.append_right _
  | addSink loggerId sink formatter level =>
      refine bounded.onLogger _ loggerId ⟨rfl, rfl⟩ fun logger => ⟨rfl, ?_⟩
      simp [sinksOf, Logger.addSink, LoggerMgrEvent.accepted]
  | log loggerId message =>
      exact bounded.onLogger _ loggerId ⟨rfl, rfl⟩ fun logger => ⟨rfl, (List.append_nil _).symm⟩
  | plainLog loggerId message =>
      exact bounded.onLogger _ loggerId ⟨rfl, rfl⟩ fun logger => ⟨rfl, (List.append_nil _).symm⟩
  | setLevelFilter loggerId level =>
      exact bounded.onLogger _ loggerId ⟨rfl, rfl⟩ fun logger => ⟨rfl, (List.append_nil _).symm⟩

def acceptedBy : List (LoggerMgrEvent Sink Args) → List (LoggerMgrAnswer Sink) → List Sink
  | event :: events, answer :: answers => event.accepted answer ++ acceptedBy events answers
  | _, _ => []

theorem Bounded.performAll (bounded : Bounded t) (events : List (LoggerMgrEvent Sink Args)) :
    ((t.performAll events).1.flatMap LoggerMgrAnswer.deletedSinks ++
        (t.performAll events).2.held).Perm
      (t.held ++ acceptedBy events (t.performAll events).1) := by
  induction events generalizing t with
  | nil => simp [LoggerTable.performAll, acceptedBy]
  | cons event events ih =>
      obtain ⟨still, first⟩ := bounded.perform event
      have later := ih still
      simp only [LoggerTable.performAll, acceptedBy, List.flatMap_cons, List.append_assoc]
      refine (later.append_left _).trans ?_
      rw [← List.append_assoc, ← List.append_assoc]
      exact first.append_right _

end LoggerTable

/-- A sink is deleted as often as `addSink` took it: with a logger that is removed, with one that a
smaller count drops, or by the destructor. -/
theorem LoggerMgr.sinks_deleted_once {Sink Args : Type}
    (events : List (LoggerMgrEvent Sink Args)) :
    ∃ answers last sinks memory,
      (create : LoggerMgr Sink Args).performAll events = some (answers, last) ∧
      last.destroy = some (sinks, memory) ∧
      (answers.flatMap LoggerMgrAnswer.deletedSinks ++ sinks).Perm
        (LoggerTable.acceptedBy events answers) ∧
      ((LoggerTable.acceptedBy events answers).Nodup →
        (answers.flatMap LoggerMgrAnswer.deletedSinks ++ sinks).Nodup) := by
  obtain ⟨last, answered, represents⟩ := represents_create.performAll events
  obtain ⟨memory, destroyed, -, -⟩ := represents.destroy
  have bounded : LoggerTable.Bounded (LoggerTable.create : LoggerTable Sink Args) :=
    fun _ _ => rfl
  have balanced := bounded.performAll events
  exact ⟨_, last, _, memory, answered, destroyed, balanced, balanced.nodup_iff.mpr⟩

end ZBlueNet
