import ZBlueNet.Lib.Runs

/-!
The file sink of `logger_file_sink.cc`, which opens another file whenever the clock changes the
name. It remembers a name before it knows that the file can be opened.
-/

namespace ZBlueNet

open Runs

structure LogStream where
  path : String
deriving DecidableEq, Repr

structure LoggerFileSink where
  actualFilePath : String
  fp : Option LogStream
deriving DecidableEq, Repr

/-- `path` is what the clock makes of `file_path_` at this call, and `granted` the answer of `fopen`
if it is asked. -/
inductive FileSinkEvent
  | openFile (path : String) (granted : Bool)
  | log (buffer : List UInt8) (path : String) (granted : Bool)
deriving DecidableEq, Repr

/-- What a call did: whether it asked `fopen`, with which answer, what `openFile` returned with which
`fp_`, and what it gave to `fwrite`. -/
structure FileSinkCall where
  path : String
  tried : Option Bool
  returned : Bool
  fp : Option LogStream
  wrote : Option (Option LogStream × List UInt8)
deriving DecidableEq, Repr

namespace LoggerFileSink

def create : LoggerFileSink := { actualFilePath := "", fp := none }

/-- The answer of `fopen` if it was called, the result, and the sink. -/
def openFile (sink : LoggerFileSink) (path : String) (granted : Bool) :
    Option Bool × Bool × LoggerFileSink :=
  if sink.actualFilePath = path then (none, true, sink)
  else
    let named := { sink with actualFilePath := path }
    if granted then (some true, true, { named with fp := some ⟨path⟩ })
    else (some false, false, named)

def perform (sink : LoggerFileSink) : FileSinkEvent → FileSinkCall × LoggerFileSink
  | .openFile path granted =>
      let opened := sink.openFile path granted
      (⟨path, opened.1, opened.2.1, opened.2.2.fp, none⟩, opened.2.2)
  | .log buffer path granted =>
      let opened := sink.openFile path granted
      let wrote := if opened.2.1 = false then none else some (opened.2.2.fp, buffer)
      (⟨path, opened.1, opened.2.1, opened.2.2.fp, wrote⟩, opened.2.2)

end LoggerFileSink

structure FileSinkRun where
  sink : LoggerFileSink
  calls : List FileSinkCall
deriving DecidableEq, Repr

namespace FileSinkRun

def start : FileSinkRun := { sink := .create, calls := [] }

def step (s : FileSinkRun) (event : FileSinkEvent) : Option FileSinkRun :=
  let performed := s.sink.perform event
  some { sink := performed.2, calls := performed.1 :: s.calls }

/-- What the last call returned and wrote is right, and it tried again what the call before it could
not open. -/
def Recovers (s : FileSinkRun) : Prop :=
  ∀ call ∈ s.calls.head?,
    (call.returned = true → call.fp = some ⟨call.path⟩) ∧
      (∀ written ∈ call.wrote, written.1 ≠ none) ∧
      ∀ previous ∈ s.calls.tail.head?, previous.tried = some false → call.tried ≠ none

def lastOpen (s : FileSinkRun) : Option Bool := s.calls.findSome? FileSinkCall.tried

def path : FileSinkEvent → String
  | .openFile path _ => path
  | .log _ path _ => path

/-- A call formats the remembered name only if the last `fopen` opened it. -/
def Renames (s : FileSinkRun) (event : FileSinkEvent) : Prop :=
  path event = s.sink.actualFilePath → s.lastOpen = some true

structure Tracked (s : FileSinkRun) : Prop where
  opened : s.lastOpen = some true → s.sink.fp = some ⟨s.sink.actualFilePath⟩
  failed : s.lastOpen = some false → ∃ call ∈ s.calls.head?, call.tried = some false
  unopened : s.lastOpen = none → s.sink = .create

variable {s next : FileSinkRun} {event : FileSinkEvent}

theorem start_tracked : Tracked start := by
  constructor
  · intro opened
    cases opened
  · intro failed
    cases failed
  · intro _
    rfl

theorem perform_same (sink : LoggerFileSink) (same : path event = sink.actualFilePath) :
    (sink.perform event).2 = sink ∧ (sink.perform event).1.tried = none ∧
      (sink.perform event).1.returned = true ∧ (sink.perform event).1.fp = sink.fp ∧
      (sink.perform event).1.path = sink.actualFilePath ∧
      ∀ written ∈ (sink.perform event).1.wrote, written.1 = sink.fp := by
  cases event <;> simp_all [path, LoggerFileSink.perform, LoggerFileSink.openFile]

theorem perform_other (sink : LoggerFileSink) (other : path event ≠ sink.actualFilePath) :
    ∃ granted, (sink.perform event).1.tried = some granted ∧
      (sink.perform event).1.returned = granted ∧
      (sink.perform event).2.actualFilePath = path event ∧
      (sink.perform event).1.path = path event ∧
      (sink.perform event).1.fp = (sink.perform event).2.fp ∧
      (granted = true → (sink.perform event).2.fp = some ⟨path event⟩) ∧
      ∀ written ∈ (sink.perform event).1.wrote,
        granted = true ∧ written.1 = (sink.perform event).2.fp := by
  cases event <;> rename_i granted <;> cases granted <;>
    simp_all [path, LoggerFileSink.perform, LoggerFileSink.openFile, Ne.symm]

theorem lastOpen_of_none (s : FileSinkRun) (sink : LoggerFileSink) {call : FileSinkCall}
    (asked : call.tried = none) :
    lastOpen { sink := sink, calls := call :: s.calls } = s.lastOpen := by
  rw [lastOpen, List.findSome?_cons, asked]
  rfl

theorem lastOpen_of_some (sink : LoggerFileSink) (calls : List FileSinkCall) {call : FileSinkCall}
    {granted : Bool} (asked : call.tried = some granted) :
    lastOpen { sink := sink, calls := call :: calls } = some granted := by
  rw [lastOpen, List.findSome?_cons, asked]

theorem lastOpen_of_head {call : FileSinkCall} (last : call ∈ s.calls.head?) {granted : Bool}
    (asked : call.tried = some granted) : s.lastOpen = some granted := by
  obtain ⟨sink, calls⟩ := s
  cases calls with
  | nil => cases last
  | cons first older =>
      cases last
      exact lastOpen_of_some sink older asked

theorem Tracked.recovers_same (tracked : Tracked s) (taken : s.step event = some next)
    (same : path event = s.sink.actualFilePath) :
    Recovers next ↔ s.lastOpen = some true := by
  cases taken
  obtain ⟨-, asked, returned, fp, name, wrote⟩ := perform_same s.sink same
  simp only [Recovers, List.head?_cons, Option.mem_some_iff, forall_eq', List.tail_cons]
  constructor
  · rintro ⟨right, -, again⟩
    cases last : s.lastOpen with
    | none =>
        have opened := right returned
        rw [fp, tracked.unopened last] at opened
        cases opened
    | some granted =>
        cases granted with
        | true => rfl
        | false =>
            obtain ⟨previous, here, failed⟩ := tracked.failed last
            exact absurd asked (again previous here failed)
  · intro last
    have opened := tracked.opened last
    refine ⟨?_, ?_, ?_⟩
    · intro _
      rw [fp, name, opened]
    · intro written listed
      rw [wrote written listed, opened]
      exact Option.some_ne_none _
    · intro previous here failed
      cases last.symm.trans (lastOpen_of_head here failed)

theorem recovers_other (taken : s.step event = some next)
    (other : path event ≠ s.sink.actualFilePath) : Recovers next := by
  cases taken
  obtain ⟨granted, asked, returned, -, name, fp, opened, wrote⟩ := perform_other s.sink other
  simp only [Recovers, List.head?_cons, Option.mem_some_iff, forall_eq', List.tail_cons]
  refine ⟨?_, ?_, ?_⟩
  · intro right
    rw [fp, name, opened (returned ▸ right)]
  · intro written listed
    obtain ⟨given, stream⟩ := wrote written listed
    rw [stream, opened given]
    exact Option.some_ne_none _
  · intro _ _ _ unasked
    cases asked.symm.trans unasked

theorem Tracked.step (tracked : Tracked s) (taken : s.step event = some next)
    (recovers : Recovers next) : Tracked next := by
  by_cases same : path event = s.sink.actualFilePath
  · have last := (tracked.recovers_same taken same).mp recovers
    cases taken
    obtain ⟨sink, asked, -⟩ := perform_same s.sink same
    have still := lastOpen_of_none s (s.sink.perform event).2 asked
    rw [last] at still
    constructor
    · intro _
      rw [sink]
      exact tracked.opened last
    · intro failed
      cases still.symm.trans failed
    · intro none
      cases still.symm.trans none
  · cases taken
    obtain ⟨granted, asked, -, name, -, -, opened, -⟩ := perform_other s.sink same
    have now := lastOpen_of_some (s.sink.perform event).2 s.calls asked
    constructor
    · intro right
      cases now.symm.trans right
      rw [name]
      exact opened rfl
    · intro failed
      cases now.symm.trans failed
      exact ⟨_, rfl, asked⟩
    · intro none
      cases now.symm.trans none

/-- The sink recovers all along a run exactly when no call formats the name that the last `fopen`
could not open, nor an empty name before the first. -/
theorem recovers_every_iff (events : List FileSinkEvent) :
    Every step Recovers start events ↔ Along step Renames start events := by
  have preserved {s next : FileSinkRun} {event : FileSinkEvent} (tracked : Tracked s) (_ : True)
      (taken : s.step event = some next) (recovers : Recovers next) : Tracked next :=
    tracked.step taken recovers
  have decides {s next : FileSinkRun} {event : FileSinkEvent} (tracked : Tracked s) (_ : True)
      (_ : Recovers s) (taken : s.step event = some next) :
      Recovers next ↔ Renames s event := by
    by_cases same : path event = s.sink.actualFilePath
    · rw [tracked.recovers_same taken same, Renames]
      exact ⟨fun last _ => last, fun last => last same⟩
    · exact iff_of_true (recovers_other taken same) fun equal => absurd equal same
  have idle {s : FileSinkRun} {event : FileSinkEvent} (_ : Tracked s) (_ : True)
      (stuck : s.step event = none) : Renames s event := by
    cases stuck
  have initial : Recovers start := by
    intro call none
    cases none
  exact every_iff_along_of_kept preserved decides idle start_tracked initial
    (along_always start events)

def failedOpen : List FileSinkEvent := [.log [65] "a.log" false, .log [66] "a.log" true]

/-- The second line goes to a null stream, and nothing was tried again. -/
theorem failedOpen_unrecovered :
    ¬ Every step Recovers start failedOpen ∧
      ∃ last, run step start failedOpen = some last ∧
        last.calls.head? = some ⟨"a.log", none, true, none, some (none, [66])⟩ := by
  refine ⟨?_, ⟨_, rfl, by decide⟩⟩
  intro every
  have end' := every.finish rfl
  exact absurd ((end' _ rfl).1 (by decide)) (by decide)

end FileSinkRun

end ZBlueNet
