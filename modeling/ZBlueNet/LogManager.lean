import ZBlueNet.LoggerMgr
import ZBlueNet.Lib.Runs

/-!
`log.cc`: the formatter of the LOG lines, and the `LogManager` that registers loggers with
it; and the two loggers that a `GameServer` asks for before it starts.
-/

namespace ZBlueNet

structure LogClock where
  time : String
  millisecond : Int

namespace LogManager

def logLevelString (level : Int) : String :=
  if level = 0 then "DEBUG" else if level = 1 then "INFO" else if level = 2 then "*WARN*"
  else "**ERROR**"

/-- `%03ld` -/
def threeDigits (number : Int) : String :=
  let digits := toString number.natAbs
  let sign := if number < 0 then "-" else ""
  sign ++ String.ofList (List.replicate (3 - sign.length - digits.length) '0') ++ digits

/-- `[%s][%s:%03ld][%s:%d](%s)` -/
def headerOf (message : LogMessage LogClock) : List UInt8 :=
  ("[" ++ logLevelString message.level ++ "][" ++ message.args.time ++ ":" ++
    threeDigits message.args.millisecond ++ "][" ++ message.filename ++ ":" ++
    toString message.line ++ "](" ++ message.function ++ ")").toUTF8.toList

def addPrint (buffer : LogBuffer) (size : Nat) (text : List UInt8) : LogBuffer :=
  let printed := Logger.vsnprintf buffer buffer.count (size - buffer.count) text
  { printed with count := buffer.count + printed.count }

/-- The `do` block, which a print that fills the buffer leaves. -/
def formatLine (size : Nat) (message : LogMessage LogClock) : LogBuffer :=
  let header := addPrint ⟨List.replicate size .unwritten, 0, []⟩ size (headerOf message)
  if size ≤ header.count then header
  else
    let text := addPrint header size message.text
    if size ≤ text.count then text else addPrint text size [10]

def logFormatter : LogFormatter LogClock := fun size message =>
  if message.level < 0 ∨ 4 ≤ message.level then ([], 0)
  else
    let line := formatLine size message
    if size ≤ line.count then
      (if 2 ≤ size then Logger.putCells line.cells (size - 2) [.char 10] else line.cells,
        if size = 0 then sizeModulus - 1 else size - 1)
    else (line.cells, line.count)

def fullLine (message : LogMessage LogClock) : List UInt8 :=
  headerOf message ++ message.text ++ [10]

/-- What is to be seen of a line in a buffer of `size` bytes: one that does not fit with its NUL is
cut to make room for the newline. -/
def lineOf (size : Nat) (message : LogMessage LogClock) : List UInt8 :=
  if message.level < 0 ∨ 4 ≤ message.level then []
  else if (fullLine message).length < size then fullLine message
  else if 2 ≤ size then (fullLine message).take (size - 2) ++ [10]
  else []

/-- A buffer that begins with `text`, or with all of it that fits in front of a NUL. -/
structure Shows (size : Nat) (text : List UInt8) (buffer : LogBuffer) : Prop where
  length : buffer.cells.length = size
  count : buffer.count = text.length
  cells : buffer.cells.take (min text.length (size - 1)) = (text.take (size - 1)).map .char

theorem Shows.empty (size : Nat) : Shows size [] ⟨List.replicate size .unwritten, 0, []⟩ := by
  refine ⟨List.length_replicate, rfl, ?_⟩
  simp

theorem Shows.addPrint {size : Nat} {text : List UInt8} {buffer : LogBuffer}
    (shows : Shows size text buffer) (room : text.length < size) (more : List UInt8) :
    Shows size (text ++ more) (addPrint buffer size more) := by
  have count := shows.count
  have space : size - text.length ≠ 0 := by omega
  have before := shows.cells
  have whole : text.length ≤ size - 1 := by omega
  rw [Nat.min_eq_left whole, List.take_of_length_le whole] at before
  let shown := more.take (size - text.length - 1)
  let stored : List LogCell := shown.map .char ++ [.terminator]
  have shownLength : shown.length = min (size - text.length - 1) more.length := List.length_take
  have width : stored.length = shown.length + 1 := by simp [stored]
  have same : (LogManager.addPrint buffer size more).cells =
      Logger.putCells buffer.cells text.length stored := by
    simp only [LogManager.addPrint, Logger.vsnprintf, count, if_neg space, stored, shown]
  have fits : text.length + stored.length ≤ buffer.cells.length := by
    rw [shows.length, width]
    omega
  have taken := Logger.putCells_take buffer.cells text.length stored fits
  rw [before] at taken
  refine ⟨?_, ?_, ?_⟩
  · rw [same, Logger.putCells_length _ _ _ (by rw [shows.length]; omega), shows.length]
  · simp [LogManager.addPrint, Logger.vsnprintf, count]
  · have cut : min (text ++ more).length (size - 1) = text.length + shown.length := by
      rw [List.length_append]
      omega
    have again := congrArg (List.take (text.length + shown.length)) taken
    rw [List.take_take, width, Nat.min_eq_left (by omega)] at again
    have front : (text.map LogCell.char).length = text.length := List.length_map _
    have back : (shown.map LogCell.char).length = shown.length := List.length_map _
    rw [same, cut, again, ← front, List.take_length_add_append, ← back, List.take_left,
      List.take_append, List.take_of_length_le (by omega), List.map_append]
    rw [show size - 1 - text.length = size - text.length - 1 by omega]

theorem formatLine_shows {size : Nat} (positive : 0 < size) (message : LogMessage LogClock) :
    ∃ text, Shows size text (formatLine size message) ∧ text <+: fullLine message ∧
      (text.length < size → text = fullLine message) := by
  have header : Shows size (headerOf message)
      (addPrint ⟨List.replicate size .unwritten, 0, []⟩ size (headerOf message)) :=
    (Shows.empty size).addPrint positive (headerOf message)
  have first : headerOf message <+: fullLine message := by
    rw [fullLine, List.append_assoc]
    exact List.prefix_append ..
  have second : headerOf message ++ message.text <+: fullLine message := List.prefix_append ..
  dsimp only [formatLine]
  split
  · rename_i full
    rw [header.count] at full
    exact ⟨_, header, first, fun short => absurd short (not_lt.mpr full)⟩
  · rename_i room
    rw [header.count, not_le] at room
    have text := header.addPrint room message.text
    split
    · rename_i full
      rw [text.count] at full
      exact ⟨_, text, second, fun short => absurd short (not_lt.mpr full)⟩
    · rename_i more
      rw [text.count, not_le] at more
      exact ⟨_, text.addPrint more [10], List.prefix_refl _, fun _ => rfl⟩

theorem lineOf_ends {size : Nat} (positive : 0 < size) (message : LogMessage LogClock) :
    (lineOf size message).length < size ∧
      (lineOf size message = [] ∨ [10] <:+ lineOf size message) := by
  rw [lineOf]
  split
  · exact ⟨positive, .inl rfl⟩
  · split
    · rename_i short
      exact ⟨short, .inr (List.suffix_append ..)⟩
    · split
      · refine ⟨?_, .inr (List.suffix_append ..)⟩
        rw [List.length_append, List.length_take, List.length_singleton]
        omega
      · exact ⟨positive, .inl rfl⟩

theorem logFormatter_shows {size : Nat} (positive : 0 < size) (message : LogMessage LogClock) :
    let written := logFormatter size message
    written.2 = (lineOf size message).length ∧
      written.1.take written.2 = (lineOf size message).map .char ∧ written.1.length ≤ size := by
  intro written
  by_cases level : message.level < 0 ∨ 4 ≤ message.level
  · simp [written, logFormatter, lineOf, level]
  obtain ⟨text, shows, part, whole⟩ := formatLine_shows positive message
  have longest := part.length_le
  by_cases full : size ≤ (formatLine size message).count
  · have long : size ≤ text.length := shows.count ▸ full
    have cut : ¬(fullLine message).length < size := by omega
    have same : written = (if 2 ≤ size then
          Logger.putCells (formatLine size message).cells (size - 2) [.char 10]
        else (formatLine size message).cells, size - 1) := by
      simp [written, logFormatter, level, full, positive.ne']
    rw [same, lineOf, if_neg level, if_neg cut]
    by_cases two : 2 ≤ size
    · have shown : (fullLine message).take (size - 2) = text.take (size - 2) := by
        obtain ⟨more, all⟩ := part
        rw [← all, List.take_append_of_le_length (by omega)]
      have before := congrArg (List.take (size - 2)) shows.cells
      rw [List.take_take, Nat.min_eq_right (by omega : size - 1 ≤ text.length),
        Nat.min_eq_left (by omega), ← List.map_take, List.take_take,
        Nat.min_eq_left (by omega)] at before
      have taken := Logger.putCells_take (formatLine size message).cells (size - 2) [.char 10]
        (by rw [shows.length, List.length_singleton]; omega)
      have count : size - 2 + [LogCell.char 10].length = size - 1 := by
        rw [List.length_singleton]
        omega
      rw [count, before] at taken
      rw [if_pos two, if_pos two, shown]
      refine ⟨?_, ?_, ?_⟩
      · rw [List.length_append, List.length_take, List.length_singleton]
        omega
      · rw [taken, List.map_append]
        rfl
      · rw [Logger.putCells_length _ _ _ (by rw [shows.length]; omega), shows.length]
    · have one : size - 1 = 0 := by omega
      rw [if_neg two, if_neg two, one]
      exact ⟨rfl, rfl, shows.length.le⟩
  · have short : text.length < size := by
      rw [← shows.count]
      exact not_le.mp full
    have all := whole short
    have same : written = ((formatLine size message).cells, (formatLine size message).count) := by
      simp [written, logFormatter, level, full]
    have cells := shows.cells
    have room : text.length ≤ size - 1 := by omega
    rw [Nat.min_eq_left room, List.take_of_length_le room] at cells
    rw [same, lineOf, if_neg level, if_pos (all ▸ short), ← all]
    exact ⟨shows.count, by rw [shows.count, cells], shows.length.le⟩

end LogManager

/-- The sinks of a `LogManager`: a file behind an asynchronous sink, and standard error. -/
inductive LogManagerSink
  | async (filePath : String)
  | stderr
deriving DecidableEq, Repr

/-- The manager, with the `LoggerMgr` of the process. -/
structure LogManager where
  loggerId : Int
  loggers : LoggerMgr LogManagerSink LogClock

/-- A call of `initLogger`; `opened` is the answer of `openFile`, if it is asked. -/
structure InitLogger where
  logFilePath : String
  logStderr : Bool
  levelFilter : Int
  loggerId : Int
  opened : Bool

namespace InitLogger

def Opens (call : InitLogger) : Prop := call.logFilePath = "" ∨ call.opened = true

instance : DecidablePred Opens := fun call =>
  inferInstanceAs (Decidable (call.logFilePath = "" ∨ call.opened = true))

def sinks (call : InitLogger) : List LogManagerSink :=
  if call.Opens then
    (if call.logFilePath = "" then [] else [.async call.logFilePath]) ++
      if call.logStderr then [.stderr] else []
  else []

def logger (call : InitLogger) (maxLogSize : Nat) : Logger LogManagerSink LogClock :=
  { formatter := some LogManager.logFormatter
    level := call.levelFilter
    maxLogSize := maxLogSize
    sinks := call.sinks.map fun sink => ⟨sink, none, -1⟩ }

end InitLogger

namespace LogManager

def create : LogManager := { loggerId := 0, loggers := .create }

def addFile (loggers : LoggerMgr LogManagerSink LogClock) (id : Int) (call : InitLogger) :
    Option (Bool × LoggerMgr LogManagerSink LogClock) :=
  if call.logFilePath = "" then some (true, loggers)
  else if call.opened = false then some (false, loggers)
  else
    (loggers.addSink id (.async call.logFilePath) none (-1)).map fun answer =>
      (decide (answer.1 = .returned true), answer.2)

def addStderr (loggers : LoggerMgr LogManagerSink LogClock) (id : Int) (call : InitLogger) :
    Option (Bool × LoggerMgr LogManagerSink LogClock) :=
  if call.logStderr = false then some (true, loggers)
  else
    (loggers.addSink id .stderr none (-1)).map fun answer =>
      (decide (answer.1 = .returned true), answer.2)

/-- `logger_id_`, once a call has set it. -/
def idOf (loggerId : Int) (call : InitLogger) : Int :=
  if call.loggerId ≠ 0 then call.loggerId else loggerId

def initLogger (s : LogManager) (call : InitLogger) : Option (Bool × LogManager) :=
  let id := idOf s.loggerId call
  let registered := s.loggers.registerLogger id (some logFormatter) (-1)
  if registered.1 = false then some (false, ⟨id, registered.2⟩)
  else
    (registered.2.setLevelFilter id call.levelFilter).bind fun filtered =>
      (addFile filtered.2 id call).bind fun filed =>
        if filed.1 = false then some (false, ⟨id, filed.2⟩)
        else
          (addStderr filed.2 id call).map fun ended =>
            if ended.1 = false then (false, ⟨id, ended.2⟩)
            else (true, ⟨if call.loggerId = 0 then id + 1 else id, ended.2⟩)

open LoggerMgr

variable {s : LogManager} {t : LoggerTable LogManagerSink LogClock} {id : Int}

def Free (t : LoggerTable LogManagerSink LogClock) (id : Int) : Prop :=
  0 ≤ id ∧ id < t.count ∧ t.find id = none

instance (t : LoggerTable LogManagerSink LogClock) : DecidablePred (Free t) := fun id =>
  inferInstanceAs (Decidable (0 ≤ id ∧ id < t.count ∧ t.find id = none))

theorem find_put (inside : 0 ≤ id) (logger : Logger LogManagerSink LogClock) :
    (t.put id (some logger)).find id = some logger := by
  rw [LoggerTable.find, if_neg (not_lt.mpr inside)]
  exact Function.update_self ..

theorem put_put (first second : Option (Logger LogManagerSink LogClock)) :
    (t.put id first).put id second = t.put id second := by
  simp only [LoggerTable.put, Function.update_idem]

theorem call_put {loggers : LoggerMgr LogManagerSink LogClock} (inside : 0 ≤ id)
    {logger : Logger LogManagerSink LogClock}
    (represents : Represents loggers (t.put id (some logger))) :
    (∀ level, ∃ next, loggers.setLevelFilter id level = some (.done, next) ∧
      Represents next (t.put id (some (logger.setLevelFilter level)))) ∧
    ∀ sink, ∃ next, loggers.addSink id sink none (-1) = some (.returned true, next) ∧
      Represents next (t.put id (some (logger.addSink sink none (-1)).2)) := by
  have found : (t.put id (some logger)).find id = some logger := find_put inside logger
  constructor
  · intro level
    obtain ⟨next, called, still⟩ := represents.perform (.setLevelFilter id level)
    simp only [LoggerTable.perform, LoggerTable.onLogger, found, put_put] at called still
    exact ⟨next, called, still⟩
  · intro sink
    obtain ⟨next, called, still⟩ := represents.perform (.addSink id sink none (-1))
    simp only [LoggerTable.perform, LoggerTable.onLogger, found, put_put] at called still
    exact ⟨next, called, still⟩

theorem addSinks_put {loggers : LoggerMgr LogManagerSink LogClock} (inside : 0 ≤ id)
    (call : InitLogger) {maxLogSize : Nat}
    (represents : Represents loggers (t.put id
      (some { call.logger maxLogSize with sinks := [] }))) :
    ∃ filed, addFile loggers id call = some (decide call.Opens, filed) ∧
      (¬call.Opens → Represents filed (t.put id (some (call.logger maxLogSize)))) ∧
      (call.Opens → ∃ ended, addStderr filed id call = some (true, ended) ∧
        Represents ended (t.put id (some (call.logger maxLogSize)))) := by
  have last {filed : LoggerMgr LogManagerSink LogClock} (sinks : List LogManagerSink)
      (opens : call.Opens)
      (first : sinks = if call.logFilePath = "" then [] else [.async call.logFilePath])
      (represents : Represents filed (t.put id (some { call.logger maxLogSize with
        sinks := sinks.map fun sink => ⟨sink, none, -1⟩ }))) :
      ∃ ended, addStderr filed id call = some (true, ended) ∧
        Represents ended (t.put id (some (call.logger maxLogSize))) := by
    cases console : call.logStderr with
    | false =>
        refine ⟨filed, if_pos console, ?_⟩
        have same : call.sinks = sinks := by simp [InitLogger.sinks, opens, console, first]
        rw [InitLogger.logger, same]
        exact represents
    | true =>
        obtain ⟨ended, called, still⟩ := (call_put inside represents).2 .stderr
        refine ⟨ended, ?_, ?_⟩
        · simp [addStderr, console, called]
        · have same : call.sinks = sinks ++ [.stderr] := by
            simp [InitLogger.sinks, opens, console, first]
          rw [InitLogger.logger, same, List.map_append]
          exact still
  by_cases unfiled : call.logFilePath = ""
  · have opens : call.Opens := .inl unfiled
    refine ⟨loggers, ?_, fun fails => absurd opens fails, fun _ => ?_⟩
    · simp [addFile, unfiled, opens]
    · exact last [] opens (by simp [unfiled]) represents
  · cases opened : call.opened with
    | false =>
        have fails : ¬call.Opens := by simp [InitLogger.Opens, unfiled, opened]
        refine ⟨loggers, ?_, fun _ => ?_, fun opens => absurd opens fails⟩
        · simp [addFile, unfiled, opened, fails]
        · have same : call.sinks = [] := if_neg fails
          rw [InitLogger.logger, same]
          exact represents
    | true =>
        have opens : call.Opens := .inr opened
        obtain ⟨filed, called, still⟩ := (call_put inside represents).2 (.async call.logFilePath)
        refine ⟨filed, ?_, fun fails => absurd opens fails, fun _ => ?_⟩
        · simp [addFile, unfiled, opened, opens, called]
        · exact last [.async call.logFilePath] opens (by simp [unfiled]) still

theorem initLogger_spec (represents : Represents s.loggers t) (call : InitLogger) :
    ∃ loggers, s.initLogger call =
        some (decide (Free t (idOf s.loggerId call) ∧ call.Opens),
          ⟨if Free t (idOf s.loggerId call) ∧ call.Opens ∧ call.loggerId = 0 then
              idOf s.loggerId call + 1
            else idOf s.loggerId call, loggers⟩) ∧
      Represents loggers (if Free t (idOf s.loggerId call) then
        t.put (idOf s.loggerId call) (some (call.logger t.maxLogSize)) else t) := by
  obtain ⟨next, registers, still⟩ :=
    represents.registerLogger (idOf s.loggerId call) (some logFormatter) (-1)
  by_cases free : Free t (idOf s.loggerId call)
  · rw [LoggerTable.perform, if_pos ⟨free.1, free.2.1, free.2.2⟩, Prod.mk.injEq,
      LoggerMgrAnswer.returned.injEq] at registers
    obtain ⟨succeeds, rfl⟩ := registers
    obtain ⟨filtered, filters, leveled⟩ := (call_put free.1 still).1 call.levelFilter
    obtain ⟨filed, files, failed, ends⟩ := addSinks_put free.1 call leveled
    by_cases opens : call.Opens
    · obtain ⟨ended, adds, last⟩ := ends opens
      rw [decide_eq_true opens] at files
      refine ⟨ended, ?_, by rwa [if_pos free]⟩
      simp only [initLogger, ← succeeds, filters, Option.bind_some, files, adds, Option.map_some]
      simp [free, opens]
    · rw [decide_eq_false opens] at files
      refine ⟨filed, ?_, by rw [if_pos free]; exact failed opens⟩
      simp only [initLogger, ← succeeds, filters, Option.bind_some, files]
      simp [opens]
  · have refuses : t.perform (.registerLogger (idOf s.loggerId call) (some logFormatter) (-1)) =
        (.returned false, t) := if_neg fun all => free all
    rw [refuses, Prod.mk.injEq, LoggerMgrAnswer.returned.injEq] at registers
    obtain ⟨fails, rfl⟩ := registers
    refine ⟨_, ?_, by rw [if_neg free]; exact still⟩
    simp only [initLogger, ← fails]
    simp [free]

/-! Lines. -/

inductive Event
  | initLogger (call : InitLogger)
  | setMaxLoggerCount (count : Int)
  | setMaxLogSize (size : Int)
  | removeLogger (loggerId : Int)
  | setLevelFilter (loggerId level : Int)
  | log (loggerId : Int) (message : LogMessage LogClock)

def Event.call : Event → Option (LoggerMgrEvent LogManagerSink LogClock)
  | .initLogger _ => none
  | .setMaxLoggerCount count => some (.setMaxLoggerCount count)
  | .setMaxLogSize size => some (.setMaxLogSize size)
  | .removeLogger loggerId => some (.removeLogger loggerId)
  | .setLevelFilter loggerId level => some (.setLevelFilter loggerId level)
  | .log loggerId message => some (.log loggerId message)

def step (s : LogManager) (event : Event) : Option LogManager :=
  match event with
  | .initLogger call => (s.initLogger call).map Prod.snd
  | event =>
      event.call.bind fun call =>
        (s.loggers.perform call).map fun answer => { s with loggers := answer.2 }

def loggerOf (s : LogManager) (loggerId : Int) : Option (Logger LogManagerSink LogClock) :=
  (s.loggers.entry loggerId).join.bind s.loggers.memory.objects

def linesOf (message : LogMessage LogClock) (logger : Logger LogManagerSink LogClock) :
    List (LogManagerSink × List LogCell) :=
  (logger.reached message).map fun entry =>
    (entry.sink, (lineOf logger.maxLogSize message).map .char)

/-- Whatever is logged, every sink that the message reaches gets the line, or what fits of it with
a newline at its end. -/
def LogsLines (s : LogManager) : Prop :=
  ∀ loggerId message,
    (∃ next, s.loggers.log loggerId message =
      some (.logged (((s.loggerOf loggerId).map (linesOf message)).getD []), next)) ∧
    ∀ logger ∈ s.loggerOf loggerId,
      (lineOf logger.maxLogSize message).length < logger.maxLogSize ∧
        (lineOf logger.maxLogSize message = [] ∨ [10] <:+ lineOf logger.maxLogSize message)

structure Formats (logger : Logger LogManagerSink LogClock) : Prop where
  positive : 1 ≤ logger.maxLogSize
  formatter : logger.formatter = some logFormatter
  sinks : ∀ entry ∈ logger.sinks, entry.formatter = none

structure Lined (t : LoggerTable LogManagerSink LogClock) : Prop where
  positive : 1 ≤ t.maxLogSize
  loggers : ∀ id logger, t.loggers id = some logger → Formats logger

theorem Formats.textFor {logger : Logger LogManagerSink LogClock} (formats : Formats logger)
    (message : LogMessage LogClock) {entry : LogSink LogManagerSink LogClock}
    (member : entry ∈ logger.sinks) :
    logger.textFor message entry = (lineOf logger.maxLogSize message).map .char := by
  have own : logger.formatterOf entry = some logFormatter := by
    rw [Logger.formatterOf, formats.sinks entry member]
    exact formats.formatter
  obtain ⟨count, cells, bounded⟩ := logFormatter_shows formats.positive message
  have inside : (logFormatter logger.maxLogSize message).2 ≤
      (logFormatter logger.maxLogSize message).1.length := by
    have width := congrArg List.length cells
    rw [List.length_take, List.length_map, ← count] at width
    omega
  have size : logger.newBuffer.cells.length = logger.maxLogSize := List.length_replicate
  have taken := Logger.putCells_take logger.newBuffer.cells 0
    (logFormatter logger.maxLogSize message).1 (by omega)
  rw [Nat.zero_add, List.take_zero, List.nil_append] at taken
  rw [Logger.textFor, own]
  dsimp only [Logger.formatted]
  rw [Nat.min_eq_left (by omega), ← cells, ← taken, List.take_take, Nat.min_eq_left inside, taken]

theorem Formats.calls {logger : Logger LogManagerSink LogClock} (formats : Formats logger)
    (message : LogMessage LogClock) :
    (logger.log message).calls = linesOf message logger := by
  have members : ∀ entry ∈ logger.reached message, entry ∈ logger.sinks := by
    intro entry member
    rw [Logger.reached] at member
    split at member
    · cases member
    · exact (List.mem_filter.mp member).1
  rw [Logger.log_eq, linesOf]
  split
  · rename_i nobody
    rw [nobody]
    rfl
  · rename_i first rest reached
    rw [formats.textFor message (members first (by simp [reached])), ← reached]

theorem Lined.find (lined : Lined t) {logger : Logger LogManagerSink LogClock}
    (found : t.find id = some logger) : Formats logger := by
  rw [LoggerTable.find] at found
  split at found
  · cases found
  · exact lined.loggers _ logger found

theorem Lined.put (lined : Lined t) {logger : Option (Logger LogManagerSink LogClock)}
    (formats : ∀ made ∈ logger, Formats made) : Lined (t.put id logger) := by
  refine ⟨lined.positive, ?_⟩
  intro other found there
  by_cases here : other = id.toNat
  · rw [here] at there
    have same : (t.put id logger).loggers id.toNat = logger := Function.update_self ..
    exact formats found (same.symm.trans there)
  · have same : (t.put id logger).loggers other = t.loggers other := Function.update_of_ne here ..
    exact lined.loggers other found (same.symm.trans there)

theorem Lined.initLogger (lined : Lined t) (call : InitLogger) :
    Lined (if Free t id then t.put id (some (call.logger t.maxLogSize)) else t) := by
  split
  · apply lined.put
    intro made same
    cases same
    refine ⟨lined.positive, rfl, ?_⟩
    intro entry member
    obtain ⟨sink, -, rfl⟩ := List.mem_map.mp member
    rfl
  · exact lined

theorem Lined.call (lined : Lined t) {event : Event}
    {call : LoggerMgrEvent LogManagerSink LogClock} (calls : event.call = some call) :
    Lined (t.perform call).2 := by
  cases event with
  | initLogger call => cases calls
  | setMaxLoggerCount count =>
      cases calls
      rw [LoggerTable.perform]
      split
      · exact lined
      · refine ⟨lined.positive, ?_⟩
        intro other logger found
        simp only [LoggerTable.resize] at found
        split at found
        · exact lined.loggers other logger found
        · cases found
  | setMaxLogSize size =>
      cases calls
      rw [LoggerTable.perform]
      dsimp only
      split
      · exact lined
      · exact ⟨by dsimp only; omega, lined.loggers⟩
  | removeLogger loggerId =>
      cases calls
      rw [LoggerTable.perform]
      split
      · exact lined
      · apply lined.put
        intro made absent
        cases absent
  | setLevelFilter loggerId level =>
      cases calls
      simp only [LoggerTable.perform, LoggerTable.onLogger]
      split
      · exact lined
      · rename_i logger found
        apply lined.put
        intro made same
        cases same
        have formats := lined.find found
        exact ⟨formats.positive, formats.formatter, formats.sinks⟩
  | log loggerId message =>
      cases calls
      simp only [LoggerTable.perform, LoggerTable.onLogger]
      split
      · exact lined
      · rename_i logger found
        apply lined.put
        intro made same
        cases same
        exact lined.find found

theorem Lined.logsLines (lined : Lined t) (represents : Represents s.loggers t) : LogsLines s := by
  intro loggerId message
  have same : s.loggerOf loggerId = t.find loggerId := by
    rw [loggerOf]
    rcases represents.entry loggerId with ⟨-, entry, find⟩ | ⟨-, -, -, entry, find⟩ |
      ⟨pointer, logger, -, entry, alive, find⟩
    · rw [entry, find]
      rfl
    · rw [entry, find]
      rfl
    · rw [entry, find]
      exact alive
  obtain ⟨next, called, -⟩ := represents.perform (.log loggerId message)
  simp only [LoggerTable.perform, LoggerTable.onLogger] at called
  rw [same]
  refine ⟨⟨next, called.trans ?_⟩, ?_⟩
  · cases found : t.find loggerId with
    | none => rfl
    | some logger =>
        dsimp only
        rw [(lined.find found).calls]
        rfl
  · intro logger found
    exact lineOf_ends (lined.find found).positive message

theorem step_lined (represents : Represents s.loggers t) (lined : Lined t) (event : Event) :
    ∃ next after, s.step event = some next ∧ Represents next.loggers after ∧ Lined after := by
  have through {call : LoggerMgrEvent LogManagerSink LogClock} (calls : event.call = some call)
      (same : s.step event = (s.loggers.perform call).map fun answer =>
        { s with loggers := answer.2 }) :
      ∃ next after, s.step event = some next ∧ Represents next.loggers after ∧ Lined after := by
    obtain ⟨loggers, called, still⟩ := represents.perform call
    exact ⟨{ s with loggers := loggers }, _, by rw [same, called]; rfl, still, lined.call calls⟩
  cases event with
  | initLogger call =>
      obtain ⟨loggers, called, still⟩ := initLogger_spec represents call
      exact ⟨_, _, by rw [step, called]; rfl, still, lined.initLogger call⟩
  | setMaxLoggerCount | setMaxLogSize | removeLogger | setLevelFilter | log =>
      exact through rfl rfl

/-- Loggers may be registered, removed and set in any order, and files may fail to open. -/
theorem logs_lines (events : List Event) :
    ∃ last, Runs.run step create events = some last ∧ LogsLines last := by
  have reaches {s : LogManager} {t : LoggerTable LogManagerSink LogClock}
      (represents : Represents s.loggers t) (lined : Lined t) :
      ∃ last, Runs.run step s events = some last ∧ LogsLines last := by
    induction events generalizing s t with
    | nil => exact ⟨s, rfl, lined.logsLines represents⟩
    | cons event events ih =>
        obtain ⟨next, after, stepped, still, kept⟩ := step_lined represents lined event
        obtain ⟨last, reached, lines⟩ := ih still kept
        exact ⟨last, by rw [Runs.run, stepped, Option.bind_some, reached], lines⟩
  apply reaches represents_create
  refine ⟨by decide, ?_⟩
  intro id logger found
  cases found

end LogManager

structure ServerLoggers where
  manager : LogManager
  mainLogInited : Bool
  netLogInited : Bool

inductive ServerLoggersCall
  | initMainLogger (mainLogFilename : String) (logLevel : Int) (openConsoleLog opened : Bool)
  | initNetLogger (netLogFilename : String) (logLevel : Int) (openConsoleLog opened : Bool)

namespace ServerLoggers

open LoggerMgr LogManager

/-- The program sets the count of the loggers before it makes the server. -/
def start (count : Int) : Option ServerLoggers :=
  (LogManager.create.loggers.setMaxLoggerCount count).map fun outcome =>
    { manager := { LogManager.create with loggers := outcome.2 }
      mainLogInited := false
      netLogInited := false }

/-- `GameServer::initMainLogger`; the logger is that of `LoggerType::MAIN`. -/
def initMainLogger (s : ServerLoggers) (mainLogFilename : String) (logLevel : Int)
    (openConsoleLog opened : Bool) : Option (Bool × ServerLoggers) :=
  (s.manager.initLogger ⟨mainLogFilename, openConsoleLog, logLevel, 0, opened⟩).map fun answer =>
    if answer.1 = false then (false, { s with manager := answer.2 })
    else (true, { s with manager := answer.2, mainLogInited := true })

def initNetLogger (s : ServerLoggers) (netLogFilename : String) (logLevel : Int)
    (openConsoleLog opened : Bool) : Option (Bool × ServerLoggers) :=
  (s.manager.initLogger ⟨netLogFilename, openConsoleLog, logLevel, 1, opened⟩).map fun answer =>
    if answer.1 = false then (false, { s with manager := answer.2 })
    else (true, { s with manager := answer.2, netLogInited := true })

def check (s : ServerLoggers) : Bool := s.mainLogInited && s.netLogInited

def step (s : ServerLoggers) : ServerLoggersCall → Option ServerLoggers
  | .initMainLogger mainLogFilename logLevel openConsoleLog opened =>
      (s.initMainLogger mainLogFilename logLevel openConsoleLog opened).map Prod.snd
  | .initNetLogger netLogFilename logLevel openConsoleLog opened =>
      (s.initNetLogger netLogFilename logLevel openConsoleLog opened).map Prod.snd

end ServerLoggers

def ServerLoggersCall.initLogger : ServerLoggersCall → InitLogger
  | .initMainLogger mainLogFilename logLevel openConsoleLog opened =>
      ⟨mainLogFilename, openConsoleLog, logLevel, 0, opened⟩
  | .initNetLogger netLogFilename logLevel openConsoleLog opened =>
      ⟨netLogFilename, openConsoleLog, logLevel, 1, opened⟩

namespace ServerLoggers

open LoggerMgr LogManager

variable {s next : ServerLoggers} {t : LoggerTable LogManagerSink LogClock} {id other : Int}

/-- The table behind a call that registers a logger under the id, if it can. -/
def registered (t : LoggerTable LogManagerSink LogClock) (id : Int) (call : InitLogger) :
    LoggerTable LogManagerSink LogClock :=
  if Free t id then t.put id (some (call.logger t.maxLogSize)) else t

theorem find_registered {call : InitLogger} {logger : Logger LogManagerSink LogClock}
    (found : t.find other = some logger) : (registered t id call).find other = some logger := by
  rw [registered]
  split
  · rename_i free
    have apart : other.toNat ≠ id.toNat ∨ other < 0 := by
      by_contra same
      rw [not_or, not_not, not_lt] at same
      have equal : other = id := by
        have inside := free.1
        omega
      cases found.symm.trans (equal ▸ free.2.2)
    rw [LoggerTable.find] at found ⊢
    split at found
    · cases found
    · rename_i inside
      rw [if_neg inside]
      exact (Function.update_of_ne (apart.resolve_right inside) ..).trans found
  · exact found

theorem registered_count (call : InitLogger) : (registered t id call).count = t.count := by
  rw [registered]
  split <;> rfl

theorem taken_registered {call : InitLogger} (taken : ¬Free t other) :
    ¬Free (registered t id call) other := by
  rintro ⟨inside, below, nothing⟩
  rw [registered_count] at below
  cases found : t.find other with
  | none => exact taken ⟨inside, below, found⟩
  | some logger => cases (find_registered found).symm.trans nothing

theorem registered_taken (t : LoggerTable LogManagerSink LogClock) (id : Int) (call : InitLogger) :
    ¬Free (registered t id call) id := by
  rw [registered]
  split
  · rename_i free
    rintro ⟨-, -, nothing⟩
    cases (find_put free.1 _).symm.trans nothing
  · assumption

theorem registered_other (call : InitLogger) (inside : 0 ≤ other) (apart : other ≠ id) :
    (registered t id call).find other = t.find other := by
  rw [registered]
  split
  · rename_i free
    have place : other.toNat ≠ id.toNat := by
      have positive := free.1
      omega
    rw [LoggerTable.find, LoggerTable.find, if_neg (not_lt.mpr inside), if_neg (not_lt.mpr inside)]
    exact Function.update_of_ne place ..
  · rfl

structure Called (call : ServerLoggersCall) (s : ServerLoggers)
    (t : LoggerTable LogManagerSink LogClock) (next : ServerLoggers) : Prop where
  represents : Represents next.manager.loggers
    (registered t (idOf s.manager.loggerId call.initLogger) call.initLogger)
  loggerId : next.manager.loggerId =
    if decide (Free t (idOf s.manager.loggerId call.initLogger) ∧ call.initLogger.Opens) ∧
        call.initLogger.loggerId = 0 then
      idOf s.manager.loggerId call.initLogger + 1
    else idOf s.manager.loggerId call.initLogger
  main : next.mainLogInited = (s.mainLogInited ||
    decide (Free t (idOf s.manager.loggerId call.initLogger) ∧ call.initLogger.Opens) &&
      decide (call.initLogger.loggerId = 0))
  net : next.netLogInited = (s.netLogInited ||
    decide (Free t (idOf s.manager.loggerId call.initLogger) ∧ call.initLogger.Opens) &&
      decide (call.initLogger.loggerId = 1))

theorem step_spec (represents : Represents s.manager.loggers t) (call : ServerLoggersCall) :
    ∃ next, s.step call = some next ∧ Called call s t next := by
  let id := idOf s.manager.loggerId call.initLogger
  let done := decide (Free t id ∧ call.initLogger.Opens)
  obtain ⟨loggers, called, still⟩ := initLogger_spec represents call.initLogger
  have counted : (if Free t id ∧ call.initLogger.Opens ∧ call.initLogger.loggerId = 0 then id + 1
      else id) = if done ∧ call.initLogger.loggerId = 0 then id + 1 else id := by
    simp only [done, decide_eq_true_eq, and_assoc]
  rw [counted] at called
  have answers : s.manager.initLogger call.initLogger = some (done,
      ⟨if done ∧ call.initLogger.loggerId = 0 then id + 1 else id, loggers⟩) := called
  cases call with
  | initMainLogger mainLogFilename logLevel openConsoleLog opened =>
      refine ⟨{ s with
        manager := ⟨if done ∧ (0 : Int) = 0 then id + 1 else id, loggers⟩
        mainLogInited := s.mainLogInited || done }, ?_, ⟨still, rfl, ?_, ?_⟩⟩
      · simp only [ServerLoggersCall.initLogger] at answers
        simp only [step, initMainLogger, answers, Option.map_some]
        cases done <;> simp
      · exact congrArg (s.mainLogInited || ·) (Bool.and_true done).symm
      · simp [ServerLoggersCall.initLogger]
  | initNetLogger netLogFilename logLevel openConsoleLog opened =>
      refine ⟨{ s with
        manager := ⟨if done ∧ (1 : Int) = 0 then id + 1 else id, loggers⟩
        netLogInited := s.netLogInited || done }, ?_, ⟨still, rfl, ?_, ?_⟩⟩
      · simp only [ServerLoggersCall.initLogger] at answers
        simp only [step, initNetLogger, answers, Option.map_some]
        cases done <;> simp
      · simp [ServerLoggersCall.initLogger]
      · exact congrArg (s.netLogInited || ·) (Bool.and_true done).symm

/-- The main logger is not initialised, and the id that its next call uses is taken. -/
structure MainLost (s : ServerLoggers) (t : LoggerTable LogManagerSink LogClock) : Prop where
  inited : s.mainLogInited = false
  loggerId : s.manager.loggerId = 0 ∨ s.manager.loggerId = 1
  taken : ¬Free t s.manager.loggerId

structure NetLost (s : ServerLoggers) (t : LoggerTable LogManagerSink LogClock) : Prop where
  inited : s.netLogInited = false
  taken : ¬Free t 1

structure Ready (main net : InitLogger) (maxLogSize : Nat) (s : ServerLoggers)
    (t : LoggerTable LogManagerSink LogClock) : Prop where
  inited : s.check = true
  main : t.find 0 = some (main.logger maxLogSize)
  net : t.find 1 = some (net.logger maxLogSize)

theorem idOf_cases (call : ServerLoggersCall) (loggerId : Int) :
    call.initLogger.loggerId = 0 ∧ idOf loggerId call.initLogger = loggerId ∨
      call.initLogger.loggerId = 1 ∧ idOf loggerId call.initLogger = 1 := by
  cases call with
  | initMainLogger => exact .inl ⟨rfl, rfl⟩
  | initNetLogger => exact .inr ⟨rfl, rfl⟩

variable {call : ServerLoggersCall}

theorem MainLost.called (lost : MainLost s t) (called : Called call s t next) :
    MainLost next (registered t (idOf s.manager.loggerId call.initLogger) call.initLogger) := by
  obtain ⟨inited, loggerId, taken⟩ := lost
  have ids := called.loggerId
  have flag := called.main
  rcases idOf_cases call s.manager.loggerId with ⟨main, same⟩ | ⟨net, same⟩
  · rw [same] at ids flag ⊢
    simp only [taken, false_and, decide_false, Bool.false_eq_true, if_false] at ids
    simp only [taken, false_and, decide_false, Bool.false_and, Bool.or_false] at flag
    refine ⟨flag.trans inited, ids ▸ loggerId, ?_⟩
    rw [ids]
    exact taken_registered taken
  · rw [same] at ids ⊢
    simp only [net, one_ne_zero, and_false, if_false] at ids
    simp only [net, one_ne_zero, decide_false, Bool.and_false, Bool.or_false] at flag
    refine ⟨flag.trans inited, .inr ids, ?_⟩
    rw [ids]
    exact registered_taken t 1 call.initLogger

theorem NetLost.called (lost : NetLost s t) (called : Called call s t next) :
    NetLost next (registered t (idOf s.manager.loggerId call.initLogger) call.initLogger) := by
  obtain ⟨inited, taken⟩ := lost
  have flag := called.net
  refine ⟨?_, taken_registered taken⟩
  rcases idOf_cases call s.manager.loggerId with ⟨main, same⟩ | ⟨net, same⟩
  · rw [main] at flag
    simp only [zero_ne_one, decide_false, Bool.and_false, Bool.or_false] at flag
    exact flag.trans inited
  · rw [same] at flag
    simp only [taken, false_and, decide_false, Bool.false_and, Bool.or_false] at flag
    exact flag.trans inited

theorem Ready.called {main net : InitLogger} {maxLogSize : Nat}
    (ready : Ready main net maxLogSize s t) (called : Called call s t next) :
    Ready main net maxLogSize next
      (registered t (idOf s.manager.loggerId call.initLogger) call.initLogger) := by
  obtain ⟨inited, first, second⟩ := ready
  refine ⟨?_, find_registered first, find_registered second⟩
  rw [check, Bool.and_eq_true] at inited
  rw [check, called.main, called.net, inited.1, inited.2]
  rfl

theorem run_lasting {property : ServerLoggers → LoggerTable LogManagerSink LogClock → Prop}
    (preserved : ∀ {s next t call}, property s t → Called call s t next →
      property next (registered t (idOf s.manager.loggerId call.initLogger) call.initLogger))
    (represents : Represents s.manager.loggers t) (holds : property s t)
    (calls : List ServerLoggersCall) :
    ∃ last after, Runs.run step s calls = some last ∧ Represents last.manager.loggers after ∧
      property last after := by
  induction calls generalizing s t with
  | nil => exact ⟨s, t, rfl, represents, holds⟩
  | cons call calls ih =>
      obtain ⟨next, stepped, called⟩ := step_spec represents call
      obtain ⟨last, after, reached, still, kept⟩ := ih called.represents (preserved holds called)
      exact ⟨last, after, by rw [Runs.run, stepped, Option.bind_some, reached], still, kept⟩

def LogsTo (s : ServerLoggers) (loggerId : Int) (call : InitLogger) : Prop :=
  ∀ message : LogMessage LogClock, 0 ≤ message.level → ∃ calls next,
    s.manager.loggers.log loggerId message = some (.logged calls, next) ∧
      calls.map Prod.fst = if message.level < call.levelFilter then [] else call.sinks

theorem logsTo_of_find (represents : Represents s.manager.loggers t) {call : InitLogger}
    {maxLogSize : Nat} (found : t.find id = some (call.logger maxLogSize)) : LogsTo s id call := by
  intro message level
  obtain ⟨next, called, -⟩ := represents.perform (.log id message)
  simp only [LoggerTable.perform, LoggerTable.onLogger, found] at called
  refine ⟨_, next, called, ?_⟩
  have all : ∀ entry ∈ (call.logger maxLogSize).sinks, decide (entry.level ≤ message.level) := by
    intro entry member
    obtain ⟨sink, -, rfl⟩ := List.mem_map.mp member
    rw [decide_eq_true_eq]
    dsimp only
    omega
  have reached : (call.logger maxLogSize).reached message =
      if message.level < call.levelFilter then [] else (call.logger maxLogSize).sinks := by
    rw [Logger.reached, List.filter_eq_self.mpr all]
    rfl
  have names : ((call.logger maxLogSize).sinks.map fun entry => entry.sink) = call.sinks := by
    rw [InitLogger.logger, List.map_map]
    exact List.map_id _
  have called : ((call.logger maxLogSize).log message).calls.map Prod.fst =
      ((call.logger maxLogSize).reached message).map fun entry => entry.sink := by
    rw [Logger.log_eq]
    split
    · rename_i nobody
      rw [nobody]
      rfl
    · rename_i first rest someone
      rw [someone, List.map_map]
      rfl
  rw [called, reached]
  split
  · rfl
  · exact names

/-- The two calls that initialise the loggers, and the only ones that do. -/
def MainThenNet (count : Int) : List ServerLoggersCall → Prop
  | main :: net :: _ =>
      2 ≤ count ∧ main.initLogger.loggerId = 0 ∧ main.initLogger.Opens ∧
        net.initLogger.loggerId = 1 ∧ net.initLogger.Opens
  | _ => False

theorem start_spec (count : Int) :
    ∃ first t, start count = some first ∧ Represents first.manager.loggers t ∧
      (2 ≤ count ↔ 1 < t.count) ∧ (∀ id, t.find id = none) ∧ first.manager.loggerId = 0 ∧
      first.mainLogInited = false ∧ first.netLogInited = false := by
  have begins : Represents LogManager.create.loggers LoggerTable.create := represents_create
  obtain ⟨sinks, loggers, t, called, performed, represents⟩ := begins.setMaxLoggerCount count
  refine ⟨_, t, by rw [start, called]; rfl, represents, ?_, ?_, rfl, rfl, rfl⟩
  · rw [LoggerTable.perform] at performed
    split at performed <;> cases performed
    · have one : (LoggerTable.create : LoggerTable LogManagerSink LogClock).count = 1 := rfl
      omega
    · dsimp only [LoggerTable.resize]
      omega
  · intro id
    rw [LoggerTable.perform] at performed
    split at performed <;> cases performed
    · exact ite_self none
    · simp only [LoggerTable.find, LoggerTable.resize, LoggerTable.create, ite_self]

theorem Called.mainLost (called : Called call s t next) (inited : s.mainLogInited = false)
    (loggerId : s.manager.loggerId = 0)
    (fails : ¬(call.initLogger.loggerId = 0 ∧ Free t 0 ∧ call.initLogger.Opens)) :
    MainLost next (registered t (idOf s.manager.loggerId call.initLogger) call.initLogger) := by
  have ids := called.loggerId
  have flag := called.main
  rw [loggerId] at ids flag ⊢
  rcases idOf_cases call 0 with ⟨main, same⟩ | ⟨net, same⟩
  · have undone : ¬(Free t 0 ∧ call.initLogger.Opens) := fun done => fails ⟨main, done⟩
    rw [same] at ids flag ⊢
    simp only [undone, decide_false, Bool.false_eq_true, false_and, if_false] at ids
    simp only [undone, decide_false, Bool.false_and, Bool.or_false] at flag
    exact ⟨flag.trans inited, .inl ids, ids ▸ registered_taken t 0 call.initLogger⟩
  · rw [same] at ids ⊢
    simp only [net, one_ne_zero, and_false, if_false] at ids
    simp only [net, one_ne_zero, decide_false, Bool.and_false, Bool.or_false] at flag
    exact ⟨flag.trans inited, .inr ids, ids ▸ registered_taken t 1 call.initLogger⟩

structure MainInited (main : InitLogger) (s : ServerLoggers)
    (t : LoggerTable LogManagerSink LogClock) : Prop where
  loggerId : s.manager.loggerId = 1
  inited : s.mainLogInited = true
  missing : s.netLogInited = false
  main : t.find 0 = some (main.logger t.maxLogSize)
  net : t.find 1 = none

theorem Called.mainInited (called : Called call s t next) (loggerId : s.manager.loggerId = 0)
    (missing : s.netLogInited = false) (empty : t.find 1 = none)
    (main : call.initLogger.loggerId = 0) (free : Free t 0) (opens : call.initLogger.Opens) :
    MainInited call.initLogger next
      (registered t (idOf s.manager.loggerId call.initLogger) call.initLogger) := by
  have ids := called.loggerId
  have flag := called.main
  have other := called.net
  have same : idOf 0 call.initLogger = 0 := by
    rw [idOf, if_neg (not_not.mpr main)]
  rw [loggerId, same] at ids flag other ⊢
  simp only [free, opens, main, and_self, decide_true, if_true, zero_add] at ids
  simp only [free, opens, main, and_self, decide_true, Bool.and_self, Bool.or_true] at flag
  simp only [main, zero_ne_one, decide_false, Bool.and_false, Bool.or_false] at other
  refine ⟨ids, flag, other.trans missing, ?_, ?_⟩
  · rw [registered, if_pos free]
    exact find_put le_rfl _
  · rw [registered_other call.initLogger one_pos.le one_ne_zero, empty]

theorem MainInited.netLost {main : InitLogger} (begun : MainInited main s t)
    (called : Called call s t next)
    (fails : ¬(call.initLogger.loggerId = 1 ∧ Free t 1 ∧ call.initLogger.Opens)) :
    NetLost next (registered t (idOf s.manager.loggerId call.initLogger) call.initLogger) := by
  have flag := called.net
  rw [begun.loggerId] at flag ⊢
  have same : idOf 1 call.initLogger = 1 := by
    rcases idOf_cases call 1 with ⟨-, same⟩ | ⟨-, same⟩ <;> exact same
  rw [same] at flag ⊢
  refine ⟨?_, registered_taken t 1 call.initLogger⟩
  rw [flag, begun.missing, Bool.false_or, ← Bool.decide_and, decide_eq_false_iff_not]
  exact fun done => fails ⟨done.2, done.1⟩

theorem MainInited.ready {main : InitLogger} (begun : MainInited main s t)
    (called : Called call s t next) (net : call.initLogger.loggerId = 1) (free : Free t 1)
    (opens : call.initLogger.Opens) :
    Ready main call.initLogger t.maxLogSize next
      (registered t (idOf s.manager.loggerId call.initLogger) call.initLogger) := by
  obtain ⟨loggerId, inited, -, first, -⟩ := begun
  have same : idOf 1 call.initLogger = 1 := by
    rw [idOf, net, if_pos one_ne_zero]
  have flag := called.net
  rw [loggerId, same] at flag ⊢
  refine ⟨?_, find_registered first, ?_⟩
  · have done : next.netLogInited = true := by
      rw [flag, decide_eq_true ⟨free, opens⟩, decide_eq_true net, Bool.and_self, Bool.or_true]
    rw [check, called.main, inited, done, Bool.true_or, Bool.and_self]
  · rw [registered, if_pos free]
    exact find_put one_pos.le _

theorem MainLost.not_check (lost : MainLost s t) (represents : Represents s.manager.loggers t)
    (calls : List ServerLoggersCall) :
    ∃ last, Runs.run step s calls = some last ∧ last.check = false := by
  obtain ⟨last, after, reached, -, still⟩ :=
    run_lasting (fun lost called => MainLost.called lost called) represents lost calls
  exact ⟨last, reached, by rw [check, still.inited, Bool.false_and]⟩

theorem NetLost.not_check (lost : NetLost s t) (represents : Represents s.manager.loggers t)
    (calls : List ServerLoggersCall) :
    ∃ last, Runs.run step s calls = some last ∧ last.check = false := by
  obtain ⟨last, after, reached, -, still⟩ :=
    run_lasting (fun lost called => NetLost.called lost called) represents lost calls
  exact ⟨last, reached, by rw [check, still.inited, Bool.and_false]⟩

theorem MainInited.checks {main : InitLogger} (begun : MainInited main s t)
    (represents : Represents s.manager.loggers t) (calls : List ServerLoggersCall) :
    ∃ last, Runs.run step s calls = some last ∧
      (last.check = true ↔ ∃ net rest, calls = net :: rest ∧ net.initLogger.loggerId = 1 ∧
        1 < t.count ∧ net.initLogger.Opens) ∧
      ∀ net rest, calls = net :: rest → last.check = true →
        LogsTo last 0 main ∧ LogsTo last 1 net.initLogger := by
  cases calls with
  | nil =>
      have fails : s.check = false := by rw [check, begun.missing, Bool.and_false]
      refine ⟨s, rfl, ?_, ?_⟩
      · simp [fails]
      · intro net rest nothing
        cases nothing
  | cons net rest =>
      obtain ⟨next, stepped, called⟩ := step_spec represents net
      have onwards : Runs.run step s (net :: rest) = Runs.run step next rest := by
        rw [Runs.run, stepped, Option.bind_some]
      have free : Free t 1 ↔ 1 < t.count := by
        refine ⟨fun free => by exact_mod_cast free.2.1, fun more => ⟨one_pos.le, ?_, begun.net⟩⟩
        exact_mod_cast more
      rw [onwards]
      simp only [List.cons.injEq, and_imp]
      by_cases right : net.initLogger.loggerId = 1 ∧ Free t 1 ∧ net.initLogger.Opens
      · have ready := begun.ready called right.1 right.2.1 right.2.2
        obtain ⟨last, after, reached, still, kept⟩ :=
          run_lasting (fun ready called => Ready.called ready called) called.represents ready rest
        refine ⟨last, reached, ?_, ?_⟩
        · rw [free] at right
          exact ⟨fun _ => ⟨net, rest, ⟨rfl, rfl⟩, right⟩, fun _ => kept.inited⟩
        · rintro _ _ rfl rfl -
          exact ⟨logsTo_of_find still kept.main, logsTo_of_find still kept.net⟩
      · obtain ⟨last, reached, fails⟩ :=
          (begun.netLost called right).not_check called.represents rest
        refine ⟨last, reached, ?_, ?_⟩
        · rw [free] at right
          rw [fails]
          refine ⟨fun checked => (Bool.false_ne_true checked).elim, ?_⟩
          rintro ⟨_, _, ⟨rfl, rfl⟩, was⟩
          exact absurd was right
        · intro _ _ _ _ checked
          exact (Bool.false_ne_true (fails.symm.trans checked)).elim

/-- A call that fails takes its id away from the later ones, and so does a call out of its turn:
`check` succeeds if the first two calls were right, and then the loggers are those of these calls
whatever was called later. -/
theorem check_iff_main_then_net (count : Int) (calls : List ServerLoggersCall) :
    ∃ first last, start count = some first ∧ Runs.run step first calls = some last ∧
      (last.check = true ↔ MainThenNet count calls) ∧
      ∀ main net rest, calls = main :: net :: rest → last.check = true →
        LogsTo last 0 main.initLogger ∧ LogsTo last 1 net.initLogger := by
  obtain ⟨first, t, starts, represents, counted, nothing, loggerId, mainInited, netInited⟩ :=
    start_spec count
  refine ⟨first, ?_⟩
  cases calls with
  | nil =>
      refine ⟨first, starts, rfl, ?_, ?_⟩
      · simp [check, mainInited, MainThenNet]
      · intro main net rest nothing
        cases nothing
  | cons main calls =>
      obtain ⟨second, stepped, called⟩ := step_spec represents main
      have onwards : Runs.run step first (main :: calls) = Runs.run step second calls := by
        rw [Runs.run, stepped, Option.bind_some]
      rw [onwards]
      by_cases right : main.initLogger.loggerId = 0 ∧ Free t 0 ∧ main.initLogger.Opens
      · obtain ⟨isMain, free, opens⟩ := right
        obtain ⟨last, reached, checks, logs⟩ :=
          (called.mainInited loggerId netInited (nothing 1) isMain free opens).checks
            called.represents calls
        rw [registered_count, ← counted] at checks
        refine ⟨last, starts, reached, checks.trans ?_, ?_⟩
        · cases calls with
          | nil => simp [MainThenNet]
          | cons net rest =>
              constructor
              · rintro ⟨_, _, same, isNet, enough, netOpens⟩
                cases same
                exact ⟨enough, isMain, opens, isNet, netOpens⟩
              · rintro ⟨enough, -, -, isNet, netOpens⟩
                exact ⟨net, rest, rfl, isNet, enough, netOpens⟩
        · rintro _ net rest same
          cases same
          exact logs net rest rfl
      · obtain ⟨last, reached, fails⟩ :=
          (called.mainLost mainInited loggerId right).not_check called.represents calls
        refine ⟨last, starts, reached, ?_, ?_⟩
        · rw [fails]
          refine ⟨fun checked => (Bool.false_ne_true checked).elim, fun was => absurd ?_ right⟩
          cases calls with
          | nil => exact was.elim
          | cons net rest =>
              obtain ⟨enough, isMain, opens, -, -⟩ := was
              have more := counted.mp enough
              exact ⟨isMain, ⟨le_rfl, by omega, nothing 0⟩, opens⟩
        · intro _ _ _ _ checked
          exact (Bool.false_ne_true (fails.symm.trans checked)).elim

end ServerLoggers

end ZBlueNet
