import ZBlueNet.DynamicBufferCore

/-!
`logger.cc`: a message is formatted into a buffer for the first sink that takes it, and every other
sink gets the same buffer.
-/

namespace ZBlueNet

/-- A byte of a logger's `char` array: not written yet, a character, or the NUL that ends a print. -/
inductive LogCell
  | unwritten
  | char (c : UInt8)
  | terminator
deriving DecidableEq, Repr

/-- `text` is what the format and its arguments amount to, in full. -/
structure LogMessage (Args : Type) where
  level : Int
  filename : String
  line : Int
  function : String
  args : Args
  text : List UInt8

/-- What a formatter leaves at the beginning of a buffer of the given size, and the count that it
returns. -/
abbrev LogFormatter (Args : Type) := Nat → LogMessage Args → List LogCell × Nat

structure LogSink (Sink Args : Type) where
  sink : Sink
  formatter : Option (LogFormatter Args)
  level : Int

structure Logger (Sink Args : Type) where
  formatter : Option (LogFormatter Args)
  level : Int
  maxLogSize : Nat
  sinks : List (LogSink Sink Args)

structure LogRun (Sink : Type) where
  calls : List (Sink × List LogCell)
  prints : List (Nat × Nat)
deriving DecidableEq, Repr

structure LogBuffer where
  cells : List LogCell
  count : Nat
  prints : List (Nat × Nat)

namespace Logger

variable {Sink Args : Type}

def create (formatter : Option (LogFormatter Args)) (level : Int) (maxLogSize : Nat) :
    Logger Sink Args :=
  { formatter := formatter, level := level, maxLogSize := maxLogSize, sinks := [] }

def addSink (logger : Logger Sink Args) (sink : Sink) (formatter : Option (LogFormatter Args))
    (level : Int) : Bool × Logger Sink Args :=
  (true, { logger with sinks := logger.sinks ++ [⟨sink, formatter, level⟩] })

def putCells (cells : List LogCell) (offset : Nat) (stored : List LogCell) : List LogCell :=
  (cells.take offset ++ stored ++ cells.drop (offset + stored.length)).take cells.length

/-- `vsnprintf`: at most `size - 1` characters and a NUL; the count is of the whole text. -/
def vsnprintf (buffer : LogBuffer) (offset size : Nat) (text : List UInt8) : LogBuffer :=
  { cells :=
      if size = 0 then buffer.cells
      else putCells buffer.cells offset ((text.take (size - 1)).map .char ++ [.terminator])
    count := text.length
    prints := buffer.prints ++ [(offset, size)] }

def newBuffer (logger : Logger Sink Args) : LogBuffer :=
  { cells := List.replicate logger.maxLogSize .unwritten, count := 0, prints := [] }

def formatterOf (logger : Logger Sink Args) (entry : LogSink Sink Args) :
    Option (LogFormatter Args) :=
  match entry.formatter with
  | some formatter => some formatter
  | none => logger.formatter

def formatted (logger : Logger Sink Args) (message : LogMessage Args) :
    Option (LogFormatter Args) → LogBuffer
  | none =>
      let buffer := vsnprintf logger.newBuffer 0 logger.maxLogSize message.text
      { buffer with count := min buffer.count logger.maxLogSize }
  | some formatter =>
      let written := formatter logger.maxLogSize message
      { cells := putCells logger.newBuffer.cells 0 written.1
        count := min written.2 logger.maxLogSize
        prints := [] }

/-- How `plainLog` fills it. The sizes are computed in `size_t`. -/
def plainFormatted (logger : Logger Sink Args) (message : LogMessage Args) : LogBuffer :=
  let buffer := vsnprintf logger.newBuffer 0 logger.maxLogSize message.text
  let ended := vsnprintf buffer buffer.count (sizeSub logger.maxLogSize buffer.count) [10]
  { ended with count := min (sizeAdd buffer.count ended.count) logger.maxLogSize }

def deliver (level : Int) (format : LogSink Sink Args → LogBuffer) :
    List (LogSink Sink Args) → Option LogBuffer → LogRun Sink
  | [], ready => { calls := [], prints := (ready.map LogBuffer.prints).getD [] }
  | entry :: rest, ready =>
      if level < entry.level then deliver level format rest ready
      else
        let buffer := ready.getD (format entry)
        let others := deliver level format rest (some buffer)
        { others with calls := (entry.sink, buffer.cells.take buffer.count) :: others.calls }

def log (logger : Logger Sink Args) (message : LogMessage Args) : LogRun Sink :=
  if message.level < logger.level then { calls := [], prints := [] }
  else
    deliver message.level (fun entry => logger.formatted message (logger.formatterOf entry))
      logger.sinks none

def plainLog (logger : Logger Sink Args) (message : LogMessage Args) : LogRun Sink :=
  if message.level < logger.level then { calls := [], prints := [] }
  else deliver message.level (fun _ => logger.plainFormatted message) logger.sinks none

def reached (logger : Logger Sink Args) (message : LogMessage Args) : List (LogSink Sink Args) :=
  if message.level < logger.level then []
  else logger.sinks.filter fun entry => entry.level ≤ message.level

/-- The text that a sink should get: what its own formatter, else the logger's, else none makes of
the message. -/
def textFor (logger : Logger Sink Args) (message : LogMessage Args) (entry : LogSink Sink Args) :
    List LogCell :=
  let buffer := logger.formatted message (logger.formatterOf entry)
  buffer.cells.take buffer.count

section Loop

variable {level : Int} {format : LogSink Sink Args → LogBuffer}

theorem deliver_ready (sinks : List (LogSink Sink Args)) (buffer : LogBuffer) :
    deliver level format sinks (some buffer) =
      { calls := (sinks.filter fun entry => entry.level ≤ level).map fun entry =>
          (entry.sink, buffer.cells.take buffer.count)
        prints := buffer.prints } := by
  induction sinks with
  | nil => rfl
  | cons entry rest ih =>
      rw [deliver, List.filter_cons]
      by_cases below : level < entry.level
      · rw [if_pos below, ih, if_neg (by simpa using below)]
      · rw [if_neg below, if_pos (by simpa using below), List.map_cons, Option.getD_some]
        dsimp only
        rw [ih]

theorem deliver_none (sinks : List (LogSink Sink Args)) :
    deliver level format sinks none =
      match sinks.filter fun entry => entry.level ≤ level with
      | [] => { calls := [], prints := [] }
      | first :: rest =>
          { calls := (first :: rest).map fun entry =>
              (entry.sink, (format first).cells.take (format first).count)
            prints := (format first).prints } := by
  induction sinks with
  | nil => rfl
  | cons entry rest ih =>
      rw [deliver, List.filter_cons]
      by_cases below : level < entry.level
      · rw [if_pos below, ih, if_neg (by simpa using below)]
      · rw [if_neg below, if_pos (by simpa using below), Option.getD_none]
        dsimp only
        rw [deliver_ready, List.map_cons]

end Loop

variable {logger : Logger Sink Args} {message : LogMessage Args}

theorem log_eq (logger : Logger Sink Args) (message : LogMessage Args) :
    logger.log message =
      match logger.reached message with
      | [] => { calls := [], prints := [] }
      | first :: rest =>
          { calls := (first :: rest).map fun entry => (entry.sink, logger.textFor message first)
            prints := (logger.formatted message (logger.formatterOf first)).prints } := by
  rw [log, reached]
  split
  · rfl
  · exact deliver_none logger.sinks

theorem plainLog_eq (logger : Logger Sink Args) (message : LogMessage Args) :
    logger.plainLog message =
      match logger.reached message with
      | [] => { calls := [], prints := [] }
      | first :: rest =>
          { calls := (first :: rest).map fun entry =>
              (entry.sink, (logger.plainFormatted message).cells.take
                (logger.plainFormatted message).count)
            prints := (logger.plainFormatted message).prints } := by
  rw [plainLog, reached]
  split
  · rfl
  · exact deliver_none logger.sinks

/-! Each sink its own format. -/

/-- The sinks called are those that take the message, in order, each with its own text. -/
def EachItsOwn (logger : Logger Sink Args) (message : LogMessage Args) : Prop :=
  (logger.log message).calls =
    (logger.reached message).map fun entry => (entry.sink, logger.textFor message entry)

/-- The right sinks are called in order, and each gets its own text exactly when these texts are all
that of the first sink that takes the message. -/
theorem eachItsOwn_iff (logger : Logger Sink Args) (message : LogMessage Args) :
    (logger.log message).calls.map Prod.fst = (logger.reached message).map LogSink.sink ∧
      (EachItsOwn logger message ↔
        ∀ first ∈ (logger.reached message).head?, ∀ entry ∈ logger.reached message,
          logger.textFor message entry = logger.textFor message first) := by
  rw [EachItsOwn, log_eq]
  cases reached : logger.reached message with
  | nil => simp
  | cons first rest =>
      refine ⟨by simp, ?_⟩
      simp only [List.head?_cons, Option.mem_some_iff, forall_eq', List.map_inj_left, Prod.mk.injEq,
        true_and]
      constructor
      · intro same entry listed
        exact (same entry listed).symm
      · intro same entry listed
        exact (same entry listed).symm

theorem addSinks_eq (logger : Logger Sink Args) :
    logger.sinks.foldl (fun built entry => (built.addSink entry.sink entry.formatter entry.level).2)
      (create logger.formatter logger.level logger.maxLogSize) = logger := by
  have added (built : Logger Sink Args) (sinks : List (LogSink Sink Args)) :
      sinks.foldl (fun built entry => (built.addSink entry.sink entry.formatter entry.level).2)
        built = { built with sinks := built.sinks ++ sinks } := by
    induction sinks generalizing built with
    | nil => rw [List.foldl_nil, List.append_nil]
    | cons entry rest ih =>
        rw [List.foldl_cons, ih]
        simp [addSink]
  exact added _ _

def oneChar (c : UInt8) : LogFormatter Unit := fun _ _ => ([.char c], 1)

def twoFormats : Logger Bool Unit :=
  { formatter := none
    level := 0
    maxLogSize := 8
    sinks := [⟨true, some (oneChar 65), 0⟩, ⟨false, some (oneChar 66), 0⟩] }

def hello : LogMessage Unit :=
  { level := 1, filename := "main.cc", line := 7, function := "main", args := (), text := [104, 105] }

theorem twoFormats_share : ¬ EachItsOwn twoFormats hello := by
  intro own
  have second := congrArg (fun calls => calls.map Prod.snd) own
  exact absurd second (by decide)

/-! Long lines. -/

/-- In `plainLog` every print stays in the buffer, and the sinks get the text, perhaps cut, and the
newline behind it. -/
def PlainInside (logger : Logger Sink Args) (message : LogMessage Args) : Prop :=
  (∀ print ∈ (logger.plainLog message).prints,
      print.1 ≤ logger.maxLogSize ∧ print.2 ≤ logger.maxLogSize - print.1) ∧
    ∀ call ∈ (logger.plainLog message).calls,
      call.2 <+: (message.text ++ [10]).map LogCell.char

def LogInside (logger : Logger Sink Args) (message : LogMessage Args) : Prop :=
  ∀ call ∈ (logger.log message).calls, call.2 <+: message.text.map LogCell.char

def Unformatted (logger : Logger Sink Args) (message : LogMessage Args) : Prop :=
  ∀ first ∈ (logger.reached message).head?, logger.formatterOf first = none

theorem putCells_length (cells : List LogCell) (offset : Nat) (stored : List LogCell)
    (bound : offset ≤ cells.length) : (putCells cells offset stored).length = cells.length := by
  simp only [putCells, List.length_take, List.length_append, List.length_drop]
  omega

theorem putCells_take (cells : List LogCell) (offset : Nat) (stored : List LogCell)
    (bound : offset + stored.length ≤ cells.length) :
    (putCells cells offset stored).take (offset + stored.length) =
      cells.take offset ++ stored := by
  have taken : (cells.take offset ++ stored).length = offset + stored.length := by
    simp only [List.length_append, List.length_take]
    omega
  rw [putCells, List.take_take, Nat.min_eq_left bound, List.take_append_of_le_length (by omega),
    List.take_of_length_le (by omega)]

theorem first_print (positive : 1 ≤ logger.maxLogSize) (text : List UInt8) :
    let cells := (vsnprintf logger.newBuffer 0 logger.maxLogSize text).cells
    let shown := text.take (logger.maxLogSize - 1)
    cells.length = logger.maxLogSize ∧
      cells.take (shown.length + 1) = shown.map LogCell.char ++ [LogCell.terminator] := by
  intro cells shown
  have size : logger.newBuffer.cells.length = logger.maxLogSize := List.length_replicate
  have stored : (shown.map LogCell.char ++ [LogCell.terminator]).length = shown.length + 1 := by
    simp
  have bound : shown.length ≤ logger.maxLogSize - 1 := List.length_take_le _ _
  have same : cells = putCells logger.newBuffer.cells 0
      (shown.map LogCell.char ++ [LogCell.terminator]) := if_neg (by omega)
  constructor
  · rw [same, putCells_length _ _ _ (Nat.zero_le _), size]
  · have taken := putCells_take logger.newBuffer.cells 0
      (shown.map LogCell.char ++ [LogCell.terminator]) (by omega)
    rw [stored, Nat.zero_add] at taken
    rw [same, taken, List.take_zero, List.nil_append]

theorem first_print_fits (logger : Logger Sink Args) (text : List UInt8)
    (fits : text.length < logger.maxLogSize) :
    (vsnprintf logger.newBuffer 0 logger.maxLogSize text).cells.take text.length =
      text.map LogCell.char := by
  have positive : 1 ≤ logger.maxLogSize := by omega
  have whole : text.length ≤ logger.maxLogSize - 1 := by omega
  obtain ⟨-, taken⟩ := first_print positive text
  rw [List.take_of_length_le whole] at taken
  have again := congrArg (List.take text.length) taken
  rwa [List.take_take, Nat.min_eq_left (Nat.le_succ _),
    List.take_left' (by rw [List.length_map])] at again

theorem first_print_cut (positive : 1 ≤ logger.maxLogSize) (text : List UInt8)
    (cut : logger.maxLogSize ≤ text.length) :
    LogCell.terminator ∈ (vsnprintf logger.newBuffer 0 logger.maxLogSize text).cells.take
      logger.maxLogSize := by
  obtain ⟨-, taken⟩ := first_print positive text
  have whole : (text.take (logger.maxLogSize - 1)).length + 1 = logger.maxLogSize := by
    rw [List.length_take]
    omega
  rw [whole] at taken
  rw [taken]
  exact List.mem_append_right _ (List.mem_singleton_self _)

theorem not_prefix_of_terminator {cells : List LogCell} {text : List UInt8}
    (ends : LogCell.terminator ∈ cells) : ¬ cells <+: text.map LogCell.char := by
  intro shown
  obtain ⟨c, -, same⟩ := List.mem_map.mp (shown.subset ends)
  cases same

theorem textFor_unformatted {entry : LogSink Sink Args}
    (unformatted : logger.formatterOf entry = none) :
    logger.textFor message entry =
      (vsnprintf logger.newBuffer 0 logger.maxLogSize message.text).cells.take
        (min message.text.length logger.maxLogSize) := by
  rw [textFor, unformatted]
  rfl

theorem logInside_iff (positive : 1 ≤ logger.maxLogSize)
    (unformatted : logger.Unformatted message) :
    LogInside logger message ↔
      logger.reached message = [] ∨ message.text.length < logger.maxLogSize := by
  rw [LogInside, log_eq]
  rw [Unformatted] at unformatted
  cases reached : logger.reached message with
  | nil => simp
  | cons first rest =>
      rw [reached] at unformatted
      have text : logger.textFor message first =
          (vsnprintf logger.newBuffer 0 logger.maxLogSize message.text).cells.take
            (min message.text.length logger.maxLogSize) :=
        textFor_unformatted (unformatted first rfl)
      simp only [List.forall_mem_map, text, reduceCtorEq, false_or]
      by_cases fits : message.text.length < logger.maxLogSize
      · rw [Nat.min_eq_left fits.le, first_print_fits _ _ fits]
        exact iff_of_true (fun _ _ => List.prefix_refl _) fits
      · rw [Nat.min_eq_right (by omega)]
        refine iff_of_false ?_ fits
        intro shown
        exact not_prefix_of_terminator (first_print_cut positive _ (by omega))
          (shown first List.mem_cons_self)

theorem plainFormatted_fits (fits : message.text.length + 2 ≤ logger.maxLogSize)
    (measured : logger.maxLogSize < sizeModulus) :
    (logger.plainFormatted message).cells.take (logger.plainFormatted message).count =
        (message.text ++ [10]).map LogCell.char ∧
      (logger.plainFormatted message).prints =
        [(0, logger.maxLogSize),
          (message.text.length, logger.maxLogSize - message.text.length)] := by
  have positive : 1 ≤ logger.maxLogSize := by omega
  obtain ⟨size, -⟩ := first_print positive message.text
  have text := first_print_fits logger message.text (by omega)
  have remaining : sizeSub logger.maxLogSize message.text.length =
      logger.maxLogSize - message.text.length := by
    rw [sizeSub, Nat.sub_add_comm (by omega), Nat.add_mod_right, Nat.mod_eq_of_lt (by omega)]
  have count : (logger.plainFormatted message).count = message.text.length + 1 := by
    have sum : sizeAdd message.text.length 1 = message.text.length + 1 :=
      Nat.mod_eq_of_lt (by omega)
    simp only [plainFormatted, vsnprintf, List.length_singleton, sum]
    omega
  have newline : List.take (logger.maxLogSize - message.text.length - 1) [(10 : UInt8)] = [10] :=
    List.take_of_length_le (by rw [List.length_singleton]; omega)
  have cells : (logger.plainFormatted message).cells =
      putCells (vsnprintf logger.newBuffer 0 logger.maxLogSize message.text).cells
        message.text.length [.char 10, .terminator] := by
    simp only [plainFormatted, vsnprintf, remaining, newline]
    exact if_neg (by omega)
  have ended := putCells_take (vsnprintf logger.newBuffer 0 logger.maxLogSize message.text).cells
    message.text.length [LogCell.char 10, LogCell.terminator] (by rw [size]; exact fits)
  rw [← cells, text] at ended
  have again := congrArg (List.take (message.text.length + 1)) ended
  rw [List.take_take, Nat.min_eq_left (by simp only [List.length]; omega)] at again
  constructor
  · rw [count, again, List.take_append, List.length_map, Nat.add_sub_cancel_left,
      List.take_of_length_le (by simp), List.map_append]
    rfl
  · simp only [plainFormatted, vsnprintf, remaining, newBuffer, List.nil_append,
      List.singleton_append]

theorem plainFormatted_long (positive : 1 ≤ logger.maxLogSize)
    (long : logger.maxLogSize < message.text.length + 2)
    (measured : message.text.length + 1 < sizeModulus) :
    logger.maxLogSize < message.text.length ∧
        (message.text.length, sizeSub logger.maxLogSize message.text.length) ∈
          (logger.plainFormatted message).prints ∨
      LogCell.terminator ∈
        (logger.plainFormatted message).cells.take (logger.plainFormatted message).count := by
  have count : (logger.plainFormatted message).count =
      min (message.text.length + 1) logger.maxLogSize := by
    have sum : sizeAdd message.text.length 1 = message.text.length + 1 := Nat.mod_eq_of_lt measured
    simp only [plainFormatted, vsnprintf, List.length_singleton, sum]
  obtain ⟨size, -⟩ := first_print positive message.text
  rcases Nat.lt_trichotomy logger.maxLogSize message.text.length with beyond | same | before
  · left
    refine ⟨beyond, ?_⟩
    simp [plainFormatted, vsnprintf, newBuffer]
  · -- the newline is given no room at all
    right
    have room : sizeSub logger.maxLogSize message.text.length = 0 := by
      rw [sizeSub, same, Nat.add_sub_cancel_left, Nat.mod_self]
    have cells : (logger.plainFormatted message).cells =
        (vsnprintf logger.newBuffer 0 logger.maxLogSize message.text).cells := by
      simp only [plainFormatted, vsnprintf, room, if_true]
    rw [count, cells, Nat.min_eq_right (by omega)]
    exact first_print_cut positive message.text same.le
  · -- it is given room for its NUL alone
    right
    have room : sizeSub logger.maxLogSize message.text.length = 1 := by
      rw [sizeSub, Nat.sub_add_comm (by omega), Nat.add_mod_right, Nat.mod_eq_of_lt (by omega)]
      omega
    have cells : (logger.plainFormatted message).cells =
        putCells (vsnprintf logger.newBuffer 0 logger.maxLogSize message.text).cells
          message.text.length [.terminator] := by
      simp only [plainFormatted, vsnprintf, room]
      rfl
    have ended := putCells_take
      (vsnprintf logger.newBuffer 0 logger.maxLogSize message.text).cells message.text.length
      [LogCell.terminator] (by rw [size]; exact before)
    rw [List.length_singleton] at ended
    rw [count, cells, Nat.min_eq_left (by omega), ended]
    exact List.mem_append_right _ (List.mem_singleton_self _)

theorem plainInside_iff (positive : 1 ≤ logger.maxLogSize)
    (maxInt : logger.maxLogSize < 2 ^ 31) (textInt : message.text.length < 2 ^ 31) :
    PlainInside logger message ↔
      logger.reached message = [] ∨ message.text.length + 2 ≤ logger.maxLogSize := by
  have large : 2 ^ 31 < sizeModulus := by decide
  rw [PlainInside, plainLog_eq]
  cases reached : logger.reached message with
  | nil => simp
  | cons first rest =>
      simp only [List.forall_mem_map, reduceCtorEq, false_or]
      constructor
      · rintro ⟨prints, calls⟩
        by_contra long
        have cut : logger.maxLogSize < message.text.length + 2 := by omega
        rcases plainFormatted_long positive cut (by omega) with ⟨beyond, print⟩ | ends
        · have inside := (prints _ print).1
          dsimp only at inside
          omega
        · exact not_prefix_of_terminator ends (calls first List.mem_cons_self)
      · intro fits
        obtain ⟨text, prints⟩ := plainFormatted_fits fits (by omega)
        rw [text, prints]
        refine ⟨?_, fun _ _ => List.prefix_refl _⟩
        simp only [List.forall_mem_cons, List.not_mem_nil, false_implies, implies_true, and_true]
        omega

/-- A plain line is kept inside its buffer exactly when there is room for its newline and its NUL
too, and a line without a formatter exactly when there is room for its NUL; or nobody takes it. -/
theorem longLines_iff (logger : Logger Sink Args) (message : LogMessage Args)
    (positive : 1 ≤ logger.maxLogSize) (maxInt : logger.maxLogSize < 2 ^ 31)
    (textInt : message.text.length < 2 ^ 31) :
    (PlainInside logger message ↔
        logger.reached message = [] ∨ message.text.length + 2 ≤ logger.maxLogSize) ∧
      (Unformatted logger message →
        (LogInside logger message ↔
          logger.reached message = [] ∨ message.text.length < logger.maxLogSize)) :=
  ⟨plainInside_iff positive maxInt textInt, logInside_iff positive⟩

def shortLines : Logger Bool Unit :=
  { formatter := none, level := 0, maxLogSize := 3, sinks := [⟨true, none, 0⟩] }

theorem longLines_iff_shortLines :
    (PlainInside shortLines hello ↔ shortLines.reached hello = [] ∨ hello.text.length + 2 ≤ 3) ∧
      (Unformatted shortLines hello →
        (LogInside shortLines hello ↔ shortLines.reached hello = [] ∨ hello.text.length < 3)) :=
  longLines_iff shortLines hello (by decide) (by decide) (by decide)

def longHello : LogMessage Unit := { hello with text := [104, 101, 108, 108, 111] }

/-- Two characters leave no room for the newline and the sink gets the NUL; five have the newline
printed behind the buffer; and without a formatter three are enough to show the NUL. -/
theorem shortLines_overrun :
    (shortLines.plainLog hello).calls = [(true, [.char 104, .char 105, .terminator])] ∧
      (shortLines.plainLog longHello).prints = [(0, 3), (5, 2 ^ 64 - 2)] ∧
      (shortLines.log longHello).calls = [(true, [.char 104, .char 101, .terminator])] ∧
      ¬ PlainInside shortLines hello ∧ ¬ PlainInside shortLines longHello ∧
      Unformatted shortLines longHello ∧ ¬ LogInside shortLines longHello := by
  refine ⟨by decide, by decide, by decide, ?_, ?_, ?_, ?_⟩
  · rintro ⟨-, calls⟩
    exact absurd (calls (true, [.char 104, .char 105, .terminator]) (by decide)) (by decide)
  · rintro ⟨prints, -⟩
    exact absurd (prints (5, 2 ^ 64 - 2) (by decide)) (by decide)
  · intro first listed
    cases listed
    rfl
  · intro calls
    exact absurd (calls (true, [.char 104, .char 101, .terminator]) (by decide)) (by decide)

end Logger

end ZBlueNet
