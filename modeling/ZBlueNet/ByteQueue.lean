import ZBlueNet.DynamicBuffer
import ZBlueNet.Lib.Runs
import Mathlib.Logic.Function.Basic

/-!
Any use of any number of dynamic buffers against byte lists: the same operations run
on both sides, and every result is the same.
-/

namespace ZBlueNet

open Bytes Runs

inductive IntKind
  | int8
  | int16
  | int32
  | int64
deriving DecidableEq, Repr

def IntKind.bytes : IntKind → Nat
  | .int8 => 1
  | .int16 => 2
  | .int32 => 4
  | .int64 => 8

/-- `reserve` stands for `reserveWritableBytes(size)`, stores of the bytes through `writeBegin()`, and
`write` of their number. -/
inductive BufferOperation
  | writeBytes (bytes : List UInt8)
  | writeInt (kind : IntKind) (value : Nat) (littleEndian : Bool)
  | reserve (size : Nat) (bytes : List UInt8)
  | readBytes (count : Nat)
  | read (size : Nat)
  | readInt (kind : IntKind) (littleEndian : Bool)
  | peekInt (kind : IntKind) (offset : Nat) (littleEndian : Bool)
  | clear
deriving DecidableEq, Repr

inductive BufferResult
  | done
  | bytes (count : Nat) (copied : List UInt8)
  | int (value : Option Nat)
deriving DecidableEq, Repr

namespace DynamicBuffer

def swap (b other : DynamicBuffer) : DynamicBuffer × DynamicBuffer :=
  ({ b with
      buffer := other.buffer
      expandSize := other.expandSize
      readIndex := other.readIndex
      writeIndex := other.writeIndex },
    { other with
      buffer := b.buffer
      expandSize := b.expandSize
      readIndex := b.readIndex
      writeIndex := b.writeIndex })

def writeBytes (b : DynamicBuffer) (bytes : List UInt8) : DynamicBuffer :=
  let copied := (b.reserveWritableBytes bytes.length).store 0 bytes
  { copied with writeIndex := copied.writeIndex + bytes.length }

def readBytes (b : DynamicBuffer) (count : Nat) : List UInt8 × DynamicBuffer :=
  let realCount := min count b.readableBytes
  let moved := { b with readIndex := b.readIndex + realCount }
  ((b.buffer.drop b.readIndex).take realCount,
    if moved.readIndex = moved.writeIndex then moved.clear else moved)

def readInt (count : Nat) (b : DynamicBuffer) (littleEndian : Bool) : Option Nat × DynamicBuffer :=
  match peekInt count b 0 littleEndian with
  | none => (none, b)
  | some value => (some value, b.read count)

def perform (b : DynamicBuffer) : BufferOperation → DynamicBuffer × BufferResult
  | .writeBytes bytes => (b.writeBytes bytes, .done)
  | .writeInt kind value littleEndian => (writeInt kind.bytes b value littleEndian, .done)
  | .reserve size bytes =>
      (((b.reserveWritableBytes size).store 0 bytes).write bytes.length, .done)
  | .readBytes count =>
      let outcome := b.readBytes count
      (outcome.2, .bytes (min count b.readableBytes) outcome.1)
  | .read size => (b.read size, .done)
  | .readInt kind littleEndian =>
      let outcome := readInt kind.bytes b littleEndian
      (outcome.2, .int outcome.1)
  | .peekInt kind offset littleEndian => (b, .int (peekInt kind.bytes b offset littleEndian))
  | .clear => (b.clear, .done)

/-- The vector stays one that a `size_t` can measure, the stores stay in the reserved bytes, and the
end of a peeked integer does not wrap around. -/
def Admits (b : DynamicBuffer) : BufferOperation → Prop
  | .writeBytes bytes => b.Grows bytes.length
  | .writeInt kind _ _ => b.Grows kind.bytes
  | .reserve size bytes => b.Grows size ∧ bytes.length ≤ size
  | .peekInt kind offset _ => offset + kind.bytes < sizeModulus
  | _ => True

instance (b : DynamicBuffer) (operation : BufferOperation) : Decidable (b.Admits operation) := by
  cases operation <;> simp only [Admits, Grows] <;> infer_instance

end DynamicBuffer

/-! A byte queue as a list, first byte first. -/

namespace ByteQueue

def intValue (bytes : List UInt8) (littleEndian : Bool) : Nat :=
  assemble (if littleEndian then bytes.reverse else bytes)

def intBytes (kind : IntKind) (value : Nat) (littleEndian : Bool) : List UInt8 :=
  if littleEndian then (integerBytes kind.bytes value).reverse else integerBytes kind.bytes value

def peekInt (queue : List UInt8) (kind : IntKind) (offset : Nat) (littleEndian : Bool) : Option Nat :=
  if queue.length < offset + kind.bytes then none
  else some (intValue ((queue.drop offset).take kind.bytes) littleEndian)

def perform (queue : List UInt8) : BufferOperation → List UInt8 × BufferResult
  | .writeBytes bytes => (queue ++ bytes, .done)
  | .writeInt kind value littleEndian => (queue ++ intBytes kind value littleEndian, .done)
  | .reserve _ bytes => (queue ++ bytes, .done)
  | .readBytes count => (queue.drop count, .bytes (min count queue.length) (queue.take count))
  | .read size => (queue.drop size, .done)
  | .readInt kind littleEndian =>
      match peekInt queue kind 0 littleEndian with
      | none => (queue, .int none)
      | some value => (queue.drop kind.bytes, .int (some value))
  | .peekInt kind offset littleEndian => (queue, .int (peekInt queue kind offset littleEndian))
  | .clear => ([], .done)

end ByteQueue

namespace DynamicBuffer

variable {b : DynamicBuffer}

theorem Valid.writeBytes_eq (valid : b.Valid) {bytes : List UInt8} (grows : b.Grows bytes.length) :
    b.writeBytes bytes = b.append bytes := by
  have room := valid.reserveWritableBytes_room _ grows
  have reserved := valid.reserveWritableBytes _ grows
  have lengthEq := overwrite_length (b.reserveWritableBytes bytes.length).buffer
    (b.reserveWritableBytes bytes.length).writeIndex bytes reserved.writeBound
  simp only [writableBytes] at room
  simp only [writeBytes, DynamicBuffer.append, DynamicBuffer.write, DynamicBuffer.store,
    writableBytes, Nat.add_zero, lengthEq, Nat.min_eq_left room]

theorem readBytes_snd (b : DynamicBuffer) (count : Nat) : (b.readBytes count).2 = b.read count :=
  rfl

theorem Valid.readBytes_fst (valid : b.Valid) (count : Nat) :
    (b.readBytes count).1 = b.content.take count := by
  have readBound := valid.readBound
  simp only [readBytes, content, readableBytes, List.drop_take, List.take_take]

theorem Valid.peekInt_refines (valid : b.Valid) (kind : IntKind) (offset : Nat) (littleEndian : Bool)
    (representable : offset + kind.bytes < sizeModulus) :
    peekInt kind.bytes b offset littleEndian =
      ByteQueue.peekInt b.content kind offset littleEndian := by
  rw [valid.peekInt_eq _ _ _ representable]
  rfl

theorem Valid.perform (valid : b.Valid) {operation : BufferOperation} (admits : b.Admits operation) :
    (b.perform operation).1.Valid ∧
      ((b.perform operation).1.content, (b.perform operation).2) =
        ByteQueue.perform b.content operation := by
  cases operation with
  | writeBytes bytes =>
      simp only [DynamicBuffer.perform, valid.writeBytes_eq admits]
      exact ⟨valid.append bytes admits, by rw [valid.append_content bytes admits]; rfl⟩
  | writeInt kind value littleEndian =>
      let bytes := ByteQueue.intBytes kind value littleEndian
      have length : bytes.length = kind.bytes := by
        simp only [bytes, ByteQueue.intBytes]
        split <;> simp
      have grows : b.Grows bytes.length := length ▸ admits
      exact ⟨valid.append bytes grows, congrArg (·, _) (valid.append_content bytes grows)⟩
  | reserve size bytes =>
      obtain ⟨grows, within⟩ := admits
      have reserved := valid.reserveWritableBytes size grows
      have room := within.trans (valid.reserveWritableBytes_room size grows)
      refine ⟨(reserved.store 0 bytes (Nat.zero_le _)).write _, ?_⟩
      simp only [DynamicBuffer.perform, ByteQueue.perform, reserved.store_write_content bytes room,
        valid.reserveWritableBytes_content size grows]
  | readBytes count =>
      refine ⟨valid.read count, ?_⟩
      simp only [DynamicBuffer.perform, ByteQueue.perform, readBytes_snd, valid.read_content,
        valid.readBytes_fst, valid.content_length]
  | read size => exact ⟨valid.read size, congrArg (·, _) (valid.read_content size)⟩
  | readInt kind littleEndian =>
      have small : 0 + kind.bytes < sizeModulus := by cases kind <;> decide
      have peeked := valid.peekInt_refines kind 0 littleEndian small
      simp only [DynamicBuffer.perform, ByteQueue.perform, readInt, peeked]
      split
      · exact ⟨valid, rfl⟩
      · exact ⟨valid.read _, congrArg (·, _) (valid.read_content _)⟩
  | peekInt kind offset littleEndian =>
      refine ⟨valid, ?_⟩
      simp only [DynamicBuffer.perform, ByteQueue.perform,
        valid.peekInt_refines kind offset littleEndian admits]
  | clear => exact ⟨valid.clear, congrArg (·, _) clear_content⟩

theorem perform_unread (b : DynamicBuffer) (operation : BufferOperation)
    (unread : (b.perform operation).2 = .int none) : (b.perform operation).1 = b := by
  cases operation with
  | readInt kind littleEndian =>
      cases missing : DynamicBuffer.peekInt kind.bytes b 0 littleEndian with
      | none => simp [DynamicBuffer.perform, readInt, missing]
      | some value => simp [DynamicBuffer.perform, readInt, missing] at unread
  | peekInt kind offset littleEndian => rfl
  | _ => cases unread

end DynamicBuffer

structure BufferRun (Name : Type) where
  buffers : Name → DynamicBuffer
  results : List BufferResult
  queues : Name → List UInt8
  expected : List BufferResult

inductive BufferEvent (Name : Type)
  | perform (name : Name) (operation : BufferOperation)
  | swap (name other : Name)
deriving DecidableEq, Repr

namespace BufferRun

variable {Name : Type}

def start (initSize expandSize : Name → Nat) : BufferRun Name :=
  { buffers := fun name => .create (initSize name) (expandSize name)
    results := []
    queues := fun _ => []
    expected := [] }

section Steps

variable [DecidableEq Name]

def step (s : BufferRun Name) : BufferEvent Name → Option (BufferRun Name)
  | .perform name operation =>
      let outcome := (s.buffers name).perform operation
      let ideal := ByteQueue.perform (s.queues name) operation
      some
        { buffers := Function.update s.buffers name outcome.1
          results := s.results ++ [outcome.2]
          queues := Function.update s.queues name ideal.1
          expected := s.expected ++ [ideal.2] }
  | .swap name other =>
      let swapped := (s.buffers name).swap (s.buffers other)
      some { s with
        buffers := Function.update (Function.update s.buffers name swapped.1) other swapped.2
        queues := Function.update (Function.update s.queues name (s.queues other)) other
          (s.queues name) }

def Admitted (s : BufferRun Name) : BufferEvent Name → Prop
  | .perform name operation => (s.buffers name).Admits operation
  | .swap _ _ => True

instance (s : BufferRun Name) (event : BufferEvent Name) : Decidable (s.Admitted event) := by
  cases event <;> simp only [Admitted] <;> infer_instance

end Steps

def Holds (b : DynamicBuffer) (queue : List UInt8) : Prop := b.Valid ∧ b.content = queue

structure Refines (s : BufferRun Name) : Prop where
  readBound : ∀ name, (s.buffers name).readIndex ≤ (s.buffers name).writeIndex
  writeBound : ∀ name, (s.buffers name).writeIndex ≤ (s.buffers name).buffer.length
  contents : ∀ name, (s.buffers name).content = s.queues name
  results : s.results = s.expected

structure Simulates (s : BufferRun Name) : Prop where
  holds : ∀ name, Holds (s.buffers name) (s.queues name)
  results : s.results = s.expected

theorem Simulates.refines {s : BufferRun Name} (simulates : Simulates s) : Refines s :=
  ⟨fun name => (simulates.holds name).1.readBound, fun name => (simulates.holds name).1.writeBound,
    fun name => (simulates.holds name).2, simulates.results⟩

variable [DecidableEq Name] {s next : BufferRun Name}

theorem holds_update {buffers : Name → DynamicBuffer} {queues : Name → List UInt8} {b : DynamicBuffer}
    {queue : List UInt8} (holds : ∀ name, Holds (buffers name) (queues name)) (name : Name)
    (new : Holds b queue) (other : Name) :
    Holds (Function.update buffers name b other) (Function.update queues name queue other) := by
  by_cases same : other = name
  · rw [same, Function.update_self, Function.update_self]
    exact new
  · rw [Function.update_of_ne same, Function.update_of_ne same]
    exact holds other

theorem Simulates.step (simulates : Simulates s) {event : BufferEvent Name}
    (admitted : s.Admitted event) (taken : s.step event = some next) : Simulates next := by
  have holds := simulates.holds
  cases event with
  | perform name operation =>
      cases taken
      obtain ⟨valid, same⟩ := (holds name).1.perform admitted
      rw [(holds name).2, Prod.ext_iff] at same
      exact ⟨holds_update holds name ⟨valid, same.1⟩, by rw [simulates.results, same.2]⟩
  | swap name other =>
      cases taken
      have first := holds_update holds name (holds other)
      exact ⟨holds_update first other (holds name), simulates.results⟩

/-- Whatever is done with dynamic buffers, they are byte queues: after every operation the indices
are in order, and contents and results are those of lists; an integer that cannot be read leaves its
buffer as it is. -/
theorem refines_every {initSize expandSize : Name → Nat}
    (representable : ∀ name, initSize name < sizeModulus) (positive : ∀ name, 1 ≤ expandSize name)
    {events : List (BufferEvent Name)}
    (admitted : Along BufferRun.step Admitted (start initSize expandSize) events) :
    Every BufferRun.step Refines (start initSize expandSize) events ∧
      ∀ (b : DynamicBuffer) (operation : BufferOperation),
        (b.perform operation).2 = .int none → (b.perform operation).1 = b := by
  have initial : Simulates (start initSize expandSize) :=
    ⟨fun name => ⟨DynamicBuffer.create_valid _ _ (representable name) (positive name),
      DynamicBuffer.create_content _ _⟩, rfl⟩
  have every : Every BufferRun.step Simulates (start initSize expandSize) events :=
    every_of_invariant (fun simulates fits taken => simulates.step fits taken) initial admitted
  exact ⟨every.mono fun simulates => simulates.refines, DynamicBuffer.perform_unread⟩

def mixedUse : List (BufferEvent Bool) :=
  [.perform true (.writeBytes [1, 2, 3, 4, 5, 6, 7]), .perform true (.read 6),
    .perform true (.writeInt .int16 258 false), .perform false (.reserve 3 [9, 8]), .swap true false,
    .perform true (.readInt .int32 false), .perform false (.peekInt .int16 1 true),
    .perform false (.readBytes 9), .perform false .clear]

theorem refines_every_mixedUse :
    Every BufferRun.step Refines (start (fun _ => 8) fun _ => 1) mixedUse ∧
      ∀ (b : DynamicBuffer) (operation : BufferOperation),
        (b.perform operation).2 = .int none → (b.perform operation).1 = b :=
  refines_every (by decide) (by decide) (by decide)

end BufferRun

end ZBlueNet
