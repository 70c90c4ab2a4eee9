import ZBlueNet.Lib.Bytes

/-!
The growable byte buffer of `dynamic_buffer.cc`: a vector of bytes with a read
index and a write index. `size_t` arithmetic that can leave the range is written
with its wrap-around. The readable region is compared with a plain byte list.
-/

namespace ZBlueNet

open Bytes

/-- `size_t` is a 64-bit unsigned integer. -/
def sizeModulus : Nat := 2 ^ 64

def sizeAdd (left right : Nat) : Nat := (left + right) % sizeModulus

def sizeSub (left right : Nat) : Nat := (left + sizeModulus - right) % sizeModulus

def sizeMul (left right : Nat) : Nat := (left * right) % sizeModulus

structure DynamicBuffer where
  buffer : List UInt8
  expandSize : Nat
  readIndex : Nat
  writeIndex : Nat
deriving DecidableEq, Repr

namespace DynamicBuffer

def create (initSize expandSize : Nat) : DynamicBuffer :=
  { buffer := List.replicate initSize 0, expandSize := expandSize, readIndex := 0, writeIndex := 0 }

def capacity (b : DynamicBuffer) : Nat := b.buffer.length

def discardableBytes (b : DynamicBuffer) : Nat := b.readIndex

def readableBytes (b : DynamicBuffer) : Nat := b.writeIndex - b.readIndex

def writableBytes (b : DynamicBuffer) : Nat := b.buffer.length - b.writeIndex

def clear (b : DynamicBuffer) : DynamicBuffer := { b with readIndex := 0, writeIndex := 0 }

def read (b : DynamicBuffer) (size : Nat) : DynamicBuffer :=
  let moved := { b with readIndex := b.readIndex + min size b.readableBytes }
  if moved.readIndex = moved.writeIndex then moved.clear else moved

def write (b : DynamicBuffer) (size : Nat) : DynamicBuffer :=
  { b with writeIndex := b.writeIndex + min size b.writableBytes }

def content (b : DynamicBuffer) : List UInt8 := (b.buffer.take b.writeIndex).drop b.readIndex

def grownSize (b : DynamicBuffer) (size : Nat) : Nat :=
  let freeBytes := b.discardableBytes + b.writableBytes
  if size ≤ freeBytes ∧ freeBytes - size < b.expandSize then
    sizeAdd b.capacity b.expandSize
  else
    sizeAdd b.capacity (sizeMul b.expandSize (sizeSub size freeBytes / b.expandSize + 1))

def reserveWritableBytes (b : DynamicBuffer) (size : Nat) : DynamicBuffer :=
  if size ≤ b.writableBytes then b
  else
    { b with
      buffer := overwrite (List.replicate (b.grownSize size) 0) 0 b.content
      readIndex := 0
      writeIndex := b.readableBytes }

/-- Bytes stored through `writeBegin() + offset`; the write index stays. -/
def store (b : DynamicBuffer) (offset : Nat) (bytes : List UInt8) : DynamicBuffer :=
  { b with buffer := overwrite b.buffer (b.writeIndex + offset) bytes }

/-- Reserve, copy to `writeBegin()`, advance: what every writer of the buffer does. -/
def append (b : DynamicBuffer) (bytes : List UInt8) : DynamicBuffer :=
  ((b.reserveWritableBytes bytes.length).store 0 bytes).write bytes.length

/-- The `peekInt` family: `count` bytes at `offset`, big endian unless told otherwise. -/
def peekInt (count : Nat) (b : DynamicBuffer) (offset : Nat) (littleEndian : Bool) : Option Nat :=
  if b.readableBytes < sizeAdd offset count then none
  else
    let bytes := (b.buffer.drop (b.readIndex + offset)).take count
    some (assemble (if littleEndian then bytes.reverse else bytes))

def peekInt16 (b : DynamicBuffer) (offset : Nat) (littleEndian : Bool := false) : Option Nat :=
  peekInt 2 b offset littleEndian

/-- The `writeInt` family: the low `count` bytes of the value. -/
def writeInt (count : Nat) (b : DynamicBuffer) (value : Nat) (littleEndian : Bool) :
    DynamicBuffer :=
  let bytes := integerBytes count value
  b.append (if littleEndian then bytes.reverse else bytes)

def writeInt16 (b : DynamicBuffer) (value : Nat) (littleEndian : Bool := false) : DynamicBuffer :=
  writeInt 2 b value littleEndian

def neededSize (b : DynamicBuffer) (size : Nat) : Nat :=
  let freeBytes := b.discardableBytes + b.writableBytes
  if size ≤ b.writableBytes then b.capacity
  else if freeBytes < size then b.capacity + b.expandSize * ((size - freeBytes) / b.expandSize + 1)
  else if freeBytes - size < b.expandSize then b.capacity + b.expandSize
  else b.capacity

structure Valid (b : DynamicBuffer) : Prop where
  readBound : b.readIndex ≤ b.writeIndex
  writeBound : b.writeIndex ≤ b.buffer.length
  sizeBound : b.buffer.length < sizeModulus
  expandPositive : 0 < b.expandSize

/-- The address space has room for the unread bytes, `size` more and two expansions. -/
def Fits (b : DynamicBuffer) (size : Nat) : Prop :=
  b.readableBytes + size + 2 * b.expandSize < sizeModulus

/-- A `size_t` can measure the vector with `size` more bytes. -/
def Grows (b : DynamicBuffer) (size : Nat) : Prop := b.neededSize size < sizeModulus

end DynamicBuffer

end ZBlueNet
