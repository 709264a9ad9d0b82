import Mathlib.Algebra.Group.Int.Defs
import Mathlib.Algebra.GroupWithZero.Nat
import TalkSystem.Machine.CheckedMemory
import TalkSystem.Machine.Runs
import TalkSystem.Net.Buffer

/-!
# `Buffer` as an object in memory

The same class without its invariant: a vector and two `size_t` members that
could hold anything. Index arithmetic wraps at `2 ^ 64`, and an access outside
an array has no result. `Buffer` is what such an object is as long as nothing
goes wrong.
-/

set_option autoImplicit false

namespace TalkSystem.Net

open CheckedMemory

def sizeAdd (left right : Nat) : Nat := (left + right) % 2 ^ 64
def sizeSub (left right : Nat) : Nat := (left + 2 ^ 64 - right) % 2 ^ 64

structure BufferObject where
  buffer : List UInt8
  readerIndex : Nat
  writerIndex : Nat
  deriving DecidableEq, Repr

namespace BufferObject

def new (initialSize : Nat) : BufferObject where
  buffer := List.replicate (sizeAdd kCheapPrepend initialSize) 0
  readerIndex := kCheapPrepend
  writerIndex := kCheapPrepend

def readableBytes (self : BufferObject) : Nat := sizeSub self.writerIndex self.readerIndex
def writableBytes (self : BufferObject) : Nat := sizeSub self.buffer.length self.writerIndex
def prependableBytes (self : BufferObject) : Nat := self.readerIndex

/-- What lies between the two indices. -/
def readable (self : BufferObject) : List UInt8 :=
  (self.buffer.drop self.readerIndex).take (self.writerIndex - self.readerIndex)

def retrieveAll (self : BufferObject) : BufferObject :=
  { self with readerIndex := kCheapPrepend, writerIndex := kCheapPrepend }

def retrieve (self : BufferObject) (len : Nat) : BufferObject :=
  if len < self.readableBytes then
    { self with readerIndex := sizeAdd self.readerIndex len }
  else
    self.retrieveAll

/-- `std::string result(peek(), len)` reads `len` bytes behind the reader index. -/
def retrieveAsString (self : BufferObject) (len : Nat) : Option (List UInt8 × BufferObject) := do
  let result ← load self.buffer self.readerIndex len
  some (result, self.retrieve len)

def retrieveAllAsString (self : BufferObject) : Option (List UInt8 × BufferObject) :=
  self.retrieveAsString self.readableBytes

def makeSpace (self : BufferObject) (len : Nat) : Option BufferObject :=
  if sizeAdd self.writableBytes self.prependableBytes < sizeAdd len kCheapPrepend then
    some { self with buffer := resize self.buffer (sizeAdd self.writerIndex len) }
  else do
    let moved ← copyForward self.buffer self.readerIndex kCheapPrepend
      (self.writerIndex - self.readerIndex)
    some { buffer := moved
           readerIndex := kCheapPrepend
           writerIndex := sizeAdd kCheapPrepend self.readableBytes }

def ensureWriteableBytes (self : BufferObject) (len : Nat) : Option BufferObject :=
  if self.writableBytes < len then self.makeSpace len else some self

def append (self : BufferObject) (data : List UInt8) : Option BufferObject := do
  let ready ← self.ensureWriteableBytes data.length
  let filled ← store ready.buffer ready.writerIndex data
  some { ready with buffer := filled, writerIndex := sizeAdd ready.writerIndex data.length }

/-- The total length of the iovecs that `readFd` passes to `readv`. -/
def iovTotal (self : BufferObject) : Nat :=
  self.writableBytes +
    if self.writableBytes < Buffer.extrabufSize then Buffer.extrabufSize else 0

/-- `readFd`: the result of `readv` and the object afterwards. The kernel fills
the writable bytes first and `extrabuf` with what is left. -/
def readFd (self : BufferObject) (answer : ReadAnswer) : Option (Int × BufferObject) :=
  match answer with
  | .fails _ => some (-1, self)
  | .yields bytes => do
      let writable := self.writableBytes
      let filled ← store self.buffer self.writerIndex (bytes.take writable)
      let extrabuf ← store (List.replicate Buffer.extrabufSize 0) 0 (bytes.drop writable)
      if bytes.length ≤ writable then
        some (bytes.length, { self with
          buffer := filled, writerIndex := sizeAdd self.writerIndex bytes.length })
      else do
        let spilled ← load extrabuf 0 (sizeSub bytes.length writable)
        let full := { self with buffer := filled, writerIndex := filled.length }
        let after ← full.append spilled
        some (bytes.length, after)

end BufferObject

inductive BufferOp where
  | append (data : List UInt8)
  | retrieve (len : Nat)
  | retrieveAsString (len : Nat)
  | retrieveAllAsString
  | retrieveAll
  | ensureWriteableBytes (len : Nat)
  | readFd (answer : ReadAnswer)
  deriving DecidableEq, Repr

/-- One call: the string it returns, if it returns one, and the object
afterwards. There is no result when a byte outside an array is touched. -/
def BufferObject.perform (self : BufferObject) :
    BufferOp → Option (Option (List UInt8) × BufferObject)
  | .append data => (self.append data).map fun next => (none, next)
  | .retrieve len => some (none, self.retrieve len)
  | .retrieveAsString len => (self.retrieveAsString len).map fun (text, next) => (some text, next)
  | .retrieveAllAsString => self.retrieveAllAsString.map fun (text, next) => (some text, next)
  | .retrieveAll => some (none, self.retrieveAll)
  | .ensureWriteableBytes len => (self.ensureWriteableBytes len).map fun next => (none, next)
  | .readFd answer => (self.readFd answer).map fun (_, next) => (none, next)

/-- An object together with the strings its calls have returned so far. -/
structure BufferHistory where
  object : BufferObject
  strings : List (List UInt8)
  deriving DecidableEq, Repr

def bufferMachine : Machine BufferHistory BufferOp where
  step history operation :=
    (history.object.perform operation).map fun (text, next) =>
      { object := next, strings := history.strings ++ text.toList }

end TalkSystem.Net
