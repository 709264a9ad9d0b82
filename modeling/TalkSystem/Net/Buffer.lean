import Mathlib.Data.List.Basic

/-!
# `Buffer`

The byte buffer of the network library: a vector with a reader and a writer
index. The first `kCheapPrepend` bytes are reserved, the readable bytes lie
between the two indices, and the writable ones behind the writer index.
-/

set_option autoImplicit false

namespace TalkSystem.Net

inductive Errno where
  | EWOULDBLOCK
  | EPIPE
  | ECONNRESET
  | other (code : Nat)
  deriving DecidableEq, Repr

/-- The kernel's answer to `::write`. The kernel never accepts more bytes than
it was offered, so an answer is read against the length of the request. -/
inductive WriteAnswer where
  | accepts (count : Nat)
  | fails (errno : Errno)
  deriving DecidableEq, Repr

/-- The kernel's answer to `::readv`: the bytes available, none at the end of
the stream, or an error. -/
inductive ReadAnswer where
  | yields (bytes : List UInt8)
  | fails (errno : Errno)
  deriving DecidableEq, Repr

def WriteAnswer.accepted (answer : WriteAnswer) (request : List UInt8) : List UInt8 :=
  match answer with
  | .accepts count => request.take count
  | .fails _ => []

/-- `std::copy` of `source` to `start` in `target`; both ends lie inside. -/
def copyInto (target : List UInt8) (start : Nat) (source : List UInt8)
    (_ : start + source.length ≤ target.length) : List UInt8 :=
  target.take start ++ source ++ target.drop (start + source.length)

@[simp] theorem copyInto_length (target : List UInt8) (start : Nat) (source : List UInt8)
    (inside : start + source.length ≤ target.length) :
    (copyInto target start source inside).length = target.length := by
  simp only [copyInto, List.length_append, List.length_take, List.length_drop]
  omega

/-- `std::vector::resize` of a vector that grows. -/
def resize (target : List UInt8) (size : Nat) : List UInt8 :=
  target.take size ++ List.replicate (size - target.length) 0

@[simp] theorem resize_length (target : List UInt8) (size : Nat) :
    (resize target size).length = size := by
  simp only [resize, List.length_append, List.length_take, List.length_replicate]
  omega

def kCheapPrepend : Nat := 8
def kInitialSize : Nat := 1024

/-- The indices always delimit a window of the vector. -/
structure Buffer where
  buffer : List UInt8
  readerIndex : Nat
  writerIndex : Nat
  prepend_le : kCheapPrepend ≤ readerIndex
  reader_le : readerIndex ≤ writerIndex
  writer_le : writerIndex ≤ buffer.length
  deriving DecidableEq

namespace Buffer

def new (initialSize : Nat) : Buffer where
  buffer := List.replicate (kCheapPrepend + initialSize) 0
  readerIndex := kCheapPrepend
  writerIndex := kCheapPrepend
  prepend_le := Nat.le_refl _
  reader_le := Nat.le_refl _
  writer_le := by simp

def readableBytes (self : Buffer) : Nat := self.writerIndex - self.readerIndex
def writableBytes (self : Buffer) : Nat := self.buffer.length - self.writerIndex
def prependableBytes (self : Buffer) : Nat := self.readerIndex

def peek (self : Buffer) : List UInt8 := self.buffer.drop self.readerIndex

/-- The readable bytes, the contents of the buffer. -/
def readable (self : Buffer) : List UInt8 := self.peek.take self.readableBytes

def retrieveAll (self : Buffer) : Buffer where
  buffer := self.buffer
  readerIndex := kCheapPrepend
  writerIndex := kCheapPrepend
  prepend_le := Nat.le_refl _
  reader_le := Nat.le_refl _
  writer_le := Nat.le_trans self.prepend_le (Nat.le_trans self.reader_le self.writer_le)

def retrieve (self : Buffer) (len : Nat) : Buffer :=
  if short : len < self.readableBytes then
    { self with
      readerIndex := self.readerIndex + len
      prepend_le := Nat.le_trans self.prepend_le (Nat.le_add_right _ _)
      reader_le := by simp only [readableBytes] at short; omega }
  else
    self.retrieveAll

def retrieveAsString (self : Buffer) (len : Nat) : List UInt8 × Buffer :=
  (self.peek.take len, self.retrieve len)

def retrieveAllAsString (self : Buffer) : List UInt8 × Buffer :=
  self.retrieveAsString self.readableBytes

/-- The two branches of `makeSpace`: grow the vector, or move the readable
bytes to its front. -/
def makeSpace (self : Buffer) (len : Nat) : Buffer :=
  if self.writableBytes + self.prependableBytes < len + kCheapPrepend then
    { self with
      buffer := resize self.buffer (self.writerIndex + len)
      writer_le := by simp }
  else
    have window : kCheapPrepend + self.readable.length ≤ self.buffer.length := by
      have := self.prepend_le
      have := self.reader_le
      have := self.writer_le
      simp only [readable, peek, readableBytes, List.length_take, List.length_drop]
      omega
    { buffer := copyInto self.buffer kCheapPrepend self.readable window
      readerIndex := kCheapPrepend
      writerIndex := kCheapPrepend + self.readableBytes
      prepend_le := Nat.le_refl _
      reader_le := Nat.le_add_right _ _
      writer_le := by
        have := self.prepend_le
        have := self.reader_le
        have := self.writer_le
        simp only [copyInto_length, readableBytes]
        omega }

def ensureWriteableBytes (self : Buffer) (len : Nat) : Buffer :=
  if self.writableBytes < len then self.makeSpace len else self

/-- After `ensureWriteableBytes(len)` the vector has room for `len` bytes, so
the copy in `append` stays inside. -/
theorem ensureWriteableBytes_room (self : Buffer) (len : Nat) :
    (self.ensureWriteableBytes len).writerIndex + len ≤
      (self.ensureWriteableBytes len).buffer.length := by
  have := self.prepend_le
  have := self.reader_le
  have := self.writer_le
  unfold ensureWriteableBytes
  split
  · unfold makeSpace
    split
    · simp
    · next enough =>
        simp only [writableBytes, prependableBytes, kCheapPrepend] at enough
        simp only [copyInto_length, readableBytes, kCheapPrepend]
        omega
  · next enough =>
      simp only [writableBytes] at enough
      omega

/-- `append(data, len)` with `data` the bytes `[data, data + len)`. -/
def append (self : Buffer) (data : List UInt8) : Buffer :=
  let ready := self.ensureWriteableBytes data.length
  have room := self.ensureWriteableBytes_room data.length
  { ready with
    buffer := copyInto ready.buffer ready.writerIndex data room
    writerIndex := ready.writerIndex + data.length
    reader_le := Nat.le_trans ready.reader_le (Nat.le_add_right _ _)
    writer_le := by simpa using room }

def extrabufSize : Nat := 65536

def readCapacity (self : Buffer) : Nat :=
  self.writableBytes + if self.writableBytes < extrabufSize then extrabufSize else 0

/-- `readFd`: the buffer afterwards and the bytes read, `none` for an error.
The kernel scatters first into the writable bytes, then into `extrabuf`. -/
def readFd (self : Buffer) (answer : ReadAnswer) : Option (List UInt8) × Buffer :=
  match answer with
  | .fails _ => (none, self)
  | .yields available =>
      let bytes := available.take self.readCapacity
      if fits : bytes.length ≤ self.writableBytes then
        have room : self.writerIndex + bytes.length ≤ self.buffer.length := by
          have := self.writer_le
          simp only [writableBytes] at fits
          omega
        (some bytes,
          { self with
            buffer := copyInto self.buffer self.writerIndex bytes room
            writerIndex := self.writerIndex + bytes.length
            reader_le := Nat.le_trans self.reader_le (Nat.le_add_right _ _)
            writer_le := by simpa using room })
      else
        let direct := bytes.take self.writableBytes
        have room : self.writerIndex + direct.length ≤ self.buffer.length := by
          have := self.writer_le
          simp only [direct, writableBytes, List.length_take]
          omega
        let full : Buffer :=
          { self with
            buffer := copyInto self.buffer self.writerIndex direct room
            writerIndex := self.buffer.length
            reader_le := Nat.le_trans self.reader_le self.writer_le
            writer_le := by simp }
        (some bytes, full.append (bytes.drop self.writableBytes))

/-- `writeFd`: the bytes handed to `::write`. Whether and how much the kernel
accepts is its answer; `writeFd` itself leaves the buffer alone. -/
def writeFd (self : Buffer) : List UInt8 := self.peek.take self.readableBytes

end Buffer

end TalkSystem.Net
