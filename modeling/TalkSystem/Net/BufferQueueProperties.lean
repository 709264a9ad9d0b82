import TalkSystem.Net.BufferObject
import TalkSystem.Net.BufferProperties

/-!
# `Buffer` is a queue of bytes

Below `2 ^ 63` bytes no index arithmetic wraps and no access leaves its array,
so an object that starts as a `Buffer` stays one. The laws of `Buffer` then
make a whole run of calls a run of a first-in first-out queue.
-/

set_option autoImplicit false

namespace TalkSystem.Net

open CheckedMemory

theorem sizeAdd_of_lt {left right : Nat} (small : left + right < 2 ^ 64) :
    sizeAdd left right = left + right := Nat.mod_eq_of_lt small

theorem sizeSub_of_le {left right : Nat} (ordered : right ≤ left) (small : left < 2 ^ 64) :
    sizeSub left right = left - right := by
  rw [sizeSub, Nat.sub_add_comm ordered, Nat.add_mod_right]
  exact Nat.mod_eq_of_lt (by omega)

theorem store_eq_copyInto {target source : List UInt8} {start : Nat}
    (inside : start + source.length ≤ target.length) :
    store target start source = some (copyInto target start source inside) :=
  store_inside inside

namespace Buffer

def toObject (self : Buffer) : BufferObject := ⟨self.buffer, self.readerIndex, self.writerIndex⟩

variable {self : Buffer}

@[simp] theorem toObject_buffer : self.toObject.buffer = self.buffer := rfl
@[simp] theorem toObject_readerIndex : self.toObject.readerIndex = self.readerIndex := rfl
@[simp] theorem toObject_writerIndex : self.toObject.writerIndex = self.writerIndex := rfl
@[simp] theorem toObject_readable : self.toObject.readable = self.readable := rfl

section Small

variable (small : self.buffer.length < 2 ^ 63)
include small

theorem toObject_readableBytes : self.toObject.readableBytes = self.readableBytes :=
  sizeSub_of_le self.reader_le (by have := self.writer_le; simp only [toObject]; omega)

theorem toObject_writableBytes : self.toObject.writableBytes = self.writableBytes :=
  sizeSub_of_le self.writer_le (by simp only [toObject]; omega)

theorem toObject_retrieve (len : Nat) :
    self.toObject.retrieve len = (self.retrieve len).toObject := by
  have := self.writer_le
  have := self.reader_le
  simp only [BufferObject.retrieve, retrieve, toObject_readableBytes small]
  by_cases short : len < self.readableBytes
  · have sum : sizeAdd self.readerIndex len = self.readerIndex + len := by
      apply sizeAdd_of_lt
      simp only [readableBytes] at short
      omega
    simp only [dif_pos short, if_pos short, toObject, sum]
  · simp only [dif_neg short, if_neg short]
    rfl

/-- Reading no more than the readable bytes stays inside the vector. -/
theorem toObject_retrieveAsString {len : Nat} (enough : len ≤ self.readableBytes) :
    self.toObject.retrieveAsString len =
      some (self.readable.take len, (self.retrieve len).toObject) := by
  have inside : self.toObject.readerIndex + len ≤ self.toObject.buffer.length := by
    have := self.writer_le
    have := self.reader_le
    simp only [readableBytes, toObject] at enough ⊢
    omega
  have text : (self.toObject.buffer.drop self.toObject.readerIndex).take len =
      self.readable.take len := by
    rw [readable, List.take_take, Nat.min_eq_left enough]
    rfl
  simp only [BufferObject.retrieveAsString, load_inside inside, toObject_retrieve small, text]
  rfl

theorem toObject_makeSpace {len : Nat} (short : len < 2 ^ 63) :
    self.toObject.makeSpace len = some (self.makeSpace len).toObject := by
  have reserved := self.prepend_le
  have ordered := self.reader_le
  have inside := self.writer_le
  have room : sizeAdd self.writableBytes self.toObject.prependableBytes =
      self.writableBytes + self.prependableBytes := by
    apply sizeAdd_of_lt
    simp only [writableBytes, BufferObject.prependableBytes, toObject]
    omega
  have wanted : sizeAdd len kCheapPrepend = len + kCheapPrepend := by
    apply sizeAdd_of_lt
    simp only [kCheapPrepend]
    omega
  have grown : sizeAdd self.writerIndex len = self.writerIndex + len :=
    sizeAdd_of_lt (by omega)
  have tail : sizeAdd kCheapPrepend self.readableBytes = kCheapPrepend + self.readableBytes := by
    apply sizeAdd_of_lt
    simp only [kCheapPrepend, readableBytes]
    omega
  have window : kCheapPrepend + self.readable.length ≤ self.buffer.length := by
    rw [readable_length, readableBytes]
    omega
  have slid : copyForward self.buffer self.readerIndex kCheapPrepend
      (self.writerIndex - self.readerIndex) =
        some (copyInto self.buffer kCheapPrepend self.readable window) :=
    (copyForward_eq_store self.buffer reserved (by omega)).trans (store_eq_copyInto window)
  simp only [BufferObject.makeSpace, makeSpace, toObject_writableBytes small,
    toObject_readableBytes small, room, wanted]
  split
  · simp only [toObject, grown]
  · simp only [toObject, tail, slid]
    rfl

theorem toObject_ensureWriteableBytes {len : Nat} (short : len < 2 ^ 63) :
    self.toObject.ensureWriteableBytes len = some (self.ensureWriteableBytes len).toObject := by
  simp only [BufferObject.ensureWriteableBytes, ensureWriteableBytes,
    toObject_writableBytes small]
  split
  · exact toObject_makeSpace small short
  · rfl

omit small in
/-- What `ensureWriteableBytes` returns reaches at most `len` bytes beyond the
old vector. -/
theorem ensureWriteableBytes_length_le (len : Nat) :
    (self.ensureWriteableBytes len).buffer.length ≤ self.buffer.length + len := by
  have inside := self.writer_le
  unfold ensureWriteableBytes makeSpace
  split
  · split
    · simp only [resize_length]
      omega
    · simp only [copyInto_length]
      omega
  · omega

theorem toObject_append {data : List UInt8} (short : data.length < 2 ^ 63) :
    self.toObject.append data = some (self.append data).toObject := by
  have room := self.ensureWriteableBytes_room data.length
  have length_le := self.ensureWriteableBytes_length_le data.length
  have sum : sizeAdd (self.ensureWriteableBytes data.length).writerIndex data.length =
      (self.ensureWriteableBytes data.length).writerIndex + data.length :=
    sizeAdd_of_lt (by omega)
  rw [BufferObject.append, toObject_ensureWriteableBytes small short]
  simp only [append, toObject, Option.bind_eq_bind, Option.bind_some, store_eq_copyInto room, sum]

theorem toObject_iovTotal : self.toObject.iovTotal = self.readCapacity := by
  simp only [BufferObject.iovTotal, readCapacity, toObject_writableBytes small]

/-- The kernel fills the writable bytes and at most one `extrabuf` more; what is
in `extrabuf` is appended from there. -/
theorem toObject_readFd {bytes : List UInt8} (offered : bytes.length ≤ self.readCapacity) :
    self.toObject.readFd (.yields bytes) =
      some ((bytes.length : Int), (self.readFd (.yields bytes)).2.toObject) := by
  have inside := self.writer_le
  have whole : bytes.take self.readCapacity = bytes := List.take_of_length_le offered
  have room : self.writerIndex + (bytes.take self.writableBytes).length ≤ self.buffer.length := by
    simp only [writableBytes, List.length_take]
    omega
  have behind : (bytes.drop self.writableBytes).length ≤ extrabufSize := by
    simp only [readCapacity] at offered
    rw [List.length_drop]
    split at offered <;> omega
  have spill : 0 + (bytes.drop self.writableBytes).length ≤
      (List.replicate extrabufSize (0 : UInt8)).length := by
    rw [List.length_replicate]
    omega
  have direct := store_eq_copyInto room
  obtain ⟨extrabuf, extra⟩ : ∃ extrabuf, store (List.replicate extrabufSize 0) 0
      (bytes.drop self.writableBytes) = some extrabuf := ⟨_, store_inside spill⟩
  have reread := load_store extra
  simp only [BufferObject.readFd, toObject_writableBytes small, toObject_buffer,
    toObject_readerIndex, toObject_writerIndex, direct, extra, Option.bind_eq_bind,
    Option.bind_some, readFd, whole]
  by_cases fits : bytes.length ≤ self.writableBytes
  · have sum : sizeAdd self.writerIndex bytes.length = self.writerIndex + bytes.length := by
      apply sizeAdd_of_lt
      simp only [writableBytes] at fits
      omega
    simp only [if_pos fits, dif_pos fits, sum, List.take_of_length_le fits, toObject]
  · have left_over : sizeSub bytes.length self.writableBytes =
        (bytes.drop self.writableBytes).length := by
      rw [List.length_drop] at behind ⊢
      apply sizeSub_of_le (by omega)
      simp only [writableBytes, extrabufSize] at behind
      omega
    let full : Buffer :=
      { self with
        buffer := copyInto self.buffer self.writerIndex (bytes.take self.writableBytes) room
        writerIndex := self.buffer.length
        reader_le := Nat.le_trans self.reader_le self.writer_le
        writer_le := by simp }
    have appended : full.toObject.append (bytes.drop self.writableBytes) = _ :=
      toObject_append (by simpa [full] using small)
        (Nat.lt_of_le_of_lt behind (by simp only [extrabufSize]; omega))
    have ended : (⟨full.buffer, self.readerIndex, full.buffer.length⟩ : BufferObject) =
        full.toObject := by
      simp only [full, toObject, copyInto_length]
    rw [if_neg fits, dif_neg fits, left_over, reread, Option.bind_some]
    change (BufferObject.append ⟨full.buffer, self.readerIndex, full.buffer.length⟩ _).bind _ = _
    rw [ended, appended]
    rfl

end Small

theorem toObject_new {initialSize : Nat} (small : kCheapPrepend + initialSize < 2 ^ 63) :
    BufferObject.new initialSize = (Buffer.new initialSize).toObject := by
  have sum : sizeAdd kCheapPrepend initialSize = kCheapPrepend + initialSize :=
    sizeAdd_of_lt (by omega)
  simp only [BufferObject.new, Buffer.new, toObject, sum]

end Buffer

/-- The abstract queue: its bytes, oldest first, and the strings handed out. -/
structure ByteQueue where
  bytes : List UInt8
  strings : List (List UInt8)
  deriving DecidableEq, Repr

/-- What each call means for the queue. Bytes join at the back, whether they
come from a caller or from the kernel, and leave at the front. -/
def ByteQueue.perform (queue : ByteQueue) : BufferOp → ByteQueue
  | .append data | .readFd (.yields data) => { queue with bytes := queue.bytes ++ data }
  | .retrieve len => { queue with bytes := queue.bytes.drop len }
  | .retrieveAsString len =>
      { bytes := queue.bytes.drop len, strings := queue.strings ++ [queue.bytes.take len] }
  | .retrieveAllAsString => { bytes := [], strings := queue.strings ++ [queue.bytes] }
  | .retrieveAll => { queue with bytes := [] }
  | .ensureWriteableBytes _ | .readFd (.fails _) => queue

/-- What callers and the kernel keep to, and that the vector stays below
`2 ^ 63` bytes. -/
structure BufferOp.Permitted (history : BufferHistory) (operation : BufferOp) : Prop where
  appended : ∀ data, operation = .append data → data.length < 2 ^ 63
  reserved : ∀ len, operation = .ensureWriteableBytes len → len < 2 ^ 63
  readable : ∀ len, operation = .retrieveAsString len → len ≤ history.object.readableBytes
  offered : ∀ bytes, operation = .readFd (.yields bytes) →
    bytes.length ≤ history.object.iovTotal
  stays : ∀ text next, history.object.perform operation = some (text, next) →
    next.buffer.length < 2 ^ 63

/-- What each call leaves in the buffer. -/
def Buffer.perform (self : Buffer) : BufferOp → Buffer
  | .append data => self.append data
  | .retrieve len => self.retrieve len
  | .retrieveAsString len => (self.retrieveAsString len).2
  | .retrieveAllAsString => self.retrieveAllAsString.2
  | .retrieveAll => self.retrieveAll
  | .ensureWriteableBytes len => self.ensureWriteableBytes len
  | .readFd answer => (self.readFd answer).2

/-- One permitted call on a `Buffer`: it succeeds, leaves a `Buffer`, and does
to the readable bytes what the queue does. -/
theorem Buffer.toObject_perform {self : Buffer} {strings : List (List UInt8)}
    {operation : BufferOp} (small : self.buffer.length < 2 ^ 63)
    (permitted : operation.Permitted ⟨self.toObject, strings⟩) :
    ∃ text, self.toObject.perform operation = some (text, (self.perform operation).toObject) ∧
      (⟨(self.perform operation).readable, strings ++ text.toList⟩ : ByteQueue) =
        ByteQueue.perform ⟨self.readable, strings⟩ operation := by
  cases operation with
  | append data =>
      refine ⟨none, ?_, ?_⟩
      · rw [BufferObject.perform, toObject_append small (permitted.appended data rfl)]
        rfl
      · simp [ByteQueue.perform, Buffer.perform]
  | retrieve len =>
      refine ⟨none, ?_, ?_⟩
      · rw [BufferObject.perform, toObject_retrieve small]
        rfl
      · simp [ByteQueue.perform, Buffer.perform]
  | retrieveAsString len =>
      have enough := permitted.readable len rfl
      rw [toObject_readableBytes small] at enough
      refine ⟨some (self.readable.take len), ?_, ?_⟩
      · rw [BufferObject.perform, toObject_retrieveAsString small enough]
        rfl
      · simp [ByteQueue.perform, Buffer.perform, retrieveAsString]
  | retrieveAllAsString =>
      refine ⟨some (self.readable.take self.readableBytes), ?_, ?_⟩
      · rw [BufferObject.perform, BufferObject.retrieveAllAsString, toObject_readableBytes small,
          toObject_retrieveAsString small (Nat.le_refl _)]
        rfl
      · simp [ByteQueue.perform, Buffer.perform, retrieveAllAsString, retrieveAsString,
          ← self.readable_length]
  | retrieveAll => exact ⟨none, rfl, by simp [ByteQueue.perform, Buffer.perform]⟩
  | ensureWriteableBytes len =>
      refine ⟨none, ?_, ?_⟩
      · rw [BufferObject.perform,
          toObject_ensureWriteableBytes small (permitted.reserved len rfl)]
        rfl
      · simp [ByteQueue.perform, Buffer.perform]
  | readFd answer =>
      cases answer with
      | fails errno => exact ⟨none, rfl, by simp [ByteQueue.perform, Buffer.perform]⟩
      | yields bytes =>
          have offered := permitted.offered bytes rfl
          rw [toObject_iovTotal small] at offered
          refine ⟨none, ?_, ?_⟩
          · rw [BufferObject.perform, toObject_readFd small offered]
            rfl
          · simp [ByteQueue.perform, Buffer.perform, (self.readFd_yields bytes).2,
              List.take_of_length_le offered]

def BufferHistory.queue (history : BufferHistory) : ByteQueue :=
  ⟨history.object.readable, history.strings⟩

def BufferHistory.start (initialSize : Nat) : BufferHistory := ⟨.new initialSize, []⟩

/-- The indices delimit a window of the vector, behind the reserved bytes. -/
structure BufferObject.Placed (self : BufferObject) : Prop where
  prepend_le : kCheapPrepend ≤ self.readerIndex
  reader_le : self.readerIndex ≤ self.writerIndex
  writer_le : self.writerIndex ≤ self.buffer.length

/-- The object is a `Buffer`, of a size at which nothing wraps. -/
def BufferHistory.IsBuffer (history : BufferHistory) : Prop :=
  ∃ self : Buffer, history.object = self.toObject ∧ self.buffer.length < 2 ^ 63

theorem BufferHistory.IsBuffer.start {initialSize : Nat}
    (small : kCheapPrepend + initialSize < 2 ^ 63) :
    (BufferHistory.start initialSize).IsBuffer :=
  ⟨Buffer.new initialSize, Buffer.toObject_new small, by simpa [Buffer.new] using small⟩

theorem BufferHistory.IsBuffer.placed {history : BufferHistory} (is_buffer : history.IsBuffer) :
    history.object.Placed := by
  obtain ⟨self, same, -⟩ := is_buffer
  rw [same]
  exact ⟨self.prepend_le, self.reader_le, self.writer_le⟩

theorem bufferMachine_step {history : BufferHistory} {operation : BufferOp}
    {text : Option (List UInt8)} {next : BufferObject}
    (performed : history.object.perform operation = some (text, next)) :
    bufferMachine.step history operation = some ⟨next, history.strings ++ text.toList⟩ := by
  simp only [bufferMachine, performed, Option.map_some]

/-- A permitted call is possible, keeps the object a `Buffer` and performs the
same call on the queue. -/
theorem BufferHistory.IsBuffer.step {history : BufferHistory} {operation : BufferOp}
    (is_buffer : history.IsBuffer) (permitted : operation.Permitted history) :
    ∃ next, bufferMachine.step history operation = some next ∧ next.IsBuffer ∧
      next.queue = history.queue.perform operation := by
  obtain ⟨object, strings⟩ := history
  obtain ⟨self, rfl, small⟩ := is_buffer
  obtain ⟨text, performed, queued⟩ := Buffer.toObject_perform small permitted
  have kept := permitted.stays text (self.perform operation).toObject performed
  exact ⟨_, bufferMachine_step performed, ⟨self.perform operation, rfl, kept⟩, queued⟩

theorem BufferHistory.IsBuffer.taken {history next : BufferHistory} {operation : BufferOp}
    (is_buffer : history.IsBuffer) (permitted : operation.Permitted history)
    (taken : bufferMachine.step history operation = some next) :
    next.IsBuffer ∧ next.queue = history.queue.perform operation := by
  obtain ⟨expected, possible, kept⟩ := is_buffer.step permitted
  obtain rfl := Option.some.inj (taken.symm.trans possible)
  exact kept

/-- For every initial size and every run of permitted calls: the indices are in
order, the readable bytes and the returned strings are those of the queue after
the same calls, and no further permitted call touches a byte outside. -/
theorem buffer_refines_queue {initialSize : Nat} (small : kCheapPrepend + initialSize < 2 ^ 63)
    {operations : List BufferOp} {final : BufferHistory}
    (run : bufferMachine.Runs BufferOp.Permitted (.start initialSize) operations final) :
    final.object.Placed ∧
      final.queue = operations.foldl ByteQueue.perform ⟨[], []⟩ ∧
      ∀ operation : BufferOp, operation.Permitted final →
        (bufferMachine.step final operation).isSome := by
  have begins := BufferHistory.IsBuffer.start small
  have guarded : bufferMachine.Runs
      (fun history operation => operation.Permitted history ∧ history.IsBuffer)
      (.start initialSize) operations final := by
    refine run.strengthen BufferHistory.IsBuffer ?_ begins
    intro history operation next permitted taken is_buffer
    exact ⟨⟨permitted, is_buffer⟩, (is_buffer.taken permitted taken).1⟩
  have ends : final.IsBuffer := by
    refine run.invariant BufferHistory.IsBuffer ?_ begins
    intro history operation next permitted taken is_buffer
    exact (is_buffer.taken permitted taken).1
  have queued : final.queue =
      operations.foldl ByteQueue.perform (BufferHistory.start initialSize).queue := by
    refine guarded.accumulates ByteQueue.perform BufferHistory.queue ?_
    intro history operation next allowed taken
    exact (allowed.2.taken allowed.1 taken).2
  refine ⟨ends.placed, ?_, ?_⟩
  · simpa [BufferHistory.queue, BufferHistory.start, Buffer.toObject_new small] using queued
  · intro operation permitted
    obtain ⟨next, possible, -⟩ := ends.step permitted
    simp [possible]

theorem buffer_refines_queue_grown :
    ∃ final, bufferMachine.Runs BufferOp.Permitted (.start 0)
        [.append [1, 2, 3], .retrieveAsString 2] final ∧
      final.object.Placed ∧ final.queue = ⟨[3], [[1, 2]]⟩ := by
  have grown : (BufferObject.new 0).perform (.append [1, 2, 3]) =
      some (none, ⟨List.replicate 8 0 ++ [1, 2, 3], 8, 11⟩) := by decide
  have cut : BufferObject.perform ⟨List.replicate 8 0 ++ [1, 2, 3], 8, 11⟩
      (.retrieveAsString 2) =
        some (some [1, 2], ⟨List.replicate 8 0 ++ [1, 2, 3], 10, 11⟩) := by decide
  have run : bufferMachine.Runs BufferOp.Permitted (.start 0)
      [.append [1, 2, 3], .retrieveAsString 2]
      ⟨⟨List.replicate 8 0 ++ [1, 2, 3], 10, 11⟩, [[1, 2]]⟩ := by
    refine .cons ⟨by simp, by simp, by simp, by simp, ?_⟩ (bufferMachine_step grown) <|
      .cons ⟨by simp, by simp, ?_, by simp, ?_⟩ (bufferMachine_step cut) .nil
    · intro text next performed
      cases grown.symm.trans performed
      decide
    · intro len same
      cases same
      decide
    · intro text next performed
      cases cut.symm.trans performed
      decide
  obtain ⟨placed, queued, -⟩ := buffer_refines_queue (by decide) run
  exact ⟨_, run, placed, queued⟩

end TalkSystem.Net
