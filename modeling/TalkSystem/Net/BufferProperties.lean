import TalkSystem.Net.Buffer

/-! Each operation of `Buffer` stated by its effect on the readable bytes. The
connection model uses these laws only and never looks at the indices. -/

set_option autoImplicit false

namespace TalkSystem.Net.Buffer

theorem readable_mk (bytes : List UInt8) (reader writer : Nat)
    (reserved : kCheapPrepend ≤ reader) (ordered : reader ≤ writer)
    (inside : writer ≤ bytes.length) :
    (Buffer.mk bytes reader writer reserved ordered inside).readable =
      (bytes.drop reader).take (writer - reader) := rfl

theorem readable_length (self : Buffer) : self.readable.length = self.readableBytes := by
  have := self.reader_le
  have := self.writer_le
  simp only [readable, peek, readableBytes, List.length_take, List.length_drop]
  omega

theorem readableBytes_eq_zero_iff (self : Buffer) :
    self.readableBytes = 0 ↔ self.readable = [] := by
  rw [← readable_length, List.length_eq_zero_iff]

@[simp] theorem new_readable (initialSize : Nat) : (new initialSize).readable = [] := by
  simp [readable, readableBytes, new]

@[simp] theorem retrieveAll_readable (self : Buffer) : self.retrieveAll.readable = [] := by
  simp [readable, readableBytes, retrieveAll]

/-- `retrieve` drops from the front; asking for more empties the buffer. -/
@[simp] theorem retrieve_readable (self : Buffer) (len : Nat) :
    (self.retrieve len).readable = self.readable.drop len := by
  unfold retrieve
  split
  · next short =>
      simp only [readable, peek, readableBytes, List.drop_take, List.drop_drop] at short ⊢
      congr 1
      omega
  · next enough =>
      have all : self.readable.length ≤ len := by
        rw [readable_length]
        omega
      rw [retrieveAll_readable, List.drop_eq_nil_of_le all]

private theorem window_resize (bytes : List UInt8) (reader writer size : Nat)
    (inside : writer ≤ bytes.length) (grows : writer ≤ size) :
    ((resize bytes size).drop reader).take (writer - reader) =
      (bytes.drop reader).take (writer - reader) := by
  apply List.ext_getElem?
  intro position
  by_cases within : position < writer - reader
  · have early : reader + position < (bytes.take size).length := by
      simp only [List.length_take]
      omega
    rw [List.getElem?_take_of_lt within, List.getElem?_take_of_lt within,
      List.getElem?_drop, List.getElem?_drop, resize, List.getElem?_append_left early,
      List.getElem?_take_of_lt (by omega)]
  · rw [List.getElem?_take_eq_none (by omega), List.getElem?_take_eq_none (by omega)]

private theorem window_copyInto (target source : List UInt8) (start : Nat)
    (inside : start + source.length ≤ target.length) :
    ((copyInto target start source inside).drop start).take source.length = source := by
  have front : (target.take start).length = start := by
    simp only [List.length_take]
    omega
  simp only [copyInto, List.append_assoc]
  rw [List.drop_append_of_le_length (by omega), List.drop_eq_nil_of_le (by omega),
    List.nil_append, List.take_append_of_le_length (Nat.le_refl _), List.take_length]

@[simp] theorem makeSpace_readable (self : Buffer) (len : Nat) :
    (self.makeSpace len).readable = self.readable := by
  have lengthEq := self.readable_length
  unfold makeSpace
  split
  · simp only [readable, peek, readableBytes]
    exact window_resize _ _ _ _ self.writer_le (by omega)
  · rw [readable_mk, Nat.add_sub_cancel_left, ← lengthEq]
    exact window_copyInto _ _ _ _

@[simp] theorem ensureWriteableBytes_readable (self : Buffer) (len : Nat) :
    (self.ensureWriteableBytes len).readable = self.readable := by
  unfold ensureWriteableBytes
  split
  · exact makeSpace_readable self len
  · rfl

private theorem window_extend (target data : List UInt8) (reader writer : Nat)
    (ordered : reader ≤ writer) (inside : writer + data.length ≤ target.length) :
    ((copyInto target writer data inside).drop reader).take (writer + data.length - reader) =
      (target.drop reader).take (writer - reader) ++ data := by
  have front : (target.take writer).length = writer := by
    simp only [List.length_take]
    omega
  have split : writer + data.length - reader = (writer - reader) + data.length := by omega
  simp only [copyInto, List.append_assoc]
  rw [List.drop_append_of_le_length (by omega), List.drop_take, split, List.take_append,
    List.take_append]
  have kept : ((target.drop reader).take (writer - reader)).length = writer - reader := by
    simp only [List.length_take, List.length_drop]
    omega
  rw [kept, List.take_of_length_le (by omega), Nat.add_sub_cancel_left, List.take_length,
    Nat.sub_self, List.take_zero, List.append_nil]

@[simp] theorem append_readable (self : Buffer) (data : List UInt8) :
    (self.append data).readable = self.readable ++ data := by
  rw [← ensureWriteableBytes_readable self data.length]
  exact window_extend _ _ _ _ (self.ensureWriteableBytes data.length).reader_le
    (self.ensureWriteableBytes_room data.length)

@[simp] theorem writeFd_eq_readable (self : Buffer) : self.writeFd = self.readable := rfl

@[simp] theorem readFd_fails (self : Buffer) (errno : Errno) :
    self.readFd (.fails errno) = (none, self) := rfl

/-- `readFd` reports the bytes the kernel delivered, at most what the two
vectors hold, and appends exactly those. -/
theorem readFd_yields (self : Buffer) (available : List UInt8) :
    (self.readFd (.yields available)).1 = some (available.take self.readCapacity) ∧
      (self.readFd (.yields available)).2.readable =
        self.readable ++ available.take self.readCapacity := by
  simp only [readFd]
  split
  · next fits =>
      have room : self.writerIndex + (available.take self.readCapacity).length ≤
          self.buffer.length := by
        have := self.writer_le
        simp only [writableBytes] at fits
        omega
      exact ⟨rfl, window_extend _ _ _ _ self.reader_le room⟩
  · next long =>
      refine ⟨rfl, ?_⟩
      rw [append_readable]
      have direct : ((available.take self.readCapacity).take self.writableBytes).length =
          self.writableBytes := by
        simp only [List.length_take] at long ⊢
        omega
      have ending : self.buffer.length = self.writerIndex +
          ((available.take self.readCapacity).take self.writableBytes).length := by
        have := self.writer_le
        rw [direct]
        simp only [writableBytes]
        omega
      have room := Nat.le_of_eq ending.symm
      have extended := window_extend self.buffer
        ((available.take self.readCapacity).take self.writableBytes) self.readerIndex
        self.writerIndex self.reader_le room
      rw [← ending] at extended
      conv_rhs => rw [← List.take_append_drop self.writableBytes
        (available.take self.readCapacity), ← List.append_assoc]
      exact congrArg (· ++ (available.take self.readCapacity).drop self.writableBytes) extended

end TalkSystem.Net.Buffer
