import TalkSystem.Net.BufferQueueProperties

/-!
# How far a `Buffer` grows

`makeSpace` leaves the dead bytes before the reader index where they are when
it grows the vector. It grows only while there are fewer of them than the
request has bytes, so the new size stays below twice the contents.
-/

set_option autoImplicit false

namespace TalkSystem.Net

namespace Buffer

variable {self : Buffer}

/-! ## One call -/

theorem append_readableBytes (data : List UInt8) :
    (self.append data).readableBytes = self.readableBytes + data.length := by
  rw [← readable_length, append_readable, List.length_append, readable_length]

/-- The only place where the vector changes its size. -/
theorem ensureWriteableBytes_growth (len : Nat) :
    (self.ensureWriteableBytes len).buffer.length = self.buffer.length ∨
      (self.ensureWriteableBytes len).buffer.length <
        self.readableBytes + 2 * len + kCheapPrepend := by
  have ordered := self.reader_le
  have inside := self.writer_le
  unfold ensureWriteableBytes
  split
  · unfold makeSpace
    split
    · next scarce =>
        right
        simp only [writableBytes, prependableBytes] at scarce
        simp only [resize_length, readableBytes]
        omega
    · left
      simp only [copyInto_length]
  · exact .inl rfl

theorem append_growth (data : List UInt8) :
    (self.append data).buffer.length = self.buffer.length ∨
      (self.append data).buffer.length ≤
        2 * (self.append data).readableBytes + kCheapPrepend := by
  have length_eq : (self.append data).buffer.length =
      (self.ensureWriteableBytes data.length).buffer.length := by
    simp only [append, copyInto_length]
  rw [length_eq, append_readableBytes]
  rcases self.ensureWriteableBytes_growth data.length with same | grown
  · exact .inl same
  · right
    omega

theorem retrieve_buffer (len : Nat) : (self.retrieve len).buffer = self.buffer := by
  unfold retrieve
  split <;> rfl

/-- Only what spills into `extrabuf` can make the vector grow. -/
theorem readFd_growth (answer : ReadAnswer) :
    (self.readFd answer).2.buffer.length = self.buffer.length ∨
      (self.readFd answer).2.buffer.length ≤
        2 * (self.readFd answer).2.readableBytes + kCheapPrepend := by
  cases answer with
  | fails errno => exact .inl rfl
  | yields available =>
      simp only [readFd]
      split
      · left
        simp only [copyInto_length]
      · refine (append_growth _).imp_left fun same => same.trans ?_
        simp only [copyInto_length]

end Buffer

/-! ## Runs -/

/-- The calls of a client that never reserves space itself. -/
structure BufferOp.Reserveless (buffer : Buffer) (operation : BufferOp) : Prop where
  reserved : ∀ len, operation ≠ .ensureWriteableBytes len
  readable : ∀ len, operation = .retrieveAsString len → len ≤ buffer.readableBytes

theorem BufferOp.Reserveless.growth {self : Buffer} {operation : BufferOp}
    (reserveless : operation.Reserveless self) :
    (self.perform operation).buffer.length = self.buffer.length ∨
      (self.perform operation).buffer.length ≤
        2 * (self.perform operation).readableBytes + kCheapPrepend := by
  cases operation with
  | append data => exact Buffer.append_growth data
  | retrieve len => exact .inl (congrArg List.length (Buffer.retrieve_buffer len))
  | retrieveAsString len => exact .inl (congrArg List.length (Buffer.retrieve_buffer len))
  | retrieveAllAsString => exact .inl (congrArg List.length (Buffer.retrieve_buffer _))
  | retrieveAll => exact .inl rfl
  | ensureWriteableBytes len => exact (reserveless.reserved len rfl).elim
  | readFd answer => exact Buffer.readFd_growth answer

/-- A buffer with the most readable bytes it has had after a call so far. -/
structure BufferPeak where
  buffer : Buffer
  peak : Nat
  deriving DecidableEq

def BufferPeak.start (initialSize : Nat) : BufferPeak := ⟨.new initialSize, 0⟩

def peakMachine : Machine BufferPeak BufferOp where
  step state operation :=
    let next := state.buffer.perform operation
    some ⟨next, max state.peak next.readableBytes⟩

theorem buffer_growth_bounded (initialSize : Nat) {operations : List BufferOp}
    {final : BufferPeak}
    (run : peakMachine.Runs (fun state operation => operation.Reserveless state.buffer)
      (.start initialSize) operations final) :
    final.buffer.buffer.length ≤
      max (kCheapPrepend + initialSize) (2 * final.peak + kCheapPrepend) := by
  refine run.invariant (fun state => state.buffer.buffer.length ≤
    max (kCheapPrepend + initialSize) (2 * state.peak + kCheapPrepend)) ?_ ?_
  · intro state operation next reserveless taken bounded
    obtain rfl := Option.some.inj taken
    dsimp only
    rcases reserveless.growth with same | grown <;> omega
  · simp [BufferPeak.start, Buffer.new]

/-- One byte is left behind, so the second `append` cannot use the 8 dead bytes:
10 readable bytes lie in a vector of 26. -/
theorem buffer_growth_bounded_leftover :
    ∃ final, peakMachine.Runs (fun state operation => operation.Reserveless state.buffer)
        (.start 0) [.append (List.replicate 9 0), .retrieve 8, .append (List.replicate 9 1)]
        final ∧
      final.buffer.buffer.length ≤ max (kCheapPrepend + 0) (2 * final.peak + kCheapPrepend) := by
  obtain ⟨final, run⟩ : ∃ final, peakMachine.Runs
      (fun state operation => operation.Reserveless state.buffer) (.start 0)
      [.append (List.replicate 9 0), .retrieve 8, .append (List.replicate 9 1)] final := by
    refine ⟨_, .cons ⟨by simp, by simp⟩ rfl <| .cons ⟨by simp, by simp⟩ rfl <|
      .cons ⟨by simp, by simp⟩ rfl .nil⟩
  exact ⟨final, run, buffer_growth_bounded 0 run⟩

end TalkSystem.Net
