import TalkSystem.Base.ConfigGrammar
import TalkSystem.Base.ConfigRoundTripProperties
import TalkSystem.Machine.Splitting

/-!
# Loading a file against its grammar

`fgets` returns a line of more than 255 bytes in pieces, and each piece is
parsed like a line. On shorter lines loading follows the grammar.
-/

set_option autoImplicit false

namespace TalkSystem.Base

/-- A line as `fgets` cuts it. -/
def pieces (line : Bytes) : List Bytes :=
  if line.length ≤ 255 then [line] else line.take 255 :: pieces (line.drop 255)
termination_by line.length
decreasing_by
  simp only [List.length_drop]
  omega

theorem pieces_short {line : Bytes} (short : line.length ≤ 255) : pieces line = [line] := by
  rw [pieces, if_pos short]

theorem pieces_long {line : Bytes} (long : ¬ line.length ≤ 255) :
    pieces line = line.take 255 :: pieces (line.drop 255) := by
  rw [pieces, if_neg long]

@[simp] theorem grammarBindings_append (front back : List Bytes) :
    grammarBindings (front ++ back) = grammarBindings front ++ grammarBindings back :=
  List.filterMap_append

/-- Wherever a line that does not fit into the buffer and its pieces disagree
about a key, the first binding of the key is the same for both readings of the
file. -/
def CutsAgree (lines : List Bytes) : Prop :=
  ∀ line ∈ lines, 255 < line.length → ∀ key : Bytes,
    (grammarBindings (pieces line)).lookup key ≠ (grammarBindings [line]).lookup key →
    (grammarBindings (lines.flatMap pieces)).lookup key = (grammarBindings lines).lookup key

/-- A key about which no line disagrees with its pieces is bound alike. -/
theorem lookup_flatMap_pieces {lines : List Bytes} {key : Bytes}
    (agree : ∀ line ∈ lines,
      (grammarBindings (pieces line)).lookup key = (grammarBindings [line]).lookup key) :
    (grammarBindings (lines.flatMap pieces)).lookup key = (grammarBindings lines).lookup key := by
  induction lines with
  | nil => rfl
  | cons line lines ih =>
      have rest := ih fun other member => agree other (List.mem_cons_of_mem line member)
      rw [List.flatMap_cons, grammarBindings_append, List.lookup_append, rest,
        agree line List.mem_cons_self, ← List.lookup_append, ← grammarBindings_append,
        List.singleton_append]

theorem cutsAgree_iff (lines : List Bytes) :
    CutsAgree lines ↔ ∀ key : Bytes,
      (grammarBindings (lines.flatMap pieces)).lookup key =
        (grammarBindings lines).lookup key := by
  constructor
  · intro cuts key
    by_cases agree : ∀ line ∈ lines,
        (grammarBindings (pieces line)).lookup key = (grammarBindings [line]).lookup key
    · exact lookup_flatMap_pieces agree
    · push Not at agree
      obtain ⟨line, member, differ⟩ := agree
      refine cuts line member ?_ key differ
      by_contra short
      exact differ (by rw [pieces_short (by omega)])
  · intro same line _ _ key _
    exact same key

namespace CConfigFileReader

/-! ## The buffers of a line -/

theorem bufBinding_piece {piece tail : Bytes} (no_nul : 0 ∉ piece) (free : newline ∉ piece)
    (short : piece.length ≤ 255) (ending : tail = [] ∨ tail = [newline]) :
    bufBinding (piece ++ tail) = lineGrammar (uncommented piece) := by
  have part : (uncommented piece).length ≤ piece.length := (List.takeWhile_sublist _).length_le
  rw [bufBinding, cutLine_eq no_nul free ending]
  exact lineBinding_eq (Nat.le_trans part (by omega))

theorem fileBufs_cut {line : Bytes} (free : newline ∉ line) (long : 255 ≤ line.length)
    (rest : Bytes) :
    fileBufs (line ++ rest) = line.take 255 :: fileBufs (line.drop 255 ++ rest) := by
  have front_free : newline ∉ line.take 255 :=
    fun member => free (List.mem_of_mem_take member)
  have copied := fgetsBytes_copies front_free 0 (line.drop 255 ++ rest)
  rw [← List.append_assoc, List.take_append_drop, List.length_take, Nat.min_eq_left long,
    fgetsBytes, List.append_nil] at copied
  have more : line ++ rest ≠ [] := by
    rintro empty
    rw [List.append_eq_nil_iff] at empty
    simp [empty.1] at long
  rw [fileBufs_of_ne_nil more, copied]

theorem fileBindings_cut {line : Bytes} (no_nul : 0 ∉ line) (free : newline ∉ line)
    (long : 255 ≤ line.length) (rest : Bytes) :
    fileBindings (line ++ rest) =
      grammarBindings [line.take 255] ++ fileBindings (line.drop 255 ++ rest) := by
  have bound : bufBinding (line.take 255 ++ []) = lineGrammar (uncommented (line.take 255)) :=
    bufBinding_piece (fun member => no_nul (List.mem_of_mem_take member))
      (fun member => free (List.mem_of_mem_take member)) (by simp) (.inl rfl)
  rw [List.append_nil] at bound
  rw [fileBindings, fileBufs_cut free long, ← List.singleton_append, List.filterMap_append]
  simp only [grammarBindings, List.filterMap_cons, List.filterMap_nil, bound, fileBindings]

/-- A line with its newline binds what its pieces bind. A newline alone in a
buffer is an empty line. -/
theorem fileBindings_line {line : Bytes} (no_nul : 0 ∉ line) (free : newline ∉ line)
    (rest : Bytes) :
    fileBindings (line ++ newline :: rest) =
      grammarBindings (pieces line) ++ fileBindings rest := by
  induction line using pieces.induct with
  | case1 line short =>
      rw [pieces_short short]
      rcases Nat.lt_or_ge line.length 255 with fits | full
      · have bound := bufBinding_piece no_nul free short (.inr rfl)
        rw [fileBindings, fileBufs_line free fits, ← List.singleton_append, List.filterMap_append]
        simp only [grammarBindings, List.filterMap_cons, List.filterMap_nil, bound, fileBindings]
      · have whole : line.take 255 = line := List.take_of_length_le short
        have nothing : line.drop 255 = [] := List.drop_eq_nil_of_le short
        have empty : fileBindings (newline :: rest) = fileBindings rest := by
          have alone : fileBufs ([] ++ newline :: rest) = ([] ++ [newline]) :: fileBufs rest :=
            fileBufs_line (by simp) (by simp) rest
          rw [fileBindings, ← List.nil_append (newline :: rest), alone]
          rfl
        rw [fileBindings_cut no_nul free full, whole, nothing, List.nil_append, empty]
  | case2 line long ih =>
      have later := ih (fun member => no_nul (List.mem_of_mem_drop member))
        (fun member => free (List.mem_of_mem_drop member))
      rw [pieces_long long, fileBindings_cut no_nul free (by omega), later, ← List.append_assoc,
        ← grammarBindings_append, List.singleton_append]

/-- The last line has no newline. -/
theorem fileBindings_last {line : Bytes} (no_nul : 0 ∉ line) (free : newline ∉ line) :
    fileBindings line = grammarBindings (pieces line) := by
  induction line using pieces.induct with
  | case1 line short =>
      rw [pieces_short short]
      by_cases empty : line = []
      · rw [empty]
        rfl
      · have bound : bufBinding (line ++ []) = lineGrammar (uncommented line) :=
          bufBinding_piece no_nul free short (.inl rfl)
        rw [List.append_nil] at bound
        rw [fileBindings, fileBufs_last free short empty]
        simp only [grammarBindings, List.filterMap_cons, List.filterMap_nil, bound]
  | case2 line long ih =>
      have later := ih (fun member => no_nul (List.mem_of_mem_drop member))
        (fun member => free (List.mem_of_mem_drop member))
      have cut := fileBindings_cut no_nul free (by omega) []
      rw [List.append_nil, List.append_nil] at cut
      rw [pieces_long long, cut, later, ← grammarBindings_append, List.singleton_append]

/-- `_LoadFile` follows the grammar on the pieces of the lines. -/
theorem fileBindings_eq {contents : Bytes} (no_nul : 0 ∉ contents) :
    fileBindings contents = grammarBindings ((contents.splitOn newline).flatMap pieces) := by
  induction contents using Splitting.induction newline with
  | last line free =>
      rw [List.splitOn_eq_singleton free, List.flatMap_singleton, fileBindings_last no_nul free]
  | step line rest free ih =>
      rw [List.mem_append, not_or] at no_nul
      have rest_no_nul : 0 ∉ rest := fun member => no_nul.2 (List.mem_cons_of_mem newline member)
      rw [fileBindings_line no_nul.1 free, ih rest_no_nul,
        List.splitOn_append_cons_self_of_not_mem free, List.flatMap_cons, grammarBindings_append]

theorem getElem?_new {files : Files} {filename contents : Bytes}
    (readable : files filename = some contents) (no_nul : 0 ∉ contents) (uninitialised : Bool)
    (key : Bytes) :
    (new uninitialised files filename).configMap[key]? =
      (grammarBindings ((contents.splitOn newline).flatMap pieces)).lookup key := by
  rw [new_readable readable, getElem?_loadContents, Std.TreeMap.getElem?_emptyc,
    Option.none_or, fileBindings_eq no_nul]

/-- Every name can be opened, with the same contents. -/
def everyFile (contents : Bytes) : Files := fun _ => some contents

/-- A comment with an entry behind its first 255 bytes. -/
def longComment : Bytes := (hashSign :: List.replicate 254 32) ++ ascii "a=1"

theorem grammarBindings_comment (text : Bytes) (lines : List Bytes) :
    grammarBindings ((hashSign :: text) :: lines) = grammarBindings lines := by
  have nothing : uncommented (hashSign :: text) = [] := by simp [uncommented]
  simp only [grammarBindings, List.filterMap_cons, nothing]
  rfl

theorem mem_longComment {byte : UInt8} (member : byte ∈ longComment) :
    byte = hashSign ∨ byte = 32 ∨ byte ∈ ascii "a=1" := by
  rcases List.mem_append.mp member with comment | line
  · rcases List.mem_cons.mp comment with hash | blank
    · exact .inl hash
    · exact .inr (.inl (List.eq_of_mem_replicate blank))
  · exact .inr (.inr line)

theorem pieces_longComment :
    pieces longComment = [hashSign :: List.replicate 254 32, ascii "a=1"] := by
  have size : (hashSign :: List.replicate 254 32).length = 255 := by
    rw [List.length_cons, List.length_replicate]
  have front : longComment.take 255 = hashSign :: List.replicate 254 32 := List.take_left' size
  have back : longComment.drop 255 = ascii "a=1" := List.drop_left' size
  have long : ¬ longComment.length ≤ 255 := by
    rw [longComment, List.length_append, size]
    decide
  rw [pieces_long long, front, back, pieces_short (by decide)]

end CConfigFileReader

end TalkSystem.Base
