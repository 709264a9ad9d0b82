import TalkSystem.Base.ConfigFileReaderProperties

/-!
# The grammar of a configuration file

What the file means, whatever buffers it is read through: lines with comments,
at most one binding on each.
-/

set_option autoImplicit false

namespace TalkSystem.Base

/-- A text without the spaces and tabs at its ends. -/
def trimBlanks (text : Bytes) : Bytes := (text.dropWhile isBlank).rdropWhile isBlank

def beforeSign (line : Bytes) : Bytes := line.takeWhile (· ≠ equalsSign)
def afterSign (line : Bytes) : Bytes := (line.dropWhile (· ≠ equalsSign)).drop 1

/-- There is something to trim a side down to. -/
def Visible (side : Bytes) : Prop := ∃ byte ∈ side, isBlank byte = false

instance (side : Bytes) : Decidable (Visible side) :=
  inferInstanceAs (Decidable (∃ byte ∈ side, isBlank byte = false))

def lineGrammar (line : Bytes) : Option (Bytes × Bytes) :=
  if equalsSign ∈ line ∧ Visible (beforeSign line) ∧ Visible (afterSign line) then
    some (trimBlanks (beforeSign line), trimBlanks (afterSign line))
  else
    none

def uncommented (line : Bytes) : Bytes := line.takeWhile (· ≠ hashSign)

/-- The bindings of some lines, in order. The first of a key is the one that
counts. -/
def grammarBindings (lines : List Bytes) : List (Bytes × Bytes) :=
  lines.filterMap fun line => lineGrammar (uncommented line)

/-! ## Trimming -/

theorem dropWhile_isBlank_eq_nil_iff {side : Bytes} :
    side.dropWhile isBlank = [] ↔ ¬ Visible side := by
  rw [List.dropWhile_eq_nil_iff, Visible]
  push Not
  simp

theorem trimBlanks_eq_nil_iff {side : Bytes} : trimBlanks side = [] ↔ ¬ Visible side := by
  rw [← dropWhile_isBlank_eq_nil_iff, trimBlanks, List.rdropWhile_eq_nil_iff]
  constructor
  · intro blank
    by_contra more
    have head := List.head_dropWhile_not isBlank more
    rw [blank _ (List.head_mem more)] at head
    cases head
  · intro empty
    simp [empty]

/-- A side is its trimmed text between blanks. -/
theorem side_shape {side : Bytes} (visible : Visible side) :
    ∃ lead trail, side = lead ++ (trimBlanks side ++ trail) ∧
      (∀ byte ∈ lead, isBlank byte = true) ∧ (∀ byte ∈ trail, isBlank byte = true) ∧
      CConfigFileReader.Trimmed (trimBlanks side) := by
  have more : side.dropWhile isBlank ≠ [] :=
    fun empty => dropWhile_isBlank_eq_nil_iff.mp empty visible
  refine ⟨side.takeWhile isBlank, (side.dropWhile isBlank).rtakeWhile isBlank, ?_,
    fun byte member => List.mem_takeWhile_imp member, fun byte member =>
      List.mem_rtakeWhile_imp member, CConfigFileReader.trimmed_rdropWhile more⟩
  rw [trimBlanks, List.rdropWhile_append_rtakeWhile, List.takeWhile_append_dropWhile]

theorem dropWhile_sign {line : Bytes} (sign : equalsSign ∈ line) :
    line.dropWhile (· ≠ equalsSign) = equalsSign :: afterSign line := by
  rw [afterSign]
  cases rest : line.dropWhile (· ≠ equalsSign) with
  | nil =>
      rw [List.dropWhile_eq_nil_iff] at rest
      simpa using rest equalsSign sign
  | cons first after =>
      have head := List.head?_dropWhile_not (· ≠ equalsSign) line
      rw [rest] at head
      simpa using head

/-- A line is the sides of its first `=`. -/
theorem sides_of_mem {line : Bytes} (sign : equalsSign ∈ line) :
    beforeSign line ++ equalsSign :: afterSign line = line := by
  rw [← dropWhile_sign sign]
  exact List.takeWhile_append_dropWhile

theorem sides_append {before : Bytes} (unsigned : equalsSign ∉ before) (after : Bytes) :
    beforeSign (before ++ equalsSign :: after) = before ∧
      afterSign (before ++ equalsSign :: after) = after := by
  have unlike : ∀ byte ∈ before, decide (byte ≠ equalsSign) = true := by
    intro byte member
    have different : byte ≠ equalsSign := fun same => unsigned (same ▸ member)
    simpa using different
  rw [beforeSign, afterSign, List.takeWhile_append_of_pos unlike,
    List.dropWhile_append_of_pos unlike]
  simp

theorem sign_not_mem_beforeSign (line : Bytes) : equalsSign ∉ beforeSign line := by
  intro member
  simpa using List.mem_takeWhile_imp member

namespace CConfigFileReader

theorem trimSpace_eq {side : Bytes} (short : side.length ≤ 2 ^ 31) :
    trimSpace side = if Visible side then some (trimBlanks side) else none := by
  by_cases visible : Visible side
  · have more : side.dropWhile isBlank ≠ [] :=
      fun empty => dropWhile_isBlank_eq_nil_iff.mp empty visible
    have some_text : 0 < (trimBlanks side).length :=
      List.length_pos_iff.mpr fun empty => trimBlanks_eq_nil_iff.mp empty visible
    have part : (trimBlanks side).length ≤ side.length :=
      ((List.rdropWhile_prefix isBlank _).sublist.trans (List.dropWhile_sublist _)).length_le
    have length : castInt ((trimBlanks side).length - 1) = (trimBlanks side).length - 1 := by
      apply castInt_eq <;> omega
    rw [trimSpace, if_neg more, if_pos visible]
    change (if castInt ((trimBlanks side).length - 1) + 1 ≤ 0 then none
      else some (trimBlanks side)) = _
    rw [length, if_neg (by omega)]
  · rw [trimSpace, if_pos (dropWhile_isBlank_eq_nil_iff.mpr visible), if_neg visible]

/-- `_ParseLine` follows the grammar on every line of a buffer. -/
theorem lineBinding_eq {line : Bytes} (short : line.length ≤ 2 ^ 31) :
    lineBinding line = lineGrammar line := by
  by_cases sign : equalsSign ∈ line
  · have sides := congrArg List.length (sides_of_mem sign)
    simp only [List.length_append, List.length_cons] at sides
    rw [lineBinding, dropWhile_sign sign]
    dsimp only
    rw [show line.takeWhile (· ≠ equalsSign) = beforeSign line from rfl,
      trimSpace_eq (by omega), trimSpace_eq (by omega), lineGrammar]
    by_cases key : Visible (beforeSign line) <;> by_cases value : Visible (afterSign line) <;>
      simp [sign, key, value]
  · have nothing : line.dropWhile (· ≠ equalsSign) = [] := by
      rw [List.dropWhile_eq_nil_iff]
      intro byte member
      have different : byte ≠ equalsSign := fun same => sign (same ▸ member)
      simpa using different
    rw [lineBinding, nothing, lineGrammar, if_neg fun holds => sign holds.1]

end CConfigFileReader

end TalkSystem.Base
