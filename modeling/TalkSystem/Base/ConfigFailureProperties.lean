import TalkSystem.Base.ConfigRoundTripProperties

/-!
# Failed calls of `SetConfigValue`

The map is updated before the file is opened, and the file is emptied before
the entries are written. A call that fails later than the check of `m_load_ok`
is therefore noticed in the map, in the file or in both, unless it would have
written again what was there.
-/

set_option autoImplicit false

namespace TalkSystem.Base.CConfigFileReader

/-! ## Where writing stops -/

/-- Of the writes for `size` entries the one with number `index` is the first to
fail, with `count` bytes in the file. -/
structure FirstFailure (answers : WriteFileAnswers) (size index count : Nat) : Prop where
  inside : index < size
  fails : answers.fwrite index = some count
  earlier : ∀ before < index, answers.fwrite before = none

/-- The entries before `index`, and `count` bytes of the next one. -/
def tornText (entries : List (Bytes × Bytes)) (index count : Nat) : Bytes :=
  fileText (entries.take index) ++ (fileText (entries[index]?.toList)).take count

theorem writeEntries_next {answers : WriteFileAnswers} {index : Nat}
    (writes : answers.fwrite index = none) (entry : Bytes × Bytes)
    (entries : List (Bytes × Bytes)) (written : Bytes) :
    writeEntries answers index (entry :: entries) written =
      writeEntries answers (index + 1) entries (written ++ szPaire entry) := by
  simp only [writeEntries, writes]

theorem writeEntries_torn {answers : WriteFileAnswers} {start index count : Nat}
    {entries : List (Bytes × Bytes)} (inside : index < entries.length)
    (fails : answers.fwrite (start + index) = some count)
    (earlier : ∀ before < index, answers.fwrite (start + before) = none) (written : Bytes) :
    writeEntries answers start entries written =
      (false, written ++ tornText entries index count) := by
  induction entries generalizing start index written with
  | nil => simp at inside
  | cons entry entries ih =>
      cases index with
      | zero =>
          rw [Nat.add_zero] at fails
          simp [writeEntries, fails, tornText, fileText]
      | succ index =>
          have later : start + 1 + index = start + (index + 1) := by omega
          have first : answers.fwrite start = none := earlier 0 (Nat.succ_pos index)
          rw [writeEntries_next first, ih (by simpa using inside) (later ▸ fails)]
          · simp [tornText]
          · intro before smaller
            have shifted : start + 1 + before = start + (before + 1) := by omega
            rw [shifted]
            exact earlier (before + 1) (by omega)

/-- Either every entry is written or there is a first failure. -/
theorem firstFailure_or_none (answers : WriteFileAnswers) (size : Nat) :
    (∀ index < size, answers.fwrite index = none) ∨
      ∃ index count, FirstFailure answers size index count := by
  induction size with
  | zero => exact .inl (by simp)
  | succ size ih =>
      rcases ih with all | ⟨index, count, failure⟩
      · cases last : answers.fwrite size with
        | none =>
            left
            intro index smaller
            rcases Nat.lt_succ_iff_lt_or_eq.mp smaller with before | rfl
            · exact all index before
            · exact last
        | some count => exact .inr ⟨size, count, Nat.lt_succ_self size, last, all⟩
      · exact .inr ⟨index, count, Nat.lt_succ_of_lt failure.inside, failure.fails,
          failure.earlier⟩

theorem FirstFailure.writeEntries {answers : WriteFileAnswers} {index count : Nat}
    {entries : List (Bytes × Bytes)}
    (failure : FirstFailure answers entries.length index count) :
    writeEntries answers 0 entries [] = (false, tornText entries index count) := by
  refine writeEntries_torn failure.inside ?_ ?_ []
  · rw [Nat.zero_add]
    exact failure.fails
  · intro before smaller
    rw [Nat.zero_add]
    exact failure.earlier before smaller

theorem FirstFailure.unique {answers : WriteFileAnswers} {size index count other left : Nat}
    (failure : FirstFailure answers size index count)
    (again : FirstFailure answers size other left) : index = other ∧ count = left := by
  have same : index = other := by
    rcases Nat.lt_trichotomy index other with smaller | same | smaller
    · cases failure.fails.symm.trans (again.earlier index smaller)
    · exact same
    · cases again.fails.symm.trans (failure.earlier other smaller)
  subst same
  exact ⟨rfl, Option.some.inj (failure.fails.symm.trans again.fails)⟩

theorem writeEntries_intact {answers : WriteFileAnswers} {start : Nat}
    {entries : List (Bytes × Bytes)}
    (writes : ∀ index < entries.length, answers.fwrite (start + index) = none)
    (written : Bytes) : (writeEntries answers start entries written).1 = true := by
  induction entries generalizing start written with
  | nil => rfl
  | cons entry entries ih =>
      have first : answers.fwrite start = none := writes 0 (by simp)
      rw [writeEntries_next first]
      apply ih
      intro index smaller
      have shifted : start + 1 + index = start + (index + 1) := by omega
      rw [shifted]
      exact writes (index + 1) (by simpa using smaller)

/-! ## What a failed call leaves behind -/

/-- The bindings and the configuration file are those from before the call. -/
structure Unchanged (reader : CConfigFileReader) (files : Files) (after : CConfigFileReader)
    (filesAfter : Files) : Prop where
  configMap : ∀ key : Bytes, after.configMap[key]? = reader.configMap[key]?
  configFile : filesAfter reader.configFile = files reader.configFile

theorem setValue_same_iff {configMap : StringMap} {name value : Bytes} :
    (∀ key : Bytes, (setValue configMap name value)[key]? = configMap[key]?) ↔
      configMap[name]? = some value := by
  simp only [getElem?_setValue]
  constructor
  · intro same
    simpa using (same name).symm
  · intro bound key
    split
    · next is_name => rw [is_name, bound]
    · rfl

/-- Binding a name to its own value leaves the entries to write as they are. -/
theorem toList_setValue {configMap : StringMap} {name value : Bytes}
    (bound : configMap[name]? = some value) :
    (setValue configMap name value).toList = configMap.toList :=
  (Std.TreeMap.Equiv.of_forall_constGet?_eq (setValue_same_iff.mpr bound)).toList_eq

theorem setConfigValue_unloaded {reader : CConfigFileReader} (unloaded : reader.loadOk = false)
    (files : Files) (answers : WriteFileAnswers) (name value : Bytes) :
    reader.setConfigValue files answers name value = (-1, reader, files) := by
  simp [setConfigValue, unloaded]

section Loaded

variable {reader : CConfigFileReader} (loaded : reader.loadOk = true) {files : Files}
  {answers : WriteFileAnswers} {name value : Bytes}
include loaded

theorem setConfigValue_unopened (unopened : answers.opens = false) :
    reader.setConfigValue files answers name value =
      (-1, { reader with configMap := setValue reader.configMap name value }, files) := by
  simp [setConfigValue, writeFile, loaded, unopened]

theorem setConfigValue_written (opened : answers.opens = true)
    (writes : ∀ index < (setValue reader.configMap name value).toList.length,
      answers.fwrite index = none) :
    (reader.setConfigValue files answers name value).1 = 0 := by
  have done : (writeEntries answers 0 (setValue reader.configMap name value).toList []).1 =
      true := by
    apply writeEntries_intact
    intro index smaller
    rw [Nat.zero_add]
    exact writes index smaller
  simp [setConfigValue, writeFile, loaded, opened, done]

theorem setConfigValue_torn (opened : answers.opens = true) {index count : Nat}
    (failure : FirstFailure answers (setValue reader.configMap name value).toList.length
      index count) :
    reader.setConfigValue files answers name value =
      (-1, { reader with configMap := setValue reader.configMap name value },
        Function.update files reader.configFile
          (some (tornText (setValue reader.configMap name value).toList index count))) := by
  simp [setConfigValue, writeFile, loaded, opened, failure.writeEntries]

end Loaded

/-- When a call cannot fail, or fails without a trace: it would bind the name to
the value it has, and the bytes that reach the file are those it held. -/
inductive FailsUnnoticed (reader : CConfigFileReader) (files : Files)
    (answers : WriteFileAnswers) (name value : Bytes) : Prop where
  | unloaded : reader.loadOk = false → FailsUnnoticed reader files answers name value
  | written : answers.opens = true →
      (∀ index < (setValue reader.configMap name value).toList.length,
        answers.fwrite index = none) →
      FailsUnnoticed reader files answers name value
  | unopened : answers.opens = false → reader.configMap[name]? = some value →
      FailsUnnoticed reader files answers name value
  | torn {index count : Nat} :
      FirstFailure answers reader.configMap.toList.length index count →
      reader.configMap[name]? = some value →
      files reader.configFile = some (tornText reader.configMap.toList index count) →
      FailsUnnoticed reader files answers name value

end TalkSystem.Base.CConfigFileReader
