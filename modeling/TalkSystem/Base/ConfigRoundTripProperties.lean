import TalkSystem.Base.ConfigFileReaderProperties
import TalkSystem.Machine.Weights

/-!
# Writing a configuration file and reading it back

An entry goes through a buffer of 128 bytes, so at most 127 bytes of it are
written. One that loses bytes loses its newline with them, and the line it
becomes has swallowed the next entry.
-/

set_option autoImplicit false

namespace TalkSystem.Base.CConfigFileReader

/-! ## The text of a list of entries -/

def fileText (entries : List (Bytes × Bytes)) : Bytes := (entries.map szPaire).flatten

@[simp] theorem fileText_cons (entry : Bytes × Bytes) (entries : List (Bytes × Bytes)) :
    fileText (entry :: entries) = szPaire entry ++ fileText entries := by
  simp [fileText]

/-- Every entry leaves room for its newline in `szPaire`; the last one can do
without. -/
def EntriesFit : List (Bytes × Bytes) → Prop
  | [] => True
  | [last] => entrySize last ≤ 127
  | entry :: next :: entries => entrySize entry + 1 ≤ 127 ∧ EntriesFit (next :: entries)

section Entry

variable {entry : Bytes × Bytes} (plain : PlainEntry entry)
include plain

theorem szPaire_eq : szPaire entry = (entryText entry ++ [newline]).take 127 := by
  simp [szPaire, snprintf, entryText, cStr_eq_self_iff.mpr plain.key.no_nul,
    cStr_eq_self_iff.mpr plain.value.no_nul]

theorem szPaire_of_fits (fits : entrySize entry + 1 ≤ 127) :
    szPaire entry = entryText entry ++ [newline] := by
  rw [szPaire_eq plain, List.take_of_length_le]
  simpa [entrySize] using fits

theorem szPaire_of_full (full : 127 ≤ entrySize entry) :
    szPaire entry = (entryText entry).take 127 := by
  rw [szPaire_eq plain, List.take_append_of_le_length full]

theorem newline_not_mem_entryText : newline ∉ entryText entry :=
  not_mem_entryText plain.key.no_newline plain.value.no_newline (by decide)

/-- Before its newline an entry has as many bytes in the file as fit. -/
theorem countP_szPaire :
    (szPaire entry).countP (· ≠ newline) = min 127 (entrySize entry) := by
  have all (part : Bytes) (inside : part ⊆ entryText entry) :
      part.countP (· ≠ newline) = part.length := by
    rw [List.countP_eq_length]
    intro byte member
    have different : byte ≠ newline :=
      fun same => newline_not_mem_entryText plain (same ▸ inside member)
    simpa using different
  rcases Nat.lt_or_ge (entrySize entry) 127 with fits | full
  · rw [szPaire_of_fits plain fits, List.countP_append, all _ (List.Subset.refl _)]
    simp only [List.countP_singleton, ne_eq, not_true_eq_false, decide_false]
    exact (Nat.min_eq_right (Nat.le_of_lt fits)).symm
  · rw [szPaire_of_full plain full, all _ (List.take_subset _ _), List.length_take]
    rfl

end Entry

theorem countP_fileText {entries : List (Bytes × Bytes)}
    (plain : ∀ entry ∈ entries, PlainEntry entry) :
    (fileText entries).countP (· ≠ newline) =
      Weights.total (fun entry => min 127 (entrySize entry)) entries := by
  induction entries with
  | nil => rfl
  | cons entry entries ih =>
      rw [fileText_cons, List.countP_append, countP_szPaire (plain entry List.mem_cons_self),
        ih fun other member => plain other (List.mem_cons_of_mem entry member),
        Weights.total_cons]

/-! ## Entries that fit come back -/

theorem fileBindings_fileText {entries : List (Bytes × Bytes)}
    (plain : ∀ entry ∈ entries, PlainEntry entry) (fit : EntriesFit entries) :
    fileBindings (fileText entries) = entries := by
  induction entries with
  | nil => rfl
  | cons entry entries ih =>
      have entry_plain := plain entry List.mem_cons_self
      have free := newline_not_mem_entryText entry_plain
      have rest_plain : ∀ other ∈ entries, PlainEntry other :=
        fun other member => plain other (List.mem_cons_of_mem entry member)
      have with_newline (fits : entrySize entry + 1 ≤ 127) (rest_fits : EntriesFit entries) :
          fileBindings (fileText (entry :: entries)) = entry :: entries := by
        have bound := bufBinding_entryText entry_plain (by omega) (.inr rfl)
        rw [fileText_cons, szPaire_of_fits entry_plain fits, List.append_assoc,
          List.singleton_append, fileBindings,
          fileBufs_line free (by simp only [entrySize] at fits; omega), List.filterMap_cons, bound]
        exact congrArg (entry :: ·) (ih rest_plain rest_fits)
      cases entries with
      | nil =>
          rcases Nat.lt_or_ge (entrySize entry) 127 with fits | full
          · exact with_newline fits trivial
          · have last : entrySize entry ≤ 127 := fit
            have bound := bufBinding_entryText entry_plain (by omega) (.inl rfl)
            rw [List.append_nil] at bound
            have whole : fileText [entry] = entryText entry := by
              rw [fileText_cons, szPaire_of_full entry_plain full, List.take_of_length_le last]
              simp [fileText]
            rw [fileBindings, whole, fileBufs_last free (by simp only [entrySize] at last; omega)
              (by simp [entryText])]
            simp [bound]
      | cons next entries => exact with_newline fit.1 fit.2

/-! ## Entries that come back fit -/

theorem fileText_starts {next : Bytes × Bytes} (plain : PlainEntry next)
    (entries : List (Bytes × Bytes)) :
    ∃ byte more, fileText (next :: entries) = byte :: more ∧ byte ≠ newline := by
  obtain ⟨key, value⟩ := next
  obtain ⟨byte, rest, shape⟩ := List.exists_cons_of_ne_nil plain.key.nonempty
  refine ⟨byte, (rest ++ equalsSign :: value ++ [newline]).take 126 ++ fileText entries, ?_, ?_⟩
  · rw [fileText_cons, szPaire_eq plain]
    simp only [entryText] at shape ⊢
    simp [shape]
  · intro same
    exact plain.key.no_newline (shape ▸ same ▸ List.mem_cons_self)

/-- Once no entry is longer than `szPaire`, only a newline can be lost; the
buffer that goes on behind it then holds more than an entry. -/
theorem entriesFit_of_bufs {entries : List (Bytes × Bytes)}
    (plain : ∀ entry ∈ entries, PlainEntry entry)
    (short : ∀ entry ∈ entries, entrySize entry ≤ 127)
    (bufs : ∀ buf ∈ fileBufs (fileText entries), buf.countP (· ≠ newline) ≤ 127) :
    EntriesFit entries := by
  induction entries with
  | nil => trivial
  | cons entry entries ih =>
      have entry_plain := plain entry List.mem_cons_self
      have entry_short := short entry List.mem_cons_self
      have free := newline_not_mem_entryText entry_plain
      have rest_plain : ∀ other ∈ entries, PlainEntry other :=
        fun other member => plain other (List.mem_cons_of_mem entry member)
      cases entries with
      | nil => exact entry_short
      | cons next entries =>
          rcases Nat.lt_or_ge (entrySize entry) 127 with fits | full
          · refine ⟨fits, ih rest_plain ?_ ?_⟩
            · exact fun other member => short other (List.mem_cons_of_mem entry member)
            · intro buf member
              apply bufs
              rw [fileText_cons, szPaire_of_fits entry_plain fits, List.append_assoc,
                List.singleton_append, fileBufs_line free (by simp only [entrySize] at fits; omega)]
              exact List.mem_cons_of_mem _ member
          · -- the first byte of the next key follows without a newline
            exfalso
            have whole : szPaire entry = entryText entry := by
              rw [szPaire_of_full entry_plain full, List.take_of_length_le entry_short]
            have next_plain := rest_plain next List.mem_cons_self
            obtain ⟨byte, more, behind, visible⟩ := fileText_starts next_plain entries
            have first := fgetsBytes_copies free 128 (byte :: more)
            have total : (entryText entry).length + 128 = 255 := by
              simp only [entrySize] at full entry_short
              omega
            rw [total, fgetsBytes, if_neg visible] at first
            have heavy := bufs (fgetsBytes 255 (entryText entry ++ byte :: more)).1 (by
              rw [fileText_cons, whole, behind, fileBufs_of_ne_nil (by simp)]
              exact List.mem_cons_self)
            have text_count := countP_szPaire entry_plain
            rw [whole, Nat.min_eq_left full] at text_count
            rw [first, List.countP_append, text_count, List.countP_cons_of_pos (by simpa)] at heavy
            omega

/-- Entries whose keys are all bound as they were have lost nothing on the way. -/
theorem entriesFit_of_lookup {entries : List (Bytes × Bytes)}
    (plain : ∀ entry ∈ entries, PlainEntry entry) (unique : entries.Nodup)
    (found : ∀ entry ∈ entries,
      (fileBindings (fileText entries)).lookup entry.1 = some entry.2) :
    EntriesFit entries := by
  have inside : entries ⊆ fileBindings (fileText entries) := by
    intro entry member
    obtain ⟨before, after, split, -⟩ := List.lookup_eq_some_iff.mp (found entry member)
    simp [split]
  have written : Weights.total (List.countP (· ≠ newline)) (fileBufs (fileText entries)) =
      Weights.total (fun entry => min 127 (entrySize entry)) entries := by
    rw [← countP_fileText plain, Weights.total, ← List.countP_flatten, fileBufs_flatten]
  have no_heavier : ∀ buf ∈ fileBufs (fileText entries), ∀ entry, bufBinding buf = some entry →
      entrySize entry ≤ buf.countP (· ≠ newline) :=
    fun buf member entry bound => (bufBinding_some member bound).2
  have short : ∀ entry ∈ entries, entrySize entry ≤ 127 := by
    apply Weights.le_of_total_le_min
    calc Weights.total entrySize entries
        ≤ Weights.total entrySize (fileBindings (fileText entries)) :=
          Weights.total_le_of_subset entrySize unique inside
      _ ≤ Weights.total (List.countP (· ≠ newline)) (fileBufs (fileText entries)) :=
          Weights.total_filterMap_le no_heavier
      _ = Weights.total (fun entry => min 127 (entrySize entry)) entries := written
  refine entriesFit_of_bufs plain short ?_
  apply Weights.le_of_total_le_min
  calc Weights.total (List.countP (· ≠ newline)) (fileBufs (fileText entries))
      = Weights.total (fun entry => min 127 (entrySize entry)) entries := written
    _ ≤ Weights.total (fun entry => min 127 (entrySize entry))
          (fileBindings (fileText entries)) :=
        Weights.total_le_of_subset _ unique inside
    _ ≤ Weights.total (fun buf => min 127 (buf.countP (· ≠ newline)))
          (fileBufs (fileText entries)) := by
        apply Weights.total_filterMap_le
        intro buf member entry bound
        have lighter := no_heavier buf member entry bound
        omega

/-! ## Maps -/

/-- Every binding of the map is one that the line grammar can hold. -/
def PlainMap (configMap : StringMap) : Prop :=
  ∀ key value, configMap[key]? = some value → PlainEntry (key, value)

theorem getElem?_loadContents (configMap : StringMap) (contents key : Bytes) :
    (loadContents configMap contents)[key]? =
      configMap[key]?.or ((fileBindings contents).lookup key) :=
  getElem?_foldl_loadLine configMap (fileBufs contents) key

theorem plainMap_loadContents (contents : Bytes) : PlainMap (loadContents ∅ contents) := by
  intro key value bound
  rw [getElem?_loadContents, Std.TreeMap.getElem?_emptyc, Option.none_or] at bound
  obtain ⟨before, after, split, -⟩ := List.lookup_eq_some_iff.mp bound
  have member : (key, value) ∈ fileBindings contents := by simp [split]
  obtain ⟨buf, inside, found⟩ := List.mem_filterMap.mp member
  exact (bufBinding_some inside found).1

@[simp] theorem getElem?_setValue (configMap : StringMap) (name value key : Bytes) :
    (setValue configMap name value)[key]? = if key = name then some value else configMap[key]? := by
  unfold setValue
  split
  · simp only [Std.TreeMap.getElem?_insert, Std.LawfulEqCmp.compare_eq_iff_eq]
    simp only [eq_comm]
  · next absent =>
      have unbound : name ∉ configMap := by simpa using absent
      simp only [Std.TreeMap.getElem?_insertIfNew, Std.LawfulEqCmp.compare_eq_iff_eq]
      by_cases same : name = key
      · simp [same, same ▸ unbound]
      · simp [same, Ne.symm same]

theorem PlainMap.setValue {configMap : StringMap} (plain : PlainMap configMap)
    {name value : Bytes} (entry : PlainEntry (name, value)) :
    PlainMap (setValue configMap name value) := by
  intro key bound present
  rw [getElem?_setValue] at present
  split at present
  · next same =>
      cases present
      exact same ▸ entry
  · exact plain key bound present

/-- A map comes back from its own text exactly when its entries fit. -/
theorem loadContents_fileText_iff {configMap : StringMap} (plain : PlainMap configMap) :
    (∀ key : Bytes, (loadContents ∅ (fileText configMap.toList))[key]? = configMap[key]?) ↔
      EntriesFit configMap.toList := by
  have entries_plain : ∀ entry ∈ configMap.toList, PlainEntry entry := by
    intro entry member
    exact plain _ _ (Std.TreeMap.mem_toList_iff_getElem?_eq_some.mp member)
  have reloaded (key : Bytes) : (loadContents ∅ (fileText configMap.toList))[key]? =
      (fileBindings (fileText configMap.toList)).lookup key := by
    rw [getElem?_loadContents, Std.TreeMap.getElem?_emptyc, Option.none_or]
  constructor
  · intro same
    apply entriesFit_of_lookup entries_plain ((lists_toList configMap).unique.of_map _)
    intro entry member
    rw [← reloaded, same]
    exact Std.TreeMap.mem_toList_iff_getElem?_eq_some.mp member
  · intro fit key
    rw [reloaded, fileBindings_fileText entries_plain fit]
    exact (lists_toList configMap).lookup key

/-! ## Runs of `SetConfigValue` -/

/-- A name and a value that the line grammar can hold. -/
def PlainCall (_ : ConfigState) (call : ConfigCall) : Prop := PlainEntry (call.name, call.value)

/-- A reader constructed from a file, with the file. -/
def constructed (uninitialised : Bool) (files : Files) (filename : Bytes) : ConfigState :=
  ⟨new uninitialised files filename, files⟩

theorem writeEntries_done {answers : WriteFileAnswers} {index : Nat}
    {entries : List (Bytes × Bytes)} {written : Bytes}
    (done : (writeEntries answers index entries written).1 = true) :
    (writeEntries answers index entries written).2 = written ++ fileText entries := by
  induction entries generalizing index written with
  | nil => simp [writeEntries, fileText]
  | cons entry entries ih =>
      cases answer : answers.fwrite index with
      | none =>
          simp only [writeEntries, answer] at done ⊢
          rw [ih done, fileText_cons, List.append_assoc]
      | some count => simp [writeEntries, answer] at done

theorem writeEntries_all {answers : WriteFileAnswers}
    (writes : ∀ index, answers.fwrite index = none) (index : Nat)
    (entries : List (Bytes × Bytes)) (written : Bytes) :
    (writeEntries answers index entries written).1 = true := by
  induction entries generalizing index written with
  | nil => rfl
  | cons entry entries ih =>
      simp only [writeEntries, writes]
      exact ih _ _

/-- A call whose file can be opened and written succeeds. -/
theorem configMachine_enabled {state : ConfigState} {call : ConfigCall}
    (loaded : state.reader.loadOk = true) (opens : call.answers.opens = true)
    (writes : ∀ index, call.answers.fwrite index = none) :
    ∃ next, configMachine.step state call = some next := by
  simp only [configMachine, setConfigValue, writeFile, loaded, opens, if_true,
    writeEntries_all writes]
  exact ⟨_, rfl⟩

/-- A successful call updates the map and puts the text of the whole map into
the file. -/
theorem configMachine_step {state next : ConfigState} {call : ConfigCall}
    (taken : configMachine.step state call = some next) :
    state.reader.loadOk = true ∧
      next.reader = ⟨true, setValue state.reader.configMap call.name call.value,
        state.reader.configFile⟩ ∧
      next.files = Function.update state.files state.reader.configFile
        (some (fileText next.reader.configMap.toList)) := by
  simp only [configMachine, setConfigValue, writeFile] at taken
  by_cases loaded : state.reader.loadOk = true
  · by_cases opened : call.answers.opens = true
    · simp only [loaded, opened, if_true, Option.getD_none] at taken
      by_cases done : (writeEntries call.answers 0
          (setValue state.reader.configMap call.name call.value).toList []).1 = true
      · simp only [done, if_true, writeEntries_done done, List.nil_append] at taken
        cases taken
        exact ⟨loaded, rfl, rfl⟩
      · simp [done] at taken
    · simp [loaded, opened] at taken
  · simp [loaded] at taken

/-- The map after the calls, as `SetConfigValue` leaves it. -/
def setAll (configMap : StringMap) (calls : List ConfigCall) : StringMap :=
  calls.foldl (fun configMap call => setValue configMap call.name call.value) configMap

/-- What each key is bound to after the calls. -/
def bindingAfter (configMap : StringMap) (calls : List ConfigCall) : Bytes → Option Bytes :=
  calls.foldl (fun (binding : Bytes → Option Bytes) call =>
    Function.update binding call.name (some call.value)) fun key : Bytes => configMap[key]?

theorem getElem?_setAll (configMap : StringMap) (calls : List ConfigCall) (key : Bytes) :
    (setAll configMap calls)[key]? = bindingAfter configMap calls key := by
  have general (binding : Bytes → Option Bytes)
      (same : ∀ key : Bytes, configMap[key]? = binding key) :
      (setAll configMap calls)[key]? = calls.foldl (fun (binding : Bytes → Option Bytes) call =>
        Function.update binding call.name (some call.value)) binding key := by
    induction calls generalizing configMap binding with
    | nil => exact same key
    | cons call calls ih =>
        apply ih
        intro key
        simp only [getElem?_setValue, same, Function.update_apply]
  exact general _ fun _ => rfl

/-- After a call the reader is loaded, its map is plain and its file holds the
text of its map. -/
structure Saved (filename : Bytes) (state : ConfigState) : Prop where
  file : state.reader.configFile = filename
  plain : PlainMap state.reader.configMap
  saved : state.files filename = some (fileText state.reader.configMap.toList)

theorem Saved.of_step {filename : Bytes} {state next : ConfigState} {call : ConfigCall}
    (file : state.reader.configFile = filename) (plain : PlainMap state.reader.configMap)
    (entry : PlainCall state call) (taken : configMachine.step state call = some next) :
    Saved filename next := by
  obtain ⟨-, reader, written⟩ := configMachine_step taken
  refine ⟨?_, ?_, ?_⟩
  · rw [reader]
    exact file
  · rw [reader]
    exact plain.setValue entry
  · rw [written, file, Function.update_self]

section Run

variable {files : Files} {filename contents : Bytes} {uninitialised : Bool}
  {calls : List ConfigCall} {final : ConfigState}

theorem new_readable (readable : files filename = some contents) :
    new uninitialised files filename = ⟨true, loadContents ∅ contents, filename⟩ := by
  simp [new, loadFile, readable]

theorem configMap_run (readable : files filename = some contents)
    (run : configMachine.Runs PlainCall (constructed uninitialised files filename) calls final) :
    final.reader.configMap = setAll (loadContents ∅ contents) calls := by
  have accumulated := run.accumulates
    (fun configMap call => setValue configMap call.name call.value)
    (fun state => state.reader.configMap) fun state call next _ taken => by
      rw [(configMachine_step taken).2.1]
  rw [constructed, new_readable readable] at accumulated
  exact accumulated

theorem saved_run (readable : files filename = some contents) (called : calls ≠ [])
    (run : configMachine.Runs PlainCall (constructed uninitialised files filename) calls final) :
    Saved filename final := by
  rw [constructed, new_readable readable] at run
  cases run with
  | nil => exact absurd rfl called
  | cons entry taken rest =>
      refine rest.invariant (Saved filename) ?_
        (Saved.of_step rfl (plainMap_loadContents contents) entry taken)
      intro state call next entry taken saved
      exact Saved.of_step saved.file saved.plain entry taken

theorem one_call {call : ConfigCall} (readable : files filename = some contents)
    (plain : PlainEntry (call.name, call.value)) (opens : call.answers.opens = true)
    (writes : ∀ index, call.answers.fwrite index = none) :
    ∃ final, configMachine.Runs PlainCall (constructed uninitialised files filename) [call]
      final := by
  have loaded : (new uninitialised files filename).loadOk = true := by
    rw [new_readable readable]
  obtain ⟨final, taken⟩ : ∃ final, configMachine.step
      (constructed uninitialised files filename) call = some final :=
    configMachine_enabled loaded opens writes
  exact ⟨final, .cons plain taken .nil⟩

end Run

def allWritten : WriteFileAnswers := ⟨true, fun _ => none⟩

/-- The files of the runs below: every name can be opened and is empty. -/
def emptyFiles : Files := fun _ => some []

end TalkSystem.Base.CConfigFileReader
