import TalkSystem.Base.ConfigFileReader

/-!
# How a configuration file is read

A file falls into the buffers that `fgets` returns, each buffer gives at most
one binding, and the first binding of a key is the one that stays.
-/

set_option autoImplicit false

namespace TalkSystem.Base

/-! ## `fgets` -/

theorem fgetsBytes_append (count : Nat) (input : Bytes) :
    (fgetsBytes count input).1 ++ (fgetsBytes count input).2 = input := by
  induction count generalizing input with
  | zero => rfl
  | succ count ih =>
      cases input with
      | nil => rfl
      | cons byte input =>
          simp only [fgetsBytes]
          split
          · rfl
          · simp only [List.cons_append, ih]

/-- As long as no newline comes, `fgets` copies. -/
theorem fgetsBytes_copies {front : Bytes} (free : newline ∉ front) (count : Nat) (rest : Bytes) :
    fgetsBytes (front.length + count) (front ++ rest) =
      (front ++ (fgetsBytes count rest).1, (fgetsBytes count rest).2) := by
  induction front with
  | nil => simp
  | cons byte front ih =>
      obtain ⟨different, free⟩ := List.ne_and_not_mem_of_not_mem_cons free
      have steps : (byte :: front).length + count = (front.length + count) + 1 := by
        simp only [List.length_cons]
        omega
      simp only [steps, List.cons_append, fgetsBytes, if_neg (Ne.symm different), ih free]

/-- A newline comes last in a buffer or not at all. -/
theorem fgetsBytes_shape (count : Nat) (input : Bytes) :
    ∃ body tail, (fgetsBytes count input).1 = body ++ tail ∧ newline ∉ body ∧
      (tail = [] ∨ tail = [newline]) := by
  induction count generalizing input with
  | zero => exact ⟨[], [], rfl, by simp, .inl rfl⟩
  | succ count ih =>
      cases input with
      | nil => exact ⟨[], [], rfl, by simp, .inl rfl⟩
      | cons byte input =>
          simp only [fgetsBytes]
          split
          · next same => exact ⟨[], [newline], by simp [same], by simp, .inr rfl⟩
          · next different =>
              obtain ⟨body, tail, shape, free, ending⟩ := ih input
              refine ⟨byte :: body, tail, by simp [shape], ?_, ending⟩
              simp [free, Ne.symm different]

theorem fgetsBytes_progress {count : Nat} {input : Bytes} (more : input ≠ []) :
    (fgetsBytes (count + 1) input).2.length < input.length := by
  obtain ⟨byte, input, rfl⟩ := List.exists_cons_of_ne_nil more
  have whole := congrArg List.length (fgetsBytes_append count input)
  simp only [fgetsBytes]
  split
  · simp
  · simp only [List.length_append, List.length_cons] at whole ⊢
    omega

namespace CConfigFileReader

/-! ## The buffers of a file -/

theorem readLines_succ {fuel : Nat} {input : Bytes} (more : input ≠ []) :
    readLines (fuel + 1) input =
      (fgetsBytes 255 input).1 :: readLines fuel (fgetsBytes 255 input).2 := by
  simp only [readLines, fgets, if_neg more]

@[simp] theorem readLines_nil (fuel : Nat) : readLines fuel [] = [] := by
  cases fuel <;> simp [readLines, fgets]

theorem readLines_enough {fuel : Nat} {input : Bytes} (enough : input.length ≤ fuel) :
    readLines fuel input = readLines input.length input := by
  induction fuel using Nat.strongRecOn generalizing input with
  | ind fuel ih =>
      by_cases more : input = []
      · simp [more]
      · have progress : (fgetsBytes 255 input).2.length < input.length :=
          fgetsBytes_progress more
        obtain ⟨length, same⟩ := Nat.exists_eq_add_one.mpr (List.length_pos_iff.mpr more)
        obtain ⟨fuel, rfl⟩ := Nat.exists_eq_add_one.mpr (show 0 < fuel by omega)
        rw [same, readLines_succ more, readLines_succ more, ih fuel (by omega) (by omega)]
        by_cases exact : length = fuel
        · rw [exact, ih fuel (by omega) (by omega)]
        · rw [ih length (by omega) (by omega)]

/-- The buffers that `_LoadFile` works on. -/
def fileBufs (contents : Bytes) : List Bytes := readLines contents.length contents

@[simp] theorem fileBufs_nil : fileBufs [] = [] := rfl

theorem fileBufs_of_ne_nil {contents : Bytes} (more : contents ≠ []) :
    fileBufs contents = (fgetsBytes 255 contents).1 :: fileBufs (fgetsBytes 255 contents).2 := by
  have progress : (fgetsBytes 255 contents).2.length < contents.length :=
    fgetsBytes_progress more
  obtain ⟨length, same⟩ := Nat.exists_eq_add_one.mpr (List.length_pos_iff.mpr more)
  rw [fileBufs, same, readLines_succ more, readLines_enough (by omega)]
  rfl

/-- Reasoning along the calls of `fgets`. -/
theorem fileBufs_induction {property : Bytes → Prop} (empty : property [])
    (step : ∀ contents, contents ≠ [] → property (fgetsBytes 255 contents).2 →
      property contents) (contents : Bytes) : property contents := by
  induction length : contents.length using Nat.strongRecOn generalizing contents with
  | ind size ih =>
      by_cases more : contents = []
      · exact more ▸ empty
      · have progress : (fgetsBytes 255 contents).2.length < contents.length :=
          fgetsBytes_progress more
        exact step contents more (ih _ (by omega) _ rfl)

theorem fileBufs_flatten (contents : Bytes) : (fileBufs contents).flatten = contents := by
  induction contents using fileBufs_induction with
  | empty => rfl
  | step contents more ih =>
      rw [fileBufs_of_ne_nil more, List.flatten_cons, ih, fgetsBytes_append]

theorem fileBufs_shape {contents buf : Bytes} (member : buf ∈ fileBufs contents) :
    ∃ body tail, buf = body ++ tail ∧ newline ∉ body ∧ (tail = [] ∨ tail = [newline]) := by
  induction contents using fileBufs_induction with
  | empty => simp at member
  | step contents more ih =>
      rw [fileBufs_of_ne_nil more] at member
      rcases List.mem_cons.mp member with rfl | later
      · exact fgetsBytes_shape 255 contents
      · exact ih later

theorem fileBufs_line {line : Bytes} (free : newline ∉ line) (short : line.length < 255)
    (rest : Bytes) :
    fileBufs (line ++ newline :: rest) = (line ++ [newline]) :: fileBufs rest := by
  have first : fgetsBytes 255 (line ++ newline :: rest) = (line ++ [newline], rest) := by
    have copied := fgetsBytes_copies free (255 - line.length) (newline :: rest)
    obtain ⟨count, room⟩ := Nat.exists_eq_add_one.mpr (show 0 < 255 - line.length by omega)
    have total : line.length + (count + 1) = 255 := by omega
    rw [room, total] at copied
    simpa [fgetsBytes] using copied
  rw [fileBufs_of_ne_nil (by simp), first]

theorem fileBufs_last {line : Bytes} (free : newline ∉ line) (short : line.length ≤ 255)
    (more : line ≠ []) : fileBufs line = [line] := by
  have first : fgetsBytes 255 line = (line, []) := by
    have copied := fgetsBytes_copies free (255 - line.length) []
    have total : line.length + (255 - line.length) = 255 := by omega
    rw [total] at copied
    have nothing (count : Nat) : fgetsBytes count [] = ([], []) := by cases count <;> rfl
    simpa [nothing] using copied
  rw [fileBufs_of_ne_nil more, first, fileBufs_nil]

/-! ## Trimming -/

/-- A text without blanks at its ends. -/
structure Trimmed (text : Bytes) : Prop where
  nonempty : text ≠ []
  first : ∀ byte rest, text = byte :: rest → isBlank byte = false
  last : ∀ rest byte, text = rest ++ [byte] → isBlank byte = false

theorem Trimmed.of_ends {text : Bytes} (head : text.head?.map isBlank = some false)
    (last : text.getLast?.map isBlank = some false) : Trimmed text := by
  refine ⟨?_, ?_, ?_⟩
  · rintro rfl
    cases head
  · rintro byte rest rfl
    simpa using head
  · rintro rest byte rfl
    simpa using last

theorem castInt_eq {value : Int} (lower : -2 ^ 31 ≤ value) (upper : value < 2 ^ 31) :
    castInt value = value := by
  refine Int.bmod_eq_of_le ?_ ?_ <;> omega

theorem Trimmed.trimSpace {text : Bytes} (trimmed : Trimmed text) (short : text.length ≤ 2 ^ 31) :
    trimSpace text = some text := by
  obtain ⟨byte, rest, rfl⟩ := List.exists_cons_of_ne_nil trimmed.nonempty
  have front : (byte :: rest).dropWhile isBlank = byte :: rest := by
    simp [trimmed.first byte rest rfl]
  have back : (byte :: rest).rdropWhile isBlank = byte :: rest := by
    rw [List.rdropWhile_eq_self_iff]
    intro more blank
    have last := trimmed.last _ _ (List.dropLast_append_getLast more).symm
    rw [last] at blank
    cases blank
  have length : castInt ((byte :: rest).length - 1) = (byte :: rest).length - 1 := by
    apply castInt_eq <;> simp only [List.length_cons] at short ⊢ <;> omega
  simp only [CConfigFileReader.trimSpace, front, back, length]
  rw [if_neg (by simp), if_neg (by simp)]

theorem trimmed_rdropWhile {name : Bytes} (more : name.dropWhile isBlank ≠ []) :
    Trimmed ((name.dropWhile isBlank).rdropWhile isBlank) := by
  obtain ⟨byte, rest, start⟩ := List.exists_cons_of_ne_nil more
  have visible : isBlank byte = false := by
    have head := List.head_dropWhile_not isBlank more
    simpa [start] using head
  have nonempty : (name.dropWhile isBlank).rdropWhile isBlank ≠ [] := by
    intro empty
    rw [List.rdropWhile_eq_nil_iff] at empty
    have blank := empty byte (by simp [start])
    rw [visible] at blank
    cases blank
  refine ⟨nonempty, ?_, ?_⟩
  · intro first others shape
    obtain ⟨suffix, whole⟩ := List.rdropWhile_prefix isBlank (name.dropWhile isBlank)
    rw [shape, start, List.cons_append] at whole
    rw [(List.cons.inj whole).1]
    exact visible
  · intro others last shape
    have ending := List.rdropWhile_last_not isBlank (name.dropWhile isBlank) nonempty
    simpa [shape] using ending

/-- What `_TrimSpace` returns is a trimmed part of what it was given. -/
theorem trimSpace_some {name text : Bytes} (trimmed : trimSpace name = some text) :
    Trimmed text ∧ text.Sublist name := by
  simp only [trimSpace] at trimmed
  split at trimmed
  · cases trimmed
  · next more =>
      split at trimmed
      · cases trimmed
      · obtain rfl := Option.some.inj trimmed
        exact ⟨trimmed_rdropWhile more,
          (List.rdropWhile_prefix isBlank _).sublist.trans (List.dropWhile_sublist _)⟩

/-! ## Bindings -/

/-- The line that `_LoadFile` finds in a buffer. -/
def cutLine (buf : Bytes) : Bytes :=
  let line := cStr buf
  let line := if line.getLast? = some newline then line.dropLast else line
  line.takeWhile (· ≠ hashSign)

/-- What `_ParseLine` binds. -/
def lineBinding (line : Bytes) : Option (Bytes × Bytes) :=
  match line.dropWhile (· ≠ equalsSign) with
  | [] => none
  | _ :: after =>
      match trimSpace (line.takeWhile (· ≠ equalsSign)), trimSpace after with
      | some key, some value => some (key, value)
      | _, _ => none

def bufBinding (buf : Bytes) : Option (Bytes × Bytes) := lineBinding (cutLine buf)

/-- A key that is bound keeps its value. -/
def bindEntry (configMap : StringMap) : Option (Bytes × Bytes) → StringMap
  | none => configMap
  | some entry => configMap.insertIfNew entry.1 entry.2

theorem getElem?_bindEntry (configMap : StringMap) (entry : Option (Bytes × Bytes))
    (key : Bytes) :
    (bindEntry configMap entry)[key]? = configMap[key]?.or (entry.toList.lookup key) := by
  cases entry with
  | none => simp [bindEntry]
  | some entry =>
      obtain ⟨bound, value⟩ := entry
      simp only [bindEntry, Std.TreeMap.getElem?_insertIfNew, Std.LawfulEqCmp.compare_eq_iff_eq,
        Option.toList_some, List.lookup_cons]
      by_cases same : bound = key
      · subst same
        by_cases known : bound ∈ configMap <;> simp [known]
      · have different : (key == bound) = false := by simpa using Ne.symm same
        simp [same, different]

theorem parseLine_eq (configMap : StringMap) (line : Bytes) :
    parseLine configMap line = bindEntry configMap (lineBinding line) := by
  unfold parseLine lineBinding
  cases line.dropWhile (· ≠ equalsSign) with
  | nil => rfl
  | cons sign after =>
      dsimp only
      cases trimSpace (line.takeWhile (· ≠ equalsSign)) with
      | none => rfl
      | some key => cases trimSpace after <;> rfl

theorem loadLine_eq (configMap : StringMap) (buf : Bytes) :
    loadLine configMap buf = bindEntry configMap (bufBinding buf) := by
  change (if cutLine buf = [] then configMap else parseLine configMap (cutLine buf)) = _
  split
  · next empty =>
      rw [bufBinding, empty]
      rfl
  · exact parseLine_eq configMap (cutLine buf)

/-- The bindings of a file, in the order of its lines. -/
def fileBindings (contents : Bytes) : List (Bytes × Bytes) :=
  (fileBufs contents).filterMap bufBinding

/-- Bound keys keep their value; of the bindings that follow the first counts. -/
theorem getElem?_foldl_loadLine (configMap : StringMap) (bufs : List Bytes) (key : Bytes) :
    (bufs.foldl loadLine configMap)[key]? =
      configMap[key]?.or ((bufs.filterMap bufBinding).lookup key) := by
  induction bufs generalizing configMap with
  | nil => simp
  | cons buf bufs ih =>
      rw [List.foldl_cons, ih, loadLine_eq, getElem?_bindEntry, Option.or_assoc,
        ← List.lookup_append]
      cases found : bufBinding buf <;> simp [found]

/-- A text that the line grammar can hold: trimmed, and without the bytes that
end a line, a comment or a C string. -/
structure Plain (text : Bytes) : Prop extends Trimmed text where
  no_nul : 0 ∉ text
  no_newline : newline ∉ text
  no_hash : hashSign ∉ text

structure PlainEntry (entry : Bytes × Bytes) : Prop where
  key : Plain entry.1
  value : Plain entry.2
  no_sign : equalsSign ∉ entry.1

/-- The bytes of an entry without its newline. -/
def entryText (entry : Bytes × Bytes) : Bytes := entry.1 ++ equalsSign :: entry.2

def entrySize (entry : Bytes × Bytes) : Nat := (entryText entry).length

theorem entrySize_eq (entry : Bytes × Bytes) :
    entrySize entry = entry.1.length + entry.2.length + 1 := by
  simp only [entrySize, entryText, List.length_append, List.length_cons]
  omega

theorem not_mem_entryText {entry : Bytes × Bytes} {byte : UInt8} (key : byte ∉ entry.1)
    (value : byte ∉ entry.2) (sign : byte ≠ equalsSign) :
    byte ∉ entryText entry := by
  simp [entryText, key, value, sign]

theorem lineBinding_some {line : Bytes} {entry : Bytes × Bytes}
    (found : lineBinding line = some entry) :
    Trimmed entry.1 ∧ Trimmed entry.2 ∧ equalsSign ∉ entry.1 ∧
      (entryText entry).Sublist line := by
  have parts := List.takeWhile_append_dropWhile (p := (· ≠ equalsSign)) (l := line)
  unfold lineBinding at found
  cases rest : line.dropWhile (· ≠ equalsSign) with
  | nil =>
      rw [rest] at found
      cases found
  | cons sign after =>
      rw [rest] at found parts
      dsimp only at found
      cases key : trimSpace (line.takeWhile (· ≠ equalsSign)) with
      | none =>
          rw [key] at found
          cases found
      | some name =>
          cases value : trimSpace after with
          | none =>
              rw [key, value] at found
              cases found
          | some text =>
              rw [key, value] at found
              cases found
              obtain ⟨key_trimmed, key_part⟩ := trimSpace_some key
              obtain ⟨value_trimmed, value_part⟩ := trimSpace_some value
              have is_sign : sign = equalsSign := by
                have head := List.head?_dropWhile_not (· ≠ equalsSign) line
                rw [rest] at head
                simpa using head
              refine ⟨key_trimmed, value_trimmed, ?_, ?_⟩
              · intro member
                simpa using List.mem_takeWhile_imp (key_part.subset member)
              · rw [← parts, is_sign]
                exact key_part.append (value_part.cons_cons equalsSign)

theorem cutLine_sublist (buf : Bytes) : (cutLine buf).Sublist buf := by
  refine (List.takeWhile_sublist _).trans ?_
  have part : (cStr buf).Sublist buf := List.takeWhile_sublist _
  split
  · exact (List.dropLast_sublist _).trans part
  · exact part

theorem hash_not_mem_cutLine (buf : Bytes) : hashSign ∉ cutLine buf := by
  intro member
  simpa using List.mem_takeWhile_imp member

theorem nul_not_mem_cutLine (buf : Bytes) : 0 ∉ cutLine buf := by
  intro member
  have inside := (List.takeWhile_sublist _).subset member
  split at inside
  · exact zero_not_mem_cStr buf ((List.dropLast_sublist _).subset inside)
  · exact zero_not_mem_cStr buf inside

theorem newline_not_mem_cutLine {body tail : Bytes} (free : newline ∉ body)
    (ending : tail = [] ∨ tail = [newline]) : newline ∉ cutLine (body ++ tail) := by
  have kept : newline ∉ cStr body :=
    fun inside => free ((List.takeWhile_sublist _).subset inside)
  intro member
  have inside := (List.takeWhile_sublist _).subset member
  rcases ending with rfl | rfl
  · rw [List.append_nil] at inside
    split at inside
    · exact kept ((List.dropLast_sublist _).subset inside)
    · exact kept inside
  · by_cases nul : 0 ∈ body
    · rw [cStr_append_of_mem nul] at inside
      split at inside
      · exact kept ((List.dropLast_sublist _).subset inside)
      · exact kept inside
    · have whole : cStr (body ++ [newline]) = body ++ [newline] := by
        rw [cStr_append nul]
        rfl
      rw [whole, if_pos (by simp), List.dropLast_concat] at inside
      exact free inside

/-- In a text without NUL or newline only a comment is cut. -/
theorem cutLine_eq {text tail : Bytes} (no_nul : 0 ∉ text) (no_newline : newline ∉ text)
    (ending : tail = [] ∨ tail = [newline]) :
    cutLine (text ++ tail) = text.takeWhile (· ≠ hashSign) := by
  rcases ending with rfl | rfl
  · have unended : text.getLast? ≠ some newline :=
      fun last => no_newline (List.mem_of_getLast? last)
    simp only [cutLine, List.append_nil, cStr_eq_self_iff.mpr no_nul, if_neg unended]
  · have whole : cStr (text ++ [newline]) = text ++ [newline] := by
      rw [cStr_append no_nul]
      rfl
    simp only [cutLine, whole, List.getLast?_concat, if_true, List.dropLast_concat]

/-- A buffer whose line is the text of an entry binds that entry. -/
theorem bufBinding_entryText {entry : Bytes × Bytes} (plain : PlainEntry entry)
    (short : entrySize entry ≤ 2 ^ 31) {tail : Bytes} (ending : tail = [] ∨ tail = [newline]) :
    bufBinding (entryText entry ++ tail) = some entry := by
  obtain ⟨key, value⟩ := entry
  have no_nul : 0 ∉ entryText (key, value) :=
    not_mem_entryText plain.key.no_nul plain.value.no_nul (by decide)
  have no_newline : newline ∉ entryText (key, value) :=
    not_mem_entryText plain.key.no_newline plain.value.no_newline (by decide)
  have no_hash : hashSign ∉ entryText (key, value) :=
    not_mem_entryText plain.key.no_hash plain.value.no_hash (by decide)
  have line : cutLine (entryText (key, value) ++ tail) = entryText (key, value) := by
    rw [cutLine_eq no_nul no_newline ending, List.takeWhile_eq_self_iff]
    intro byte member
    have different : byte ≠ hashSign := fun same => no_hash (same ▸ member)
    simpa using different
  have before : (entryText (key, value)).takeWhile (· ≠ equalsSign) = key := by
    rw [entryText, List.takeWhile_append_of_pos]
    · simp
    · intro byte member
      have different : byte ≠ equalsSign := fun same => plain.no_sign (same ▸ member)
      simpa using different
  have behind : (entryText (key, value)).dropWhile (· ≠ equalsSign) = equalsSign :: value := by
    rw [entryText, List.dropWhile_append_of_pos]
    · simp
    · intro byte member
      have different : byte ≠ equalsSign := fun same => plain.no_sign (same ▸ member)
      simpa using different
  rw [entrySize_eq] at short
  have key_trims := plain.key.toTrimmed.trimSpace (by omega)
  have value_trims := plain.value.toTrimmed.trimSpace (by omega)
  simp only [bufBinding, line, lineBinding, before, behind, key_trims, value_trims]

/-- What a buffer of a file binds is a plain entry, of no more bytes than the
buffer has before its newline. -/
theorem bufBinding_some {contents buf : Bytes} {entry : Bytes × Bytes}
    (member : buf ∈ fileBufs contents) (found : bufBinding buf = some entry) :
    PlainEntry entry ∧ entrySize entry ≤ buf.countP (· ≠ newline) := by
  obtain ⟨body, tail, rfl, free, ending⟩ := fileBufs_shape member
  obtain ⟨key, value, no_sign, part⟩ := lineBinding_some found
  have key_part : entry.1.Sublist (cutLine (body ++ tail)) :=
    (List.sublist_append_left _ _).trans part
  have value_part : entry.2.Sublist (cutLine (body ++ tail)) :=
    ((List.sublist_cons_self _ _).trans (List.sublist_append_right _ _)).trans part
  have no_newline := newline_not_mem_cutLine free ending
  have no_nul := nul_not_mem_cutLine (body ++ tail)
  have no_hash := hash_not_mem_cutLine (body ++ tail)
  refine ⟨⟨⟨key, ?_, ?_, ?_⟩, ⟨value, ?_, ?_, ?_⟩, no_sign⟩, ?_⟩
  · exact fun inside => no_nul (key_part.subset inside)
  · exact fun inside => no_newline (key_part.subset inside)
  · exact fun inside => no_hash (key_part.subset inside)
  · exact fun inside => no_nul (value_part.subset inside)
  · exact fun inside => no_newline (value_part.subset inside)
  · exact fun inside => no_hash (value_part.subset inside)
  · have all : (cutLine (body ++ tail)).countP (· ≠ newline) =
        (cutLine (body ++ tail)).length := by
      rw [List.countP_eq_length]
      intro byte inside
      have different : byte ≠ newline := fun same => no_newline (same ▸ inside)
      simpa using different
    calc entrySize entry
        ≤ (cutLine (body ++ tail)).length := part.length_le
      _ = (cutLine (body ++ tail)).countP (· ≠ newline) := all.symm
      _ ≤ (body ++ tail).countP (· ≠ newline) := (cutLine_sublist _).countP_le

end CConfigFileReader

end TalkSystem.Base
