import TalkSystem.Base.ConfigLineBufferProperties

/-!
# Loading inside the buffer

Loading leaves the buffer only when `fgets` has stored a text of length 0; the
map it builds otherwise is the one of `CConfigFileReader.loadContents`.
-/

set_option autoImplicit false

namespace TalkSystem.Base.LineBuffer

/-! ## One buffer -/

/-- An array of 256 bytes that holds a C string. -/
structure Holds (buf text : Bytes) : Prop where
  size : buf.length = 256
  no_nul : 0 ∉ text
  text : ∃ post, buf = text ++ 0 :: post

theorem Holds.strlen {buf text : Bytes} (holds : Holds buf text) :
    strlen buf 0 = some text.length := by
  obtain ⟨post, rfl⟩ := holds.text
  exact strlen_eq [] post holds.no_nul

/-- A NUL in the text ends it there. -/
theorem Holds.cut {buf front back : Bytes} {byte : UInt8}
    (holds : Holds buf (front ++ byte :: back)) :
    ∃ after, poke buf front.length 0 = some after ∧ Holds after front := by
  obtain ⟨post, rfl⟩ := holds.text
  have size := holds.size
  have shape : front ++ byte :: back ++ 0 :: post = front ++ byte :: (back ++ 0 :: post) := by
    simp
  refine ⟨front ++ 0 :: (back ++ 0 :: post), ?_, ?_, ?_, ⟨_, rfl⟩⟩
  · rw [shape, poke_eq]
  · simpa using size
  · exact fun member => holds.no_nul (List.mem_append_left _ member)

/-- `fgets` puts its bytes and a NUL into the buffer. -/
theorem holds_store {buf bytes : Bytes} (size : buf.length = 256) (fits : bytes.length ≤ 255) :
    ∃ after, CheckedMemory.store buf 0 (bytes ++ [0]) = some after ∧ Holds after (cStr bytes) := by
  have inside : 0 + (bytes ++ [0]).length ≤ buf.length := by
    rw [size, List.length_append, List.length_singleton]
    omega
  refine ⟨_, CheckedMemory.store_inside inside, ?_, zero_not_mem_cStr bytes, ?_⟩
  · simp only [List.take_zero, List.nil_append, List.length_append, List.length_drop,
      List.length_singleton] at inside ⊢
    omega
  · by_cases nul : 0 ∈ bytes
    · obtain ⟨front, back, rfl, free⟩ := List.eq_append_cons_of_mem nul
      refine ⟨back ++ [0] ++ buf.drop (0 + (front ++ 0 :: back ++ [0]).length), ?_⟩
      rw [cStr_append free]
      simp [cStr]
    · refine ⟨buf.drop (0 + (bytes ++ [0]).length), ?_⟩
      rw [cStr_eq_self_iff.mpr nul]
      simp

theorem Holds.removeNewline {buf text : Bytes} (holds : Holds buf text) (more : text ≠ []) :
    ∃ after, removeNewline buf = some after ∧
      Holds after (if text.getLast? = some newline then text.dropLast else text) := by
  obtain ⟨init, last, rfl⟩ : ∃ init last, text = init ++ [last] :=
    ⟨_, _, (List.dropLast_append_getLast more).symm⟩
  have size := holds.size
  obtain ⟨post, shape⟩ := holds.text
  have early : init.length < 256 := by
    rw [← size, shape]
    simp only [List.length_append, List.length_cons]
    omega
  have index : ((init ++ [last]).length + 2 ^ 64 - 1) % 2 ^ 64 = init.length := by
    simp only [List.length_append, List.length_singleton]
    omega
  have reads : buf[init.length]? = some last := by simp [shape]
  rw [LineBuffer.removeNewline, holds.strlen]
  simp only [Option.bind_eq_bind, Option.bind_some, index, reads, List.getLast?_concat,
    Option.some.injEq, List.dropLast_concat]
  split
  · exact holds.cut
  · exact ⟨buf, rfl, holds⟩

theorem Holds.removeNewline_empty {buf : Bytes} (holds : Holds buf []) :
    LineBuffer.removeNewline buf = none := by
  have outside : buf[2 ^ 64 - 1]? = none := by
    rw [List.getElem?_eq_none]
    rw [holds.size]
    decide
  rw [LineBuffer.removeNewline, holds.strlen]
  simp only [Option.bind_eq_bind, Option.bind_some, List.length_nil, Nat.zero_add]
  rw [show (2 ^ 64 - 1) % 2 ^ 64 = 2 ^ 64 - 1 from by decide, outside, Option.bind_none]

theorem Holds.removeComment {buf text : Bytes} (holds : Holds buf text) :
    ∃ after, removeComment buf = some after ∧ Holds after (uncommented text) := by
  by_cases comment : hashSign ∈ text
  · obtain ⟨front, back, rfl, free⟩ := List.eq_append_cons_of_mem comment
    have kept : uncommented (front ++ hashSign :: back) = front := by
      rw [uncommented, List.takeWhile_append_of_pos]
      · simp
      · intro byte member
        have different : byte ≠ hashSign := fun same => free (same ▸ member)
        simpa using different
    have found : strchr buf 0 hashSign = some (some front.length) := by
      obtain ⟨post, shape⟩ := holds.text
      have no_nul : 0 ∉ front := fun member => holds.no_nul (List.mem_append_left _ member)
      have first := strchr_found [] (back ++ 0 :: post) no_nul free
      rw [shape]
      simpa using first
    rw [LineBuffer.removeComment, found, kept]
    exact holds.cut
  · have kept : uncommented text = text := by
      rw [uncommented, List.takeWhile_eq_self_iff]
      intro byte member
      have different : byte ≠ hashSign := fun same => comment (same ▸ member)
      simpa using different
    have missing : strchr buf 0 hashSign = some none := by
      obtain ⟨post, rfl⟩ := holds.text
      exact strchr_missing [] post holds.no_nul comment (by decide)
    rw [LineBuffer.removeComment, missing, kept]
    exact ⟨buf, rfl, holds⟩

theorem Holds.parseLine {buf text : Bytes} (holds : Holds buf text) (configMap : StringMap) :
    ∃ after, after.length = 256 ∧ parseLine buf 0 configMap =
      some (after, CConfigFileReader.bindEntry configMap (lineGrammar text)) := by
  obtain ⟨post, shape⟩ := holds.text
  have size := congrArg List.length shape
  rw [holds.size, List.length_append, List.length_cons] at size
  have measurable (sign : equalsSign ∈ text) :
      Measurable (beforeSign text) ∧ Measurable (afterSign text) := by
    have sides := congrArg List.length (sides_of_mem sign)
    rw [List.length_append, List.length_cons] at sides
    exact ⟨.of_short (by omega), .of_short (by omega)⟩
  obtain ⟨cells, cells_size, parses⟩ := parseLine_eq holds.no_nul measurable configMap
  have parsed := parses [] post
  rw [List.nil_append, List.nil_append, ← shape] at parsed
  refine ⟨cells ++ post, ?_, parsed⟩
  rw [List.length_append]
  omega

theorem bufBinding_eq {bytes : Bytes} (fits : bytes.length ≤ 255) :
    CConfigFileReader.bufBinding bytes = lineGrammar (CConfigFileReader.cutLine bytes) := by
  have part := (CConfigFileReader.cutLine_sublist bytes).length_le
  exact CConfigFileReader.lineBinding_eq (by omega)

/-- A buffer that does not start with a NUL is handled inside, as the reader's
`loadLine` has it. -/
theorem loadLine_inside {buf bytes : Bytes} (size : buf.length = 256)
    (fits : bytes.length ≤ 255) (more : cStr bytes ≠ []) (configMap : StringMap) :
    ∃ after, after.length = 256 ∧
      loadLine buf configMap bytes = some (after, CConfigFileReader.loadLine configMap bytes) := by
  obtain ⟨stored, stores, holds⟩ := holds_store size fits
  obtain ⟨ended, ends, holds⟩ := holds.removeNewline more
  obtain ⟨cut, cuts, holds⟩ := holds.removeComment
  have same : Holds cut (CConfigFileReader.cutLine bytes) := holds
  simp only [loadLine, stores, ends, cuts, Option.bind_eq_bind, Option.bind_some, same.strlen,
    List.length_eq_zero_iff, CConfigFileReader.loadLine_eq, bufBinding_eq fits]
  split
  · next empty =>
      rw [empty]
      exact ⟨cut, same.size, rfl⟩
  · exact same.parseLine configMap

theorem loadLine_outside {buf bytes : Bytes} (size : buf.length = 256)
    (fits : bytes.length ≤ 255) (empty : cStr bytes = []) (configMap : StringMap) :
    loadLine buf configMap bytes = none := by
  obtain ⟨stored, stores, holds⟩ := holds_store size fits
  rw [empty] at holds
  simp only [loadLine, stores, holds.removeNewline_empty, Option.bind_eq_bind, Option.bind_some,
    Option.bind_none]

/-! ## The loop -/

theorem fgetsBytes_length_le (count : Nat) (input : Bytes) :
    (fgetsBytes count input).1.length ≤ count := by
  induction count generalizing input with
  | zero => exact Nat.le_refl 0
  | succ count ih =>
      cases input with
      | nil => exact Nat.zero_le _
      | cons byte input =>
          simp only [fgetsBytes]
          split
          · simp
          · simpa using ih input

/-- Between 1 and 255 bytes are read into a buffer. -/
theorem fileBufs_sizes {contents bytes : Bytes}
    (member : bytes ∈ CConfigFileReader.fileBufs contents) :
    bytes ≠ [] ∧ bytes.length ≤ 255 := by
  induction contents using CConfigFileReader.fileBufs_induction with
  | empty => simp at member
  | step contents more ih =>
      rw [CConfigFileReader.fileBufs_of_ne_nil more] at member
      rcases List.mem_cons.mp member with rfl | later
      · refine ⟨?_, fgetsBytes_length_le 255 contents⟩
        obtain ⟨byte, rest, rfl⟩ := List.exists_cons_of_ne_nil more
        simp only [fgetsBytes]
        split <;> simp
      · exact ih later

theorem cStr_eq_nil_iff {bytes : Bytes} (more : bytes ≠ []) :
    cStr bytes = [] ↔ bytes.head? = some 0 := by
  obtain ⟨byte, rest, rfl⟩ := List.exists_cons_of_ne_nil more
  by_cases zero : byte = 0 <;> simp [cStr, zero]

theorem loadBufs_cons {buf next bytes : Bytes} {configMap loaded : StringMap}
    (loads : loadLine buf configMap bytes = some (next, loaded)) (bufs : List Bytes) :
    loadBufs buf configMap (bytes :: bufs) = loadBufs next loaded bufs := by
  simp only [loadBufs, List.foldlM_cons, loads, Option.bind_eq_bind, Option.bind_some]

/-- One buffer after the other: if none starts with a NUL there is a result, and
its map is the reader's. -/
theorem loadBufs_inside {bufs : List Bytes} (sizes : ∀ bytes ∈ bufs, bytes.length ≤ 255)
    (more : ∀ bytes ∈ bufs, cStr bytes ≠ []) {buf : Bytes} (size : buf.length = 256)
    (configMap : StringMap) :
    ∃ after, loadBufs buf configMap bufs =
      some (after, bufs.foldl CConfigFileReader.loadLine configMap) := by
  induction bufs generalizing buf configMap with
  | nil => exact ⟨buf, rfl⟩
  | cons bytes bufs ih =>
      obtain ⟨next, next_size, loads⟩ := loadLine_inside size (sizes bytes List.mem_cons_self)
        (more bytes List.mem_cons_self) configMap
      rw [loadBufs_cons loads, List.foldl_cons]
      exact ih (fun other member => sizes other (List.mem_cons_of_mem bytes member))
        (fun other member => more other (List.mem_cons_of_mem bytes member)) next_size _

theorem loadBufs_outside {bufs : List Bytes} (sizes : ∀ bytes ∈ bufs, bytes.length ≤ 255)
    {bytes : Bytes} (member : bytes ∈ bufs) (empty : cStr bytes = []) {buf : Bytes}
    (size : buf.length = 256) (configMap : StringMap) :
    loadBufs buf configMap bufs = none := by
  induction bufs generalizing buf configMap with
  | nil => simp at member
  | cons first bufs ih =>
      have fits := sizes first List.mem_cons_self
      by_cases here : cStr first = []
      · simp only [loadBufs, List.foldlM_cons, loadLine_outside size fits here,
          Option.bind_eq_bind, Option.bind_none]
      · obtain ⟨next, next_size, loads⟩ := loadLine_inside size fits here configMap
        have later : bytes ∈ bufs := by
          rcases List.mem_cons.mp member with rfl | later
          · exact (here empty).elim
          · exact later
        rw [loadBufs_cons loads]
        exact ih (fun other inside => sizes other (List.mem_cons_of_mem first inside)) later
          next_size _

section Contents

variable {buf contents : Bytes} (size : buf.length = 256) (configMap : StringMap)
include size

theorem loadContents_inside
    (more : ∀ bytes ∈ CConfigFileReader.fileBufs contents, cStr bytes ≠ []) :
    ∃ after, loadContents buf configMap contents =
      some (after, CConfigFileReader.loadContents configMap contents) :=
  loadBufs_inside (fun _ member => (fileBufs_sizes member).2) more size configMap

theorem loadContents_outside {bytes : Bytes}
    (member : bytes ∈ CConfigFileReader.fileBufs contents) (empty : cStr bytes = []) :
    loadContents buf configMap contents = none :=
  loadBufs_outside (fun _ member => (fileBufs_sizes member).2) member empty size configMap

/-- As long as no access leaves the buffer, loading on the buffer is the
reader's loading. -/
theorem loadContents_refines {after : Bytes} {loaded : StringMap}
    (loads : loadContents buf configMap contents = some (after, loaded)) :
    loaded = CConfigFileReader.loadContents configMap contents := by
  by_cases more : ∀ bytes ∈ CConfigFileReader.fileBufs contents, cStr bytes ≠ []
  · obtain ⟨_, inside⟩ := loadContents_inside size configMap more
    exact (Prod.mk.inj (Option.some.inj (loads.symm.trans inside))).2
  · push Not at more
    obtain ⟨bytes, member, empty⟩ := more
    cases loads.symm.trans (loadContents_outside size configMap member empty)

end Contents

theorem loading_stays_inside_iff {buf : Bytes} (size : buf.length = 256)
    (configMap : StringMap) (contents : Bytes) :
    (loadContents buf configMap contents).isSome ↔
      ∀ bytes ∈ CConfigFileReader.fileBufs contents, bytes.head? ≠ some 0 := by
  constructor
  · intro inside bytes member nul
    have empty := (cStr_eq_nil_iff (fileBufs_sizes member).1).mpr nul
    rw [loadContents_outside size configMap member empty] at inside
    cases inside
  · intro starts
    obtain ⟨after, loads⟩ : ∃ after, loadContents buf configMap contents =
        some (after, CConfigFileReader.loadContents configMap contents) := by
      refine loadContents_inside size configMap fun bytes member empty => ?_
      exact starts bytes member ((cStr_eq_nil_iff (fileBufs_sizes member).1).mp empty)
    rw [loads]
    rfl

theorem loading_stays_inside_iff_line :
    (loadContents (List.replicate 256 255) ∅ (ascii "a=1")).isSome ↔
      ∀ bytes ∈ CConfigFileReader.fileBufs (ascii "a=1"), bytes.head? ≠ some 0 :=
  loading_stays_inside_iff List.length_replicate ∅ (ascii "a=1")

/-- A NUL at the start of the file. -/
theorem loading_stays_inside_nul :
    ¬ ∀ (buf : Bytes) (configMap : StringMap) (contents : Bytes), buf.length = 256 →
      (loadContents buf configMap contents).isSome := by
  intro holds
  have size : (List.replicate 256 (255 : UInt8)).length = 256 := List.length_replicate
  have inside := holds (List.replicate 256 255) ∅ [0] size
  have first : [0] ∈ CConfigFileReader.fileBufs [0] := by decide
  rw [loadContents_outside size ∅ first rfl] at inside
  cases inside

end TalkSystem.Base.LineBuffer
