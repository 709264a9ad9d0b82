import TalkSystem.Base.ConfigGrammar
import TalkSystem.Base.ConfigLineBuffer

/-!
# Parsing a line in place

`_TrimSpace` reads and writes nothing but the text it is given and its NUL, so
the two calls for the sides of a line do not disturb each other.
-/

set_option autoImplicit false

namespace TalkSystem.Base.LineBuffer

open CConfigFileReader (castInt Trimmed)

/-! ## C strings in an array -/

section CStrings

variable {text : Bytes} (pre post : Bytes)

theorem scan_eq {stops : UInt8 → Bool} (runs : ∀ byte ∈ text, stops byte = false)
    {byte : UInt8} (halts : stops byte = true) :
    scan stops (text ++ byte :: post) = some text.length := by
  induction text with
  | nil => simp [scan, halts]
  | cons first text ih =>
      have goes_on : stops first = false := runs first List.mem_cons_self
      have rest := ih fun other member => runs other (List.mem_cons_of_mem first member)
      simp [scan, goes_on, rest]

theorem strlen_eq (no_nul : 0 ∉ text) :
    strlen (pre ++ (text ++ 0 :: post)) pre.length = some text.length := by
  rw [strlen, List.drop_left]
  refine scan_eq post ?_ (by rfl)
  intro byte member
  have different : byte ≠ 0 := fun zero => no_nul (zero ▸ member)
  simpa using different

theorem cString_eq (no_nul : 0 ∉ text) :
    cString (pre ++ (text ++ 0 :: post)) pre.length = some text := by
  rw [cString, strlen_eq pre post no_nul, Option.map_some, List.drop_left, List.take_left]

/-- The loop of `strchr` ends at the byte wanted or at the NUL. -/
theorem scan_strchr {wanted byte : UInt8} (no_nul : 0 ∉ text) (missing : wanted ∉ text)
    (ends : byte = wanted ∨ byte = 0) :
    scan (fun byte => byte == wanted || byte == 0) (text ++ byte :: post) =
      some text.length := by
  refine scan_eq post ?_ (by simpa using ends)
  intro other member
  have different : other ≠ wanted := fun same => missing (same ▸ member)
  have visible : other ≠ 0 := fun zero => no_nul (zero ▸ member)
  simp [different, visible]

theorem strchr_missing {wanted : UInt8} (no_nul : 0 ∉ text) (missing : wanted ∉ text)
    (real : wanted ≠ 0) :
    strchr (pre ++ (text ++ 0 :: post)) pre.length wanted = some none := by
  rw [strchr, List.drop_left, scan_strchr post no_nul missing (.inr rfl)]
  simp [real.symm]

theorem strchr_found {wanted : UInt8} (no_nul : 0 ∉ text) (missing : wanted ∉ text) :
    strchr (pre ++ (text ++ wanted :: post)) pre.length wanted =
      some (some (pre.length + text.length)) := by
  rw [strchr, List.drop_left, scan_strchr post no_nul missing (.inl rfl)]
  simp

theorem poke_eq (old new : UInt8) :
    poke (pre ++ old :: post) pre.length new = some (pre ++ new :: post) := by
  rw [poke, if_pos (by simp), List.set_append_right _ _ (Nat.le_refl _), Nat.sub_self]
  rfl

/-- The backward loop overwrites the blanks behind the last byte that is none. -/
theorem cutBlanks_eq {byte : UInt8} (stays : isBlank byte = false) {blanks : Bytes}
    (blank : ∀ other ∈ blanks, isBlank other = true) :
    cutBlanks (pre ++ byte :: (blanks ++ post)) (pre.length + 1 + blanks.length) =
      some (pre ++ byte :: (List.replicate blanks.length 0 ++ post), pre.length) := by
  induction blanks using List.reverseRecOn generalizing post with
  | nil => simp [cutBlanks, stays]
  | append_singleton blanks last ih =>
      have last_blank : isBlank last = true := blank last (by simp)
      have rest := ih (0 :: post) fun other member => blank other (by simp [member])
      have shape : pre ++ byte :: ((blanks ++ [last]) ++ post) =
          (pre ++ byte :: blanks) ++ last :: post := by simp
      have size : pre.length + 1 + (blanks ++ [last]).length =
          (pre ++ byte :: blanks).length + 1 := by
        simp only [List.length_append, List.length_cons, List.length_nil]
        omega
      have before : (pre ++ byte :: blanks).length = pre.length + 1 + blanks.length := by
        simp only [List.length_append, List.length_cons]
        omega
      have zeros : List.replicate (blanks ++ [last]).length (0 : UInt8) ++ post =
          List.replicate blanks.length 0 ++ 0 :: post := by
        rw [List.length_append, List.length_singleton, List.replicate_succ']
        simp
      have reads : ((pre ++ byte :: blanks) ++ last :: post)[(pre ++ byte :: blanks).length]? =
          some last := by simp
      have cut : ((pre ++ byte :: blanks) ++ last :: post).set (pre ++ byte :: blanks).length 0 =
          (pre ++ byte :: blanks) ++ 0 :: post := by
        rw [List.set_append_right _ _ (Nat.le_refl _), Nat.sub_self]
        rfl
      rw [shape, size, cutBlanks, reads]
      simp only [Option.bind_eq_bind, Option.bind_some, last_blank, if_true]
      rw [cut, before, zeros, ← rest, List.append_assoc]
      rfl

end CStrings

/-! ## `_TrimSpace` -/

/-- The `int len` of a text with `length` bytes. -/
def lenOf (length : Nat) : Int := castInt ((length : Int) - 1) + 1

section Trim

variable (pre post : Bytes)

theorem trimSpace_blank {side : Bytes} (blank : ¬ Visible side) :
    trimSpace (pre ++ (side ++ 0 :: post)) pre.length =
      some (pre ++ (side ++ 0 :: post), none) := by
  have all : ∀ byte ∈ side, (!isBlank byte) = false := by
    intro byte member
    cases seen : isBlank byte with
    | true => rfl
    | false => exact (blank ⟨byte, member, seen⟩).elim
  have start : scan (fun byte => !isBlank byte) (side ++ 0 :: post) = some side.length :=
    scan_eq post all rfl
  have ends : strlen (pre ++ (side ++ 0 :: post)) (pre.length + side.length) = some 0 := by
    have empty : strlen (pre ++ side ++ ([] ++ 0 :: post)) (pre ++ side).length = some 0 :=
      strlen_eq (pre ++ side) post (by simp)
    simpa using empty
  simp only [trimSpace, List.drop_left, start, ends, Option.bind_eq_bind, Option.bind_some, if_true]

variable {lead text trail : Bytes}

theorem trimSpace_text (lead_blank : ∀ byte ∈ lead, isBlank byte = true)
    (trail_blank : ∀ byte ∈ trail, isBlank byte = true) (trimmed : Trimmed text)
    (no_nul : 0 ∉ lead ++ (text ++ trail)) (fits : lenOf text.length ≠ 2 ^ 31) :
    trimSpace (pre ++ ((lead ++ (text ++ trail)) ++ 0 :: post)) pre.length =
      some (pre ++ (lead ++ (text ++ (List.replicate trail.length 0 ++ 0 :: post))),
        if lenOf text.length ≤ 0 then none else some (pre.length + lead.length)) := by
  obtain ⟨first, rest, begins⟩ := List.exists_cons_of_ne_nil trimmed.nonempty
  obtain ⟨init, last, ends⟩ : ∃ init last, text = init ++ [last] :=
    ⟨_, _, (List.dropLast_append_getLast trimmed.nonempty).symm⟩
  have start : scan (fun byte => !isBlank byte) (lead ++ (text ++ trail) ++ 0 :: post) =
      some lead.length := by
    have shape : lead ++ (text ++ trail) ++ 0 :: post =
        lead ++ first :: (rest ++ trail ++ 0 :: post) := by simp [begins]
    rw [shape]
    refine scan_eq _ ?_ ?_
    · intro byte member
      rw [lead_blank byte member]
      rfl
    · rw [trimmed.first first rest begins]
      rfl
  have behind : strlen (pre ++ (lead ++ (text ++ trail) ++ 0 :: post)) (pre.length + lead.length) =
      some (text ++ trail).length := by
    have later := strlen_eq (pre ++ lead) post
      (fun member => no_nul (List.mem_append_right lead member))
    rw [List.length_append] at later
    simpa using later
  have more : (text ++ trail).length ≠ 0 := by simp [begins]
  have cut : cutBlanks (pre ++ (lead ++ (text ++ trail) ++ 0 :: post))
      (pre.length + (lead ++ (text ++ trail)).length) =
        some (pre ++ (lead ++ (text ++ (List.replicate trail.length 0 ++ 0 :: post))),
          pre.length + lead.length + init.length) := by
    have loop := cutBlanks_eq (pre ++ (lead ++ init)) (0 :: post)
      (trimmed.last init last ends) trail_blank
    have stop : (pre ++ (lead ++ init)).length + 1 + trail.length =
        pre.length + (lead ++ (text ++ trail)).length := by
      simp only [ends, List.length_append, List.length_singleton]
      omega
    rw [stop] at loop
    simpa [ends, Nat.add_assoc] using loop
  have distance : ((pre.length + lead.length + init.length : Nat) : Int) -
      (pre.length + lead.length : Nat) = (text.length : Int) - 1 := by
    simp only [ends, List.length_append, List.length_singleton]
    omega
  have len : castInt (((pre.length + lead.length + init.length : Nat) : Int) -
      (pre.length + lead.length : Nat)) + 1 = lenOf text.length := by
    rw [distance, lenOf]
  simp only [trimSpace, List.drop_left, start, behind, strlen_eq pre post no_nul,
    Option.bind_eq_bind, Option.bind_some, if_neg more, cut, len, if_neg fits]

end Trim

/-- The call on a side leaves these cells for it and its NUL, and returns this
offset, whatever lies around the side in memory. -/
structure Trims (side cells : Bytes) (start : Option Nat) : Prop where
  size : cells.length = side.length + 1
  runs : ∀ pre post, trimSpace (pre ++ (side ++ 0 :: post)) pre.length =
    some (pre ++ (cells ++ post), start.map (pre.length + ·))
  text : ∀ offset, start = some offset → ∀ pre post,
    cString (pre ++ (cells ++ post)) (pre.length + offset) = some (trimBlanks side)

theorem lenOf_zero : lenOf 0 = 0 := by decide

/-- A side whose trimmed length does not exceed an `int` once it is reduced to one. -/
def Measurable (side : Bytes) : Prop := ((trimBlanks side).length - 1) % 2 ^ 32 < 2 ^ 31 - 1

theorem lenOf_eq {length : Nat} (measurable : (length - 1) % 2 ^ 32 < 2 ^ 31 - 1)
    (more : 0 < length) : lenOf length = ((length - 1) % 2 ^ 32 : Nat) + 1 := by
  have nonneg : ((length : Int) - 1) = ((length - 1 : Nat) : Int) := by omega
  rw [lenOf, castInt, nonneg, Int.bmod_def, if_pos (by omega)]
  omega

theorem Measurable.lenOf {side : Bytes} (measurable : Measurable side) :
    lenOf (trimBlanks side).length ≠ 2 ^ 31 ∧
      (0 < lenOf (trimBlanks side).length ↔ Visible side) := by
  by_cases visible : Visible side
  · have more : 0 < (trimBlanks side).length :=
      List.length_pos_iff.mpr fun empty => trimBlanks_eq_nil_iff.mp empty visible
    have small : ((trimBlanks side).length - 1) % 2 ^ 32 < 2 ^ 31 - 1 := measurable
    rw [lenOf_eq measurable more]
    constructor
    · omega
    · simp only [visible, iff_true]
      omega
  · rw [trimBlanks_eq_nil_iff.mpr visible, List.length_nil, lenOf_zero]
    simp [visible]

theorem Measurable.of_short {side : Bytes} (short : side.length < 2 ^ 31) : Measurable side := by
  have part : (trimBlanks side).length ≤ side.length :=
    ((List.rdropWhile_prefix isBlank _).sublist.trans (List.dropWhile_sublist _)).length_le
  rw [Measurable, Nat.mod_eq_of_lt (by omega)]
  omega

/-- Unless the `int` overflows the call has a result, NULL if `len` is not positive. -/
theorem exists_trims {side : Bytes} (no_nul : 0 ∉ side)
    (fits : lenOf (trimBlanks side).length ≠ 2 ^ 31) :
    ∃ cells start, Trims side cells start ∧
      (start.isSome ↔ 0 < lenOf (trimBlanks side).length) := by
  by_cases visible : Visible side
  · obtain ⟨lead, trail, shape, lead_blank, trail_blank, trimmed⟩ := side_shape visible
    refine ⟨lead ++ (trimBlanks side ++ (List.replicate trail.length 0 ++ [0])),
      if lenOf (trimBlanks side).length ≤ 0 then none else some lead.length, ⟨?_, ?_, ?_⟩, ?_⟩
    · have size := congrArg List.length shape
      simp only [List.length_append, List.length_replicate, List.length_singleton] at size ⊢
      omega
    · intro pre post
      have call := trimSpace_text pre post lead_blank trail_blank trimmed (shape ▸ no_nul) fits
      rw [← shape] at call
      rw [call]
      split <;> simp
    · intro offset returned pre post
      split at returned
      · cases returned
      · obtain rfl := Option.some.inj returned
        have text_no_nul : 0 ∉ trimBlanks side := by
          intro member
          rw [shape] at no_nul
          exact no_nul (List.mem_append_right _ (List.mem_append_left _ member))
        obtain ⟨others, ending⟩ : ∃ others, List.replicate trail.length 0 ++ [0] ++ post =
            (0 : UInt8) :: others := by
          cases trail with
          | nil => exact ⟨post, rfl⟩
          | cons _ trail => exact ⟨_, rfl⟩
        have read := cString_eq (pre ++ lead) others text_no_nul
        rw [← ending, List.length_append] at read
        simpa using read
    · split
      · simp only [Option.isSome_none, Bool.false_eq_true, false_iff]
        omega
      · simp only [Option.isSome_some, true_iff]
        omega
  · refine ⟨side ++ [0], none, ⟨by simp, ?_, by simp⟩, ?_⟩
    · intro pre post
      rw [trimSpace_blank pre post visible]
      simp
    · rw [trimBlanks_eq_nil_iff.mpr visible, List.length_nil, lenOf_zero]
      simp

/-! ## `_ParseLine` -/

theorem parseLine_unsigned {line : Bytes} (no_nul : 0 ∉ line) (unsigned : equalsSign ∉ line)
    (pre post : Bytes) (configMap : StringMap) :
    parseLine (pre ++ (line ++ 0 :: post)) pre.length configMap =
      some (pre ++ (line ++ 0 :: post), configMap) := by
  simp only [parseLine, strchr_missing pre post no_nul unsigned (by decide),
    Option.bind_eq_bind, Option.bind_some]

/-- The two trims work on the two sides, one after the other. -/
theorem parseLine_signed {before after : Bytes} (no_nul : 0 ∉ before)
    (unsigned : equalsSign ∉ before) {cells others : Bytes} {key value : Option Nat}
    (trims_key : Trims before cells key) (trims_value : Trims after others value)
    (pre post : Bytes) (configMap : StringMap) :
    parseLine (pre ++ ((before ++ equalsSign :: after) ++ 0 :: post)) pre.length configMap =
      some (pre ++ ((cells ++ others) ++ post),
        if key.isSome ∧ value.isSome then
          configMap.insertIfNew (trimBlanks before) (trimBlanks after)
        else
          configMap) := by
  have whole : pre ++ ((before ++ equalsSign :: after) ++ 0 :: post) =
      pre ++ (before ++ equalsSign :: (after ++ 0 :: post)) := by simp
  have found := strchr_found pre (after ++ 0 :: post) no_nul unsigned
  have cut : poke (pre ++ (before ++ equalsSign :: (after ++ 0 :: post)))
      (pre.length + before.length) 0 = some (pre ++ (before ++ 0 :: (after ++ 0 :: post))) := by
    have poked := poke_eq (pre ++ before) (after ++ 0 :: post) equalsSign 0
    simpa using poked
  have first := trims_key.runs pre (after ++ 0 :: post)
  have second : trimSpace (pre ++ (cells ++ (after ++ 0 :: post)))
      (pre.length + before.length + 1) = some (pre ++ ((cells ++ others) ++ post),
        value.map (pre.length + before.length + 1 + ·)) := by
    have next := trims_value.runs (pre ++ cells) post
    rw [List.length_append, trims_key.size, ← Nat.add_assoc] at next
    simpa using next
  rw [whole]
  simp only [parseLine, found, cut, first, second, Option.bind_eq_bind, Option.bind_some]
  cases key with
  | none => simp
  | some key =>
      cases value with
      | none => simp
      | some value =>
          have name := trims_key.text key rfl pre (others ++ post)
          have text := trims_value.text value rfl (pre ++ cells) post
          rw [List.length_append, trims_key.size, ← Nat.add_assoc] at text
          rw [← List.append_assoc cells] at name
          rw [List.append_assoc pre, ← List.append_assoc cells] at text
          simp only [Option.map_some, name, text, Option.bind_some, Option.isSome_some, and_self,
            if_true]

theorem lineGrammar_signed {before : Bytes} (unsigned : equalsSign ∉ before) (after : Bytes) :
    lineGrammar (before ++ equalsSign :: after) =
      if Visible before ∧ Visible after then some (trimBlanks before, trimBlanks after)
      else none := by
  obtain ⟨front, back⟩ := sides_append unsigned after
  simp [lineGrammar, front, back]

/-- A line in memory is cut up in place, and what the grammar finds in it is bound. -/
theorem parseLine_eq {line : Bytes} (no_nul : 0 ∉ line)
    (measurable : equalsSign ∈ line → Measurable (beforeSign line) ∧ Measurable (afterSign line))
    (configMap : StringMap) :
    ∃ cells, cells.length = line.length + 1 ∧ ∀ pre post,
      parseLine (pre ++ (line ++ 0 :: post)) pre.length configMap =
        some (pre ++ (cells ++ post),
          CConfigFileReader.bindEntry configMap (lineGrammar line)) := by
  by_cases sign : equalsSign ∈ line
  · obtain ⟨key_fits, value_fits⟩ := measurable sign
    have unsigned := sign_not_mem_beforeSign line
    rw [← sides_of_mem sign] at no_nul ⊢
    generalize beforeSign line = before at *
    generalize afterSign line = after at *
    rw [List.mem_append, not_or] at no_nul
    obtain ⟨cells, key, trims_key, key_some⟩ := exists_trims no_nul.1 key_fits.lenOf.1
    obtain ⟨others, value, trims_value, value_some⟩ :=
      exists_trims (fun member => no_nul.2 (List.mem_cons_of_mem equalsSign member))
        value_fits.lenOf.1
    refine ⟨cells ++ others, ?_, ?_⟩
    · simp only [List.length_append, List.length_cons, trims_key.size, trims_value.size]
      omega
    · intro pre post
      rw [parseLine_signed no_nul.1 unsigned trims_key trims_value, lineGrammar_signed unsigned]
      simp only [key_some, value_some, key_fits.lenOf.2, value_fits.lenOf.2]
      split <;> rfl
  · refine ⟨line ++ [0], by simp, fun pre post => ?_⟩
    rw [parseLine_unsigned no_nul sign, lineGrammar, if_neg fun holds => sign holds.1]
    simp [CConfigFileReader.bindEntry]

/-- `_TrimSpace` reads and writes a side and its NUL only, so it needs no other
memory and finds the same whatever the other memory holds. -/
def StaysInside (side : Bytes) : Prop :=
  ∃ (cells : Bytes) (start : Option Nat), cells.length = side.length + 1 ∧ ∀ pre post,
    trimSpace (pre ++ (side ++ 0 :: post)) pre.length =
      some (pre ++ (cells ++ post), start.map (pre.length + ·))

theorem Measurable.staysInside {side : Bytes} (measurable : Measurable side)
    (no_nul : 0 ∉ side) : StaysInside side := by
  obtain ⟨cells, start, trims, -⟩ := exists_trims no_nul measurable.lenOf.1
  exact ⟨cells, start, trims.size, trims.runs⟩

theorem parseLine_follows_grammar {line : Bytes} (no_nul : 0 ∉ line)
    (measurable : equalsSign ∈ line → Measurable (beforeSign line) ∧ Measurable (afterSign line))
    (pre post : Bytes) (configMap : StringMap) :
    ∃ cells after, cells.length = line.length + 1 ∧
      parseLine (pre ++ (line ++ 0 :: post)) pre.length configMap =
        some (pre ++ (cells ++ post), after) ∧
      (∀ key : Bytes, after[key]? = configMap[key]?.or ((lineGrammar line).toList.lookup key)) ∧
      (equalsSign ∈ line → StaysInside (beforeSign line) ∧ StaysInside (afterSign line)) := by
  obtain ⟨cells, size, parses⟩ := parseLine_eq no_nul measurable configMap
  refine ⟨cells, _, size, parses pre post,
    CConfigFileReader.getElem?_bindEntry configMap (lineGrammar line), fun sign => ?_⟩
  rw [← sides_of_mem sign, List.mem_append, not_or] at no_nul
  obtain ⟨key_fits, value_fits⟩ := measurable sign
  exact ⟨key_fits.staysInside no_nul.1,
    value_fits.staysInside fun member => no_nul.2 (List.mem_cons_of_mem equalsSign member)⟩

theorem parseLine_follows_grammar_blanks :
    ∃ cells after, cells.length = (ascii " a = b = c ").length + 1 ∧
      parseLine ([] ++ (ascii " a = b = c " ++ 0 :: [])) ([] : Bytes).length ∅ =
        some ([] ++ (cells ++ []), after) ∧
      (∀ key : Bytes, after[key]? =
        (∅ : StringMap)[key]?.or ((lineGrammar (ascii " a = b = c ")).toList.lookup key)) ∧
      (equalsSign ∈ ascii " a = b = c " →
        StaysInside (beforeSign (ascii " a = b = c ")) ∧
          StaysInside (afterSign (ascii " a = b = c "))) :=
  parseLine_follows_grammar (by decide)
    (fun _ => ⟨.of_short (by decide), .of_short (by decide)⟩) [] [] ∅

/-! A key of `2 ^ 31 + 1` bytes has a negative `len`. -/

theorem trimBlanks_replicate (size : Nat) :
    trimBlanks (List.replicate size 107) = List.replicate size 107 := by
  have seen : isBlank 107 = false := by decide
  simp [trimBlanks, List.rdropWhile, seen]

theorem parseLine_lost {size : Nat} (negative : lenOf size < 0) :
    ∃ cells, parseLine ([] ++ ((List.replicate size 107 ++ equalsSign :: ascii "v") ++ 0 :: []))
      ([] : Bytes).length ∅ = some (cells, ∅) := by
  have no_nul : (0 : UInt8) ∉ List.replicate size 107 :=
    fun member => absurd (List.eq_of_mem_replicate member) (by decide)
  have unsigned : equalsSign ∉ List.replicate size 107 :=
    fun member => absurd (List.eq_of_mem_replicate member) (by decide)
  have len : lenOf (trimBlanks (List.replicate size 107)).length = lenOf size := by
    rw [trimBlanks_replicate, List.length_replicate]
  obtain ⟨cells, key, trims_key, key_some⟩ := exists_trims no_nul (by rw [len]; omega)
  obtain ⟨others, value, trims_value, -⟩ : ∃ others value, Trims (ascii "v") others value ∧
      (value.isSome ↔ 0 < lenOf (trimBlanks (ascii "v")).length) :=
    exists_trims (by decide) (by decide)
  have lost : ¬ key.isSome := by
    rw [key_some, len]
    omega
  have parsed := parseLine_signed no_nul unsigned trims_key trims_value [] [] ∅
  rw [if_neg fun both => lost both.1] at parsed
  exact ⟨_, parsed⟩

theorem parseLine_follows_grammar_overflow :
    ¬ ∀ (line pre post : Bytes) (configMap : StringMap), 0 ∉ line →
      ∃ cells after, parseLine (pre ++ (line ++ 0 :: post)) pre.length configMap =
          some (cells, after) ∧
        ∀ key : Bytes, after[key]? =
          configMap[key]?.or ((lineGrammar line).toList.lookup key) := by
  intro holds
  obtain ⟨size, more, negative⟩ : ∃ size, 0 < size ∧ lenOf size < 0 :=
    ⟨2 ^ 31 + 1, by decide, by decide⟩
  have unsigned : equalsSign ∉ List.replicate size 107 :=
    fun member => absurd (List.eq_of_mem_replicate member) (by decide)
  have no_nul : 0 ∉ List.replicate size 107 ++ equalsSign :: ascii "v" := by
    intro member
    rcases List.mem_append.mp member with key | value
    · exact absurd (List.eq_of_mem_replicate key) (by decide)
    · exact absurd value (by decide)
  obtain ⟨cells, lost⟩ := parseLine_lost negative
  obtain ⟨_, after, parsed, binds⟩ := holds _ [] [] ∅ no_nul
  obtain rfl : ∅ = after := (Prod.mk.inj (Option.some.inj (lost.symm.trans parsed))).2
  have visible : Visible (List.replicate size 107) :=
    ⟨107, List.mem_replicate.mpr ⟨by omega, rfl⟩, by decide⟩
  have bound := binds (List.replicate size 107)
  rw [lineGrammar_signed unsigned, if_pos ⟨visible, by decide⟩, trimBlanks_replicate] at bound
  simp at bound

end TalkSystem.Base.LineBuffer
