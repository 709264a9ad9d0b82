import Mathlib.Data.List.Basic

/-!
# Single-quoted string literals of MySQL

A literal ends at the first quote that is neither doubled nor escaped. A
backslash escapes the byte behind it; before `%` and `_` it stays in the value.
-/

set_option autoImplicit false

namespace TalkSystem.SqlLiteral

def quote : UInt8 := 39
def backslash : UInt8 := 92

/-- The bytes that an escape sequence stands for, by the byte behind the backslash. -/
def unescape (byte : UInt8) : List UInt8 :=
  if byte = 48 then [0]
  else if byte = 98 then [8]
  else if byte = 110 then [10]
  else if byte = 114 then [13]
  else if byte = 116 then [9]
  else if byte = 90 then [26]
  else if byte = 37 ∨ byte = 95 then [backslash, byte]
  else [byte]

def consValue (front : List UInt8) :
    Option (List UInt8 × List UInt8) → Option (List UInt8 × List UInt8)
  | none => none
  | some (value, rest) => some (front ++ value, rest)

/-- Read the input behind an opening quote: the value of the literal, and what
follows its closing quote. There is no result when the literal does not end. -/
def scan : List UInt8 → Option (List UInt8 × List UInt8)
  | [] => none
  | [byte] => if byte = quote then some ([], []) else none
  | byte :: next :: input =>
      if byte = quote then
        if next = quote then consValue [quote] (scan input) else some ([], next :: input)
      else if byte = backslash then
        consValue (unescape next) (scan input)
      else
        consValue [byte] (scan (next :: input))

/-- A text that stands for itself inside a literal. -/
def Verbatim : List UInt8 → Prop
  | [] => True
  | [byte] => byte ≠ quote ∧ byte ≠ backslash
  | byte :: next :: text =>
      byte ≠ quote ∧ (byte = backslash → next = 37 ∨ next = 95) ∧ Verbatim (next :: text)

instance decidableVerbatim : (text : List UInt8) → Decidable (Verbatim text)
  | [] => .isTrue trivial
  | [byte] => inferInstanceAs (Decidable (byte ≠ quote ∧ byte ≠ backslash))
  | byte :: next :: text =>
      have := decidableVerbatim (next :: text)
      inferInstanceAs
        (Decidable (byte ≠ quote ∧ (byte = backslash → next = 37 ∨ next = 95) ∧ _))

section Steps

variable {byte : UInt8} {input text : List UInt8}

theorem scan_plain (not_quote : byte ≠ quote) (not_backslash : byte ≠ backslash)
    (more : input ≠ []) : scan (byte :: input) = consValue [byte] (scan input) := by
  obtain ⟨next, input, rfl⟩ := List.exists_cons_of_ne_nil more
  rw [scan, if_neg not_quote, if_neg not_backslash]

theorem scan_escape :
    scan (backslash :: byte :: input) = consValue (unescape byte) (scan input) := by
  rw [scan, if_neg (by decide), if_pos rfl]

theorem Verbatim.tail (verbatim : Verbatim (byte :: text)) : Verbatim text := by
  cases text with
  | nil => trivial
  | cons next text => exact verbatim.2.2

theorem Verbatim.plain (verbatim : Verbatim text) (not_quote : byte ≠ quote)
    (not_backslash : byte ≠ backslash) : Verbatim (byte :: text) := by
  cases text with
  | nil => exact ⟨not_quote, not_backslash⟩
  | cons next text => exact ⟨not_quote, fun same => absurd same not_backslash, verbatim⟩

theorem unescape_wildcard (wildcard : byte = 37 ∨ byte = 95) :
    unescape byte = [backslash, byte] := by
  rcases wildcard with rfl | rfl <;> rfl

theorem unescape_length (not_wildcard : ¬ (byte = 37 ∨ byte = 95)) :
    (unescape byte).length = 1 := by
  unfold unescape
  rw [if_neg not_wildcard]
  repeat' split
  all_goals rfl

theorem consValue_some {front value rest : List UInt8}
    {scanned : Option (List UInt8 × List UInt8)}
    (result : consValue front scanned = some (value, rest)) :
    ∃ behind, scanned = some (behind, rest) ∧ value = front ++ behind := by
  cases scanned with
  | none => cases result
  | some pair =>
      obtain ⟨behind, left⟩ := pair
      cases result
      exact ⟨behind, rfl, rfl⟩

end Steps

/-- A verbatim text is read as itself, up to a quote that is not doubled. -/
theorem scan_verbatim {text : List UInt8} (verbatim : Verbatim text) {rest : List UInt8}
    (undoubled : rest.head? ≠ some quote) :
    scan (text ++ quote :: rest) = some (text, rest) := by
  induction size : text.length using Nat.strongRecOn generalizing text with
  | ind size ih =>
      cases text with
      | nil =>
          cases rest with
          | nil => rfl
          | cons next rest =>
              have different : next ≠ quote := by simpa using undoubled
              simp [scan, different]
      | cons byte text =>
          rw [List.length_cons] at size
          by_cases escapes : byte = backslash
          · subst escapes
            cases text with
            | nil => exact absurd rfl verbatim.2
            | cons next text =>
                rw [List.length_cons] at size
                rw [List.cons_append, List.cons_append, scan_escape,
                  unescape_wildcard (verbatim.2.1 rfl), ih text.length (by omega)
                    verbatim.tail.tail rfl]
                rfl
          · have not_quote : byte ≠ quote := by
              cases text with
              | nil => exact verbatim.1
              | cons next text => exact verbatim.1
            rw [List.cons_append, scan_plain not_quote escapes (by simp),
              ih text.length (by omega) verbatim.tail rfl]
            rfl

/-- A literal is never longer than its text. If it is as long, nothing in it was
doubled or escaped away. -/
theorem scan_some {input value rest : List UInt8} (scanned : scan input = some (value, rest)) :
    value.length + rest.length + 1 ≤ input.length ∧
      (input.length ≤ value.length + rest.length + 1 →
        input = value ++ quote :: rest ∧ Verbatim value) := by
  induction input using scan.induct generalizing value with
  | case1 => cases scanned
  | case2 =>
      cases scanned
      exact ⟨Nat.le_refl _, fun _ => ⟨rfl, trivial⟩⟩
  | case3 byte different => simp [scan, different] at scanned
  | case4 input ih =>
      rw [scan, if_pos rfl, if_pos rfl] at scanned
      obtain ⟨behind, inner, rfl⟩ := consValue_some scanned
      have shorter := (ih inner).1
      simp only [List.length_cons, List.length_append, List.length_nil]
      omega
  | case5 next input different =>
      rw [scan, if_pos rfl, if_neg different] at scanned
      cases scanned
      exact ⟨by simp, fun _ => ⟨rfl, trivial⟩⟩
  | case6 next input _ ih =>
      rw [scan_escape] at scanned
      obtain ⟨behind, inner, rfl⟩ := consValue_some scanned
      obtain ⟨shorter, as_long⟩ := ih inner
      by_cases wildcard : next = 37 ∨ next = 95
      · have not_quote : next ≠ quote := by rcases wildcard with rfl | rfl <;> decide
        have not_backslash : next ≠ backslash := by rcases wildcard with rfl | rfl <;> decide
        simp only [unescape_wildcard wildcard, List.length_cons, List.length_append,
          List.length_nil]
        refine ⟨by omega, fun whole => ?_⟩
        obtain ⟨rfl, verbatim⟩ := as_long (by omega)
        exact ⟨rfl, by decide, fun _ => wildcard, verbatim.plain not_quote not_backslash⟩
      · simp only [List.length_cons, List.length_append, unescape_length wildcard]
        omega
  | case7 byte next input not_quote not_backslash ih =>
      rw [scan_plain not_quote not_backslash (List.cons_ne_nil next input)] at scanned
      obtain ⟨behind, inner, rfl⟩ := consValue_some scanned
      obtain ⟨shorter, as_long⟩ := ih inner
      simp only [List.length_cons, List.length_append, List.length_nil] at shorter as_long ⊢
      refine ⟨by omega, fun whole => ?_⟩
      obtain ⟨same, verbatim⟩ := as_long (by omega)
      exact ⟨by simp [same], verbatim.plain not_quote not_backslash⟩

/-- A text between two quotes is read as itself exactly when it is verbatim. -/
theorem scan_self_iff {text rest : List UInt8} (undoubled : rest.head? ≠ some quote) :
    scan (text ++ quote :: rest) = some (text, rest) ↔ Verbatim text := by
  constructor
  · intro scanned
    refine ((scan_some scanned).2 ?_).2
    simp only [List.length_append, List.length_cons]
    omega
  · intro verbatim
    exact scan_verbatim verbatim undoubled

end TalkSystem.SqlLiteral
