import Mathlib.Data.List.TakeWhile
import TalkSystem.Machine.SqlLiteral

/-!
# Statements with string literals

A statement is code with literals in it; the code has neither quotes nor
comments. Reading one takes the code up to a quote, the literal behind it, and
goes on.
-/

set_option autoImplicit false

namespace TalkSystem.SqlStatement

open SqlLiteral

/-- The literals of a statement, each with the code in front of it, and the code
behind the last one. `fuel` bounds the number of literals. -/
def read : Nat → List UInt8 → Option (List (List UInt8 × List UInt8) × List UInt8)
  | 0, _ => none
  | fuel + 1, statement =>
      let code := statement.takeWhile (· ≠ quote)
      match statement.dropWhile (· ≠ quote) with
      | [] => some ([], code)
      | _ :: behind =>
          (scan behind).bind fun literal =>
            (read fuel literal.2).map fun more => ((code, literal.1) :: more.1, more.2)

/-- The text of a statement whose literals are given by the texts between their quotes. -/
def fill (parts : List (List UInt8 × List UInt8)) (last : List UInt8) : List UInt8 :=
  (parts.flatMap fun part => part.1 ++ quote :: part.2 ++ [quote]) ++ last

/-- A text that is read as the value before every statement that goes on without a quote. -/
def Reads (text value : List UInt8) : Prop :=
  ∀ rest : List UInt8, rest.head? ≠ some quote →
    scan (text ++ quote :: rest) = some (value, rest)

theorem code_passes {code : List UInt8} (plain : quote ∉ code) :
    ∀ byte ∈ code, decide (byte ≠ quote) = true := by
  intro byte member
  rw [decide_eq_true_eq]
  rintro rfl
  exact plain member

theorem dropWhile_code {code rest : List UInt8} (plain : quote ∉ code) :
    (code ++ quote :: rest).takeWhile (· ≠ quote) = code ∧
      (code ++ quote :: rest).dropWhile (· ≠ quote) = quote :: rest := by
  rw [List.takeWhile_append_of_pos (code_passes plain),
    List.dropWhile_append_of_pos (code_passes plain)]
  simp

theorem read_code {fuel : Nat} {code : List UInt8} (plain : quote ∉ code) :
    read (fuel + 1) code = some ([], code) := by
  have passes := code_passes plain
  simp only [read, List.dropWhile_eq_nil_iff.mpr passes, List.takeWhile_eq_self_iff.mpr passes]

theorem read_literal {fuel : Nat} {code text value rest : List UInt8} (plain : quote ∉ code)
    (reads : Reads text value) (undoubled : rest.head? ≠ some quote) :
    read (fuel + 1) (code ++ quote :: text ++ quote :: rest) =
      (read fuel rest).map fun more => ((code, value) :: more.1, more.2) := by
  obtain ⟨front, back⟩ := @dropWhile_code code (text ++ quote :: rest) plain
  rw [read, List.append_assoc, List.cons_append]
  simp only [front, back, reads rest undoubled, Option.bind_some]

theorem fill_head? {parts : List (List UInt8 × List UInt8)} {last : List UInt8}
    (plain : ∀ part ∈ parts, part.1 ≠ [] ∧ quote ∉ part.1) (plain_last : quote ∉ last) :
    (fill parts last).head? ≠ some quote := by
  cases parts with
  | nil => exact fun first => plain_last (List.mem_of_head? first)
  | cons part parts =>
      obtain ⟨some_code, code⟩ := plain part List.mem_cons_self
      obtain ⟨byte, bytes, shape⟩ := List.exists_cons_of_ne_nil some_code
      simp only [fill, List.flatMap_cons, shape, List.cons_append, List.head?_cons, ne_eq,
        Option.some.injEq]
      rintro rfl
      exact code (shape ▸ List.mem_cons_self)

/-- A statement is read as its code and the values of its literals, whatever the values are. -/
theorem read_fill {parts : List (List UInt8 × List UInt8)} {values : List (List UInt8)}
    {last : List UInt8} (plain : ∀ part ∈ parts, part.1 ≠ [] ∧ quote ∉ part.1)
    (plain_last : quote ∉ last)
    (reads : List.Forall₂ (fun part value => Reads part.2 value) parts values) {fuel : Nat}
    (enough : parts.length < fuel) :
    read fuel (fill parts last) = some ((parts.map Prod.fst).zip values, last) := by
  induction reads generalizing fuel with
  | nil =>
      obtain ⟨fuel, rfl⟩ := Nat.exists_eq_succ_of_ne_zero (Nat.ne_of_gt enough)
      exact read_code plain_last
  | @cons part value parts values first _ ih =>
      obtain ⟨fuel, rfl⟩ := Nat.exists_eq_succ_of_ne_zero (Nat.ne_of_gt (Nat.zero_lt_of_lt enough))
      have rest : ∀ other ∈ parts, other.1 ≠ [] ∧ quote ∉ other.1 :=
        fun other member => plain other (List.mem_cons_of_mem _ member)
      have split : fill (part :: parts) last =
          part.1 ++ quote :: part.2 ++ quote :: fill parts last := by
        simp [fill]
      rw [split, read_literal (plain part List.mem_cons_self).2 first (fill_head? rest plain_last),
        ih rest (by simpa using enough)]
      rfl

end TalkSystem.SqlStatement
