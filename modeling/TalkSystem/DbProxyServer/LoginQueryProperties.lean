import TalkSystem.DbProxyServer.InterLogin
import TalkSystem.Machine.SqlLiteral

/-!
# The login query as MySQL reads it

`doLogin` puts the name between two quotes as it is. What MySQL compares the
column with is the literal that it reads there, and the rest of the statement
is whatever follows the quote that ends it.
-/

set_option autoImplicit false

namespace TalkSystem.DbProxyServer.CInterLoginStrategy

open SqlLiteral

/-- The value of the name literal in a text that is the login query; other texts
have none. -/
def readLogin (sql : Bytes) : Option Bytes :=
  if sqlHead.isPrefixOf sql then
    match scan (sql.drop sqlHead.length) with
    | none => none
    | some (name, rest) => if rest = sqlTail then some name else none
  else
    none

/-- The query names exactly `strName`, and whatever it means for a row to have a
name and status 0, it selects the rows that have `strName`. -/
structure InjectionFree (strName : Bytes) : Prop where
  literal : readLogin (queryText strName) = some strName
  rows : ∀ (selects : Bytes → Row → Bool) (table : List Row),
    (readLogin (queryText strName)).map (fun name => table.filter (selects name)) =
      some (table.filter (selects strName))

theorem readLogin_head (behind : Bytes) :
    readLogin (sqlHead ++ behind) =
      match scan behind with
      | none => none
      | some (name, rest) => if rest = sqlTail then some name else none := by
  have starts : sqlHead.isPrefixOf (sqlHead ++ behind) := by simp
  rw [readLogin, if_pos starts, List.drop_left]

theorem readLogin_head_iff {behind name : Bytes} :
    readLogin (sqlHead ++ behind) = some name ↔ scan behind = some (name, sqlTail) := by
  rw [readLogin_head]
  cases scan behind with
  | none => simp
  | some found =>
      obtain ⟨value, rest⟩ := found
      by_cases same : rest = sqlTail <;> simp [same]

theorem queryText_eq (strName : Bytes) :
    queryText strName = sqlHead ++ cStr (strName ++ quote :: sqlTail) := by
  have quoted : strSql strName = sqlHead ++ (strName ++ quote :: sqlTail) := by
    simp [strSql, ascii, quote]
  rw [queryText, quoted, cStr_append (by decide)]

/-- The query is read as intended for exactly the names without a NUL that
stand for themselves in a literal. -/
theorem login_query_iff (strName : Bytes) :
    InjectionFree strName ↔ 0 ∉ strName ∧ Verbatim strName := by
  have literal_iff : readLogin (queryText strName) = some strName ↔
      0 ∉ strName ∧ Verbatim strName := by
    rw [queryText_eq, readLogin_head_iff]
    by_cases nul : 0 ∈ strName
    · -- the text ends inside the name and cannot hold all of it
      refine iff_of_false ?_ fun plain => plain.1 nul
      intro scanned
      rw [cStr_append_of_mem nul] at scanned
      have room := (scan_some scanned).1
      have cut : (cStr strName).length ≤ strName.length := (List.takeWhile_sublist _).length_le
      omega
    · have whole : cStr (strName ++ quote :: sqlTail) = strName ++ quote :: sqlTail := by
        rw [cStr_append nul, cStr_eq_self_iff.mpr (by decide)]
      rw [whole, scan_self_iff (by decide), and_iff_right nul]
  constructor
  · intro free
    exact literal_iff.mp free.literal
  · intro plain
    have literal := literal_iff.mpr plain
    refine ⟨literal, fun selects table => ?_⟩
    rw [literal, Option.map_some]

/-- The name that makes the condition true for every row. -/
theorem login_query_injected : ¬ ∀ strName, InjectionFree strName := by
  intro holds
  have literal := (holds (ascii "' or '1'='1")).literal
  revert literal
  decide

end TalkSystem.DbProxyServer.CInterLoginStrategy
