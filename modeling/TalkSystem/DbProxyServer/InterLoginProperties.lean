import TalkSystem.DbProxyServer.InterLogin

/-!
# When a login is sound and survives

What the loop over the rows leaves behind is what it read from the last row, or
the initial values of the variables when there was no row. A column that is
missing or NULL ends the process in the reader of its type.
-/

set_option autoImplicit false

namespace TalkSystem.DbProxyServer

variable {Conn : Type}

/-! ## Columns -/

/-- A column of a row: `none` if the table has no such column, `some none` for
SQL NULL. -/
def column (fields : List Bytes) (row : Row) (key : String) : Option (Option Bytes) :=
  (CResultSet.GetIndex fields (ascii key)).map fun idx => row[idx]?.join

namespace CInterLoginStrategy

def intKeys : List String := ["id", "sex", "departId", "status"]

def stringKeys : List String :=
  ["password", "salt", "nick", "name", "domain", "phone", "email", "avatar", "sign_info"]

/-- No integer column is NULL, and every string column is there and not NULL. -/
structure Readable (fields : List Bytes) (row : Row) : Prop where
  ints : ∀ key ∈ intKeys, column fields row key ≠ some none
  strings : ∀ key ∈ stringKeys, ∃ text, column fields row key = some (some text)

section Row

variable {fields : List Bytes} {row : Row}

/-- `GetInt` reads a missing column as 0 and has `atoi` read a null pointer. -/
theorem intColumn_isSome_iff (key : String) :
    (intColumn fields row key).isSome ↔ column fields row key ≠ some none := by
  unfold intColumn CResultSet.GetInt column
  cases CResultSet.GetIndex fields (ascii key) with
  | none => simp
  | some idx =>
      cases value : row[idx]?.join <;> simp [value]

theorem stringColumn_eq (key : String) :
    stringColumn fields row key = (column fields row key).join.map cStr := by
  unfold stringColumn CResultSet.GetString column
  cases CResultSet.GetIndex fields (ascii key) <;> rfl

theorem stringColumn_isSome_iff (key : String) :
    (stringColumn fields row key).isSome ↔ ∃ text, column fields row key = some (some text) := by
  rw [stringColumn_eq]
  cases column fields row key with
  | none => simp
  | some value => cases value <;> simp

/-- Reading goes on only past what is there. -/
theorem isSome_bind_iff {Value Result : Type} {value : Option Value} {next : Value → Option Result}
    {condition : Prop} (same : ∀ found, (next found).isSome ↔ condition) :
    (value.bind next).isSome ↔ value.isSome ∧ condition := by
  cases value with
  | none => simp
  | some found => simpa using same found

theorem readRow_isSome_iff : (readRow fields row).isSome ↔ Readable fields row := by
  have columns : (readRow fields row).isSome ↔ _ :=
    isSome_bind_iff fun _ => isSome_bind_iff fun _ => isSome_bind_iff fun _ =>
      isSome_bind_iff fun _ => isSome_bind_iff fun _ => isSome_bind_iff fun _ =>
      isSome_bind_iff fun _ => isSome_bind_iff fun _ => isSome_bind_iff fun _ =>
      isSome_bind_iff fun _ => isSome_bind_iff fun _ => isSome_bind_iff fun _ =>
      isSome_bind_iff fun _ => iff_of_true rfl trivial
  rw [columns]
  simp only [intColumn_isSome_iff, stringColumn_isSome_iff]
  constructor
  · rintro ⟨id, password, salt, nick, sex, name, domain, phone, email, avatar, departId, status,
      sign_info, _⟩
    constructor
    · simp only [intKeys, List.forall_mem_cons]
      exact ⟨id, sex, departId, status, by simp⟩
    · simp only [stringKeys, List.forall_mem_cons]
      exact ⟨password, salt, nick, name, domain, phone, email, avatar, sign_info, by simp⟩
  · rintro ⟨ints, strings⟩
    simp only [intKeys, stringKeys, List.forall_mem_cons] at ints strings
    obtain ⟨id, sex, departId, status, _⟩ := ints
    obtain ⟨password, salt, nick, name, domain, phone, email, avatar, sign_info, _⟩ := strings
    exact ⟨id, password, salt, nick, sex, name, domain, phone, email, avatar, departId, status,
      sign_info, trivial⟩

end Row

theorem readRows_isSome_iff {fields : List Bytes} {rows : List Row} {locals : LoginRow} :
    (readRows fields rows locals).isSome ↔ ∀ row ∈ rows, Readable fields row := by
  induction rows generalizing locals with
  | nil => simp [readRows]
  | cons row rows ih =>
      rw [List.forall_mem_cons, ← readRow_isSome_iff]
      cases read : readRow fields row with
      | none => simp [readRows, read]
      | some next =>
          simp only [readRows, read, Option.bind_eq_bind, Option.bind_some, Option.isSome_some,
            true_and]
          exact ih

/-- The variables keep what the last turn of the loop has put there. -/
theorem readRows_some {fields : List Bytes} {rows : List Row} {start locals : LoginRow}
    (read : readRows fields rows start = some locals) :
    rows = [] ∧ locals = start ∨
      ∃ row, rows.getLast? = some row ∧ readRow fields row = some locals := by
  induction rows generalizing start with
  | nil => exact .inl ⟨rfl, (Option.some.inj read).symm⟩
  | cons row rows ih =>
      obtain ⟨next, turn, rest⟩ := Option.bind_eq_some_iff.mp read
      rcases ih rest with ⟨rfl, rfl⟩ | ⟨last, ending, final⟩
      · exact .inr ⟨row, rfl, turn⟩
      · exact .inr ⟨last, by simp [List.getLast?_cons, ending], final⟩

theorem readRow_strings {fields : List Bytes} {row : Row} {locals : LoginRow}
    (read : readRow fields row = some locals) :
    stringColumn fields row "password" = some locals.strResult ∧
      stringColumn fields row "salt" = some locals.strSalt := by
  obtain ⟨_, _, read⟩ := Option.bind_eq_some_iff.mp read
  obtain ⟨strResult, password, read⟩ := Option.bind_eq_some_iff.mp read
  obtain ⟨strSalt, salt, read⟩ := Option.bind_eq_some_iff.mp read
  rw [password, salt]
  have kept : strResult = locals.strResult ∧ strSalt = locals.strSalt := by
    iterate 10 obtain ⟨_, _, read⟩ := Option.bind_eq_some_iff.mp read
    cases read
    exact ⟨rfl, rfl⟩
  rw [kept.1, kept.2]
  exact ⟨rfl, rfl⟩

/-! ## How a call ends -/

/-- The connection that `GetDBConn` has handed out. -/
def borrowed : Borrowing Conn → List Conn
  | .waits | .returns none => []
  | .returns (some conn) => [conn]

/-- Every connection is given back once, and is free in its pool then. -/
structure GivesBack (poolName : Conn → Bytes) (conns released : List Conn)
    (after : CDBManager Conn) : Prop where
  once : released = conns
  free : ∀ conn ∈ conns, ∀ pool, after (poolName conn) = some pool → conn ∈ pool.freeList

/-- No null pointer is read, and the connection goes back. -/
def Outcome.Survives (poolName : Conn → Bytes) (conns : List Conn) : Outcome Conn → Prop
  | .waits => True
  | .nullPointer => False
  | .returns _ _ manager released => GivesBack poolName conns released manager

section Login

variable [DecidableEq Conn]

theorem RelDBConn_free {manager : CDBManager Conn} {poolName : Conn → Bytes} {conn : Conn}
    {pool : ConnPool Conn} (found : manager.RelDBConn poolName conn (poolName conn) = some pool) :
    conn ∈ pool.freeList := by
  unfold CDBManager.RelDBConn at found
  cases before : manager (poolName conn) with
  | none => simp [before] at found
  | some known =>
      simp only [before, Function.update_self, Option.some.injEq] at found
      rw [← found]
      simp only [CDBPool.RelDBConn, ConnPool.relConn]
      split
      · assumption
      · simp [ConnPool.pushBack]

theorem gives_back_one (poolName : Conn → Bytes) (manager : CDBManager Conn) (conn : Conn) :
    GivesBack poolName [conn] [conn] (manager.RelDBConn poolName conn) := by
  refine ⟨rfl, ?_⟩
  intro other member pool found
  obtain rfl := List.mem_singleton.mp member
  exact RelDBConn_free found

variable (around : Surroundings Conn) (manager : CDBManager Conn) (strName strPass : Bytes)
  (user : UserInfo)

theorem check_survives_iff (conn : Conn) :
    (check around conn manager strName strPass user).Survives around.poolName [conn] ↔
      ∀ table, around.query conn (queryText strName) = some table →
        ∀ row ∈ table.rows, Readable table.fields row := by
  have back := gives_back_one around.poolName (around.meanwhile manager) conn
  unfold check
  cases answer : around.query conn (queryText strName) with
  | none => simpa [Outcome.Survives] using back
  | some table =>
      have readable : (readRows table.fields table.rows (.start around.garbage)).isSome ↔
          ∀ row ∈ table.rows, Readable table.fields row := readRows_isSome_iff
      simp only [Option.some.injEq, forall_eq', ← readable]
      cases readRows table.fields table.rows (.start around.garbage) with
      | none => simp [Outcome.Survives]
      | some locals =>
          dsimp only
          split <;> simpa [Outcome.Survives] using back

/-- A login survives exactly the result sets whose rows are all readable. -/
theorem login_survives_iff :
    (doLogin around manager strName strPass user).Survives around.poolName
        (borrowed (manager.GetDBConn poolKey around.creation).2) ↔
      ∀ conn table, (manager.GetDBConn poolKey around.creation).2 = .returns (some conn) →
        around.query conn (queryText strName) = some table →
        ∀ row ∈ table.rows, Readable table.fields row := by
  unfold doLogin
  generalize manager.GetDBConn poolKey around.creation = taken
  obtain ⟨after, borrowing⟩ := taken
  cases borrowing with
  | waits => simp [Outcome.Survives]
  | returns conn =>
      cases conn with
      | none =>
          have nothing : GivesBack around.poolName [] [] after := ⟨rfl, by simp⟩
          simpa [Outcome.Survives, borrowed] using nothing
      | some conn =>
          simp only [borrowed, check_survives_iff, Borrowing.returns.injEq, Option.some.injEq]
          constructor
          · rintro survives other table rfl
            exact survives table
          · intro survives table
            exact survives conn table rfl

end Login

/-- All columns, and rows of the given values. -/
def tableOf (rows : List Row) (width : ∀ row ∈ rows, row.length = 13) : ResultTable where
  fields := (intKeys ++ stringKeys).map ascii
  rows := rows
  width := width

def oneFree : CDBManager Nat := fun _ => some ⟨[7], 2, 8⟩

def answering (table : ResultTable) : Surroundings Nat where
  poolName := fun _ => poolKey
  creation := ⟨8, 0⟩
  query := fun _ _ => some table
  meanwhile := id
  garbage := ⟨0, 0, 0, 0⟩

def anyUser : UserInfo := ⟨0, 0, [], [], 0, [], [], [], [], 0, []⟩

/-- A user without a signature: `sign_info` is NULL. -/
theorem login_null_column :
    ¬ ∀ (around : Surroundings Nat) (manager : CDBManager Nat) (strName strPass : Bytes)
      (user : UserInfo),
      (doLogin around manager strName strPass user).Survives around.poolName
        (borrowed (manager.GetDBConn poolKey around.creation).2) := by
  intro holds
  exact holds (answering (tableOf [List.replicate 12 (some (ascii "1")) ++ [none]] (by decide)))
    oneFree (ascii "ann") (ascii "secret") anyUser

/-! ## Soundness -/

/-- A result of the query against `IMUser`: the columns are there and not NULL. -/
structure UserTable extends ResultTable where
  columns : ∀ key ∈ intKeys ++ stringKeys, ascii key ∈ fields
  no_null : ∀ row ∈ rows, none ∉ row

theorem UserTable.column_some (table : UserTable) {row : Row} (member : row ∈ table.rows)
    {key : String} (known : key ∈ intKeys ++ stringKeys) :
    ∃ text, column table.fields row key = some (some text) := by
  obtain ⟨idx, found⟩ := Option.isSome_iff_exists.mp
    (List.isSome_idxOf?.mpr (table.columns key known))
  have inside : idx < row.length := by
    rw [table.width row member]
    exact (List.idxOf?_eq_some_iff.mp found).1
  cases value : row[idx] with
  | none => exact absurd (value ▸ List.getElem_mem inside) (table.no_null row member)
  | some text =>
      refine ⟨text, ?_⟩
      simp [column, CResultSet.GetIndex, found, List.getElem?_eq_getElem inside, value]

theorem UserTable.readable (table : UserTable) {row : Row} (member : row ∈ table.rows) :
    Readable table.fields row := by
  constructor
  · intro key known null
    obtain ⟨text, present⟩ := table.column_some member (List.mem_append_left _ known)
    rw [present] at null
    cases null
  · intro key known
    exact table.column_some member (List.mem_append_right _ known)

/-- The last row authenticates the password, and the user is what it says. -/
structure Authentic (table : ResultTable) (strPass : Bytes) (after : UserInfo) (row : Row)
    (salt : Bytes) : Prop where
  last : table.rows.getLast? = some row
  salt_column : column table.fields row "salt" = some (some salt)
  password_column : column table.fields row "password" = some (some (strPass ++ salt))
  user : ∃ locals, readRow table.fields row = some locals ∧ after = locals.setUser

/-- The result is right: `table` is what the query has returned, if it was made. -/
def Outcome.Right (table : Option ResultTable) (strPass : Bytes) (user : UserInfo) :
    Outcome Conn → Prop
  | .waits => True
  | .nullPointer => False
  | .returns bRet after _ _ =>
      (bRet = true → ∃ found ∈ table, ∃ row salt, Authentic found strPass after row salt) ∧
        (bRet = false → after = user)

/-- What the check relies on: an empty result comes with a password, and what
the C strings in the last row authenticate, its columns authenticate. -/
structure Trustworthy (table : ResultTable) (strPass : Bytes) : Prop where
  empty : table.rows = [] → strPass ≠ []
  last : ∀ row salt password, table.rows.getLast? = some row →
    column table.fields row "salt" = some (some salt) →
    column table.fields row "password" = some (some password) →
    strPass ++ cStr salt = cStr password → strPass ++ salt = password

theorem trustworthy_iff {table : ResultTable} {strPass salt password : Bytes} {row : Row}
    (last : table.rows.getLast? = some row)
    (salt_column : column table.fields row "salt" = some (some salt))
    (password_column : column table.fields row "password" = some (some password)) :
    Trustworthy table strPass ↔
      (strPass ++ cStr salt = cStr password → strPass ++ salt = password) := by
  constructor
  · intro trustworthy
    exact trustworthy.last row salt password last salt_column password_column
  · intro equal
    refine ⟨?_, ?_⟩
    · intro empty
      rw [empty] at last
      cases last
    · intro other other_salt other_password other_last other_salt_column other_password_column
      obtain rfl := Option.some.inj (last.symm.trans other_last)
      rw [salt_column] at other_salt_column
      rw [password_column] at other_password_column
      cases other_salt_column
      cases other_password_column
      exact equal

section Soundness

variable [DecidableEq Conn] (around : Surroundings Conn) (manager : CDBManager Conn)
  (strName strPass : Bytes) (user : UserInfo)

omit [DecidableEq Conn] in
/-- A turn of the loop leaves the C strings of its two string columns. -/
theorem UserTable.readRow_texts (table : UserTable) {row : Row} {locals : LoginRow}
    (member : row ∈ table.rows) (read : readRow table.fields row = some locals) :
    ∃ salt password, column table.fields row "salt" = some (some salt) ∧
      column table.fields row "password" = some (some password) ∧
      locals.strSalt = cStr salt ∧ locals.strResult = cStr password := by
  obtain ⟨salt, salt_column⟩ : ∃ text, column table.fields row "salt" = some (some text) :=
    table.column_some member (by decide)
  obtain ⟨password, password_column⟩ :
      ∃ text, column table.fields row "password" = some (some text) :=
    table.column_some member (by decide)
  obtain ⟨result, salted⟩ := readRow_strings read
  rw [stringColumn_eq, password_column] at result
  rw [stringColumn_eq, salt_column] at salted
  exact ⟨salt, password, salt_column, password_column, (Option.some.inj salted).symm,
    (Option.some.inj result).symm⟩

theorem check_right_iff (conn : Conn) {table : UserTable}
    (answer : around.query conn (queryText strName) = some table.toResultTable) :
    (check around conn manager strName strPass user).Right
        (some table.toResultTable) strPass user ↔
      Trustworthy table.toResultTable strPass := by
  obtain ⟨locals, read⟩ : ∃ locals,
      readRows table.fields table.rows (.start around.garbage) = some locals :=
    Option.isSome_iff_exists.mp (readRows_isSome_iff.mpr fun row member => table.readable member)
  simp only [check, answer, read]
  rcases readRows_some read with ⟨empty, rfl⟩ | ⟨row, last, turn⟩
  · -- no row: the strings are still empty
    simp only [LoginRow.start, List.append_nil]
    by_cases no_pass : strPass = []
    · simp only [no_pass, if_true, Outcome.Right]
      constructor
      · rintro ⟨authentic, -⟩
        obtain ⟨found, known, row, salt, holds⟩ := authentic trivial
        obtain rfl := Option.some.inj known
        have last := holds.last
        rw [empty] at last
        cases last
      · intro trustworthy
        exact absurd rfl (trustworthy.empty empty)
    · simp only [no_pass, if_false, Outcome.Right]
      refine iff_of_true ⟨by simp, fun _ => trivial⟩ ⟨fun _ => no_pass, ?_⟩
      intro row salt password last
      rw [empty] at last
      cases last
  · obtain ⟨salt, password, salt_column, password_column, salted, result⟩ :=
      table.readRow_texts (List.mem_of_getLast? last) turn
    rw [salted, result]
    rw [trustworthy_iff last salt_column password_column]
    by_cases accepted : strPass ++ cStr salt = cStr password
    · simp only [accepted, if_true, Outcome.Right, true_imp_iff, Bool.true_eq_false, false_imp_iff,
        and_true]
      constructor
      · rintro ⟨found, known, other, other_salt, holds⟩
        obtain rfl := Option.some.inj known
        obtain rfl := Option.some.inj (last.symm.trans holds.last)
        have same_salt := salt_column.symm.trans holds.salt_column
        have same_password := password_column.symm.trans holds.password_column
        simp only [Option.some.injEq] at same_salt same_password
        rw [same_salt, same_password]
      · intro equal
        refine ⟨table.toResultTable, rfl, row, salt, last, salt_column, ?_, locals, turn, rfl⟩
        rw [equal]
        exact password_column
    · simp only [accepted, if_false, Outcome.Right]
      exact iff_of_true ⟨by simp, fun _ => trivial⟩ fun impossible => absurd impossible id

/-- Surroundings in which every answer comes from `IMUser`. -/
def Surroundings.onUsers (query : Conn → Bytes → Option UserTable) : Surroundings Conn :=
  { around with query := fun conn sql => (query conn sql).map UserTable.toResultTable }

omit [DecidableEq Conn] in
theorem onUsers_creation (query : Conn → Bytes → Option UserTable) :
    (around.onUsers query).creation = around.creation := rfl

end Soundness

def noUser : UserTable :=
  { tableOf [] (by simp) with
    columns := fun _ known => List.mem_map_of_mem known
    no_null := by simp [tableOf] }

end CInterLoginStrategy

end TalkSystem.DbProxyServer
