import TalkSystem.DbProxyServer.CacheRoundTripProperties
import TalkSystem.DbProxyServer.FormatProperties

/-!
# `mget` against `get`

`get` hands its key over as an argument and takes the value with its length.
`mget` makes the keys part of a format, pairs the elements of the reply with them
by position, and takes each value as a C string.
-/

set_option autoImplicit false

namespace TalkSystem.DbProxyServer

namespace Redis

variable {Store : Type} (redis : Redis Store)

def textAt (store : Store) (key : Bytes) : Option Bytes :=
  match redis.value store key with
  | some (.text text) => some text
  | some (.hash _) | some .other | none => none

/-- The element of a reply to `MGET` for a key. -/
def element (store : Store) (key : Bytes) : RedisReply :=
  match redis.textAt store key with
  | some text => .string text
  | none => .nil

/-- What the two operations rely on. -/
structure ReadsDocumented : Prop where
  format : ∀ {format args argv}, formatArguments format args = some argv →
    redis.encode (.format format args) = some argv
  get : ∀ store key text, redis.value store key = some (.text text) →
    (redis.execute store [ascii "GET", key]).2 = .string text
  mget : ∀ store keys, keys ≠ [] →
    (redis.execute store (ascii "MGET" :: keys)).2 = .array (keys.map (redis.element store))

/-- All values are strings. -/
def OnlyTexts (store : Store) : Prop :=
  ∀ key value, redis.value store key = some value → ∃ text, value = .text text

/-- No value of these keys has a NUL. -/
def NulFreeAt (store : Store) (keys : List Bytes) : Prop :=
  ∀ key ∈ keys, ∀ text, redis.value store key = some (.text text) → 0 ∉ text

/-- `mget` into an empty map succeeds with the pairs that `get` gives for those
of the keys that are present. -/
def MgetAgrees (store : Store) (server : CacheServer) (conn : CacheConn)
    (answers : RedisAnswers) (keys : List Bytes) : Prop :=
  ∃ found : StringMap,
    (redis.serve store answers conn
      (fun conn answers => conn.mget server answers keys ∅)).2.2 = some (true, found) ∧
    ∀ key value : Bytes, found[key]? = some value ↔
      key ∈ keys ∧ (redis.value store key).isSome = true ∧
        (redis.serve store answers conn
          (fun conn answers => conn.get server answers key)).2.2 = value

end Redis

/-- Keys that stay what they are as the words of a format. -/
def PlainKeys (keys : List Bytes) : Prop := ∀ key ∈ keys, key ≠ [] ∧ 32 ∉ key ∧ 37 ∉ key

namespace Redis

variable {Store : Type} {redis : Redis Store} {store : Store} {conn : CacheConn}
  {server : CacheServer} {answers : RedisAnswers} {keys : List Bytes}

/-! ## The two operations on a healthy connection -/

theorem serve_get (documented : redis.ReadsDocumented)
    (healthy : (conn.Init server answers).2 = 0) {key : Bytes} (no_nul : 0 ∉ key) {text : Bytes}
    (held : redis.value store key = some (.text text)) :
    (redis.serve store answers conn (fun conn answers => conn.get server answers key)).2.2 =
      text := by
  have encoded : redis.encode (.format (ascii "GET %s") [.str (cStr key)]) =
      some [ascii "GET", cStr (cStr key)] := documented.format rfl
  rw [cStr_cStr] at encoded
  obtain ⟨next, -, served⟩ : ∃ next : CacheConn, next.pContext.isSome = true ∧
      redis.serve store answers conn (fun conn answers => conn.get server answers key) =
        ((redis.execute store [ascii "GET", cStr key]).1, next,
          (redis.execute store [ascii "GET", cStr key]).2.toText) :=
    serve_perform store encoded healthy
  rw [served, cStr_eq_self_iff.mpr no_nul, documented.get store key text held]
  rfl

section Mget

variable (healthy : (conn.Init server answers).2 = 0) {ret_value : StringMap}
  {command : RedisCommand}
include healthy

theorem serve_mget_joined (joined : CacheConn.mgetCommand keys = some command) :
    (redis.serve store answers conn
      (fun conn answers => conn.mget server answers keys ret_value)).2.2 =
        (redis.answer store command).elim (some (false, ret_value))
          (CacheConn.mgetDecode keys ret_value) := by
  have same : conn.Init server { answers with command := redis.answer store } =
      conn.Init server answers := rfl
  simp only [serve, CacheConn.mget, same, healthy, ne_eq, not_true_eq_false, if_false, joined,
    CacheConn.issue, CacheConn.redisCommand]
  cases redis.answer store command <;> rfl

theorem serve_mget_empty (joined : CacheConn.mgetCommand keys = none) :
    (redis.serve store answers conn
      (fun conn answers => conn.mget server answers keys ret_value)).2.2 =
        some (false, ret_value) := by
  have same : conn.Init server { answers with command := redis.answer store } =
      conn.Init server answers := rfl
  simp only [serve, CacheConn.mget, same, healthy, ne_eq, not_true_eq_false, if_false, joined]

theorem serve_mget_null (joined : CacheConn.mgetCommand keys = some command)
    (unanswered : redis.encode command = none) :
    (redis.serve store answers conn
      (fun conn answers => conn.mget server answers keys ret_value)).2.2 =
        some (false, ret_value) := by
  have null : redis.answer store command = none := by simp [answer, unanswered]
  rw [serve_mget_joined healthy joined, null, Option.elim_none]

theorem serve_mget (joined : CacheConn.mgetCommand keys = some command) {argv : List Bytes}
    (encoded : redis.encode command = some argv) :
    (redis.serve store answers conn
      (fun conn answers => conn.mget server answers keys ret_value)).2.2 =
        CacheConn.mgetDecode keys ret_value (redis.execute store argv).2 := by
  have answered : redis.answer store command = some (redis.execute store argv).2 := by
    simp [answer, encoded]
  rw [serve_mget_joined healthy joined, answered, Option.elim_some]

end Mget

/-! ## The format of `mget` -/

def joinedKeys (keys : List Bytes) : Bytes := ([32] : Bytes).intercalate keys

theorem mgetCommand_of_ne_nil (no_nul : ∀ key ∈ keys, 0 ∉ key) (more : joinedKeys keys ≠ []) :
    CacheConn.mgetCommand keys = some (.format (ascii "MGET " ++ joinedKeys keys) []) := by
  have free : 0 ∉ ascii "MGET " ++ joinedKeys keys := by
    rw [List.mem_append, not_or]
    exact ⟨by decide, Splitting.not_mem_intercalate (by decide) no_nul⟩
  have whole := cStr_eq_self_iff.mpr free
  have space : (ascii " ").intercalate keys = joinedKeys keys := rfl
  simp only [CacheConn.mgetCommand, space, if_neg more, whole]

/-- The words of the format behind `MGET`. -/
def askedKeys (keys : List Bytes) : List Bytes :=
  ((joinedKeys keys).splitOn 32).filter (· ≠ [])

theorem formatArguments_mget (no_nul : ∀ key ∈ keys, 0 ∉ key) (plain : 37 ∉ joinedKeys keys) :
    formatArguments (ascii "MGET " ++ joinedKeys keys) [] =
      some (ascii "MGET" :: askedKeys keys) := by
  have shape : ascii "MGET " ++ joinedKeys keys = ascii "MGET" ++ 32 :: joinedKeys keys := rfl
  have free : 0 ∉ ascii "MGET " ++ joinedKeys keys := by
    rw [List.mem_append, not_or]
    exact ⟨by decide, Splitting.not_mem_intercalate (by decide) no_nul⟩
  have percent : 37 ∉ ascii "MGET " ++ joinedKeys keys := by
    rw [List.mem_append, not_or]
    exact ⟨by decide, plain⟩
  rw [formatArguments_words free percent, shape,
    List.splitOn_append_cons_self_of_not_mem (by decide)]
  rfl

theorem askedKeys_plain (some_key : keys ≠ []) (plain : PlainKeys keys) :
    askedKeys keys = keys := by
  rw [askedKeys, joinedKeys,
    List.splitOn_intercalate 32 (fun key member => (plain key member).2.1) some_key,
    List.filter_eq_self]
  intro key member
  simpa using (plain key member).1

theorem askedKeys_word {word : Bytes} (member : word ∈ askedKeys keys) :
    word ≠ [] ∧ 32 ∉ word := by
  obtain ⟨inside, nonempty⟩ := List.mem_filter.mp member
  exact ⟨by simpa using nonempty, Splitting.separator_not_mem inside⟩

/-! ## Plain keys -/

/-- The loop over the elements pairs each key with its own value. -/
theorem mgetElements_element (redis : Redis Store) (store : Store) (front rest : List Bytes)
    (ret_value : StringMap) :
    ∃ found : StringMap,
      CacheConn.mgetElements (front ++ rest) front.length (rest.map (redis.element store))
        ret_value = some found ∧
      ∀ key : Bytes, found[key]? =
        (if key ∈ rest then (redis.textAt store key).map cStr else none).or ret_value[key]? := by
  induction rest generalizing front ret_value with
  | nil => exact ⟨ret_value, rfl, fun key => by simp⟩
  | cons first rest ih =>
      have keys : front ++ first :: rest = (front ++ [first]) ++ rest := by simp
      have size : front.length + 1 = (front ++ [first]).length := by simp
      cases held : redis.textAt store first with
      | none =>
          obtain ⟨found, loop, bindings⟩ := ih (front ++ [first]) ret_value
          refine ⟨found, ?_, fun key => ?_⟩
          · simp only [List.map_cons, element, held, CacheConn.mgetElements]
            rw [keys, size]
            exact loop
          · rw [bindings]
            by_cases same : key = first
            · simp [same, held]
            · simp [same]
      | some text =>
          obtain ⟨found, loop, bindings⟩ :=
            ih (front ++ [first]) (ret_value.insert first (cStr text))
          have here : (front ++ first :: rest)[front.length]? = some first := by simp
          refine ⟨found, ?_, fun key => ?_⟩
          · simp only [List.map_cons, element, held, CacheConn.mgetElements, here]
            rw [keys, size]
            exact loop
          · rw [bindings, Std.TreeMap.getElem?_insert]
            by_cases same : first = key
            · subst same
              by_cases again : first ∈ rest <;> simp [held, again]
            · simp [same, Ne.symm same]

theorem textAt_eq_some_iff {key text : Bytes} :
    redis.textAt store key = some text ↔ redis.value store key = some (.text text) := by
  unfold textAt
  split <;> simp_all

theorem isSome_value_iff (texts : redis.OnlyTexts store) {key : Bytes} :
    (redis.value store key).isSome = true ↔ ∃ text, redis.textAt store key = some text := by
  simp only [textAt_eq_some_iff]
  constructor
  · intro present
    obtain ⟨value, held⟩ := Option.isSome_iff_exists.mp present
    obtain ⟨text, rfl⟩ := texts key value held
    exact ⟨text, held⟩
  · rintro ⟨text, held⟩
    simp [held]

/-- What `mget` finds for plain keys are the C strings of their values. -/
theorem serve_mget_plain (documented : redis.ReadsDocumented)
    (healthy : (conn.Init server answers).2 = 0) (some_key : keys ≠ [])
    (no_nul : ∀ key ∈ keys, 0 ∉ key) (plain : PlainKeys keys) :
    ∃ found : StringMap,
      (redis.serve store answers conn
        (fun conn answers => conn.mget server answers keys ∅)).2.2 = some (true, found) ∧
      ∀ key : Bytes, found[key]? =
        if key ∈ keys then (redis.textAt store key).map cStr else none := by
  have percent : 37 ∉ joinedKeys keys :=
    Splitting.not_mem_intercalate (by decide) fun key member => (plain key member).2.2
  have more : joinedKeys keys ≠ [] := by
    obtain ⟨first, rest, rfl⟩ := List.exists_cons_of_ne_nil some_key
    obtain ⟨byte, bytes, begins⟩ := List.exists_cons_of_ne_nil (plain first List.mem_cons_self).1
    have member : byte ∈ joinedKeys (first :: rest) :=
      Splitting.mem_intercalate List.mem_cons_self (begins ▸ List.mem_cons_self)
    exact List.ne_nil_of_mem member
  have encoded := documented.format (formatArguments_mget no_nul percent)
  rw [askedKeys_plain some_key plain] at encoded
  obtain ⟨found, loop, bindings⟩ := mgetElements_element redis store [] keys ∅
  refine ⟨found, ?_, fun key => ?_⟩
  · rw [serve_mget healthy (mgetCommand_of_ne_nil no_nul more) encoded,
      documented.mget store keys some_key]
    change (CacheConn.mgetElements keys 0 (keys.map (redis.element store)) ∅).map _ = _
    rw [List.nil_append, List.length_nil] at loop
    rw [loop]
    rfl
  · rw [bindings, Std.TreeMap.getElem?_emptyc, Option.or_none]

theorem mgetAgrees_iff (documented : redis.ReadsDocumented)
    (healthy : (conn.Init server answers).2 = 0) (texts : redis.OnlyTexts store)
    (some_key : keys ≠ []) (no_nul : ∀ key ∈ keys, 0 ∉ key) (plain : PlainKeys keys) :
    redis.MgetAgrees store server conn answers keys ↔ redis.NulFreeAt store keys := by
  obtain ⟨found, served, bindings⟩ : ∃ found : StringMap,
      (redis.serve store answers conn
        (fun conn answers => conn.mget server answers keys ∅)).2.2 = some (true, found) ∧
      ∀ key : Bytes, found[key]? =
        if key ∈ keys then (redis.textAt store key).map cStr else none :=
    serve_mget_plain documented healthy some_key no_nul plain
  constructor
  · rintro ⟨other, again, agrees⟩ key member text held
    obtain rfl : found = other := (Prod.mk.inj (Option.some.inj (served.symm.trans again))).2
    have got := serve_get documented healthy (no_nul key member) held
    have bound := (agrees key text).mpr ⟨member, by simp [held], got⟩
    rw [bindings, if_pos member, textAt_eq_some_iff.mpr held, Option.map_some] at bound
    exact cStr_eq_self_iff.mp (Option.some.inj bound)
  · intro free
    refine ⟨found, served, fun key value => ?_⟩
    rw [bindings, isSome_value_iff texts]
    by_cases member : key ∈ keys
    · cases held : redis.textAt store key with
      | none => simp [member]
      | some text =>
          have there := textAt_eq_some_iff.mp held
          have got := serve_get documented healthy (no_nul key member) there
          have whole := cStr_eq_self_iff.mpr (free key member text there)
          simp [member, got, whole]
    · simp [member]

/-! ## Other keys -/

/-- The loop finds nothing when no element is a string. -/
theorem mgetElements_nil {rest : List Bytes} (absent : ∀ key ∈ rest, redis.textAt store key = none)
    (keys : List Bytes) (index : Nat) (ret_value : StringMap) :
    CacheConn.mgetElements keys index (rest.map (redis.element store)) ret_value =
      some ret_value := by
  induction rest generalizing index with
  | nil => rfl
  | cons first rest ih =>
      have nothing : redis.element store first = .nil := by
        rw [element, absent first List.mem_cons_self]
      rw [List.map_cons, nothing]
      change CacheConn.mgetElements keys (index + 1) _ ret_value = _
      exact ih (fun key member => absent key (List.mem_cons_of_mem first member)) _

end Redis

/-- A database of strings. -/
def textReply (store : Bytes → Option Bytes) : List Bytes → RedisReply
  | name :: key :: keys =>
      if name = ascii "MGET" then
        .array ((key :: keys).map fun key => (store key).elim .nil .string)
      else if name = ascii "GET" ∧ keys = [] then (store key).elim .nil .string
      else MemoryStore.wrongNumber
  | _ => MemoryStore.wrongNumber

def textRedis : Redis (Bytes → Option Bytes) where
  encode
    | .format format args => formatArguments format args
    | .argv argv => some (argv.map cStr)
  execute store argv := (store, textReply store argv)
  value store key := (store key).map .text

namespace Redis

theorem textAt_textRedis (store : Bytes → Option Bytes) (key : Bytes) :
    textRedis.textAt store key = store key := by
  cases held : store key <;> simp [textAt, textRedis, held]

theorem element_textRedis (store : Bytes → Option Bytes) (key : Bytes) :
    textRedis.element store key = (store key).elim .nil .string := by
  rw [element, textAt_textRedis]
  cases store key <;> rfl

theorem textRedis_documented : textRedis.ReadsDocumented where
  format encoded := encoded
  get store key text held := by
    have there : store key = some text := by simpa [textRedis] using held
    change (store key).elim RedisReply.nil .string = _
    rw [there]
    rfl
  mget store keys some_key := by
    obtain ⟨first, rest, rfl⟩ := List.exists_cons_of_ne_nil some_key
    rw [funext (element_textRedis store)]
    rfl

/-- The database that holds one key only. -/
def oneKey (key : Bytes) : Bytes → Option Bytes :=
  fun other => if other = key then some (ascii "value") else none

theorem oneKey_texts (key : Bytes) : textRedis.OnlyTexts (oneKey key) := by
  intro other value held
  obtain ⟨text, -, rfl⟩ := Option.map_eq_some_iff.mp held
  exact ⟨text, rfl⟩

theorem oneKey_nulFree (key : Bytes) (keys : List Bytes) :
    textRedis.NulFreeAt (oneKey key) keys := by
  intro other _ text held
  have there := textAt_eq_some_iff.mpr held
  rw [textAt_textRedis, oneKey] at there
  split at there
  · rw [← Option.some.inj there]
    decide
  · cases there

variable {conn : CacheConn} {server : CacheServer} {answers : RedisAnswers} {keys : List Bytes}

/-- A key that is empty or has a space is not asked for, and after a key with a
`%` the command is refused. -/
theorem oneKey_lost (healthy : (conn.Init server answers).2 = 0)
    (no_nul : ∀ key ∈ keys, 0 ∉ key) {key : Bytes} (member : key ∈ keys)
    (lost : key = [] ∨ 32 ∈ key ∨ 37 ∈ key) :
    ¬ textRedis.MgetAgrees (oneKey key) server conn answers keys := by
  rintro ⟨found, served, agrees⟩
  have present : (textRedis.value (oneKey key) key).isSome = true := by simp [textRedis, oneKey]
  have bound := (agrees key _).mpr ⟨member, present, rfl⟩
  by_cases more : joinedKeys keys = []
  · have joined : CacheConn.mgetCommand keys = none := if_pos more
    rw [serve_mget_empty healthy joined] at served
    cases served
  · have joined := mgetCommand_of_ne_nil no_nul more
    by_cases percent : 37 ∈ joinedKeys keys
    · have unanswered : textRedis.encode (.format (ascii "MGET " ++ joinedKeys keys) []) = none :=
        formatArguments_percent (List.mem_append_right _ percent)
      rw [serve_mget_null healthy joined unanswered] at served
      cases served
    · have encoded : textRedis.encode (.format (ascii "MGET " ++ joinedKeys keys) []) =
          some (ascii "MGET" :: askedKeys keys) := formatArguments_mget no_nul percent
      have unasked : key ∉ askedKeys keys := by
        intro asked
        obtain ⟨nonempty, no_space⟩ := askedKeys_word asked
        rcases lost with empty | space | conversion
        · exact nonempty empty
        · exact no_space space
        · exact percent (Splitting.mem_intercalate member conversion)
      have absent : ∀ other ∈ askedKeys keys, textRedis.textAt (oneKey key) other = none := by
        intro other asked
        have different : other ≠ key := fun same => unasked (same ▸ asked)
        rw [textAt_textRedis, oneKey, if_neg different]
      have nothing : found = ∅ := by
        rw [serve_mget healthy joined encoded] at served
        by_cases words : askedKeys keys = []
        · rw [words] at served
          cases served
          rfl
        · rw [textRedis_documented.mget _ _ words, CacheConn.mgetDecode,
            mgetElements_nil absent] at served
          cases served
          rfl
      rw [nothing] at bound
      simp at bound

/-- On a healthy connection `mget` agrees with `get`, if and only if its keys
are plain and the values it finds have no NUL. -/
theorem mget_agrees_iff (healthy : (conn.Init server answers).2 = 0) (some_key : keys ≠ [])
    (no_nul : ∀ key ∈ keys, 0 ∉ key) :
    ((∀ (Store : Type) (redis : Redis Store) (store : Store), redis.ReadsDocumented →
        redis.OnlyTexts store → redis.NulFreeAt store keys →
        redis.MgetAgrees store server conn answers keys) ↔ PlainKeys keys) ∧
      (PlainKeys keys → ∀ (Store : Type) (redis : Redis Store) (store : Store),
        redis.ReadsDocumented → redis.OnlyTexts store →
        (redis.MgetAgrees store server conn answers keys ↔ redis.NulFreeAt store keys)) := by
  refine ⟨⟨?_, ?_⟩, ?_⟩
  · intro agrees key member
    by_contra lost
    refine oneKey_lost healthy no_nul member ?_ (agrees _ textRedis (oneKey key)
      textRedis_documented (oneKey_texts key) (oneKey_nulFree key keys))
    by_cases empty : key = []
    · exact .inl empty
    · by_cases space : 32 ∈ key
      · exact .inr (.inl space)
      · by_cases percent : 37 ∈ key
        · exact .inr (.inr percent)
        · exact (lost ⟨empty, space, percent⟩).elim
  · intro plain Store redis store documented texts free
    exact (mgetAgrees_iff documented healthy texts some_key no_nul plain).mpr free
  · intro plain Store redis store documented texts
    exact mgetAgrees_iff documented healthy texts some_key no_nul plain

theorem mget_agrees_iff_two :
    textRedis.MgetAgrees (oneKey (ascii "a")) localServer
      { CacheConn.new with pContext := some 0 } silent [ascii "a", ascii "b"] := by
  have plain : PlainKeys [ascii "a", ascii "b"] := by
    unfold PlainKeys
    decide
  exact ((mget_agrees_iff rfl (by simp) (by decide)).1.mpr plain _ textRedis _
    textRedis_documented (oneKey_texts _) (oneKey_nulFree _ _))

/-- The words of a key with a space are looked up instead of it. -/
theorem mget_agrees_space :
    ¬ ∀ (server : CacheServer) (conn : CacheConn) (answers : RedisAnswers) (keys : List Bytes)
      (store : Bytes → Option Bytes), (conn.Init server answers).2 = 0 → keys ≠ [] →
      (∀ key ∈ keys, 0 ∉ key) → textRedis.OnlyTexts store →
      textRedis.MgetAgrees store server conn answers keys := by
  intro agrees
  have lost : ascii "a b" = [] ∨ 32 ∈ ascii "a b" ∨ 37 ∈ ascii "a b" := by decide
  exact oneKey_lost rfl (by decide) List.mem_cons_self lost
    (agrees localServer { CacheConn.new with pContext := some 0 } silent [ascii "a b"]
      (oneKey (ascii "a b")) rfl (by simp) (by decide) (oneKey_texts _))

end Redis

end TalkSystem.DbProxyServer
