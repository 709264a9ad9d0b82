import TalkSystem.DbProxyServer.Redis

/-!
# A database in memory

Strings and hashes in a table of keys, with the commands that `Documented`
speaks of.
-/

set_option autoImplicit false

namespace TalkSystem.DbProxyServer

/-- The value of decimal digits. -/
def digitsValue (digits : Bytes) : Nat :=
  digits.foldl (fun value digit => 10 * value + (digit.toNat - 48)) 0

/-- A decimal number with its sign. -/
def decimalValue (text : Bytes) : Int :=
  if text.head? = some 45 then -(digitsValue text.tail : Int) else digitsValue text

theorem ascii_repr (value : Nat) :
    ascii value.repr = (Nat.toDigits 10 value).map fun char => char.toNat.toUInt8 := by
  simp [ascii, Nat.repr]

theorem toNat_of_isDigit {char : Char} (digit : char.isDigit = true) :
    48 ≤ char.toNat ∧ char.toNat.toUInt8.toNat = char.toNat := by
  simp only [Char.isDigit, Bool.and_eq_true, decide_eq_true_eq] at digit
  have least : 48 ≤ char.toNat := digit.1
  have most : char.toNat ≤ 57 := digit.2
  exact ⟨least, Nat.mod_eq_of_lt (by omega)⟩

theorem digitsValue_repr (value : Nat) : digitsValue (ascii value.repr) = value := by
  calc digitsValue (ascii value.repr)
      = (Nat.toDigits 10 value).foldl (fun value digit =>
          10 * value + (digit.toNat.toUInt8.toNat - 48)) 0 := by
        rw [ascii_repr, digitsValue, List.foldl_map]
    _ = Nat.ofDigitChars 10 (Nat.toDigits 10 value) 0 := by
        rw [Nat.ofDigitChars_eq_foldl]
        refine List.foldl_ext _ _ _ fun value char member => ?_
        have digit := Nat.isDigit_of_mem_toDigits (by decide) (by decide) member
        rw [(toNat_of_isDigit digit).2]
        rfl
    _ = value := Nat.ofDigitChars_ten_toDigits

theorem head?_repr (value : Nat) : (ascii value.repr).head? ≠ some 45 := by
  rw [ascii_repr, List.head?_map]
  intro minus
  obtain ⟨char, first, same⟩ := Option.map_eq_some_iff.mp minus
  have digit := toNat_of_isDigit
    (Nat.isDigit_of_mem_toDigits (by decide) (by decide) (List.mem_of_head? first))
  rw [same] at digit
  have byte : (45 : UInt8).toNat = 45 := rfl
  omega

theorem decimalValue_decimal (value : Int) : decimalValue (decimal value) = value := by
  cases value with
  | ofNat value =>
      have text : decimal (Int.ofNat value) = ascii value.repr := rfl
      rw [text, decimalValue, if_neg (head?_repr value), digitsValue_repr]
      rfl
  | negSucc value =>
      have text : decimal (Int.negSucc value) = ascii ("-" ++ (value + 1).repr) := rfl
      have signed : ascii ("-" ++ (value + 1).repr) = 45 :: ascii (value + 1).repr := by
        simp [ascii]
      rw [text, signed, decimalValue, if_pos List.head?_cons, List.tail_cons, digitsValue_repr]
      rfl

inductive StoredValue where
  | text (text : Bytes)
  | hash (hash : StringMap)

def StoredValue.value : StoredValue → RedisValue
  | .text str => .text str
  | .hash entries => .hash fun field => entries[field]?

abbrev MemoryStore := Bytes → Option StoredValue

namespace MemoryStore

def wrongType : RedisReply :=
  .error (ascii "WRONGTYPE Operation against a key holding the wrong kind of value")

def invalidExpire : RedisReply := .error (ascii "ERR invalid expire time in 'setex' command")

def wrongNumber : RedisReply := .error (ascii "ERR wrong number of arguments")

def ok : RedisReply := .status (ascii "OK")

def put (store : MemoryStore) (key : Bytes) (value : StoredValue) : MemoryStore :=
  Function.update store key (some value)

def get (store : MemoryStore) (key : Bytes) : RedisReply :=
  match store key with
  | some (.text text) => .string text
  | some (.hash _) => wrongType
  | none => .nil

/-- The hash of a key that holds one or nothing. -/
def hash (store : MemoryStore) (key : Bytes) : Option StringMap :=
  match store key with
  | none => some ∅
  | some (.hash hash) => some hash
  | some (.text _) => none

def setex (store : MemoryStore) (key timeout text : Bytes) : MemoryStore × RedisReply :=
  if 0 < decimalValue timeout then (store.put key (.text text), ok) else (store, invalidExpire)

def hset (store : MemoryStore) (key field text : Bytes) : MemoryStore × RedisReply :=
  match store.hash key with
  | some hash =>
      (store.put key (.hash (hash.insert field text)),
        .integer (if field ∈ hash then 0 else 1))
  | none => (store, wrongType)

def hget (store : MemoryStore) (key field : Bytes) : RedisReply :=
  match store.hash key with
  | some hash =>
      match hash[field]? with
      | some text => .string text
      | none => .nil
  | none => wrongType

def insertArguments : StringMap → List Bytes → StringMap
  | hash, field :: text :: args => insertArguments (hash.insert field text) args
  | hash, _ => hash

def hmset (store : MemoryStore) (key : Bytes) (args : List Bytes) : MemoryStore × RedisReply :=
  if args.length = 0 ∨ args.length % 2 = 1 then
    (store, wrongNumber)
  else
    match store.hash key with
    | some hash => (store.put key (.hash (insertArguments hash args)), ok)
    | none => (store, wrongType)

def hgetall (store : MemoryStore) (key : Bytes) : RedisReply :=
  match store.hash key with
  | some hash => .array (hash.toList.flatMap fun pair => [.string pair.1, .string pair.2])
  | none => wrongType

inductive Verb where
  | get
  | set
  | setex
  | hget
  | hset
  | hmset
  | hgetall

def verb (name : Bytes) : Option Verb :=
  if name = ascii "GET" then some .get
  else if name = ascii "SET" then some .set
  else if name = ascii "SETEX" then some .setex
  else if name = ascii "HGET" then some .hget
  else if name = ascii "HSET" then some .hset
  else if name = ascii "HMSET" then some .hmset
  else if name = ascii "HGETALL" then some .hgetall
  else none

def execute (store : MemoryStore) : List Bytes → MemoryStore × RedisReply
  | name :: key :: args =>
      match verb name, args with
      | some .get, [] => (store, store.get key)
      | some .set, [text] => (store.put key (.text text), ok)
      | some .setex, [timeout, text] => store.setex key timeout text
      | some .hget, [field] => (store, store.hget key field)
      | some .hset, [field, text] => store.hset key field text
      | some .hmset, args => store.hmset key args
      | some .hgetall, [] => (store, store.hgetall key)
      | _, _ => (store, wrongNumber)
  | _ => (store, wrongNumber)

end MemoryStore

def memoryRedis : Redis MemoryStore where
  encode
    | .format format args => formatArguments format args
    | .argv argv => some (argv.map cStr)
  execute := MemoryStore.execute
  value store key := (store key).map StoredValue.value

namespace MemoryStore

variable {store : MemoryStore} {key : Bytes}

theorem value_put (store : MemoryStore) (key : Bytes) (content : StoredValue) :
    memoryRedis.value (store.put key content) =
      Function.update (memoryRedis.value store) key (some content.value) := by
  funext other
  by_cases same : other = key
  · subst same
    simp [memoryRedis, put]
  · simp [memoryRedis, put, same]

/-- The bindings of a map. -/
def bindings (entries : StringMap) : Bytes → Option Bytes := fun field => entries[field]?

theorem fields_eq (store : MemoryStore) (key : Bytes) :
    memoryRedis.fields store key = (store.hash key).map bindings := by
  cases held : store key with
  | none =>
      simp only [Redis.fields, memoryRedis, hash, held, Option.map_none, Option.map_some]
      refine congrArg some (funext fun field => ?_)
      exact Std.TreeMap.getElem?_emptyc.symm
  | some content => cases content <;> simp [Redis.fields, memoryRedis, hash, held,
      StoredValue.value, bindings, funext_iff]

theorem bindings_insert (entries : StringMap) (field text : Bytes) :
    bindings (entries.insert field text) =
      Function.update (bindings entries) field (some text) := by
  funext other
  by_cases same : field = other
  · subst same
    simp [bindings]
  · simp [bindings, Std.TreeMap.getElem?_insert, same, Function.update_of_ne (Ne.symm same)]

theorem bindings_insertArguments (entries : StringMap) (pairs : List (Bytes × Bytes)) :
    bindings (insertArguments entries (pairs.flatMap fun pair => [pair.1, pair.2])) =
      PairTable.storeAll (bindings entries) pairs := by
  induction pairs generalizing entries with
  | nil => rfl
  | cons pair pairs ih =>
      rw [PairTable.storeAll_cons, ← bindings_insert, ← ih]
      rfl

theorem hash_of_fields {fields : Bytes → Option Bytes}
    (held : memoryRedis.fields store key = some fields) :
    ∃ entries, store.hash key = some entries ∧ bindings entries = fields :=
  Option.map_eq_some_iff.mp ((fields_eq store key).symm.trans held)

theorem hash_of_no_fields (held : memoryRedis.fields store key = none) : store.hash key = none :=
  Option.map_eq_none_iff.mp ((fields_eq store key).symm.trans held)

theorem get_eq_string_iff {text : Bytes} :
    store.get key = .string text ↔ memoryRedis.value store key = some (.text text) := by
  cases held : store key with
  | none => simp [get, memoryRedis, held]
  | some content =>
      cases content <;> simp [get, memoryRedis, held, StoredValue.value, wrongType]

theorem length_arguments (pairs : List (Bytes × Bytes)) :
    (pairs.flatMap fun pair => [pair.1, pair.2]).length = pairs.length * 2 := by
  simp [List.length_flatMap]

theorem hmset_arguments (store : MemoryStore) (key : Bytes) {pairs : List (Bytes × Bytes)}
    (some_pair : pairs ≠ []) :
    store.hmset key (pairs.flatMap fun pair => [pair.1, pair.2]) =
      match store.hash key with
      | some entries =>
          (store.put key (.hash (insertArguments entries
            (pairs.flatMap fun pair => [pair.1, pair.2]))), ok)
      | none => (store, wrongType) := by
  have positive := List.length_pos_of_ne_nil some_pair
  refine if_neg ?_
  rw [length_arguments]
  omega

theorem memoryRedis_documented : memoryRedis.Documented where
  format encoded := encoded
  argv _ := rfl
  set store key text := value_put store key (.text text)
  setex store key timeout text positive _ := by
    have put : memoryRedis.execute store [ascii "SETEX", key, decimal timeout, text] =
        (store.put key (.text text), ok) :=
      if_pos ((decimalValue_decimal timeout).symm ▸ positive)
    rw [put]
    exact value_put store key (.text text)
  setex_invalid store key timeout text expired _ := by
    have refused : memoryRedis.execute store [ascii "SETEX", key, decimal timeout, text] =
        (store, invalidExpire) :=
      if_neg ((decimalValue_decimal timeout).symm ▸ Int.not_lt.mpr expired)
    rw [refused]
  get _ _ _ held := get_eq_string_iff.mpr held
  get_no_text _ _ held str reply := held str (get_eq_string_iff.mp reply)
  hset store key field text fields held := by
    obtain ⟨entries, there, rfl⟩ := hash_of_fields held
    have put : memoryRedis.execute store [ascii "HSET", key, field, text] =
        (store.put key (.hash (entries.insert field text)),
          .integer (if field ∈ entries then 0 else 1)) := by
      change store.hset key field text = _
      simp [hset, there]
    rw [put, ← bindings_insert]
    exact value_put store key _
  hset_no_hash store key field text held := by
    have refused : memoryRedis.execute store [ascii "HSET", key, field, text] =
        (store, wrongType) := by
      change store.hset key field text = _
      simp [hset, hash_of_no_fields held]
    rw [refused]
  hget store key field fields text held bound := by
    obtain ⟨entries, there, rfl⟩ := hash_of_fields held
    have reply : (memoryRedis.execute store [ascii "HGET", key, field]).2 =
      store.hget key field := rfl
    have found : entries[field]? = some text := bound
    simp [reply, hget, there, found]
  hget_no_hash store key field held str reply := by
    have got : store.hget key field = .string str := reply
    simp [hget, hash_of_no_fields held, wrongType] at got
  hmset store key pairs fields some_pair held := by
    obtain ⟨entries, there, rfl⟩ := hash_of_fields held
    have put : memoryRedis.execute store
        (ascii "HMSET" :: key :: pairs.flatMap fun pair => [pair.1, pair.2]) =
        (store.put key (.hash (insertArguments entries
          (pairs.flatMap fun pair => [pair.1, pair.2]))), ok) := by
      change store.hmset key _ = _
      simp [hmset_arguments store key some_pair, there]
    rw [put, ← bindings_insertArguments]
    exact value_put store key _
  hmset_no_hash store key pairs some_pair held := by
    have refused : memoryRedis.execute store
        (ascii "HMSET" :: key :: pairs.flatMap fun pair => [pair.1, pair.2]) =
        (store, wrongType) := by
      change store.hmset key _ = _
      simp [hmset_arguments store key some_pair, hash_of_no_fields held]
    rw [refused]
  hgetall store key fields held := by
    obtain ⟨entries, there, rfl⟩ := hash_of_fields held
    refine ⟨entries.toList, lists_toList entries, ?_⟩
    change store.hgetall key = _
    simp [hgetall, there]
  hgetall_no_hash store key held elements reply := by
    have got : store.hgetall key = .array elements := reply
    simp [hgetall, hash_of_no_fields held, wrongType] at got

end MemoryStore

end TalkSystem.DbProxyServer
