import TalkSystem.DbProxyServer.CacheConnProperties
import TalkSystem.DbProxyServer.MemoryRedis

/-!
# Reading back what a `CacheConn` has written

The writers hand C strings to hiredis, the readers take a reply with its length.
What comes back is the text up to its first NUL.
-/

set_option autoImplicit false

namespace TalkSystem.DbProxyServer

@[simp] theorem cStr_cStr (text : Bytes) : cStr (cStr text) = cStr text :=
  cStr_eq_self_iff.mpr (zero_not_mem_cStr text)

namespace Redis

variable {Store Written Result : Type} {redis : Redis Store} {store : Store} {conn : CacheConn}
  {server : CacheServer} {answers first second : RedisAnswers}

/-! ## An operation -/

/-- `Init` sends no data command. -/
theorem after_Init (redis : Redis Store) (conn : CacheConn) (server : CacheServer)
    (answers : RedisAnswers) (store : Store) :
    ∃ added, (conn.Init server answers).1.calls = conn.calls ++ added ∧
      added.foldl redis.after store = store := by
  have outcome : CacheConn.Initialises server answers conn (conn.Init server answers) :=
    CacheConn.initialises
  generalize conn.Init server answers = result at outcome
  cases outcome with
  | ready => exact ⟨[], by simp, rfl⟩
  | early => exact ⟨[], by simp, rfl⟩
  | refused => exact ⟨[_], rfl, rfl⟩
  | broken =>
      exact ⟨[.connect server.serverIP server.serverPort (some conn.contexts),
        .free (some conn.contexts)], List.append_assoc _ _ _, rfl⟩
  | connected =>
      exact ⟨[.connect server.serverIP server.serverPort (some conn.contexts),
        .select (some conn.contexts) server.dbNum answers.select], List.append_assoc _ _ _, rfl⟩

/-- An operation on a healthy connection runs its command once, and leaves the
connection with a context. -/
theorem serve_perform (store : Store) {command : RedisCommand} {argv : List Bytes}
    (encoded : redis.encode command = some argv) {failure : Result}
    {decode : RedisReply → Result} (healthy : (conn.Init server answers).2 = 0) :
    ∃ next : CacheConn, next.pContext.isSome = true ∧
      redis.serve store answers conn
          (fun conn answers => conn.perform server answers command failure decode) =
        ((redis.execute store argv).1, next, decode (redis.execute store argv).2) := by
  obtain ⟨context, current⟩ := CacheConn.context_of_Init healthy
  obtain ⟨added, calls, kept⟩ := after_Init redis conn server answers store
  have answered : redis.answer store command = some (redis.execute store argv).2 := by
    simp [answer, encoded]
  have same : conn.Init server { answers with command := redis.answer store } =
      conn.Init server answers := rfl
  refine ⟨(conn.Init server answers).1.record (.command (some context) command
    (some (redis.execute store argv).2)), ?_, ?_⟩
  · simp [CacheConn.record, current]
  · simp only [serve, CacheConn.perform, same, healthy, ne_eq, not_true_eq_false, if_false,
      CacheConn.issue, CacheConn.redisCommand, answered, current]
    simp [CacheConn.record, calls, List.foldl_append, kept, after, encoded]

/-- A healthy connection keeps its context from the write to the read. -/
theorem roundTrip_perform {written reading : RedisCommand} {wargv rargv : List Bytes}
    (wencoded : redis.encode written = some wargv) (rencoded : redis.encode reading = some rargv)
    {wfailure : Written} {wdecode : RedisReply → Written} {rfailure : Result}
    {rdecode : RedisReply → Result} (healthy : (conn.Init server first).2 = 0) :
    redis.roundTrip store conn first second
        (fun conn answers => conn.perform server answers written wfailure wdecode)
        (fun conn answers => conn.perform server answers reading rfailure rdecode) =
      rdecode (redis.execute (redis.execute store wargv).1 rargv).2 := by
  obtain ⟨next, context, write⟩ := serve_perform store wencoded healthy
  have ready : (next.Init server second).2 = 0 := by simp [CacheConn.Init, context]
  obtain ⟨final, _, read⟩ := serve_perform (redis.execute store wargv).1 rencoded ready
  simp only [roundTrip]
  rw [write]
  simp only []
  rw [read]

/-! ## The readers -/

theorem toText_eq_nil {reply : RedisReply} (none : ∀ str, reply ≠ .string str) :
    reply.toText = [] := by
  cases reply with
  | string str => exact absurd rfl (none str)
  | status | error | integer | nil | array => rfl

theorem Documented.toText_get (documented : redis.Documented) (store : Store) (key : Bytes) :
    (redis.execute store [ascii "GET", key]).2.toText = redis.text store key := by
  unfold text
  split
  · next text held => rw [documented.get store key text held, RedisReply.toText]
  · next held => exact toText_eq_nil (documented.get_no_text store key (by simp [held]))
  · next held => exact toText_eq_nil (documented.get_no_text store key (by simp [held]))
  · next held => exact toText_eq_nil (documented.get_no_text store key (by simp [held]))

/-! ## The round trips -/

variable {key field value : Bytes} {timeout : Int}

theorem get_of_set (documented : redis.Documented) (healthy : (conn.Init server first).2 = 0) :
    redis.roundTrip store conn first second
        (fun conn answers => conn.set server answers key value)
        (fun conn answers => conn.get server answers key) = cStr value := by
  have write : redis.encode (.format (ascii "SET %s %s") [.str (cStr key), .str (cStr value)]) =
      some [ascii "SET", cStr (cStr key), cStr (cStr value)] := documented.format rfl
  have read : redis.encode (.format (ascii "GET %s") [.str (cStr key)]) =
      some [ascii "GET", cStr (cStr key)] := documented.format rfl
  calc _ = _ := roundTrip_perform write read healthy
    _ = redis.text _ (cStr (cStr key)) := documented.toText_get _ _
    _ = cStr value := by simp [text, documented.set]

theorem get_of_setex (documented : redis.Documented) (healthy : (conn.Init server first).2 = 0)
    (least : -2 ^ 31 ≤ timeout) (most : timeout < 2 ^ 31) :
    redis.roundTrip store conn first second
        (fun conn answers => conn.setex server answers key timeout value)
        (fun conn answers => conn.get server answers key) =
      if 0 < timeout then cStr value else redis.text store (cStr key) := by
  have write : redis.encode (.format (ascii "SETEX %s %d %s")
      [.str (cStr key), .int timeout, .str (cStr value)]) =
      some [ascii "SETEX", cStr (cStr key), decimal timeout, cStr (cStr value)] :=
    documented.format rfl
  have read : redis.encode (.format (ascii "GET %s") [.str (cStr key)]) =
      some [ascii "GET", cStr (cStr key)] := documented.format rfl
  calc _ = _ := roundTrip_perform write read healthy
    _ = redis.text _ (cStr (cStr key)) := documented.toText_get _ _
    _ = _ := by
      split
      · next positive => simp [text, documented.setex _ _ _ _ positive most]
      · next expired =>
          simp [text, documented.setex_invalid _ _ _ _ (Int.not_lt.mp expired) least]

theorem hget_of_hset (documented : redis.Documented) (healthy : (conn.Init server first).2 = 0) :
    redis.roundTrip store conn first second
        (fun conn answers => conn.hset server answers key field value)
        (fun conn answers => conn.hget server answers key field) =
      if (redis.fields store (cStr key)).isSome then cStr value else [] := by
  have write : redis.encode (.format (ascii "HSET %s %s %s")
      [.str (cStr key), .str (cStr field), .str (cStr value)]) =
      some [ascii "HSET", cStr (cStr key), cStr (cStr field), cStr (cStr value)] :=
    documented.format rfl
  have read : redis.encode (.format (ascii "HGET %s %s") [.str (cStr key), .str (cStr field)]) =
      some [ascii "HGET", cStr (cStr key), cStr (cStr field)] := documented.format rfl
  rw [cStr_cStr, cStr_cStr] at read
  rw [cStr_cStr, cStr_cStr, cStr_cStr] at write
  calc _ = _ := roundTrip_perform write read healthy
    _ = _ := ?_
  cases held : redis.fields store (cStr key) with
  | none =>
      refine toText_eq_nil (documented.hget_no_hash _ _ _ ?_)
      simpa [fields, documented.hset_no_hash _ _ _ _ held] using held
  | some fields =>
      have stored := documented.hset store (cStr key) (cStr field) (cStr value) fields held
      rw [documented.hget _ _ _ (Function.update fields (cStr field) (some (cStr value)))
        (cStr value) (by simp [Redis.fields, stored]) (by simp)]
      rfl

/-! ## Hashes -/

variable {hash : StringMap}

/-- The pairs that `hmset` sends. -/
def sentPairs (hash : StringMap) : List (Bytes × Bytes) :=
  hash.toList.map fun entry => (cStr entry.1, cStr entry.2)

/-- `hgetAll` has succeeded with the bindings of `table`, and no others. -/
def Yields (table : Bytes → Option Bytes) (result : Bool × StringMap) : Prop :=
  result.1 = true ∧ ∀ field : Bytes, result.2[field]? = table field

theorem Yields.iff {table other : Bytes → Option Bytes} {result : Bool × StringMap}
    (yields : Yields table result) : Yields other result ↔ ∀ field, table field = other field := by
  constructor
  · rintro ⟨_, found⟩ field
    exact (yields.2 field).symm.trans (found field)
  · exact fun same => ⟨yields.1, fun field => (yields.2 field).trans (same field)⟩

/-- `insert` keeps the first value of a field. -/
theorem getElem?_insertPairs (pairs : List (Bytes × Bytes)) (ret_value : StringMap) (key : Bytes) :
    (CacheConn.insertPairs (pairs.flatMap fun pair => [.string pair.1, .string pair.2])
      ret_value)[key]? = ret_value[key]?.or (pairs.lookup key) := by
  induction pairs generalizing ret_value with
  | nil => simp [CacheConn.insertPairs]
  | cons pair pairs ih =>
      obtain ⟨bound, value⟩ := pair
      rw [List.flatMap_cons]
      simp only [List.cons_append, List.nil_append, CacheConn.insertPairs, RedisReply.str]
      rw [ih]
      simp only [Std.TreeMap.getElem?_insertIfNew, List.lookup_cons,
        Std.LawfulEqCmp.compare_eq_iff_eq]
      by_cases same : bound = key
      · subst same
        by_cases known : bound ∈ ret_value <;> simp [known]
      · have different : (key == bound) = false := by simpa using Ne.symm same
        simp [same, different]

theorem hgetAllDecode_of_no_array {reply : RedisReply} (ret_value : StringMap)
    (no_array : ∀ elements, reply ≠ .array elements) :
    CacheConn.hgetAllDecode ret_value reply = (true, ret_value) := by
  cases reply with
  | array elements => exact absurd rfl (no_array elements)
  | status | error | string | integer | nil => rfl

theorem encode_hmset (documented : redis.Documented) :
    redis.encode (.argv (ascii "HMSET" :: cStr key ::
        hash.toList.flatMap fun entry => [cStr entry.1, cStr entry.2])) =
      some (ascii "HMSET" :: cStr key ::
        (sentPairs hash).flatMap fun pair => [pair.1, pair.2]) := by
  have name : cStr (ascii "HMSET") = ascii "HMSET" := rfl
  simp [documented.argv, name, sentPairs, List.map_flatMap, List.flatMap_map]

theorem hgetAll_of_hmset (documented : redis.Documented)
    (healthy : (conn.Init server first).2 = 0) (some_entry : hash.isEmpty = false) :
    Yields
      (fun field => (redis.fields store (cStr key)).bind fun fields =>
        PairTable.storeAll fields (sentPairs hash) field)
      (redis.roundTrip store conn first second
        (fun conn answers => conn.hmset server answers key hash)
        (fun conn answers => conn.hgetAll server answers key ∅)) := by
  have read : redis.encode (.format (ascii "HGETALL %s") [.str (cStr key)]) =
      some [ascii "HGETALL", cStr (cStr key)] := documented.format rfl
  rw [cStr_cStr] at read
  have some_pair : sentPairs hash ≠ [] := by
    simpa [sentPairs, ← List.isEmpty_iff, Std.TreeMap.isEmpty_toList] using some_entry
  simp only [CacheConn.hmset, CacheConn.hgetAll]
  rw [roundTrip_perform (encode_hmset documented) read healthy]
  cases held : redis.fields store (cStr key) with
  | none =>
      have kept := documented.hmset_no_hash store (cStr key) (sentPairs hash) some_pair held
      have refused := hgetAllDecode_of_no_array ∅ (documented.hgetall_no_hash _
        (cStr key) (by unfold Redis.fields at held ⊢; rw [kept]; exact held))
      rw [refused]
      exact ⟨rfl, fun field => Std.TreeMap.getElem?_emptyc⟩
  | some fields =>
      have stored := documented.hmset store (cStr key) (sentPairs hash) fields some_pair held
      obtain ⟨pairs, lists, reply⟩ := documented.hgetall _ (cStr key)
        (PairTable.storeAll fields (sentPairs hash))
        (by unfold Redis.fields; rw [stored, Function.update_self])
      have even : (pairs.flatMap fun pair =>
          [RedisReply.string pair.1, .string pair.2]).length % 2 = 0 := by
        simp [List.length_flatMap]
      simp only [reply, CacheConn.hgetAllDecode, even, if_true]
      refine ⟨rfl, fun field => ?_⟩
      rw [getElem?_insertPairs, Std.TreeMap.getElem?_emptyc, Option.none_or, lists.lookup]
      rfl

/-- Nothing that hiredis cuts. -/
def NulFree (hash : StringMap) : Prop := ∀ entry ∈ hash.toList, 0 ∉ entry.1 ∧ 0 ∉ entry.2

theorem storeAll_sentPairs_iff :
    (∀ field : Bytes, PairTable.storeAll (fun _ => none) (sentPairs hash) field = hash[field]?) ↔
      NulFree hash := by
  constructor
  · intro same entry member
    have bound := ((lists_toList hash).mem_iff entry.1 entry.2).mp member
    have stored := (same entry.1).trans bound
    have sent : (entry.1, entry.2) ∈ sentPairs hash :=
      (PairTable.mem_or_of_storeAll stored).resolve_right (by simp)
    obtain ⟨source, _, cut⟩ := List.mem_map.mp sent
    obtain ⟨field, value⟩ := Prod.mk.inj cut
    exact ⟨field ▸ zero_not_mem_cStr source.1, value ▸ zero_not_mem_cStr source.2⟩
  · intro free field
    have uncut : sentPairs hash = hash.toList := by
      refine (List.map_congr_left fun entry member => ?_).trans (List.map_id _)
      obtain ⟨in_field, in_value⟩ := free entry member
      exact Prod.ext (cStr_eq_self_iff.mpr in_field) (cStr_eq_self_iff.mpr in_value)
    rw [uncut, (lists_toList hash).storeAll_empty]

theorem yields_hash_iff (documented : redis.Documented)
    (healthy : (conn.Init server first).2 = 0) (some_entry : hash.isEmpty = false) :
    Yields (fun field => hash[field]?) (redis.roundTrip store conn first second
        (fun conn answers => conn.hmset server answers key hash)
        (fun conn answers => conn.hgetAll server answers key ∅)) ↔
      ∃ fields, redis.fields store (cStr key) = some fields ∧
        ∀ field : Bytes, PairTable.storeAll fields (sentPairs hash) field = hash[field]? := by
  rw [(hgetAll_of_hmset documented healthy some_entry).iff]
  cases held : redis.fields store (cStr key) with
  | some fields => simp
  | none =>
      -- Nothing was written, and the map is not empty.
      obtain ⟨field, member⟩ := Std.TreeMap.isEmpty_eq_false_iff_exists_mem.mp some_entry
      simp only [Option.bind_none, reduceCtorEq, false_and, exists_false, iff_false]
      intro absent
      have present := Std.TreeMap.mem_iff_isSome_getElem?.mp member
      simp [← absent field] at present

/-- On a healthy connection what comes back is what was written, if and only if
it has no NUL and the database takes it. -/
theorem round_trip_iff {Store : Type} (redis : Redis Store) (documented : redis.Documented)
    (store : Store) (conn : CacheConn) (server : CacheServer) (first second : RedisAnswers)
    (healthy : (conn.Init server first).2 = 0) :
    (∀ key value,
      redis.roundTrip store conn first second
          (fun conn answers => conn.set server answers key value)
          (fun conn answers => conn.get server answers key) = value ↔
        0 ∉ value) ∧
    (∀ key timeout value, -2 ^ 31 ≤ timeout → timeout < 2 ^ 31 →
      (redis.roundTrip store conn first second
          (fun conn answers => conn.setex server answers key timeout value)
          (fun conn answers => conn.get server answers key) = value ↔
        if 0 < timeout then 0 ∉ value else redis.text store (cStr key) = value)) ∧
    (∀ key field value,
      redis.roundTrip store conn first second
          (fun conn answers => conn.hset server answers key field value)
          (fun conn answers => conn.hget server answers key field) = value ↔
        if (redis.fields store (cStr key)).isSome then 0 ∉ value else value = []) ∧
    (∀ key (hash : StringMap), hash.isEmpty = false →
      (Yields (fun field => hash[field]?) (redis.roundTrip store conn first second
          (fun conn answers => conn.hmset server answers key hash)
          (fun conn answers => conn.hgetAll server answers key ∅)) ↔
        ∃ fields, redis.fields store (cStr key) = some fields ∧
          ∀ field : Bytes, PairTable.storeAll fields (sentPairs hash) field = hash[field]?) ∧
      (redis.value store (cStr key) = none →
        (Yields (fun field => hash[field]?) (redis.roundTrip store conn first second
            (fun conn answers => conn.hmset server answers key hash)
            (fun conn answers => conn.hgetAll server answers key ∅)) ↔
          NulFree hash))) := by
  refine ⟨fun key value => ?_, fun key timeout value least most => ?_,
    fun key field value => ?_, fun key hash some_entry => ⟨?_, fun fresh => ?_⟩⟩
  · rw [get_of_set documented healthy, cStr_eq_self_iff]
  · rw [get_of_setex documented healthy least most]
    split
    · rw [cStr_eq_self_iff]
    · rfl
  · rw [hget_of_hset documented healthy]
    split
    · rw [cStr_eq_self_iff]
    · exact eq_comm
  · exact yields_hash_iff documented healthy some_entry
  · have empty : redis.fields store (cStr key) = some fun _ => none := by simp [fields, fresh]
    rw [yields_hash_iff documented healthy some_entry, ← storeAll_sentPairs_iff]
    simp [empty]

def localServer : CacheServer where
  serverIP := "127.0.0.1"
  serverPort := 6379
  dbNum := 0

/-- A connection with a context asks hiredis and the clock nothing else. -/
def silent : RedisAnswers where
  curTime := 0
  connect := none
  select := none
  command := fun _ => none

theorem round_trip_iff_memory :
    memoryRedis.roundTrip (fun _ => none) { CacheConn.new with pContext := some 0 } silent silent
        (fun conn answers => conn.set localServer answers (ascii "key") (ascii "value"))
        (fun conn answers => conn.get localServer answers (ascii "key")) = ascii "value" ∧
      Yields (fun field => ((∅ : StringMap).insert (ascii "field") (ascii "value"))[field]?)
        (memoryRedis.roundTrip (fun _ => none) { CacheConn.new with pContext := some 0 } silent
          silent
          (fun conn answers => conn.hmset localServer answers (ascii "key")
            ((∅ : StringMap).insert (ascii "field") (ascii "value")))
          (fun conn answers => conn.hgetAll localServer answers (ascii "key") ∅)) := by
  have laws := round_trip_iff memoryRedis MemoryStore.memoryRedis_documented (fun _ => none)
    { CacheConn.new with pContext := some 0 } localServer silent silent rfl
  refine ⟨(laws.1 _ _).mpr (by decide), ((laws.2.2.2 _ _ rfl).2 rfl).mpr ?_⟩
  have entries : ((∅ : StringMap).insert (ascii "field") (ascii "value")).toList =
      [(ascii "field", ascii "value")] := rfl
  unfold NulFree
  rw [entries]
  decide

/-- `set` hands over the part of its value before the NUL. -/
theorem set_cuts_value :
    memoryRedis.roundTrip (fun _ => none) { CacheConn.new with pContext := some 0 } silent silent
        (fun conn answers => conn.set localServer answers (ascii "key") [97, 0, 98])
        (fun conn answers => conn.get localServer answers (ascii "key")) ≠ [97, 0, 98] := by
  decide

end Redis

end TalkSystem.DbProxyServer
