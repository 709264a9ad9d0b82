import Mathlib.Data.List.Nodup
import TalkSystem.DbProxyServer.ConnPoolProperties
import TalkSystem.DbProxyServer.Managers

/-!
# When the managers and the server start

`Init` returns zero exactly when every slot of the instance list has a name and
every name a pool. Of two pools with one name the map keeps the first.
-/

set_option autoImplicit false

namespace TalkSystem.DbProxyServer

open TalkSystem.Base

/-! ## Pools made in order -/

section Insertion

variable {Settings Conn : Type}

def PoolMap.insertAll (pools : PoolMap Settings Conn) (made : Entries Settings Conn) :
    PoolMap Settings Conn :=
  made.foldl (fun pools entry => pools.insert entry.1 entry.2) pools

theorem PoolMap.insert_apply (pools : PoolMap Settings Conn) (pool_name name : Bytes)
    (instancePool : InstancePool Settings Conn) :
    pools.insert pool_name instancePool name =
      (pools name).or (if name = pool_name then some instancePool else none) := by
  rw [PoolMap.insert]
  by_cases same : name = pool_name
  · subst same
    cases held : pools name with
    | none => simp
    | some instancePool => simp [held]
  · rw [if_neg same, Option.or_none]
    split
    · rfl
    · exact Function.update_of_ne same _ _

theorem PoolMap.insertAll_apply (pools : PoolMap Settings Conn) (made : Entries Settings Conn)
    (name : Bytes) : pools.insertAll made name = (pools name).or (made.pools name) := by
  induction made generalizing pools with
  | nil => exact (Option.or_none).symm
  | cons entry made ih =>
      obtain ⟨pool_name, instancePool⟩ := entry
      have later : (pools.insert pool_name instancePool).insertAll made name = _ := ih _
      rw [PoolMap.insertAll, List.foldl_cons, ← PoolMap.insertAll, later, PoolMap.insert_apply,
        Option.or_assoc]
      congr 1
      rw [Entries.pools, Entries.pools, List.lookup_cons]
      by_cases same : name = pool_name
      · simp [same]
      · have differs : (name == pool_name) = false := beq_false_of_ne same
        simp [same, differs]

theorem PoolMap.insertAll_empty (made : Entries Settings Conn) :
    PoolMap.insertAll (fun _ => none) made = made.pools := by
  funext name
  rw [PoolMap.insertAll_apply, Option.none_or]

theorem Entries.mem_of_pools {made : Entries Settings Conn} {pool_name : Bytes}
    {instancePool : InstancePool Settings Conn} (found : made.pools pool_name = some instancePool) :
    (pool_name, instancePool) ∈ made := by
  obtain ⟨before, after, split, _⟩ := List.lookup_eq_some_iff.mp found
  exact split ▸ List.mem_append_right _ List.mem_cons_self

/-- No turn of the loop makes a connection that an earlier pool has. -/
def Entries.ApartFrom (live : List Conn) (made : Entries Settings Conn) : Prop :=
  made.connections.Nodup ∧ List.Disjoint live made.connections

theorem Entries.apartFrom_cons {live : List Conn} {made : Entries Settings Conn}
    {pool_name : Bytes} {instancePool : InstancePool Settings Conn}
    (distinct : instancePool.pool.freeList.Nodup) :
    Entries.ApartFrom live ((pool_name, instancePool) :: made) ↔
      List.Disjoint live instancePool.pool.freeList ∧
        Entries.ApartFrom (live ++ instancePool.pool.freeList) made := by
  simp only [ApartFrom, connections, List.flatMap_cons, List.nodup_append', distinct, true_and,
    List.disjoint_append_right, List.disjoint_append_left]
  constructor
  · rintro ⟨⟨unique, apart⟩, free, others⟩
    exact ⟨free, unique, others, apart⟩
  · rintro ⟨free, unique, others, apart⟩
    exact ⟨⟨unique, apart⟩, free, others⟩

theorem Entries.apartFrom_nil {made : Entries Settings Conn} :
    made.ApartFrom [] ↔ made.connections.Nodup := by
  simp [Entries.ApartFrom]

end Insertion

/-! ## `Init` -/

namespace ManagerKind

variable {Settings Conn : Type} {kind : ManagerKind Settings}

theorem toInstance_fail {pools : PoolMap Settings Conn} {code : Int} (failed : code ≠ 0) :
    (kind.fail code pools).toInstance = if kind.fatal then .exits else .pointer none := by
  rw [fail]
  split
  · rfl
  · exact congrArg Instance.pointer (if_pos failed)

variable [DecidableEq Conn] {config_file : CConfigFileReader}
  {creations : Nat → List (Creation Conn)}

/-- An instance is configured, and the `Init` of its pool returns zero. -/
def Sets (kind : ManagerKind Settings) (config_file : CConfigFileReader)
    (creations : List (Creation Conn)) (entry : Bytes × InstancePool Settings Conn) : Prop :=
  ∃ maxConnCnt, kind.settings config_file entry.1 = some (entry.2.settings, maxConnCnt) ∧
    kind.poolClass.Init (kind.poolClass.new maxConnCnt) creations = some (entry.2.pool, 0)

/-- An instance that ends `Init`, with the code it returns: a setting is missing,
or the pool's `Init` fails. -/
inductive Breaks (kind : ManagerKind Settings) (config_file : CConfigFileReader)
    (creations : List (Creation Conn)) (pool_name : Bytes) : Int → Prop where
  | unconfigured : kind.settings config_file pool_name = none →
      Breaks kind config_file creations pool_name 2
  | failed {settings : Settings} {maxConnCnt ret : Int} {pool : ConnPool Conn} :
      kind.settings config_file pool_name = some (settings, maxConnCnt) →
      kind.poolClass.Init (kind.poolClass.new maxConnCnt) creations = some (pool, ret) →
      ret ≠ 0 → Breaks kind config_file creations pool_name 3

/-- Pools made by the turns of the loop from the turn `start` on. -/
def MakesFrom (kind : ManagerKind Settings) (config_file : CConfigFileReader)
    (creations : Nat → List (Creation Conn)) (start : Nat) (made : Entries Settings Conn) : Prop :=
  ∀ i entry, made[i]? = some entry → kind.Sets config_file (creations (start + i)) entry

theorem turn_made_iff {creations : List (Creation Conn)} {pool_name : Bytes}
    {instancePool : InstancePool Settings Conn} :
    kind.turn config_file creations pool_name = some (.made instancePool) ↔
      kind.Sets config_file creations (pool_name, instancePool) := by
  simp only [turn, Sets]
  cases configured : kind.settings config_file pool_name with
  | none => simp
  | some found =>
      simp only [Option.map_eq_some_iff, Option.some.injEq]
      constructor
      · rintro ⟨result, initialised, kept⟩
        split at kept
        · cases kept
        · rename_i succeeded
          cases kept
          exact ⟨found.2, rfl, by rw [initialised, ← not_not.mp succeeded]⟩
      · rintro ⟨maxConnCnt, rfl, initialised⟩
        exact ⟨_, initialised, rfl⟩

theorem turn_breaks_iff {creations : List (Creation Conn)} {pool_name : Bytes} {code : Int} :
    kind.Breaks config_file creations pool_name code ↔
      (kind.turn config_file creations pool_name = some .unconfigured ∧ code = 2) ∨
        (kind.turn config_file creations pool_name = some .failed ∧ code = 3) := by
  constructor
  · rintro (missing | ⟨configured, initialised, failed⟩)
    · exact .inl ⟨by rw [turn, missing], rfl⟩
    · exact .inr ⟨by simp [turn, configured, initialised, failed], rfl⟩
  · rintro (⟨turned, rfl⟩ | ⟨turned, rfl⟩)
    all_goals
      simp only [turn] at turned
      split at turned
    · exact .unconfigured ‹_›
    · obtain ⟨result, _, kept⟩ := Option.map_eq_some_iff.mp turned
      split at kept <;> cases kept
    · cases turned
    · obtain ⟨result, initialised, kept⟩ := Option.map_eq_some_iff.mp turned
      split at kept
      · exact .failed ‹_› initialised ‹_›
      · cases kept

theorem makesFrom_cons {start : Nat} {entry : Bytes × InstancePool Settings Conn}
    {made : Entries Settings Conn} :
    kind.MakesFrom config_file creations start (entry :: made) ↔
      kind.Sets config_file (creations start) entry ∧
        kind.MakesFrom config_file creations (start + 1) made := by
  constructor
  · intro makes
    refine ⟨makes 0 entry rfl, fun i other found => ?_⟩
    have later := makes (i + 1) other found
    rwa [show start + (i + 1) = start + 1 + i by omega] at later
  · rintro ⟨first, rest⟩ i other found
    cases i with
    | zero =>
        cases found
        exact first
    | succ i =>
        rw [show start + (i + 1) = start + 1 + i by omega]
        exact rest i other found

theorem Sets.distinct {creations : List (Creation Conn)}
    {entry : Bytes × InstancePool Settings Conn} (sets : kind.Sets config_file creations entry) :
    entry.2.pool.freeList.Nodup := by
  obtain ⟨maxConnCnt, _, initialised⟩ := sets
  exact (PoolClass.ready_of_Init initialised).distinct

/-- What the loop comes to from the turn `start` on: it makes a pool for every
slot, or an instance breaks it behind some pools. -/
inductive LoopEnds (kind : ManagerKind Settings) (config_file : CConfigFileReader)
    (creations : Nat → List (Creation Conn)) (start : Nat) (slots : CStrExplode.ItemList)
    (pools : PoolMap Settings Conn) (live : List Conn) : InitOutcome Settings Conn → Prop where
  | completes {made : Entries Settings Conn} : slots = made.slots →
      kind.MakesFrom config_file creations start made → made.ApartFrom live →
      LoopEnds kind config_file creations start slots pools live
        (.returns 0 (pools.insertAll made))
  | stops {made : Entries Settings Conn} {pool_name : Bytes} {rest : CStrExplode.ItemList}
      {code : Int} : slots = made.slots ++ some pool_name :: rest →
      kind.MakesFrom config_file creations start made → made.ApartFrom live →
      kind.Breaks config_file (creations (start + made.length)) pool_name code →
      LoopEnds kind config_file creations start slots pools live
        (kind.fail code (pools.insertAll made))

theorem LoopEnds.after {start : Nat} {slots : CStrExplode.ItemList} {pool_name : Bytes}
    {instancePool : InstancePool Settings Conn} {pools : PoolMap Settings Conn} {live : List Conn}
    {outcome : InitOutcome Settings Conn}
    (sets : kind.Sets config_file (creations start) (pool_name, instancePool))
    (apart : List.Disjoint live instancePool.pool.freeList)
    (ends : kind.LoopEnds config_file creations (start + 1) slots
      (pools.insert pool_name instancePool) (live ++ instancePool.pool.freeList) outcome) :
    kind.LoopEnds config_file creations start (some pool_name :: slots) pools live outcome := by
  have joined {made : Entries Settings Conn}
      (free : made.ApartFrom (live ++ instancePool.pool.freeList)) :
      Entries.ApartFrom live ((pool_name, instancePool) :: made) :=
    (Entries.apartFrom_cons sets.distinct).mpr ⟨apart, free⟩
  cases ends with
  | @completes made all makes free =>
      have slot : some pool_name :: slots = Entries.slots ((pool_name, instancePool) :: made) :=
        congrArg _ all
      exact .completes slot (makesFrom_cons.mpr ⟨sets, makes⟩) (joined free)
  | @stops made name rest code all makes free breaks =>
      have slot : some pool_name :: slots =
          Entries.slots ((pool_name, instancePool) :: made) ++ some name :: rest := congrArg _ all
      refine .stops slot (makesFrom_cons.mpr ⟨sets, makes⟩) (joined free) ?_
      rw [List.length_cons, show start + (made.length + 1) = start + 1 + made.length by omega]
      exact breaks

theorem LoopEnds.of_loop {start : Nat} {slots : CStrExplode.ItemList}
    {pools : PoolMap Settings Conn} {live : List Conn} {outcome : InitOutcome Settings Conn}
    (looped : kind.initLoop config_file creations start slots pools live = some outcome) :
    kind.LoopEnds config_file creations start slots pools live outcome := by
  have nothing : Entries.ApartFrom live ([] : Entries Settings Conn) :=
    ⟨List.nodup_nil, List.disjoint_nil_right _⟩
  have none_made (start : Nat) : kind.MakesFrom config_file creations start [] := by
    intro i entry found
    cases found
  induction slots generalizing start pools live with
  | nil =>
      cases looped
      exact .completes rfl (none_made start) nothing
  | cons slot slots ih =>
      cases slot with
      | none => cases looped
      | some pool_name =>
          simp only [initLoop] at looped
          split at looped
          case h_1 => cases looped
          case h_2 turned =>
            cases looped
            exact .stops rfl (none_made start) nothing (turn_breaks_iff.mpr (.inl ⟨turned, rfl⟩))
          case h_3 turned =>
            cases looped
            exact .stops rfl (none_made start) nothing (turn_breaks_iff.mpr (.inr ⟨turned, rfl⟩))
          case h_4 instancePool turned =>
            split at looped
            case isTrue => cases looped
            case isFalse fresh =>
              have apart : List.Disjoint live instancePool.pool.freeList :=
                fun conn lives free => fresh (List.any_eq_true.mpr ⟨conn, free, by simpa⟩)
              exact (ih looped ⟨List.nodup_nil, List.disjoint_nil_right _⟩).after
                (turn_made_iff.mp turned) apart

/-- A run of the loop past the slots whose pools it makes. -/
theorem initLoop_append {start : Nat} {made : Entries Settings Conn} {live : List Conn}
    (makes : kind.MakesFrom config_file creations start made) (apart : made.ApartFrom live)
    (rest : CStrExplode.ItemList) (pools : PoolMap Settings Conn) :
    kind.initLoop config_file creations start (made.slots ++ rest) pools live =
      kind.initLoop config_file creations (start + made.length) rest (pools.insertAll made)
        (live ++ made.connections) := by
  induction made generalizing start pools live with
  | nil => rw [Entries.connections, List.flatMap_nil, List.append_nil]; rfl
  | cons entry made ih =>
      obtain ⟨pool_name, instancePool⟩ := entry
      obtain ⟨sets, makes⟩ := makesFrom_cons.mp makes
      obtain ⟨disjoint, apart⟩ := (Entries.apartFrom_cons sets.distinct).mp apart
      have turned := turn_made_iff.mpr sets
      have fresh : ¬ instancePool.pool.freeList.any (· ∈ live) = true := by
        intro shared
        obtain ⟨conn, free, lives⟩ := List.any_eq_true.mp shared
        exact disjoint (by simpa using lives) free
      have first : kind.initLoop config_file creations start
          (some pool_name :: (Entries.slots made ++ rest)) pools live =
          kind.initLoop config_file creations (start + 1) (Entries.slots made ++ rest)
            (pools.insert pool_name instancePool) (live ++ instancePool.pool.freeList) := by
        rw [initLoop, turned]
        exact if_neg fresh
      have behind := ih makes apart (pools.insert pool_name instancePool)
      have later : start + 1 + made.length = start + (made.length + 1) := by omega
      rw [later, List.append_assoc] at behind
      exact first.trans behind

theorem LoopEnds.loops {start : Nat} {slots : CStrExplode.ItemList}
    {pools : PoolMap Settings Conn} {live : List Conn} {outcome : InitOutcome Settings Conn}
    (ends : kind.LoopEnds config_file creations start slots pools live outcome) :
    kind.initLoop config_file creations start slots pools live = some outcome := by
  cases ends with
  | @completes made all makes apart =>
      have looped := initLoop_append makes apart [] pools
      rw [List.append_nil] at looped
      rw [all, looped]
      rfl
  | @stops made pool_name rest code all makes apart breaks =>
      rw [all, initLoop_append makes apart]
      rcases turn_breaks_iff.mp breaks with ⟨turned, rfl⟩ | ⟨turned, rfl⟩
      all_goals rw [initLoop, turned]

/-! ## `getInstance` -/

variable {reading : Reading}

/-- Every slot of the instance list has a name, every name a pool whose `Init`
returns zero, and no connection is in two pools. -/
structure Starts (kind : ManagerKind Settings) (reading : Reading)
    (creations : Nat → List (Creation Conn)) (made : Entries Settings Conn) : Prop where
  named : ∃ value, reading.config_file.getConfigName kind.instances = some value ∧
    CStrExplode.new value 44 = some made.slots
  makes : ∀ i entry, made[i]? = some entry →
    kind.Sets reading.config_file (creations i) entry
  apart : made.connections.Nodup

/-- Some pools are made, and the next instance breaks the loop. -/
structure Stops (kind : ManagerKind Settings) (reading : Reading)
    (creations : Nat → List (Creation Conn)) (made : Entries Settings Conn) (code : Int) :
    Prop where
  named : ∃ value pool_name rest, reading.config_file.getConfigName kind.instances = some value ∧
    CStrExplode.new value 44 = some (made.slots ++ some pool_name :: rest) ∧
    kind.Breaks reading.config_file (creations made.length) pool_name code
  makes : ∀ i entry, made[i]? = some entry →
    kind.Sets reading.config_file (creations i) entry
  apart : made.connections.Nodup

theorem Breaks.code_ne_zero {creations : List (Creation Conn)} {pool_name : Bytes} {code : Int}
    (breaks : kind.Breaks config_file creations pool_name code) : code ≠ 0 := by
  cases breaks <;> decide

theorem makesFrom_zero {made : Entries Settings Conn} :
    kind.MakesFrom config_file creations 0 made ↔
      ∀ i entry, made[i]? = some entry → kind.Sets config_file (creations i) entry := by
  simp only [MakesFrom, Nat.zero_add]

/-- `Init` by cases: there is no list, all pools are made, or an instance stops it. -/
theorem Init_iff {outcome : InitOutcome Settings Conn} :
    kind.Init reading creations = some outcome ↔
      (reading.config_file.getConfigName kind.instances = none ∧
          outcome = .returns 1 fun _ => none) ∨
        (∃ made, kind.Starts reading creations made ∧ outcome = .returns 0 made.pools) ∨
        ∃ made code, kind.Stops reading creations made code ∧
          outcome = kind.fail code made.pools := by
  constructor
  · intro initialised
    simp only [Init] at initialised
    split at initialised
    case h_1 missing => exact .inl ⟨missing, (Option.some.inj initialised).symm⟩
    case h_2 value found =>
      obtain ⟨slots, exploded, looped⟩ := Option.bind_eq_some_iff.mp initialised
      have ends := LoopEnds.of_loop looped
      generalize same : (fun _ => none : PoolMap Settings Conn) = pools at ends
      cases ends with
      | @completes made all makes apart =>
          refine .inr (.inl ⟨made, ⟨⟨value, found, all ▸ exploded⟩, makesFrom_zero.mp makes,
            Entries.apartFrom_nil.mp apart⟩, ?_⟩)
          rw [← same, PoolMap.insertAll_empty]
      | @stops made pool_name rest code all makes apart breaks =>
          rw [Nat.zero_add] at breaks
          refine .inr (.inr ⟨made, code, ⟨⟨value, pool_name, rest, found, all ▸ exploded, breaks⟩,
            makesFrom_zero.mp makes, Entries.apartFrom_nil.mp apart⟩, ?_⟩)
          rw [← same, PoolMap.insertAll_empty]
  · rintro (⟨missing, rfl⟩ | ⟨made, ⟨⟨value, found, exploded⟩, makes, apart⟩, rfl⟩ |
      ⟨made, code, ⟨⟨value, pool_name, rest, found, exploded, breaks⟩, makes, apart⟩, rfl⟩)
    · simp only [Init, missing]
    all_goals
      have makes := makesFrom_zero.mpr makes
      have apart := Entries.apartFrom_nil.mpr apart
      simp only [Init, found, exploded, Option.bind_eq_bind, Option.bind_some]
      rw [← PoolMap.insertAll_empty]
    · exact LoopEnds.loops (.completes rfl makes apart)
    · refine LoopEnds.loops (.stops rfl makes apart ?_)
      rwa [Nat.zero_add]

theorem Stops.code_ne_zero {made : Entries Settings Conn} {code : Int}
    (stops : kind.Stops reading creations made code) : code ≠ 0 := by
  obtain ⟨_, _, _, _, _, breaks⟩ := stops.named
  exact breaks.code_ne_zero

/-- The first call of `getInstance` by the same cases. -/
theorem first_instance_cases {result : Instance Settings Conn} :
    kind.getInstance none reading creations = some result ↔
      (reading.config_file.getConfigName kind.instances = none ∧ result = .pointer none) ∨
        (∃ made, kind.Starts reading creations made ∧ result = .pointer (some made.pools)) ∨
        ∃ made code, kind.Stops reading creations made code ∧
          result = if kind.fatal then .exits else .pointer none := by
  simp only [getInstance, Option.map_eq_some_iff, Init_iff]
  constructor
  · rintro ⟨_, ⟨missing, rfl⟩ | ⟨made, starts, rfl⟩ | ⟨made, code, stops, rfl⟩, rfl⟩
    · exact .inl ⟨missing, rfl⟩
    · exact .inr (.inl ⟨made, starts, rfl⟩)
    · exact .inr (.inr ⟨made, code, stops, toInstance_fail stops.code_ne_zero⟩)
  · rintro (⟨missing, rfl⟩ | ⟨made, starts, rfl⟩ | ⟨made, code, stops, rfl⟩)
    · exact ⟨_, .inl ⟨missing, rfl⟩, rfl⟩
    · exact ⟨_, .inr (.inl ⟨made, starts, rfl⟩), rfl⟩
    · exact ⟨_, .inr (.inr ⟨made, code, stops, rfl⟩), toInstance_fail stops.code_ne_zero⟩

theorem first_instance_starts {pools : PoolMap Settings Conn} :
    kind.getInstance none reading creations = some (.pointer (some pools)) ↔
      ∃ made, kind.Starts reading creations made ∧ pools = made.pools := by
  rw [first_instance_cases]
  constructor
  · rintro (⟨_, result⟩ | ⟨made, starts, result⟩ | ⟨made, code, _, result⟩)
    · cases result
    · cases result
      exact ⟨made, starts, rfl⟩
    · split at result <;> cases result
  · rintro ⟨made, starts, rfl⟩
    exact .inr (.inl ⟨made, starts, rfl⟩)

/-- The first call of `getInstance` returns a manager exactly when every slot of the instance list
has a name and every name a pool, and its map then has the first pool of each name. Otherwise it
returns `NULL` if there is no list, and if an instance cannot be set up it returns `NULL` or, where
that is fatal, does not return. -/
theorem getInstance_iff (kind : ManagerKind Settings) (reading : Reading)
    (creations : Nat → List (Creation Conn)) :
    (∀ pools, kind.getInstance none reading creations = some (.pointer (some pools)) ↔
      ∃ made, kind.Starts reading creations made ∧ pools = made.pools) ∧
    (kind.getInstance none reading creations = some (.pointer none) ↔
      reading.config_file.getConfigName kind.instances = none ∨
        (kind.fatal = false ∧ ∃ made code, kind.Stops reading creations made code)) ∧
    (kind.getInstance none reading creations = some .exits ↔
      kind.fatal = true ∧ ∃ made code, kind.Stops reading creations made code) := by
  refine ⟨fun pools => first_instance_starts, ?_, ?_⟩
  · rw [first_instance_cases]
    constructor
    · rintro (⟨missing, _⟩ | ⟨made, _, result⟩ | ⟨made, code, stops, result⟩)
      · exact .inl missing
      · cases result
      · split at result
        · cases result
        · exact .inr ⟨eq_false_of_ne_true ‹_›, made, code, stops⟩
    · rintro (missing | ⟨returns, made, code, stops⟩)
      · exact .inl ⟨missing, rfl⟩
      · exact .inr (.inr ⟨made, code, stops, by rw [returns]; rfl⟩)
  · rw [first_instance_cases]
    constructor
    · rintro (⟨_, result⟩ | ⟨made, _, result⟩ | ⟨made, code, stops, result⟩)
      · cases result
      · cases result
      · split at result
        · exact ⟨‹_›, made, code, stops⟩
        · cases result
    · rintro ⟨fatal, made, code, stops⟩
      exact .inr (.inr ⟨made, code, stops, by rw [fatal]; rfl⟩)

end ManagerKind

/-! ## `main` -/

/-- The settings that `main` needs itself, with the address it listens on. -/
structure Listens (config_file : CConfigFileReader) (listen_ip : Bytes) (listen_port : Nat) :
    Prop where
  ip : config_file.getConfigName (ascii "ListenIP") = some listen_ip
  port : ∃ text, config_file.getConfigName (ascii "ListenPort") = some text ∧
    listen_port = toUInt16 (atoi text)
  threads : ∃ text, config_file.getConfigName (ascii "ThreadNum") = some text
  site : ∃ text, config_file.getConfigName (ascii "MsfsSite") = some text
  key : ∃ text, config_file.getConfigName (ascii "aesKey") = some text ∧ text.length = 32

section Main

variable {Conn Cache : Type} {dbPools dbServed : PoolMap DBPoolSettings Conn}
  {cachePools cacheServed : PoolMap CachePoolSettings Cache} {listen_ip : Bytes}
  {listen_port : Nat}

theorem listen_serves_iff {config_file : CConfigFileReader} :
    listen config_file dbPools cachePools = .serves listen_ip listen_port dbServed cacheServed ↔
      Listens config_file listen_ip listen_port ∧ dbServed = dbPools ∧
        cacheServed = cachePools := by
  rw [listen]
  constructor
  · intro served
    split at served
    case h_1 ip port thread site key found_ip found_port found_thread found_site found_key =>
      split at served
      · cases served
      · rename_i size
        cases served
        exact ⟨⟨found_ip, ⟨port, found_port, rfl⟩, ⟨thread, found_thread⟩, ⟨site, found_site⟩,
          key, found_key, not_not.mp size⟩, rfl, rfl⟩
    case h_2 => cases served
  · rintro ⟨⟨ip, ⟨port, found_port, rfl⟩, ⟨thread, found_thread⟩, ⟨site, found_site⟩,
      ⟨key, found_key, size⟩⟩, rfl, rfl⟩
    simp only [ip, found_port, found_thread, found_site, found_key]
    exact if_neg (not_not.mpr size)

variable [DecidableEq Conn] [DecidableEq Cache] {argv : List Bytes} {startup : Startup Conn Cache}

end Main

end TalkSystem.DbProxyServer
