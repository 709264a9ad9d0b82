import Mathlib.Algebra.Group.Int.Defs
import Mathlib.Algebra.GroupWithZero.Nat
import TalkSystem.Base.ConfigFileReader
import TalkSystem.Base.StrExplode
import TalkSystem.DbProxyServer.InterLogin

/-!
# `CDBManager`, `CacheManager` and `main`

Both managers read the names of their pools from one setting, and the settings
of a pool under keys that start with its name. `Init` is one definition for
both; each manager keeps its keys, its constructor call and what it does about a
failure.
-/

set_option autoImplicit false

namespace TalkSystem.DbProxyServer

open TalkSystem.Base

/-! ## Pools by name -/

/-- What the constructor of `CDBPool` stores besides the limit. -/
structure DBPoolSettings where
  pool_name : Bytes
  db_server_ip : Bytes
  db_server_port : Nat
  username : Bytes
  password : Bytes
  db_name : Bytes
  deriving DecidableEq, Repr

/-- What the constructor of `CachePool` stores besides the limit. -/
structure CachePoolSettings where
  pool_name : Bytes
  server_ip : Bytes
  server_port : Int
  db_num : Int
  deriving DecidableEq, Repr

/-- A pool with its settings. -/
structure InstancePool (Settings Conn : Type) where
  settings : Settings
  pool : ConnPool Conn
  deriving DecidableEq, Repr

abbrev PoolMap (Settings Conn : Type) := Bytes → Option (InstancePool Settings Conn)

/-- `insert` of a `std::map`, which keeps what it has. -/
def PoolMap.insert {Settings Conn : Type} (pools : PoolMap Settings Conn) (pool_name : Bytes)
    (instancePool : InstancePool Settings Conn) : PoolMap Settings Conn :=
  if (pools pool_name).isSome then pools
  else Function.update pools pool_name (some instancePool)

section Entries

variable {Settings Conn : Type}

/-- The pools made by the turns of the loop, with the names they are made for. -/
abbrev Entries (Settings Conn : Type) := List (Bytes × InstancePool Settings Conn)

def Entries.connections (made : Entries Settings Conn) : List Conn :=
  made.flatMap fun entry => entry.2.pool.freeList

def Entries.slots (made : Entries Settings Conn) : CStrExplode.ItemList :=
  made.map fun entry => some entry.1

/-- The map after its insertions: the first pool of a name. -/
def Entries.pools (made : Entries Settings Conn) : PoolMap Settings Conn :=
  fun pool_name => made.lookup pool_name

end Entries

/-! ## Settings of an instance -/

def toUInt16 (value : Int) : Nat := (value % 2 ^ 16).toNat

/-- A key that `snprintf` writes into a buffer of 64 bytes. -/
def instanceKey (pool_name : Bytes) (suffix : String) : Bytes :=
  snprintf 64 (pool_name ++ ascii suffix)

/-- What sets a manager apart; `settings` gives the arguments of the constructor,
the last of which is the limit. -/
structure ManagerKind (Settings : Type) where
  instances : Bytes
  settings : CConfigFileReader → Bytes → Option (Settings × Int)
  poolClass : PoolClass
  /-- A failing instance ends the process: `LOG_FATAL` calls `exit`. -/
  fatal : Bool

def CDBManager.settings (config_file : CConfigFileReader) (pool_name : Bytes) :
    Option (DBPoolSettings × Int) := do
  let db_host ← config_file.getConfigName (instanceKey pool_name "_host")
  let str_db_port ← config_file.getConfigName (instanceKey pool_name "_port")
  let db_dbname ← config_file.getConfigName (instanceKey pool_name "_dbname")
  let db_username ← config_file.getConfigName (instanceKey pool_name "_username")
  let db_password ← config_file.getConfigName (instanceKey pool_name "_password")
  let str_maxconncnt ← config_file.getConfigName (instanceKey pool_name "_maxconncnt")
  some (⟨pool_name, db_host, toUInt16 (atoi str_db_port), db_username, db_password, db_dbname⟩,
    atoi str_maxconncnt)

def CDBManager.kind : ManagerKind DBPoolSettings where
  instances := ascii "DBInstances"
  settings := CDBManager.settings
  poolClass := .CDBPool
  fatal := true

def CacheManager.settings (config_file : CConfigFileReader) (pool_name : Bytes) :
    Option (CachePoolSettings × Int) := do
  let cache_host ← config_file.getConfigName (instanceKey pool_name "_host")
  let str_cache_port ← config_file.getConfigName (instanceKey pool_name "_port")
  let str_cache_db ← config_file.getConfigName (instanceKey pool_name "_db")
  let str_max_conn_cnt ← config_file.getConfigName (instanceKey pool_name "_maxconncnt")
  some (⟨pool_name, cache_host, atoi str_cache_port, atoi str_cache_db⟩, atoi str_max_conn_cnt)

def CacheManager.kind : ManagerKind CachePoolSettings where
  instances := ascii "CacheInstances"
  settings := CacheManager.settings
  poolClass := .CachePool
  fatal := false

/-! ## `Init` -/

/-- How a call of `Init` ends. -/
inductive InitOutcome (Settings Conn : Type) where
  | exits
  | returns (code : Int) (pools : PoolMap Settings Conn)

/-- What one turn of the loop comes to. -/
inductive InstanceTurn (Settings Conn : Type) where
  | unconfigured
  | failed
  | made (instancePool : InstancePool Settings Conn)
  deriving DecidableEq, Repr

/-- One reading of the configuration file; `uninitialised` is what `m_load_ok`
holds before. -/
structure Reading where
  uninitialised : Bool
  files : Files

def Reading.config_file (reading : Reading) : CConfigFileReader :=
  .new reading.uninitialised reading.files (ascii "dbproxyserver.conf")

/-- How a call of `getInstance` ends: the process exits, or the static pointer is
returned. -/
inductive Instance (Settings Conn : Type) where
  | exits
  | pointer (manager : Option (PoolMap Settings Conn))

/-- A manager whose `Init` fails is deleted. -/
def InitOutcome.toInstance {Settings Conn : Type} :
    InitOutcome Settings Conn → Instance Settings Conn
  | .exits => .exits
  | .returns code pools => .pointer (if code ≠ 0 then none else some pools)

namespace ManagerKind

variable {Settings Conn : Type} [DecidableEq Conn] (kind : ManagerKind Settings)

/-- The settings of an instance, its pool, and the pool's `Init`. -/
def turn (config_file : CConfigFileReader) (creations : List (Creation Conn)) (pool_name : Bytes) :
    Option (InstanceTurn Settings Conn) :=
  match kind.settings config_file pool_name with
  | none => some .unconfigured
  | some (settings, maxConnCnt) =>
      (kind.poolClass.Init (kind.poolClass.new maxConnCnt) creations).map fun (pool, ret) =>
        if ret ≠ 0 then .failed else .made ⟨settings, pool⟩

def fail (code : Int) (pools : PoolMap Settings Conn) : InitOutcome Settings Conn :=
  if kind.fatal then .exits else .returns code pools

/-- The loop of `Init` over the slots of `instances_name`. `creations` gives what
`new` and the connection's `Init` return in each turn; `live` are the connections
of the pools so far, none of which the allocator hands out again. There is no
result for a slot that has never been assigned. -/
def initLoop (config_file : CConfigFileReader) (creations : Nat → List (Creation Conn)) :
    Nat → Base.CStrExplode.ItemList → PoolMap Settings Conn → List Conn →
      Option (InitOutcome Settings Conn)
  | _, [], pools, _ => some (.returns 0 pools)
  | _, none :: _, _, _ => none
  | i, some pool_name :: slots, pools, live =>
      match kind.turn config_file (creations i) pool_name with
      | none => none
      | some .unconfigured => some (kind.fail 2 pools)
      | some .failed => some (kind.fail 3 pools)
      | some (.made instancePool) =>
          if instancePool.pool.freeList.any (· ∈ live) then
            none
          else
            initLoop config_file creations (i + 1) slots (pools.insert pool_name instancePool)
              (live ++ instancePool.pool.freeList)

def Init (reading : Reading) (creations : Nat → List (Creation Conn)) :
    Option (InitOutcome Settings Conn) :=
  match reading.config_file.getConfigName kind.instances with
  | none => some (.returns 1 fun _ => none)
  | some value => do
      let slots ← CStrExplode.new value 44
      kind.initLoop reading.config_file creations 0 slots (fun _ => none) []

def getInstance (s_manager : Option (PoolMap Settings Conn)) (reading : Reading)
    (creations : Nat → List (Creation Conn)) : Option (Instance Settings Conn) :=
  match s_manager with
  | some pools => some (.pointer (some pools))
  | none => (kind.Init reading creations).map InitOutcome.toInstance

end ManagerKind

section Members

variable {Conn : Type} [DecidableEq Conn]

def CDBManager.Init : Reading → (Nat → List (Creation Conn)) →
    Option (InitOutcome DBPoolSettings Conn) := CDBManager.kind.Init

def CDBManager.getInstance : Option (PoolMap DBPoolSettings Conn) → Reading →
    (Nat → List (Creation Conn)) → Option (Instance DBPoolSettings Conn) :=
  CDBManager.kind.getInstance

def CacheManager.Init : Reading → (Nat → List (Creation Conn)) →
    Option (InitOutcome CachePoolSettings Conn) := CacheManager.kind.Init

def CacheManager.getInstance : Option (PoolMap CachePoolSettings Conn) → Reading →
    (Nat → List (Creation Conn)) → Option (Instance CachePoolSettings Conn) :=
  CacheManager.kind.getInstance

end Members

/-! ## `main` -/

/-- How `main` ends, or that it enters the loop of the server. -/
inductive MainOutcome (Conn Cache : Type) where
  | exits
  | returns (code : Int)
  | serves (listen_ip : Bytes) (listen_port : Nat) (dbPools : PoolMap DBPoolSettings Conn)
      (cachePools : PoolMap CachePoolSettings Cache)

/-- What `main` meets: its three readings of the file, and the connections made. -/
structure Startup (Conn Cache : Type) where
  dbReading : Reading
  cacheReading : Reading
  mainReading : Reading
  dbCreations : Nat → List (Creation Conn)
  cacheCreations : Nat → List (Creation Cache)

section Main

variable {Conn Cache : Type} [DecidableEq Conn] [DecidableEq Cache]

/-- `main` behind the two managers. -/
def listen (config_file : CConfigFileReader) (dbPools : PoolMap DBPoolSettings Conn)
    (cachePools : PoolMap CachePoolSettings Cache) : MainOutcome Conn Cache :=
  match config_file.getConfigName (ascii "ListenIP"),
    config_file.getConfigName (ascii "ListenPort"),
    config_file.getConfigName (ascii "ThreadNum"),
    config_file.getConfigName (ascii "MsfsSite"),
    config_file.getConfigName (ascii "aesKey") with
  | some listen_ip, some str_listen_port, some _, some _, some str_aes_key =>
      if str_aes_key.length ≠ 32 then .returns (-2)
      else .serves listen_ip (toUInt16 (atoi str_listen_port)) dbPools cachePools
  | _, _, _, _, _ => .returns (-1)

/-- `argv` is what follows the name of the program. -/
def main (argv : List Bytes) (startup : Startup Conn Cache) : Option (MainOutcome Conn Cache) :=
  if argv = [ascii "-v"] then
    some (.returns 0)
  else do
    match ← CDBManager.getInstance none startup.dbReading startup.dbCreations with
    | .exits => some .exits
    | .pointer none => some (.returns (-1))
    | .pointer (some dbPools) =>
        match ← CacheManager.getInstance none startup.cacheReading startup.cacheCreations with
        | .exits => some .exits
        | .pointer none => some (.returns (-1))
        | .pointer (some cachePools) =>
            some (listen startup.mainReading.config_file dbPools cachePools)

end Main

end TalkSystem.DbProxyServer
