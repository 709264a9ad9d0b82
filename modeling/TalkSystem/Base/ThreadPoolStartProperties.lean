import Mathlib.Data.List.Nodup
import Mathlib.Data.List.Perm.Subperm
import TalkSystem.Base.ThreadPoolStart

/-!
# The threads that `ThreadPool::start` starts

The keys that the first loop uses follow the number of threads that the process
has constructed before, the keys of the second loop start from zero.
-/

set_option autoImplicit false

namespace TalkSystem.Base

theorem Thread.numCreatedAfter_eq (count : Nat) :
    numCreatedAfter count = wrapInt (count - 1) := by
  induction count with
  | zero => rfl
  | succ count ih =>
      simp only [numCreatedAfter, new, setDefaultName, ih, wrapInt]
      omega

namespace ThreadMap

variable {threads : ThreadMap} {threadId other : Int} {thread : Option Thread}

theorem keys_append {extra : ThreadMap} : keys (threads ++ extra) = threads.keys ++ extra.keys :=
  List.map_append

theorem emplace_of_mem (present : threadId ∈ threads.keys) :
    threads.emplace threadId thread = threads := if_pos present

theorem emplace_of_not_mem (absent : threadId ∉ threads.keys) :
    threads.emplace threadId thread = threads ++ [(threadId, thread)] := if_neg absent

@[simp] theorem keys_startThread : (threads.startThread threadId).keys = threads.keys := by
  simp only [keys, startThread, List.map_map]
  refine List.map_congr_left fun entry _ => ?_
  simp only [Function.comp_apply]
  split <;> rfl

/-- A key that is missing is stored with a null pointer. -/
theorem find_emplace_none (absent : threadId ∉ threads.keys) :
    (threads.emplace threadId none).find threadId = none := by
  have skipped : threads.lookup threadId = none := by
    rw [List.lookup_eq_none_iff]
    intro entry member
    have different : threadId ≠ entry.1 := by
      rintro rfl
      exact absent (List.mem_map_of_mem member)
    simpa using different
  rw [emplace_of_not_mem absent]
  simp [find, List.lookup_append, skipped]

/-- A key that is there is found with an entry of its own. -/
theorem find_of_mem (present : threadId ∈ threads.keys) :
    (threadId, threads.find threadId) ∈ threads := by
  cases found : threads.lookup threadId with
  | none =>
      obtain ⟨entry, member, rfl⟩ := List.mem_map.mp present
      have skipped := List.lookup_eq_none_iff.mp found entry member
      simp at skipped
  | some thread =>
      obtain ⟨before, after, rfl, _⟩ := List.lookup_eq_some_iff.mp found
      simp [find, found]

end ThreadMap

namespace StartState

variable {state final : StartState} {count constructed : Nat}

/-! ## The first loop -/

/-- The pool after `count` turns of the first loop. -/
structure Created (constructed count : Nat) (state : StartState) : Prop where
  counter : state.numCreated = wrapInt (constructed + count - 1)
  keys : state.threads.keys = (List.range count).map fun j : Nat => wrapInt (constructed + j)
  own : ∀ entry ∈ state.threads, ∃ thread : Thread, entry = (thread.threadId, some thread)
  begun : state.begun = []

theorem Created.create (created : Created constructed count state) (small : count < 2 ^ 31) :
    Created constructed (count + 1) state.create := by
  have number : wrapInt (state.numCreated + 1) = wrapInt (constructed + count) := by
    rw [created.counter]
    simp only [wrapInt]
    omega
  have absent : wrapInt (constructed + count) ∉ state.threads.keys := by
    rw [created.keys]
    intro member
    obtain ⟨j, below, same⟩ := List.mem_map.mp member
    have before := List.mem_range.mp below
    simp only [wrapInt] at same
    omega
  have threads : state.create.threads =
      state.threads ++ [(wrapInt (constructed + count),
        some (Thread.new state.numCreated "").1)] := by
    simp only [StartState.create, Thread.new, Thread.setDefaultName, number]
    exact ThreadMap.emplace_of_not_mem absent
  refine ⟨?_, ?_, fun entry member => ?_, created.begun⟩
  · have next : state.create.numCreated = wrapInt (state.numCreated + 1) := rfl
    rw [next, number]
    exact congrArg wrapInt (by omega)
  · rw [threads, ThreadMap.keys_append, created.keys, List.range_succ, List.map_append]
    rfl
  · rw [threads, List.mem_append, List.mem_singleton] at member
    rcases member with before | rfl
    · exact created.own entry before
    · exact ⟨(Thread.new state.numCreated "").1, by rw [← number]; rfl⟩

theorem createAll_created (fresh : Created constructed 0 state) (small : count ≤ 2 ^ 31) :
    Created constructed count (state.createAll count) := by
  induction count with
  | zero => exact fresh
  | succ count ih =>
      rw [createAll, List.range_succ, List.foldl_append]
      exact (ih (by omega)).create (by omega)

/-! ## The second loop -/

theorem launchAll_succ : state.launchAll (count + 1) =
    (state.launchAll count).bind fun state => state.launch count := by
  simp [launchAll, List.range_succ, List.foldlM_append]

/-- A thread is started under a key that is there already. -/
theorem launch_keys {i : Nat} (launched : state.launch i = some final) :
    (i : Int) ∈ state.threads.keys ∧ final.threads.keys = state.threads.keys := by
  by_cases present : (i : Int) ∈ state.threads.keys
  · simp only [launch, ThreadMap.emplace_of_mem present] at launched
    split at launched
    · cases launched
      exact ⟨present, ThreadMap.keys_startThread⟩
    · cases launched
  · simp [launch, ThreadMap.find_emplace_none present] at launched

theorem launchAll_keys (launched : state.launchAll count = some final) :
    (∀ i < count, (i : Int) ∈ state.threads.keys) ∧
      final.threads.keys = state.threads.keys := by
  induction count generalizing final with
  | zero =>
      cases launched
      exact ⟨fun i below => absurd below (Nat.not_lt_zero i), rfl⟩
  | succ count ih =>
      rw [launchAll_succ, Option.bind_eq_some_iff] at launched
      obtain ⟨middle, before, last⟩ := launched
      obtain ⟨present, kept⟩ := ih before
      obtain ⟨member, same⟩ := launch_keys last
      refine ⟨fun i below => ?_, same.trans kept⟩
      rcases Nat.lt_succ_iff_lt_or_eq.mp below with earlier | rfl
      · exact present i earlier
      · exact kept ▸ member

/-- The pool after `count` turns of the second loop. -/
structure Launched (count : Nat) (state : StartState) : Prop where
  own : ∀ entry ∈ state.threads, ∃ thread : Thread,
    entry = (thread.threadId, some thread) ∧ (thread.threadId ∈ state.begun → thread.started = true)
  begun : state.begun = (List.range count).map Int.ofNat

theorem Launched.launch (launched : Launched count state)
    (present : (count : Int) ∈ state.threads.keys) :
    ∃ next, state.launch count = some next ∧ next.threads.keys = state.threads.keys ∧
      Launched (count + 1) next := by
  obtain ⟨thread, same, _⟩ := launched.own _ (ThreadMap.find_of_mem present)
  obtain ⟨number, found⟩ := Prod.mk.inj same
  refine ⟨{ state with
    threads := state.threads.startThread count
    idleThreadSize := state.idleThreadSize + 1
    begun := state.begun ++ [thread.threadId] }, ?_, ThreadMap.keys_startThread, ?_, ?_⟩
  · simp only [StartState.launch, ThreadMap.emplace_of_mem present, found]
  · intro entry member
    obtain ⟨before, stored, rfl⟩ := List.mem_map.mp member
    obtain ⟨other, rfl, started⟩ := launched.own before stored
    by_cases chosen : other.threadId = count
    · exact ⟨other.start, by simp [chosen, Thread.start], fun _ => rfl⟩
    · refine ⟨other, if_neg chosen, fun begun => started ?_⟩
      simpa [← number, chosen] using begun
  · simp [launched.begun, ← number, List.range_succ]

theorem launchAll_launched (fresh : Launched 0 state)
    (present : ∀ i < count, (i : Int) ∈ state.threads.keys) :
    ∃ final, state.launchAll count = some final ∧ final.threads.keys = state.threads.keys ∧
      Launched count final := by
  induction count with
  | zero => exact ⟨state, rfl, rfl, fresh⟩
  | succ count ih =>
      obtain ⟨middle, before, kept, launched⟩ := ih fun i below => present i (by omega)
      obtain ⟨final, last, same, after⟩ := launched.launch (kept ▸ present count (by omega))
      refine ⟨final, ?_, same.trans kept, after⟩
      rw [launchAll_succ, before]
      exact last

/-! ## `start` -/

/-- `threads_` has `count` threads, each under the `threadId_` that it passes to
`threadFunc`, and each was started once. -/
structure StartsOwn (count : Nat) (state : StartState) : Prop where
  size : state.threads.length = count
  unique : state.threads.keys.Nodup
  own : ∀ entry ∈ state.threads, ∃ thread : Thread,
    entry = (thread.threadId, some thread) ∧ thread.started = true
  once : state.begun.Perm state.threads.keys

/-- The keys of the two loops agree only in a process that has constructed no
thread before, as far as an `int` can tell. -/
theorem keys_iff (small : count < 2 ^ 31) :
    (∀ i < count, (i : Int) ∈ (List.range count).map fun j : Nat => wrapInt (constructed + j)) ↔
      constructed % 2 ^ 32 = 0 ∨ count = 0 := by
  simp only [List.mem_map, List.mem_range, wrapInt]
  constructor
  · intro present
    by_contra unmet
    obtain ⟨first, below, same⟩ := present 0 (by omega)
    -- The keys run from `-first` up, so the index `count - first` is not among them.
    obtain ⟨other, within, meets⟩ := present (count - first) (by omega)
    omega
  · intro condition i below
    exact ⟨i, below, by omega⟩

theorem Created.unique (created : Created constructed count state) (small : count ≤ 2 ^ 31) :
    state.threads.keys.Nodup := by
  rw [created.keys]
  refine List.nodup_range.map_on fun left below right within same => ?_
  have left_small := List.mem_range.mp below
  have right_small := List.mem_range.mp within
  simp only [wrapInt] at same
  omega

theorem Created.launched (created : Created constructed count state) : Launched 0 state where
  own entry member := by
    obtain ⟨thread, same⟩ := created.own entry member
    exact ⟨thread, same, fun begun => by simp [created.begun] at begun⟩
  begun := created.begun

/-- Once the indices of the second loop have all been started, they are the keys. -/
theorem Launched.once (launched : Launched count state)
    (size : state.threads.keys.length = count)
    (present : ∀ i < count, (i : Int) ∈ state.threads.keys) :
    state.begun.Perm state.threads.keys := by
  rw [launched.begun]
  have unique : ((List.range count).map Int.ofNat).Nodup :=
    List.nodup_range.map fun left right same => Int.ofNat.inj same
  refine (unique.subperm fun threadId member => ?_).perm_of_length_le ?_
  · obtain ⟨i, below, rfl⟩ := List.mem_map.mp member
    exact present i (List.mem_range.mp below)
  · simp [size]

theorem start_created (small : count ≤ 2 ^ 31) : Created constructed count
    (((fresh (Thread.numCreatedAfter constructed)).setRunning count).createAll count) := by
  refine createAll_created ⟨?_, rfl, fun entry member => ?_, rfl⟩ small
  · simp [fresh, setRunning, Thread.numCreatedAfter_eq]
  · cases member

/-- `start` starts its own threads if and only if it has none to start or the
process has constructed no other before. -/
theorem start_starts_own_iff (constructed count : Nat) (small : count < 2 ^ 31) :
    (∃ state, (fresh (Thread.numCreatedAfter constructed)).start count = some state ∧
      StartsOwn count state) ↔
      constructed % 2 ^ 32 = 0 ∨ count = 0 := by
  have created : Created constructed count _ := start_created (Nat.le_of_lt small)
  rw [← keys_iff small, ← created.keys]
  simp only [start, Int.toNat_natCast]
  constructor
  · rintro ⟨state, started, _⟩
    exact (launchAll_keys started).1
  · intro present
    obtain ⟨state, started, kept, launched⟩ := launchAll_launched created.launched present
    have size : state.threads.keys.length = count := by simp [kept, created.keys]
    have once := launched.once size (kept ▸ present)
    refine ⟨state, started, ?_, ?_, fun entry member => ?_, once⟩
    · simpa [ThreadMap.keys] using size
    · exact kept ▸ created.unique (Nat.le_of_lt small)
    · obtain ⟨thread, rfl, begun⟩ := launched.own entry member
      exact ⟨thread, rfl, begun (once.mem_iff.mpr (List.mem_map_of_mem member))⟩

theorem start_starts_own_iff_three : 3 < 2 ^ 31 ∧
    ∃ state, (fresh (Thread.numCreatedAfter 0)).start 3 = some state ∧ StartsOwn 3 state :=
  ⟨by decide, (start_starts_own_iff 0 3 (by decide)).mpr (.inl rfl)⟩

/-- A pool of one thread in a process that has an event loop thread already. -/
theorem start_calls_null :
    ¬ ∃ state, (fresh (Thread.numCreatedAfter 1)).start 1 = some state ∧ StartsOwn 1 state := by
  rintro ⟨state, started, _⟩
  have null : (fresh (Thread.numCreatedAfter 1)).start 1 = none := rfl
  simp [null] at started

/-- The first loop makes the keys that a `ThreadPool` is created with. -/
theorem start_keys (pool : ThreadPool) (small : constructed + count ≤ 2 ^ 31) :
    (((fresh (Thread.numCreatedAfter constructed)).setRunning count).createAll
      count).threads.keys = (pool.create count constructed).threads.map Int.ofNat := by
  rw [(start_created (by omega)).keys]
  simp only [ThreadPool.create, Int.toNat_natCast, List.map_map]
  refine List.map_congr_left fun j below => ?_
  have within := List.mem_range.mp below
  simp only [wrapInt, Function.comp_apply, Int.ofNat_eq_natCast]
  omega

end StartState

end TalkSystem.Base
