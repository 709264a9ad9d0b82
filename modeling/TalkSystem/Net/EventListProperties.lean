import Mathlib.Data.List.Nodup
import TalkSystem.Net.EventList

/-!
# Polls report channels of the poller

Whatever the kernel finds ready, the entries that are read are the ones it has just
written, each with the pointer of a channel in the interest set. The list doubles when it
is full, so that few polls leave a ready channel out.
-/

set_option autoImplicit false

namespace TalkSystem.Net

variable {Ptr : Type} [DecidableEq Ptr] {fd : Ptr → Nat} {members : Set Ptr} {self : Ptr}
  {polled : PolledTable Ptr} {happened : Nat → Events} {ready : List Nat}

open EPollPoller

/-! ## The interest set -/

/-- Every entry of the interest set is that of a member. -/
def ChannelTable.Owned (fd : Ptr → Nat) (members : Set Ptr) (table : ChannelTable Ptr) : Prop :=
  ∀ other mask data, table.poller.interest other = some (mask, data) →
    data ∈ members ∧ fd data = other

omit [DecidableEq Ptr] in
theorem ChannelTable.Owned.start : (ChannelTable.start fd).Owned fd members := by
  intro other mask data present
  cases present

theorem ChannelTable.Owned.perform {table : ChannelTable Ptr} (owned : table.Owned fd members)
    (agrees : table.Agrees fd members) (member : self ∈ members) (operation : ChannelOp) :
    (table.perform self operation).Owned fd members := by
  intro other mask data present
  have own : (table.channels self).fd = fd self := agrees.fd_eq self
  by_cases same : other = fd self
  · have tracked := (agrees.tracked self member).perform operation
    rw [same, ← own, ← @perform_fd _ self (table.channels self) table.poller operation] at present
    obtain ⟨-, rfl⟩ := tracked.stored present
    exact ⟨member, same.symm⟩
  · have kept := (@perform_agreeExcept _ self (table.channels self) table.poller operation).interest
      other (own ▸ same)
    exact owned other mask data (kept.symm.trans present)

/-- What `epoll_wait` writes for a channel. -/
def ChannelTable.eventOf (table : ChannelTable Ptr) (fd : Ptr → Nat) (happened : Nat → Events)
    (self : Ptr) : Events :=
  reportable (happened (fd self)) (table.channels self).events

/-- A channel in the interest set with something to report. -/
structure ChannelTable.Reports (table : ChannelTable Ptr) (fd : Ptr → Nat) (members : Set Ptr)
    (happened : Nat → Events) (pointer : Ptr) : Prop where
  member : pointer ∈ members
  index : (table.channels pointer).index = .kAdded
  stored : table.poller.interest (fd pointer) = some ((table.channels pointer).events, pointer)
  some_event : table.eventOf fd happened pointer ≠ kNoneEvent

omit [DecidableEq Ptr] in
theorem ChannelTable.Agrees.reports_iff {table : ChannelTable Ptr} (agrees : table.Agrees fd members)
    (member : self ∈ members) :
    table.Reports fd members happened self ↔
      table.poller.isReady happened (fd self) = true := by
  have tracked := agrees.tracked self member
  have own := agrees.fd_eq self
  constructor
  · intro reports
    rw [isReady, reports.stored, Option.any_some, bne_iff_ne]
    exact reports.some_event
  · intro is_ready
    rw [isReady] at is_ready
    cases entry : table.poller.interest (fd self) with
    | none =>
        rw [entry] at is_ready
        cases is_ready
    | some entry' =>
        obtain ⟨mask, data⟩ := entry'
        rw [entry, Option.any_some, bne_iff_ne] at is_ready
        rw [← own] at entry
        obtain ⟨rfl, rfl⟩ := tracked.stored entry
        refine ⟨member, tracked.index_eq_kAdded_iff.mpr ?_, own ▸ entry, is_ready⟩
        rw [entry]
        rfl

omit [DecidableEq Ptr] in
theorem exists_of_ready {table : ChannelTable Ptr} (agrees : table.Agrees fd members)
    (owned : table.Owned fd members) {other : Nat}
    (is_ready : table.poller.isReady happened other = true) :
    ∃ self, table.Reports fd members happened self ∧ fd self = other := by
  have found := is_ready
  rw [isReady] at found
  cases entry : table.poller.interest other with
  | none =>
      rw [entry] at found
      cases found
  | some entry' =>
      obtain ⟨mask, data⟩ := entry'
      obtain ⟨member, rfl⟩ := owned other mask data entry
      exact ⟨data, (agrees.reports_iff member).mpr is_ready, rfl⟩

/-- Values of a function at the members of a list come from a list. -/
theorem exists_map_eq {α β : Type} {f : α → β} {property : α → Prop} {values : List β}
    (each : ∀ value ∈ values, ∃ item, property item ∧ f item = value) :
    ∃ items : List α, (∀ item ∈ items, property item) ∧ items.map f = values := by
  induction values with
  | nil => exact ⟨[], by simp, rfl⟩
  | cons value values ih =>
      have ⟨first, rest⟩ := List.forall_mem_cons.mp each
      obtain ⟨item, holds, rfl⟩ := first
      obtain ⟨items, all, rfl⟩ := ih rest
      exact ⟨item :: items, List.forall_mem_cons.mpr ⟨holds, all⟩, rfl⟩

/-! ## One poll -/

omit [DecidableEq Ptr] in
theorem epoll_wait_eq {table : ChannelTable Ptr} {selves : List Ptr} (maxevents : Nat)
    (reports : ∀ self ∈ selves, table.Reports fd members happened self) :
    table.poller.epoll_wait happened (selves.map fd) maxevents =
      (selves.take maxevents).map fun self => ⟨table.eventOf fd happened self, some self⟩ := by
  rw [epoll_wait, ← List.map_take, List.filterMap_map]
  refine (List.filterMap_congr fun self member => ?_).trans (congrFun List.filterMap_eq_map _)
  rw [Function.comp_apply, (reports self (List.mem_of_mem_take member)).stored]
  rfl

omit [DecidableEq Ptr] in
theorem fillActiveChannels_eq (selves : List Ptr) (eventOf : Ptr → Events)
    (behind : List (EpollEvent Ptr)) :
    fillActiveChannels (selves.map (fun self => ⟨eventOf self, some self⟩) ++ behind)
        selves.length =
      some (selves.map fun self => (self, eventOf self)) := by
  rw [fillActiveChannels]
  induction selves with
  | nil => rfl
  | cons self selves ih =>
      rw [List.map_cons, List.cons_append, List.length_cons, List.take_succ_cons, List.mapM_cons, ih]
      rfl

omit [DecidableEq Ptr] in
/-- A report of `taken` entries; the list doubles when they fill it. -/
theorem poll_reported {events : List (EpollEvent Ptr)} (eventOf : Ptr → Events) {taken : List Ptr}
    (fits : taken.length ≤ events.length) (some_room : 0 < events.length) :
    ∃ after, EPollPoller.poll events
        (some (taken.map fun self => ⟨eventOf self, some self⟩)) =
          (after, some (taken.map fun self => (self, eventOf self))) ∧
      after.length = if taken.length = events.length then 2 * events.length else events.length := by
  have size : (taken.map (fun self => (⟨eventOf self, some self⟩ : EpollEvent Ptr)) ++
      events.drop taken.length).length = events.length := by
    rw [List.length_append, List.length_map, List.length_drop]
    omega
  rw [EPollPoller.poll, List.length_map, size, fillActiveChannels_eq]
  by_cases reported : 0 < taken.length
  · rw [if_pos reported]
    refine ⟨_, rfl, ?_⟩
    split
    case isTrue =>
      rw [List.length_append, size, emptyEvents, List.length_replicate]
      omega
    case isFalse => exact size
  · obtain rfl := List.length_eq_zero_iff.mp (Nat.eq_zero_of_not_pos reported)
    rw [if_neg reported]
    exact ⟨events, rfl, (if_neg (Nat.ne_of_lt some_room)).symm⟩

namespace PolledTable

theorem step_poll (agrees : polled.table.Agrees fd members) (owned : polled.table.Owned fd members)
    (documented : polled.Polls members (.poll happened ready)) (some_room : 0 < polled.events.length) :
    ∃ (selves : List Ptr) (events : List (EpollEvent Ptr)), selves.map fd = ready ∧
      (∀ self ∈ selves, polled.table.Reports fd members happened self) ∧
      events.length = (if polled.events.length ≤ ready.length then 2 * polled.events.length
        else polled.events.length) ∧
      polled.step (.poll happened ready) = some
        { polled with
          events := events
          active := (selves.take polled.events.length).map fun self =>
            (self, polled.table.eventOf fd happened self)
          records := polled.records ++ [⟨polled.events.length, ready.length⟩] } := by
  obtain ⟨selves, reports, rfl⟩ := exists_map_eq fun other member =>
    exists_of_ready agrees owned ((documented.2 other).mp member)
  obtain ⟨events, answered, length⟩ := poll_reported (polled.table.eventOf fd happened)
    (List.length_take_le polled.events.length selves) some_room
  refine ⟨selves, events, rfl, reports, ?_, ?_⟩
  · rw [length, List.length_take, List.length_map]
    exact if_congr (by omega) rfl rfl
  · rw [step, PolledTable.poll, epoll_wait_eq polled.events.length reports, answered]
    rfl

/-! ## Every run -/

/-- The list has doubled at each full poll, and the last of these has met at least half as many
ready descriptors as there is room for now. -/
structure Inv (fd : Ptr → Nat) (members : Set Ptr) (polled : PolledTable Ptr) : Prop where
  agrees : polled.table.Agrees fd members
  owned : polled.table.Owned fd members
  sized : polled.events.length = 16 * 2 ^ polled.records.countP PollRecord.full
  grown : polled.records.countP PollRecord.full = 0 ∨
    ∃ record ∈ polled.records, polled.events.length ≤ 2 * record.ready
  starved : polled.records.countP PollRecord.leavesOut = 0 ∨
    ∃ record ∈ polled.records,
      8 * 2 ^ polled.records.countP PollRecord.leavesOut < record.ready

omit [DecidableEq Ptr] in
theorem inv_start : (start fd).Inv fd members where
  agrees := .start fd members
  owned := .start
  sized := rfl
  grown := .inl rfl
  starved := .inl rfl

theorem leavesOut_le_full (records : List PollRecord) :
    records.countP PollRecord.leavesOut ≤ records.countP PollRecord.full := by
  refine List.countP_mono_left fun record _ left_out => ?_
  rw [PollRecord.leavesOut, decide_eq_true_eq] at left_out
  exact decide_eq_true (Nat.le_of_lt left_out)

omit [DecidableEq Ptr] in
theorem Inv.some_room (inv : polled.Inv fd members) : 0 < polled.events.length := by
  rw [inv.sized]
  exact Nat.mul_pos (by decide) (Nat.two_pow_pos _)

theorem Inv.poll (inv : polled.Inv fd members) {next : PolledTable Ptr}
    (documented : polled.Polls members (.poll happened ready))
    (taken : polled.step (.poll happened ready) = some next) : next.Inv fd members := by
  obtain ⟨selves, events, -, -, length, stepped⟩ :=
    step_poll inv.agrees inv.owned documented inv.some_room
  obtain rfl := Option.some.inj (stepped.symm.trans taken)
  have counted (property : PollRecord → Bool) (record : PollRecord) :
      (polled.records ++ [record]).countP property =
        polled.records.countP property + if property record then 1 else 0 := by
    rw [List.countP_append, List.countP_singleton]
  have sized := inv.sized
  have fewer := leavesOut_le_full polled.records
  have last : (⟨polled.events.length, ready.length⟩ : PollRecord) ∈
      polled.records ++ [⟨polled.events.length, ready.length⟩] :=
    List.mem_append_right _ (List.mem_singleton.mpr rfl)
  constructor
  · exact inv.agrees
  · exact inv.owned
  · dsimp only
    rw [length, counted, PollRecord.full]
    by_cases full : polled.events.length ≤ ready.length
    · rw [if_pos full, if_pos (decide_eq_true full), sized, Nat.pow_succ]
      omega
    · rw [if_neg full, if_neg (fun shown => full (of_decide_eq_true shown)), sized, Nat.add_zero]
  · dsimp only
    rw [length, counted, PollRecord.full]
    by_cases full : polled.events.length ≤ ready.length
    · rw [if_pos full]
      exact .inr ⟨_, last, Nat.mul_le_mul_left 2 full⟩
    · rw [if_neg full, if_neg (fun shown => full (of_decide_eq_true shown)), Nat.add_zero]
      exact inv.grown.imp_right fun found => found.imp fun record holds =>
        ⟨List.mem_append_left _ holds.1, holds.2⟩
  · dsimp only
    rw [counted, PollRecord.leavesOut]
    by_cases left_out : polled.events.length < ready.length
    · rw [if_pos (decide_eq_true left_out)]
      refine .inr ⟨_, last, ?_⟩
      have power : 2 ^ polled.records.countP PollRecord.leavesOut ≤
          2 ^ polled.records.countP PollRecord.full := Nat.pow_le_pow_right (by decide) fewer
      rw [Nat.pow_succ]
      dsimp only
      omega
    · rw [if_neg (fun shown => left_out (of_decide_eq_true shown)), Nat.add_zero]
      exact inv.starved.imp_right fun found => found.imp fun record holds =>
        ⟨List.mem_append_left _ holds.1, holds.2⟩

theorem Inv.step {label : PollLabel Ptr} {next : PolledTable Ptr}
    (distinct : Set.InjOn fd members) (inv : polled.Inv fd members)
    (documented : polled.Polls members label) (taken : polled.step label = some next) :
    next.Inv fd members := by
  cases label with
  | perform self operation =>
      obtain rfl := Option.some.inj taken
      exact ⟨inv.agrees.perform distinct documented operation,
        inv.owned.perform inv.agrees documented operation, inv.sized, inv.grown, inv.starved⟩
  | poll happened ready => exact inv.poll documented taken
  | pollFails =>
      obtain rfl := Option.some.inj taken
      have none_new : polled.records ++ [] = polled.records := List.append_nil _
      refine ⟨inv.agrees, inv.owned, ?_, ?_, ?_⟩
      · rw [none_new]
        exact inv.sized
      · rw [none_new]
        exact inv.grown
      · rw [none_new]
        exact inv.starved

theorem inv_run {final : PolledTable Ptr} {labels : List (PollLabel Ptr)}
    (distinct : Set.InjOn fd members)
    (run : pollMachine.Runs (fun polled => polled.Polls members) (.start fd) labels final) :
    final.Inv fd members :=
  run.invariant (fun polled => polled.Inv fd members)
    (fun _ _ _ documented taken inv => inv.step distinct documented taken) inv_start

/-- The list holds 16 entries, doubled at each poll that filled it, and never more than twice as
many as were ready at once. Few polls leave a ready channel out, and every poll reports different
channels of the interest set, each with what has happened on it. -/
theorem polls_report_ready_channels {final : PolledTable Ptr} {labels : List (PollLabel Ptr)}
    (distinct : Set.InjOn fd members)
    (run : pollMachine.Runs (fun polled => polled.Polls members) (.start fd) labels final) :
    final.events.length = 16 * 2 ^ final.records.countP PollRecord.full ∧
    (∀ peak, (∀ record ∈ final.records, record.ready ≤ peak) →
      final.events.length ≤ max 16 (2 * peak) ∧
      (final.records.countP PollRecord.leavesOut = 0 ∨
        8 * 2 ^ final.records.countP PollRecord.leavesOut < peak)) ∧
    ∀ happened ready, final.Polls members (.poll happened ready) →
      ∃ next, final.step (.poll happened ready) = some next ∧
        (next.active.map Prod.fst).Nodup ∧
        next.active.length = min final.events.length ready.length ∧
        (∀ self revents, (self, revents) ∈ next.active → self ∈ members ∧
          (final.table.channels self).index = .kAdded ∧ fd self ∈ ready ∧
          revents = reportable (happened (fd self)) (final.table.channels self).events ∧
          revents ≠ kNoneEvent) ∧
        (ready.length ≤ final.events.length → ∀ self ∈ members, fd self ∈ ready →
          self ∈ next.active.map Prod.fst) := by
  have inv := inv_run distinct run
  refine ⟨inv.sized, fun peak bound => ⟨?_, ?_⟩, fun happened ready documented => ?_⟩
  · obtain none_full | ⟨record, member, room⟩ := inv.grown
    · rw [inv.sized, none_full]
      exact Nat.le_max_left 16 _
    · exact Nat.le_trans room (Nat.le_trans (Nat.mul_le_mul_left 2 (bound record member))
        (Nat.le_max_right 16 _))
  · exact inv.starved.imp_right fun found => found.elim fun record holds =>
      Nat.lt_of_lt_of_le holds.2 (bound record holds.1)
  · obtain ⟨selves, events, rfl, reports, -, stepped⟩ :=
      step_poll inv.agrees inv.owned documented inv.some_room
    have active_selves : ((selves.take final.events.length).map fun self =>
        (self, final.table.eventOf fd happened self)).map Prod.fst =
          selves.take final.events.length := by
      rw [List.map_map]
      exact List.map_id' _
    refine ⟨_, stepped, ?_, ?_, fun self revents active => ?_, fun room self member is_ready => ?_⟩
    · dsimp only
      rw [active_selves]
      exact (List.Nodup.of_map fd documented.1).sublist (List.take_sublist _ _)
    · dsimp only
      rw [List.length_map, List.length_take, List.length_map]
    · obtain ⟨found, taken, same⟩ := List.mem_map.mp active
      obtain ⟨rfl, rfl⟩ := Prod.ext_iff.mp same
      have listed := List.mem_of_mem_take taken
      have holds := reports found listed
      exact ⟨holds.member, holds.index, List.mem_map_of_mem listed, rfl, holds.some_event⟩
    · dsimp only
      rw [List.length_map] at room
      rw [active_selves, List.take_of_length_le room]
      obtain ⟨other, listed, same⟩ := List.mem_map.mp is_ready
      rwa [← distinct (reports other listed).member member same]

theorem polls_report_ready_channels_one :
    ∃ final, pollMachine.Runs (fun polled => polled.Polls Set.univ) (.start fun _ : Unit => 7)
        [.perform () .enableReading, .poll (fun _ => kReadEvent) [7]] final ∧
      final.events.length = 16 * 2 ^ final.records.countP PollRecord.full := by
  have distinct : Set.InjOn (fun _ : Unit => 7) Set.univ :=
    Function.Injective.injOn (Function.injective_of_subsingleton _)
  let watched : PolledTable Unit :=
    { start (fun _ : Unit => 7) with table := (ChannelTable.start fun _ => 7).perform () .enableReading }
  have documented : watched.Polls Set.univ (.poll (fun _ => kReadEvent) [7]) := by
    refine ⟨List.nodup_singleton 7, fun other => ?_⟩
    by_cases same : other = 7
    · subst same
      decide
    · have absent : watched.table.poller.interest other = none := Function.update_of_ne same ..
      rw [isReady, absent]
      simp [same]
  obtain ⟨final, stepped⟩ : ∃ final, watched.step (.poll (fun _ => kReadEvent) [7]) = some final :=
    ⟨_, rfl⟩
  have run : pollMachine.Runs (fun polled => polled.Polls Set.univ) (.start fun _ : Unit => 7)
      [.perform () .enableReading, .poll (fun _ => kReadEvent) [7]] final :=
    .cons (Set.mem_univ ()) rfl (.cons documented stepped .nil)
  exact ⟨final, run, (polls_report_ready_channels distinct run).1⟩

end PolledTable

end TalkSystem.Net
