import TalkSystem.Base.TaskResult

/-!
# A result is given once

With one thread that executes the task, one call of `get` at most returns, with what `run`
has returned. The others wait for ever, and so does every call when the task was executed
before its result was made.
-/

set_option autoImplicit false

namespace TalkSystem.Base

variable {Value : Type} {state : TaskResult Value} {worker user : Nat}

/-- What `run` has returned to a call of `exec`. -/
def ExecPhase.value? : ExecPhase Value → Option Value
  | .ran value | .stored value | .finished value => some value
  | .uncalled | .skipped | .running => none

namespace TaskResult

/-- Nobody but the given call has taken the resource. -/
def FreeBut (state : TaskResult Value) (user : Option Nat) : Prop :=
  ∀ other, some other ≠ user → (state.gets other).took = false

/-- Where the value is. -/
inductive Supply (worker : Nat) (state : TaskResult Value) : Prop where
  | early (unstored : ∀ value, state.execs worker ≠ .stored value)
      (unfinished : ∀ value, state.execs worker ≠ .finished value) (empty : state.any = none)
      (limit : state.resLimit = 0) (free : state.FreeBut none)
  | stored (value : Value) (phase : state.execs worker = .stored value)
      (holds : state.any = some value) (limit : state.resLimit = 0) (free : state.FreeBut none)
  | posted (value : Value) (phase : state.execs worker = .finished value)
      (holds : state.any = some value) (limit : state.resLimit = 1) (free : state.FreeBut none)
      (notified : ∀ user notified, state.gets user = .waiting notified → notified = true)
  | taken (value : Value) (user : Nat) (phase : state.execs worker = .finished value)
      (holds : state.any = some value) (limit : state.resLimit = 0)
      (acquired : state.gets user = .acquired) (free : state.FreeBut (some user))
  | given (value : Value) (user : Nat) (phase : state.execs worker = .finished value)
      (empty : state.any = none) (limit : state.resLimit = 0)
      (returned : state.gets user = .returned (some value)) (free : state.FreeBut (some user))

structure Inv (worker : Nat) (state : TaskResult Value) : Prop where
  others : ∀ other, other ≠ worker → state.execs other = .uncalled
  values : state.values = (state.execs worker).value?.toList
  called : state.result = false → ∀ user, state.gets user = .uncalled
  valid : state.isValid = false → ∀ user, state.gets user = .uncalled ∨ state.gets user = .invalid
  supply : state.Supply worker

theorem inv_start (isValid : Bool) : (start isValid : TaskResult Value).Inv worker where
  others _ _ := rfl
  values := rfl
  called _ _ := rfl
  valid _ _ := .inl rfl
  supply := by
    refine .early ?_ ?_ rfl rfl fun _ _ => rfl
    · intro value stored
      cases stored
    · intro value finished
      cases finished

/-! ## The calls of `get` -/

@[simp]
theorem setGet_self (state : TaskResult Value) (user : Nat) (phase : GetPhase Value) :
    (state.setGet user phase).gets user = phase :=
  Function.update_self ..

theorem setGet_other (state : TaskResult Value) {user other : Nat} (phase : GetPhase Value)
    (apart : other ≠ user) : (state.setGet user phase).gets other = state.gets other :=
  Function.update_of_ne apart ..

theorem FreeBut.taker {taker : Option Nat} (free : state.FreeBut taker)
    (took : (state.gets user).took = true) : some user = taker := by
  by_contra apart
  rw [free user apart] at took
  cases took

theorem FreeBut.setGet {taker : Option Nat} {phase : GetPhase Value} (free : state.FreeBut taker)
    (idle : phase.took = false) : (state.setGet user phase).FreeBut taker := by
  intro other apart
  by_cases same : other = user
  · subst same
    rw [setGet_self, idle]
  · rw [setGet_other state phase same]
    exact free other apart

/-- A call that has not taken the resource goes to another phase in which it has not. -/
theorem Supply.setGet {phase : GetPhase Value} (supply : state.Supply worker)
    (idle : (state.gets user).took = false) (stays : phase.took = false)
    (calm : phase = .invalid ∨ ¬0 < state.resLimit) : (state.setGet user phase).Supply worker := by
  have apart {other : Nat} (took : (state.gets other).took = true) : other ≠ user := by
    rintro rfl
    rw [idle] at took
    cases took
  cases supply with
  | early unstored unfinished empty limit free =>
      exact .early unstored unfinished empty limit (free.setGet stays)
  | stored value phase holds limit free => exact .stored value phase holds limit (free.setGet stays)
  | posted value finished holds limit free notified =>
      obtain rfl := calm.resolve_right fun none_left => none_left (by rw [limit]; decide)
      refine .posted value finished holds limit (free.setGet stays) fun other told waiting => ?_
      by_cases same : other = user
      · subst same
        rw [setGet_self] at waiting
        cases waiting
      · rw [setGet_other state _ same] at waiting
        exact notified other told waiting
  | taken value other finished holds limit acquired free =>
      refine .taken value other finished holds limit ?_ (free.setGet stays)
      rw [setGet_other state phase (apart (by rw [acquired]; rfl)), acquired]
  | given value other finished empty limit returned free =>
      refine .given value other finished empty limit ?_ (free.setGet stays)
      rw [setGet_other state phase (apart (by rw [returned]; rfl)), returned]

/-- A call takes the resource only where it has been posted and not taken. -/
theorem Supply.wait (supply : state.Supply worker) (idle : (state.gets user).took = false) :
    (state.wait user).Supply worker := by
  rw [TaskResult.wait]
  split
  case isFalse none_left => exact supply.setGet idle rfl (.inr none_left)
  case isTrue some_left =>
    have limited (limit : state.resLimit = 0) : False := by
      rw [limit] at some_left
      cases some_left
    cases supply with
    | early unstored unfinished empty limit free => exact (limited limit).elim
    | stored value phase holds limit free => exact (limited limit).elim
    | taken value user phase holds limit acquired free => exact (limited limit).elim
    | given value user phase empty limit returned free => exact (limited limit).elim
    | posted value phase holds limit free notified =>
        refine .taken value user phase holds ?_ (setGet_self ..) fun other apart => ?_
        · change state.resLimit - 1 = 0
          rw [limit]
          rfl
        · have different : other ≠ user := fun same => apart (congrArg some same)
          rw [setGet_other _ _ different]
          exact free other (Option.some_ne_none other)

/-! ## The thread that executes the task -/

@[simp]
theorem setExec_self (state : TaskResult Value) (worker : Nat) (phase : ExecPhase Value) :
    (state.setExec worker phase).execs worker = phase :=
  Function.update_self ..

theorem notify_took (phase : GetPhase Value) : phase.notify.took = phase.took := by
  cases phase <;> rfl

theorem notify_waiting {phase : GetPhase Value} {notified : Bool}
    (waiting : phase.notify = .waiting notified) : notified = true := by
  cases phase with
  | waiting => exact (GetPhase.waiting.inj waiting).symm
  | _ => cases waiting

/-- Before the value is stored. -/
theorem Supply.unserved (supply : state.Supply worker)
    (unstored : ∀ value, state.execs worker ≠ .stored value)
    (unfinished : ∀ value, state.execs worker ≠ .finished value) :
    state.any = none ∧ state.resLimit = 0 ∧ state.FreeBut none := by
  cases supply with
  | early _ _ empty limit free => exact ⟨empty, limit, free⟩
  | stored value phase => exact (unstored value phase).elim
  | posted value phase | taken value _ phase | given value _ phase =>
      exact (unfinished value phase).elim

/-- A step of `exec` that comes before the store of the value. -/
theorem Supply.setExec {phase : ExecPhase Value} {values : List Value}
    (supply : state.Supply worker) (unstored : ∀ value, state.execs worker ≠ .stored value)
    (unfinished : ∀ value, state.execs worker ≠ .finished value)
    (stays : ∀ value, phase ≠ .stored value ∧ phase ≠ .finished value) :
    { state.setExec worker phase with values := values }.Supply worker := by
  obtain ⟨empty, limit, free⟩ := supply.unserved unstored unfinished
  refine .early ?_ ?_ empty limit free
  · intro value
    exact ne_of_eq_of_ne (setExec_self ..) (stays value).1
  · intro value
    exact ne_of_eq_of_ne (setExec_self ..) (stays value).2

theorem Supply.setVal {value : Value} (supply : state.Supply worker)
    (ran : state.execs worker = .ran value) :
    { state.setExec worker (.stored value) with any := some value }.Supply worker := by
  obtain ⟨-, limit, free⟩ := supply.unserved (by simp [ran]) (by simp [ran])
  exact .stored value (setExec_self ..) rfl limit free

theorem Supply.post {value : Value} (supply : state.Supply worker)
    (stored : state.execs worker = .stored value) :
    (state.post.setExec worker (.finished value)).Supply worker := by
  cases supply with
  | early unstored => exact (unstored value stored).elim
  | posted other phase | taken other _ phase | given other _ phase =>
      rw [stored] at phase
      cases phase
  | stored other phase holds limit free =>
      obtain rfl := ExecPhase.stored.inj (phase.symm.trans stored)
      refine .posted other (setExec_self ..) holds ?_ ?_ ?_
      · change state.resLimit + 1 = 1
        rw [limit]
        rfl
      · intro user apart
        exact (notify_took _).trans (free user apart)
      · intro user notified waiting
        exact notify_waiting waiting

/-- The value is moved to the call that has taken the resource. -/
theorem Supply.move (supply : state.Supply worker) (acquired : state.gets user = .acquired) :
    { state.setGet user (.returned state.any) with any := none }.Supply worker := by
  have took : (state.gets user).took = true := by rw [acquired]; rfl
  cases supply with
  | early _ _ _ _ free | stored _ _ _ _ free | posted _ _ _ _ free => cases free.taker took
  | given value other finished empty limit returned free =>
      obtain rfl := Option.some.inj (free.taker took)
      rw [acquired] at returned
      cases returned
  | taken value other finished holds limit acquired free =>
      obtain rfl := Option.some.inj (free.taker took)
      refine .given value user finished rfl limit ?_ fun other apart => ?_
      · exact (setGet_self ..).trans (congrArg GetPhase.returned holds)
      · have different : other ≠ user := fun same => apart (congrArg some same)
        exact (congrArg GetPhase.took (setGet_other _ _ different)).trans (free other apart)

theorem Supply.setResult (supply : state.Supply worker) :
    { state with result := true }.Supply worker := by
  cases supply with
  | early unstored unfinished empty limit free =>
      exact .early unstored unfinished empty limit free
  | stored value phase holds limit free => exact .stored value phase holds limit free
  | posted value phase holds limit free notified =>
      exact .posted value phase holds limit free notified
  | taken value user phase holds limit acquired free =>
      exact .taken value user phase holds limit acquired free
  | given value user phase empty limit returned free =>
      exact .given value user phase empty limit returned free

/-! ## The steps -/

theorem wait_eq (state : TaskResult Value) (user : Nat) :
    ∃ resLimit phase, state.wait user =
      { state with resLimit := resLimit, gets := Function.update state.gets user phase } := by
  rw [wait]
  split
  · exact ⟨_, _, rfl⟩
  · exact ⟨_, _, rfl⟩

theorem Inv.wait (inv : state.Inv worker) (made : state.result = true)
    (isValid : state.isValid = true) (idle : (state.gets user).took = false) :
    (state.wait user).Inv worker := by
  have supply := inv.supply.wait idle
  obtain ⟨resLimit, phase, moved⟩ := state.wait_eq user
  rw [moved] at supply ⊢
  refine ⟨inv.others, inv.values, ?_, ?_, supply⟩
  · intro unmade
    rw [made] at unmade
    cases unmade
  · intro isInvalid
    rw [isValid] at isInvalid
    cases isInvalid

/-- A call has been made, on a valid result. -/
theorem Inv.called_of (inv : state.Inv worker) (user : Nat) (called : state.gets user ≠ .uncalled)
    (valid : state.gets user ≠ .invalid) : state.result = true ∧ state.isValid = true := by
  constructor
  · by_contra unmade
    exact called (inv.called (eq_false_of_ne_true unmade) user)
  · by_contra isInvalid
    exact (inv.valid (eq_false_of_ne_true isInvalid) user).elim called valid

theorem Inv.setExec {phase : ExecPhase Value} {values : List Value} {any : Option Value}
    (inv : state.Inv worker) (returned : values = phase.value?.toList)
    (supply : { state.setExec worker phase with values := values, any := any }.Supply worker) :
    { state.setExec worker phase with values := values, any := any }.Inv worker where
  others other apart := (Function.update_of_ne apart ..).trans (inv.others other apart)
  values := by
    change values = (Function.update state.execs worker phase worker).value?.toList
    rw [Function.update_self, returned]
  called := inv.called
  valid := inv.valid
  supply := supply

theorem Inv.post {value : Value} (inv : state.Inv worker)
    (stored : state.execs worker = .stored value) :
    (state.post.setExec worker (.finished value)).Inv worker where
  others other apart := (Function.update_of_ne apart ..).trans (inv.others other apart)
  values := by
    rw [setExec_self]
    exact inv.values.trans (by rw [stored]; rfl)
  called unmade user := by
    change (state.gets user).notify = .uncalled
    rw [inv.called unmade user]
    rfl
  valid isInvalid user := by
    change (state.gets user).notify = .uncalled ∨ (state.gets user).notify = .invalid
    refine (inv.valid isInvalid user).imp ?_ ?_
    · intro uncalled
      rw [uncalled]
      rfl
    · intro invalid
      rw [invalid]
      rfl
  supply := inv.supply.post stored

theorem Inv.setResult (inv : state.Inv worker) : { state with result := true }.Inv worker where
  others := inv.others
  values := inv.values
  called := by
    intro unmade
    cases unmade
  valid := inv.valid
  supply := inv.supply.setResult

theorem Inv.get (inv : state.Inv worker) (uncalled : state.gets user = .uncalled)
    (made : state.result = true) :
    (if state.isValid then state.wait user else state.setGet user .invalid).Inv worker := by
  have idle : (state.gets user).took = false := by rw [uncalled]; rfl
  split
  case isTrue isValid => exact inv.wait made isValid idle
  case isFalse isInvalid =>
    refine ⟨inv.others, inv.values, ?_, ?_, inv.supply.setGet idle rfl (.inl rfl)⟩
    · intro unmade
      rw [setGet, made] at unmade
      cases unmade
    · intro _ other
      by_cases same : other = user
      · rw [same, setGet_self]
        exact .inr rfl
      · rw [setGet_other state _ same]
        exact inv.valid (eq_false_of_ne_true isInvalid) other

theorem Inv.move (inv : state.Inv worker) (acquired : state.gets user = .acquired) :
    { state.setGet user (.returned state.any) with any := none }.Inv worker := by
  obtain ⟨made, isValid⟩ := inv.called_of user (by simp [acquired]) (by simp [acquired])
  refine ⟨inv.others, inv.values, ?_, ?_, inv.supply.move acquired⟩
  · intro unmade
    rw [setGet, made] at unmade
    cases unmade
  · intro isInvalid
    rw [setGet, isValid] at isInvalid
    cases isInvalid

theorem Inv.step {label : ResultLabel Value} {next : TaskResult Value} (inv : state.Inv worker)
    (allowed : OneExec worker state label) (taken : state.step label = some next) :
    next.Inv worker := by
  have sole (other : Nat) (called : state.execs other ≠ .uncalled) : other = worker := by
    by_contra apart
    exact called (inv.others other apart)
  cases label with
  | setResult =>
      simp only [TaskResult.step, ite_eq_iff, reduceCtorEq, and_false, false_or] at taken
      obtain ⟨-, rfl⟩ := taken.imp_right Option.some.inj
      exact inv.setResult
  | get user =>
      rw [TaskResult.step] at taken
      split at taken
      case h_1 uncalled =>
        split at taken
        case isFalse => cases taken
        case isTrue made =>
          obtain rfl := Option.some.inj taken
          exact inv.get uncalled made
      case h_2 => cases taken
  | wake user =>
      rw [TaskResult.step] at taken
      split at taken
      case h_1 waiting =>
        obtain rfl := Option.some.inj taken
        obtain ⟨made, isValid⟩ := inv.called_of user (by simp [waiting]) (by simp [waiting])
        exact inv.wait made isValid (by rw [waiting]; rfl)
      case h_2 => cases taken
  | move user =>
      rw [TaskResult.step] at taken
      split at taken
      case h_1 acquired =>
        obtain rfl := Option.some.inj taken
        exact inv.move acquired
      case h_2 => cases taken
  | exec other =>
      obtain rfl : other = worker := allowed
      rw [TaskResult.step] at taken
      split at taken
      case h_1 uncalled =>
        obtain rfl := Option.some.inj taken
        refine inv.setExec ?_ (inv.supply.setExec (by simp [uncalled]) (by simp [uncalled]) ?_)
        · rw [inv.values, uncalled]
          split <;> rfl
        · intro value
          split <;> simp
      case h_2 => cases taken
  | run other value =>
      rw [TaskResult.step] at taken
      split at taken
      case h_1 running =>
        obtain rfl := Option.some.inj taken
        obtain rfl := sole other (by simp [running])
        refine inv.setExec ?_
          (inv.supply.setExec (by simp [running]) (by simp [running]) (by simp))
        rw [inv.values, running]
        rfl
      case h_2 => cases taken
  | setVal other =>
      rw [TaskResult.step] at taken
      split at taken
      case h_1 value ran =>
        obtain rfl := Option.some.inj taken
        obtain rfl := sole other (by simp [ran])
        exact inv.setExec (inv.values.trans (by rw [ran]; rfl)) (inv.supply.setVal ran)
      case h_2 => cases taken
  | post other =>
      rw [TaskResult.step] at taken
      split at taken
      case h_1 value stored =>
        obtain rfl := Option.some.inj taken
        obtain rfl := sole other (by simp [stored])
        exact inv.post stored
      case h_2 => cases taken

/-! ## Whole runs -/

section

variable {isValid : Bool} {label : ResultLabel Value} {labels : List (ResultLabel Value)}
  {next final : TaskResult Value}

theorem Inv.of_run (run : (resultMachine Value).Runs (OneExec worker) (start isValid) labels final) :
    final.Inv worker :=
  run.invariant (Inv worker) (fun _ _ _ allowed taken inv => inv.step allowed taken)
    (inv_start isValid)

/-- What no step but `setResult` and the steps of `exec` writes. -/
theorem step_frame (taken : state.step label = some next) :
    next.isValid = state.isValid ∧ (label ≠ .setResult → next.result = state.result) ∧
      ∀ worker, state.execs worker = .skipped → next.execs worker = .skipped := by
  have kept (other : Nat) (phase : ExecPhase Value) (called : state.execs other ≠ .skipped)
      (worker : Nat) (skipped : state.execs worker = .skipped) :
      (state.setExec other phase).execs worker = .skipped := by
    have apart : worker ≠ other := by
      rintro rfl
      exact called skipped
    exact (Function.update_of_ne apart ..).trans skipped
  cases label with
  | setResult =>
      simp only [step, ite_eq_iff, reduceCtorEq, and_false, false_or] at taken
      obtain ⟨-, rfl⟩ := taken.imp_right Option.some.inj
      exact ⟨rfl, fun other => (other rfl).elim, fun _ => id⟩
  | get user =>
      rw [step] at taken
      split at taken
      case h_1 =>
        split at taken
        case isFalse => cases taken
        case isTrue =>
          obtain rfl := Option.some.inj taken
          split
          · obtain ⟨_, _, moved⟩ := state.wait_eq user
            rw [moved]
            exact ⟨rfl, fun _ => rfl, fun _ => id⟩
          · exact ⟨rfl, fun _ => rfl, fun _ => id⟩
      case h_2 => cases taken
  | wake user =>
      rw [step] at taken
      split at taken
      case h_1 =>
        obtain rfl := Option.some.inj taken
        obtain ⟨_, _, moved⟩ := state.wait_eq user
        rw [moved]
        exact ⟨rfl, fun _ => rfl, fun _ => id⟩
      case h_2 => cases taken
  | move user =>
      rw [step] at taken
      split at taken
      case h_1 =>
        obtain rfl := Option.some.inj taken
        exact ⟨rfl, fun _ => rfl, fun _ => id⟩
      case h_2 => cases taken
  | exec other | run other | setVal other | post other =>
      rw [step] at taken
      split at taken
      case h_1 =>
        obtain rfl := Option.some.inj taken
        exact ⟨rfl, fun _ => rfl, kept other _ (by simp [*])⟩
      case h_2 => cases taken

theorem isValid_of_run
    (run : (resultMachine Value).Runs (OneExec worker) (start isValid) labels final) :
    final.isValid = isValid :=
  run.invariant (fun state => state.isValid = isValid)
    (fun _ _ _ _ taken same => (step_frame taken).1.trans same) rfl

theorem result_of_run {guard : TaskResult Value → ResultLabel Value → Prop}
    (run : (resultMachine Value).Runs guard state labels final) (unmade : .setResult ∉ labels) :
    final.result = state.result := by
  induction run with
  | nil => rfl
  | cons _ taken _ ih =>
      rw [List.mem_cons, not_or] at unmade
      exact (ih unmade.2).trans ((step_frame taken).2.1 (Ne.symm unmade.1))

/-- A task that is executed before its result is made is skipped. -/
theorem skipped_of_run {before after : List (ResultLabel Value)}
    (run : (resultMachine Value).Runs (OneExec worker) (start isValid)
      (before ++ .exec worker :: after) final) (unmade : .setResult ∉ before) :
    final.execs worker = .skipped := by
  obtain ⟨state, first, rest⟩ := run.split
  have absent : state.result = false := result_of_run first unmade
  cases rest with
  | @cons _ next _ _ _ _ taken rest =>
      refine rest.invariant (fun state => state.execs worker = .skipped)
        (fun _ _ _ _ taken => (step_frame taken).2.2 worker) ?_
      change state.step (.exec worker) = some next at taken
      rw [step] at taken
      split at taken
      case h_1 =>
        obtain rfl := Option.some.inj taken
        rw [setExec_self, absent]
        rfl
      case h_2 => cases taken

theorem Supply.finished_of_took (supply : state.Supply worker)
    (took : (state.gets user).took = true) : ∃ value, state.execs worker = .finished value := by
  cases supply with
  | early _ _ _ _ free | stored _ _ _ _ free => cases free.taker took
  | posted value phase | taken value _ phase | given value _ phase => exact ⟨value, phase⟩

theorem Supply.took_unique {other : Nat} (supply : state.Supply worker)
    (took : (state.gets user).took = true) (also : (state.gets other).took = true) :
    user = other := by
  have alike {taker : Option Nat} (free : state.FreeBut taker) : user = other :=
    Option.some.inj ((free.taker took).trans (free.taker also).symm)
  cases supply with
  | early _ _ _ _ free | stored _ _ _ _ free | posted _ _ _ _ free | taken _ _ _ _ _ _ free
  | given _ _ _ _ _ _ free => exact alike free

/-- A call returns what `run` has returned. -/
theorem Supply.returned_value {any : Option Value} (supply : state.Supply worker)
    (returned : state.gets user = .returned any) :
    ∃ value, any = some value ∧ state.execs worker = .finished value := by
  have took : (state.gets user).took = true := by rw [returned]; rfl
  cases supply with
  | early _ _ _ _ free | stored _ _ _ _ free | posted _ _ _ _ free => cases free.taker took
  | taken value holder finished holds limit acquired free =>
      obtain rfl := Option.some.inj (free.taker took)
      rw [returned] at acquired
      cases acquired
  | given value holder finished empty limit given free =>
      obtain rfl := Option.some.inj (free.taker took)
      exact ⟨value, GetPhase.returned.inj (returned.symm.trans given), finished⟩

/-- A value that nobody has taken waits for the first call to wake. -/
theorem Supply.posted_of_free {value : Value} (supply : state.Supply worker)
    (finished : state.execs worker = .finished value)
    (free : ∀ user, (state.gets user).took = false) :
    0 < state.resLimit ∧
      ∀ user notified, state.gets user = .waiting notified → notified = true := by
  cases supply with
  | early _ unfinished => exact (unfinished value finished).elim
  | stored other stored =>
      rw [finished] at stored
      cases stored
  | posted other _ holds limit free notified => exact ⟨by rw [limit]; decide, notified⟩
  | taken _ user _ _ _ acquired =>
      have idle := free user
      rw [acquired] at idle
      cases idle
  | given _ user _ _ _ returned =>
      have idle := free user
      rw [returned] at idle
      cases idle

theorem result_given_once
    (run : (resultMachine Value).Runs (OneExec worker) (start isValid) labels final) :
    (∀ user any, final.gets user = .returned any → ∃ value, any = some value ∧
      final.execs worker = .finished value ∧ final.values = [value]) ∧
    (∀ user other, (final.gets user).took = true → (final.gets other).took = true →
      user = other) ∧
    (∀ user, (final.gets user).took = true → ∃ value, final.execs worker = .finished value) ∧
    (∀ value, final.execs worker = .finished value → (∀ user, (final.gets user).took = false) →
      0 < final.resLimit ∧
        ∀ user notified, final.gets user = .waiting notified → notified = true) ∧
    (∀ before after, labels = before ++ .exec worker :: after → .setResult ∉ before →
      final.values = [] ∧ ∀ user, (final.gets user).took = false) ∧
    (isValid = false → ∀ user, final.gets user = .uncalled ∨ final.gets user = .invalid) := by
  have inv := Inv.of_run run
  refine ⟨?_, ?_, ?_, ?_, ?_, ?_⟩
  · intro user any returned
    obtain ⟨value, same, finished⟩ := inv.supply.returned_value returned
    refine ⟨value, same, finished, ?_⟩
    rw [inv.values, finished]
    rfl
  · intro user other
    exact inv.supply.took_unique
  · intro user
    exact inv.supply.finished_of_took
  · intro value
    exact inv.supply.posted_of_free
  · intro before after cut unmade
    rw [cut] at run
    have skipped := skipped_of_run run unmade
    refine ⟨by rw [inv.values, skipped]; rfl, fun user => ?_⟩
    by_contra took
    obtain ⟨value, finished⟩ := inv.supply.finished_of_took (eq_true_of_ne_false took)
    rw [skipped] at finished
    cases finished
  · intro isInvalid
    exact inv.valid ((isValid_of_run run).trans isInvalid)

theorem result_given_once_second :
    ∃ final, (resultMachine Nat).Runs (OneExec 5) (start true)
        [.setResult, .get 0, .exec 5, .get 1, .run 5 7, .setVal 5, .post 5, .wake 1, .wake 0,
          .move 1] final ∧
      final.gets 0 = .waiting false ∧ final.gets 1 = .returned (some 7) ∧ final.values = [7] := by
  have run : (resultMachine Nat).Runs (OneExec 5) (start true)
      [.setResult, .get 0, .exec 5, .get 1, .run 5 7, .setVal 5, .post 5, .wake 1, .wake 0,
        .move 1] _ :=
    .cons trivial rfl (.cons trivial rfl (.cons rfl rfl (.cons trivial rfl (.cons trivial rfl
      (.cons trivial rfl (.cons trivial rfl (.cons trivial rfl (.cons trivial rfl
        (.cons trivial rfl .nil)))))))))
  obtain ⟨value, same, -, given⟩ := (result_given_once run).1 1 (some 7) rfl
  obtain rfl := Option.some.inj same
  exact ⟨_, run, rfl, rfl, given⟩

end

end TaskResult

end TalkSystem.Base
