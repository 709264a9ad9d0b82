import TalkSystem.Net.SharedConnectionProperties

/-!
# The strings of the callers

A string that is passed to `send` from another thread is read when the queued
`sendInLoop` runs. It arrives as it was as long as its owner leaves it alone
until then.
-/

set_option autoImplicit false

namespace TalkSystem.Net

open Endpoint

def ConnFunctor.source? {Thread : Type} : ConnFunctor Thread → Option (Source Thread)
  | .sendInLoop source => some source
  | _ => none

def Call.touches (cell : Nat) : Call → Prop
  | .assign other _ | .destroy other => other = cell
  | _ => False

namespace SharedConnection

variable {Ptr Thread : Type} {shared next start middle final : SharedConnection Ptr Thread}
  {label : SharedLabel Ptr Thread} {labels : List (SharedLabel Ptr Thread)}

def Refers (shared : SharedConnection Ptr Thread) (source : Source Thread) : Prop :=
  shared.instr.source? = some source ∨ .sendInLoop source ∈ shared.queue.waiting

/-- A caller leaves a string that it has sent alone until the `sendInLoop` that
refers to it has ended. -/
def LeavesSentAlone (shared : SharedConnection Ptr Thread) : SharedLabel Ptr Thread → Prop
  | .caller thread => ∀ call rest cell, shared.callers thread = ⟨.idle, call :: rest⟩ →
      call.touches cell → ∀ len held, ¬ shared.Refers (.block thread cell len held)
  | _ => True

def Intact (shared : SharedConnection Ptr Thread) : Source Thread → Prop
  | .own _ => True
  | .block thread cell len held => len = held.length ∧ shared.memory thread cell = held

theorem Intact.deref {source : Source Thread} (intact : shared.Intact source)
    (garbage : List UInt8) : shared.deref source garbage = source.held := by
  cases source with
  | own bytes => rfl
  | block thread cell len held =>
      obtain ⟨rfl, stored⟩ := intact
      simp [SharedConnection.deref, Source.held, stored, List.append_assoc]

/-- Whatever a `sendInLoop` refers to is intact, and every access so far has
found what it should. -/
structure SentIntact (shared : SharedConnection Ptr Thread) : Prop where
  intact : ∀ source, shared.Refers source → shared.Intact source
  counted : ∀ source progress, shared.instr = .append source progress →
    progress.remaining = source.held.length - progress.nwrote
  used : ∀ use ∈ shared.uses, use.2 = use.1

theorem SentIntact.goto (inv : SentIntact shared) (site : Endpoint Ptr)
    (instr : LoopInstr Thread)
    (same : ∀ source, instr.source? = some source →
      shared.Refers source ∨ ∃ bytes, source = .own bytes)
    (fresh : ∀ source progress, instr ≠ .append source progress) :
    SentIntact (shared.goto site instr) where
  intact source refers := by
    obtain ⟨callbacks, waiting, only⟩ := goto_waiting shared site instr
    have known : shared.Refers source ∨ ∃ bytes, source = .own bytes := by
      rcases refers with running | queued
      · exact same source running
      · rw [waiting] at queued
        rcases List.mem_append.mp queued with old | new
        · exact .inl (.inr old)
        · cases only _ new
    rcases known with old | ⟨bytes, rfl⟩
    · exact inv.intact source old
    · trivial
  counted source progress shape := absurd shape (fresh source progress)
  used := inv.used

theorem SentIntact.caller [DecidableEq Thread] (inv : SentIntact shared) {thread : Thread}
    (allowed : shared.LeavesSentAlone (.caller thread))
    (taken : CallerTransition shared thread next) : SentIntact next := by
  cases taken with
  | loadSend | loadShutdown | notConnected => exact ⟨inv.intact, inv.counted, inv.used⟩
  | storeShutdown => exact ⟨inv.intact, inv.counted, inv.used⟩
  | @changeCell call cell bytes rest pc changes =>
      have touches : call.touches cell := by
        rcases changes with rfl | ⟨rfl, _⟩ <;> rfl
      refine ⟨?_, inv.counted, inv.used⟩
      intro source refers
      have intact := inv.intact source refers
      cases source with
      | own bytes => trivial
      | block owner other len held =>
          refine ⟨intact.1, ?_⟩
          -- The changed cell is none of those referred to.
          by_cases same : owner = thread ∧ other = cell
          · obtain ⟨rfl, rfl⟩ := same
            exact absurd refers (allowed call rest other pc touches len held)
          · have kept : (shared.setCell thread cell bytes).memory owner other =
                shared.memory owner other := by
              by_cases owners : owner = thread
              · subst owners
                simp [setCell, Function.update_of_ne (fun cells => same ⟨rfl, cells⟩)]
              · simp [setCell, Function.update_of_ne owners]
            exact kept.trans intact.2
  | @queueSend cell todo pc =>
      refine ⟨?_, inv.counted, inv.used⟩
      intro source refers
      rcases refers with running | queued
      · exact inv.intact source (.inl running)
      · rw [show (((shared.push (shared.sendFunctor thread cell)).setCaller thread .idle
          todo).queue.waiting) = shared.queue.waiting ++ [shared.sendFunctor thread cell] from
          BatchQueue.push_waiting _ _] at queued
        rcases List.mem_append.mp queued with old | new
        · exact inv.intact source (.inr old)
        · cases List.mem_singleton.mp new
          exact ⟨rfl, rfl⟩
  | @queueShutdown todo pc =>
      refine ⟨?_, inv.counted, inv.used⟩
      intro source refers
      refine inv.intact source ?_
      simpa [Refers, push, setCaller] using refers

theorem SentIntact.step [DecidableEq Thread] (inv : SentIntact shared)
    (allowed : shared.LeavesSentAlone label) (taken : Transition shared label next) :
    SentIntact next := by
  cases taken with
  | caller taken => exact inv.caller allowed taken
  | queueDestroyed =>
      refine ⟨fun source refers => inv.intact source ?_, inv.counted, inv.used⟩
      simpa [Refers, push] using refers
  | swap =>
      refine ⟨fun source refers => inv.intact source ?_, inv.counted, inv.used⟩
      refine refers.imp id fun queued => ?_
      simp_all [BatchQueue.swap, BatchQueue.waiting]
  | @runFunctor functor rest ready item =>
      have waiting := BatchQueue.next?_waiting item
      refine ⟨fun source refers => inv.intact source ?_, ?_, inv.used⟩
      · rcases refers with running | queued
        · refine .inr ?_
          rw [waiting]
          cases functor <;> simp only [enter] at running
          all_goals try split at running
          all_goals simp_all [LoopInstr.source?]
        · exact .inr (by rw [waiting]; exact List.mem_cons_of_mem _ queued)
      · intro source progress shape
        cases functor <;> simp only [enter] at shape
        all_goals try split at shape
        all_goals simp at shape
  | finish ready done =>
      exact ⟨fun source refers => inv.intact source refers, inv.counted, inv.used⟩
  | idle ready entered =>
      exact inv.goto _ _ (fun _ carried => .inr (entered.source_own carried)) entered.not_append
  | giveUp shape =>
      exact inv.goto _ _ (by simp [LoopInstr.source?]) (by simp)
  | @sendInLoop source answer garbage shape up =>
      have moved := inv.goto shared.site (.write source)
        (fun other carried => by
          cases carried
          exact .inl (.inl (by rw [shape]; rfl)))
        (by simp)
      exact ⟨moved.intact, moved.counted, moved.used⟩
  | @write source answer garbage data shape read =>
      have refers : shared.Refers source := .inl (by rw [shape]; rfl)
      have found : data = source.held := read ▸ (inv.intact source refers).deref garbage
      obtain ⟨added, direct⟩ := sendInLoopWrite_spec shared.site data answer
      have moved := inv.goto (shared.site.sendInLoopWrite data answer).2 (.write source)
        (fun other carried => by
          cases carried
          exact .inl refers)
        (by simp)
      refine ⟨moved.intact, ?_, ?_⟩
      · intro other progress same
        cases same
        rw [direct.remaining, found]
      · intro use member
        rcases List.mem_append.mp member with old | new
        · exact inv.used use old
        · obtain ⟨bytes, reads, rfl⟩ := List.mem_map.mp new
          unfold readByWrite at reads
          split at reads <;> simp_all
  | @append source progress answer garbage data shape read =>
      have refers : shared.Refers source := .inl (by rw [shape]; rfl)
      have found : data = source.held := read ▸ (inv.intact source refers).deref garbage
      have moved := inv.goto (shared.site.sendInLoopAppend data progress) .ready
        (by simp [LoopInstr.source?]) (by simp)
      refine ⟨moved.intact, moved.counted, ?_⟩
      intro use member
      rcases List.mem_append.mp member with old | new
      · exact inv.used use old
      · obtain ⟨bytes, reads, rfl⟩ := List.mem_map.mp new
        unfold readByAppend at reads
        split at reads
        · cases List.mem_singleton.mp reads
          rw [inv.counted source progress shape, found, ← List.length_drop, List.take_length]
        · cases reads
  | shutdownStore | shutdownInLoop | handleWriteTail | handleCloseRest | destroyDown | remove =>
      exact inv.goto _ _ (by simp [LoopInstr.source?]) (by simp)
  | closeStore shape =>
      rcases shape with ⟨_, rfl⟩ | ⟨_, rfl⟩ <;>
        exact inv.goto _ _ (by simp [LoopInstr.source?]) (by simp)

/-- What a `sendInLoop` queued from another thread writes or buffers is what
the string held when `send` was called, in every run in which each caller
leaves a string alone until the `sendInLoop` that refers to it has ended. -/
theorem sent_bytes_intact [DecidableEq Thread] (start final : SharedConnection Ptr Thread)
    (labels : List (SharedLabel Ptr Thread))
    (nothing_sent : ∀ source, ¬ start.Refers source) (unused : start.uses = [])
    (run : (machine Ptr Thread).Runs LeavesSentAlone start labels final) :
    ∀ use ∈ final.uses, use.2 = use.1 := by
  have initial : SentIntact start :=
    { intact := fun source refers => absurd refers (nothing_sent source)
      counted := fun source progress shape =>
        absurd (.inl (by rw [shape]; rfl)) (nothing_sent source)
      used := by simp [unused] }
  exact (run.invariant SentIntact
    (fun _ _ _ allowed taken inv => inv.step allowed (step_transition taken)) initial).used

theorem established_nothing_sent (calls : List Call) (source : Source Unit) :
    ¬ (established calls).Refers source := by
  rintro (running | queued)
  · cases running
  · cases queued

theorem sent_bytes_intact_reassigned_late : ∃ final,
    (machine Nat Unit).Runs LeavesSentAlone (established [.send 0, .assign 0 [9]])
      [.caller (), .caller (), .doPendingFunctors, .runFunctor, .proceed (.accepts 0) [],
        .proceed (.accepts 0) [], .proceed (.accepts 0) [], .caller ()] final ∧
      final.uses = [([7], [7]), ([7], [7])] ∧ ∀ use ∈ final.uses, use.2 = use.1 := by
  have run : ∃ final, (machine Nat Unit).Runs LeavesSentAlone
      (established [.send 0, .assign 0 [9]])
      [.caller (), .caller (), .doPendingFunctors, .runFunctor, .proceed (.accepts 0) [],
        .proceed (.accepts 0) [], .proceed (.accepts 0) [], .caller ()] final ∧
      final.uses = [([7], [7]), ([7], [7])] := by
    refine ⟨_, .cons ?_ rfl (.cons ?_ rfl (.cons trivial rfl (.cons trivial rfl
      (.cons trivial rfl (.cons trivial rfl (.cons trivial rfl (.cons ?_ rfl .nil))))))), rfl⟩
    · intro call rest cell pc touches len held refers
      cases pc
      exact touches
    · intro call rest cell pc
      cases pc
    · rintro call rest cell pc touches len held (running | queued)
      · cases running
      · cases queued
  obtain ⟨final, run, uses⟩ := run
  exact ⟨final, run, uses,
    sent_bytes_intact _ final _ (established_nothing_sent _) rfl run⟩

/-- The string is reassigned before the queued `sendInLoop` runs, and the new
contents go to the socket. -/
theorem sent_bytes_changed : ∃ final,
    (machine Nat Unit).Runs Machine.anyStep (established [.send 0, .assign 0 [9]])
      [.caller (), .caller (), .caller (), .doPendingFunctors, .runFunctor,
        .proceed (.accepts 1) [], .proceed (.accepts 1) []] final ∧
      final.site.effects = [.connectionCallback true, .write [9] (.accepts 1)] ∧
      final.uses = [([7], [9])] ∧ ¬ ∀ use ∈ final.uses, use.2 = use.1 := by
  refine ⟨_, .cons trivial rfl (.cons trivial rfl (.cons trivial rfl (.cons trivial rfl
    (.cons trivial rfl (.cons trivial rfl (.cons trivial rfl .nil)))))), rfl, rfl, ?_⟩
  intro intact
  have same : ([9] : List UInt8) = [7] := intact ([7], [9]) List.mem_cons_self
  exact absurd same (by decide)

end SharedConnection

end TalkSystem.Net
