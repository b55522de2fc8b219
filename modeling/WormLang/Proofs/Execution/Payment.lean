import WormLang.Proofs.Execution.Extension
import WormLang.Proofs.Execution.Progress
import WormLang.Proofs.Execution.Restart

/-!
What a run pays for. A unit of budget is spent exactly when a run begins something that it pays for: a live statement
other than a sequence, the test of a while loop, or a live turn of a foreach loop. So the budget and what was begun add
up to the same number at every moment, through all changes of mode and the second pass over the root, and a walk that
seeks is free. Each call of the handler and each assignment is the effect of a statement that was paid for.
-/
namespace WormLang

open Answer

def Stmt.isAssignment : Stmt → Bool
  | assignment .. => true
  | _ => false

/-- Something that a run pays a unit for when it begins. -/
inductive Begun where
  /-- A live assignment, print, action or conditional statement. The one that the run resumes at is live. -/
  | statement (s : Stmt)
  /-- A test of the condition of a while loop. -/
  | test (condition : Expr)
  /-- A live turn of a foreach loop. -/
  | visit (name : String) (entity : EntityId)

def Begun.isAssignment : Begun → Bool
  | statement s => s.isAssignment
  | _ => false

namespace Moment

variable {σ : Type}

def begun? (now : Moment σ) : Option Begun :=
  match now.control with
  | .effect s => some (.statement s)
  | .enter s => if now.machine.run.seeking then none else some (.statement s)
  | .turn c _ => some (.test c)
  | .visit name e _ => if now.machine.run.seeking then none else some (.visit name e)
  | _ => none

/-- A step is free and begins nothing, or it spends a unit that was left for what it begins. -/
inductive Pays (now later : Moment σ) : Prop
  | free (nothing : later.begun? = none) (same : later.machine.run.budget = now.machine.run.budget) : Pays now later
  | paid (b : Begun) (begins : later.begun? = some b) (left : now.machine.run.exhausted = false)
    (less : later.machine.run.budget = now.machine.run.budget - 1) : Pays now later

/-- Nothing is begun after a test, if nothing is begun either way. -/
theorem begun?_tested {pending : List Duty} (a : Answer σ) {yes no : Machine σ → Moment σ}
    (onYes : ∀ m, (yes m).begun? = none) (onNo : ∀ m, (no m).begun? = none) :
    (tested pending a yes no).begun? = none := by
  obtain ⟨m, rfl⟩ | ⟨m, rfl⟩ | ⟨f, m, rfl⟩ := a.cases_on
  · exact onYes m
  · exact onNo m
  · rfl

/-- A moment at which a run that seeks begins nothing, and is not between the turns of a while loop. -/
def Quiet (now : Moment σ) : Prop :=
  now.machine.run.seeking = true → now.begun? = none ∧ ∀ c body, Duty.turns c body ∉ now.pending

end Moment

namespace Setting

variable {σ : Type} {setting : Setting σ} {now later : Moment σ}

/-- After a test the bookkeeping is what it was. -/
theorem run_tested {c : Expr} {m : Machine σ} {pending yesPending noPending : List Duty} {yes no : Control} :
    (Moment.tested pending (setting.test c m) (⟨yes, yesPending, ·⟩) (⟨no, noPending, ·⟩)).machine.run = m.run := by
  obtain ⟨log, kept⟩ := setting.exists_log_test c m
  rw [Moment.machine_tested, kept]

/-- After the effect of a leaf the bookkeeping is what it was, and nothing is begun. -/
theorem answered_spares (s : Stmt) (m : Machine σ) (pending : List Duty) :
    (Moment.answered pending (EStateM.run (setting.effect s) m)).machine.run = m.run ∧
      (Moment.answered pending (EStateM.run (setting.effect s) m)).begun? = none := by
  have spared := Exec.SparesRun.effect setting s m
  cases ran : EStateM.run (setting.effect s) m with
  | ok | error =>
    rw [ran] at spared
    exact ⟨spared, rfl⟩

/-- Every step pays for what it begins. -/
theorem Goes.pays (goes : setting.Goes now later) : now.Pays later := by
  cases goes with
  | halted | left => exact .free rfl (RunState.budget_suspendAt _ _)
  | @entered s id pending m own paid =>
    obtain ⟨live, same⟩ | ⟨-, -, same⟩ | ⟨seeking, -, same⟩ := m.entered_cases id
    all_goals rw [same]
    · refine .paid (.statement s) (if_neg ?_) paid rfl
      simpa [Machine.onRun, RunState.charge, RunState.seeking] using live
    · exact .paid (.statement s) rfl paid rfl
    · exact .free (if_pos seeking) rfl
  | @started s pending m isLeaf paid live => exact .paid (.statement s) rfl paid rfl
  | @effect s pending m =>
    obtain ⟨run, nothing⟩ := answered_spares s m pending
    exact .free nothing (congrArg RunState.budget run)
  | chosen | turned => exact .free (Moment.begun?_tested _ (fun _ => rfl) fun _ => rfl) (congrArg RunState.budget run_tested)
  | @turn c body pending m paid => exact .paid (.test c) rfl paid rfl
  | @visit name body e rest sought pending m paid =>
    cases seeking : m.run.seeking with
    | true => exact .free (if_pos seeking) rfl
    | false =>
      refine .paid (.visit name e) (if_neg ?_) paid rfl
      simpa [Machine.onRun, RunState.charge, RunState.seeking] using seeking
  | _ => exact .free rfl rfl

/-- A run that seeks has done so from its start. -/
theorem Goes.seeking_before (goes : setting.Goes now later) (seeking : later.machine.run.seeking = true) :
    now.machine.run.seeking = true := by
  have kept : ∀ (run : RunState Stmt) node, (run.suspendAt node).seeking = run.seeking := fun run node => by
    rw [RunState.seeking, RunState.finished_suspendAt, RunState.seeking]
  cases goes with
  | halted | left => exact (kept _ _).symm.trans seeking
  | entered => exact (entered_of_seeking seeking) ▸ seeking
  | @effect s pending m => exact (answered_spares s m pending).1 ▸ seeking
  | chosen | turned => exact (congrArg RunState.seeking run_tested).symm.trans seeking
  | again => cases seeking
  | @visit name body e rest sought pending m paid =>
    by_cases before : m.run.seeking = true
    · exact before
    · rw [if_neg before] at seeking
      exact seeking
  | _ => exact seeking

/-- A run that seeks begins nothing. The turns of a while loop are begun only when it is live. -/
theorem Goes.quiet (goes : setting.Goes now later) (quiet : now.Quiet) : later.Quiet := by
  intro seeking
  have before := goes.seeking_before seeking
  obtain ⟨nothing, none⟩ := quiet before
  have contrary : ∀ {m : Machine σ}, m.run.seeking = true → m.run.seeking = false → False := by simp_all
  cases goes with
  | effect | turned => cases nothing
  | started _ _ live | choosing live | turns live | found live => exact (contrary before live).elim
  | turn => exact absurd List.mem_cons_self (none _ _)
  | entered => exact ⟨if_pos seeking, by simpa using none⟩
  | @visit name body e rest sought pending m paid => exact ⟨if_pos seeking, by simpa using none⟩
  | @chosen c yes no pending m =>
    refine ⟨Moment.begun?_tested _ (fun _ => rfl) fun _ => rfl, ?_⟩
    obtain ⟨m', ran⟩ | ⟨m', ran⟩ | ⟨f, m', ran⟩ := (setting.test c m).cases_on
    all_goals
      rw [ran]
      exact none
  | failed => exact ⟨rfl, fun c body inside => none c body (List.mem_of_mem_tail inside)⟩
  | further | again => exact ⟨rfl, by simpa using none⟩
  | through | other | spent | left | dropped =>
    exact ⟨rfl, fun c body inside => none c body (List.mem_cons_of_mem _ inside)⟩
  | opened | both | inside | fetched => exact ⟨rfl, by simpa using none⟩
  | gap | halted | unpaid | skipped | unfetched | hollow | bound | last => exact ⟨rfl, none⟩

end Setting

/-- What the effect of a leaf asks the handler for, with what the handler answers. -/
inductive Stmt.Asks : Stmt → List HandlerCall → Prop
  | nothing {s : Stmt} : Asks s []
  | text {at? : Option Position} {e : Expr} {text : String} {answer : Except Fault Unit} :
    Asks (.print at? e) [.text text answer]
  | deed {at? : Option Position} {a : Action} {me : EntityId} {deed : Deed} {answer : Except Fault Bool} :
    Asks (.action at? a) [.deed me deed answer]

/-- The record of the handler's calls has grown by what a statement asks for. -/
def Machine.Asked {σ : Type} (s : Stmt) (before : List HandlerCall) (m : Machine (σ × List HandlerCall)) : Prop :=
  ∃ asked, s.Asks asked ∧ m.host.2 = before ++ asked

/-- Whether a statement calls the handler before it comes to an answer. -/
def Stmt.isCall : Stmt → Bool
  | print .. => true
  | action _ .skip => false
  | action .. => true
  | _ => false

theorem Context.entity?_of_actor {c : Context} {me : EntityId} (acts : c.actor = .ok me) : c.entity? = some me := by
  unfold actor at acts
  split at acts
  · next entity =>
    cases acts
    exact entity
  · cases acts

/-- What the effect of a leaf comes to, by the calls that it made: whether it ran to its end or stopped the run, or
nothing if it failed. A refused deed stops the run, and nothing else does. -/
inductive Setting.Heeds {σ : Type} (setting : Setting σ) : Stmt → Option Bool → List HandlerCall → Prop
  | failed {s : Stmt} : Heeds setting s none []
  | silent {s : Stmt} (quiet : s.isCall = false) : Heeds setting s (some true) []
  | text {at? : Option Position} {e : Expr} {text : String} {answer : Except Fault Unit} :
    Heeds setting (.print at? e) (answer.toOption.map fun _ => true) [.text text answer]
  | deed {at? : Option Position} {a : Action} {me : EntityId} {deed : Deed} {answer : Except Fault Bool}
    (acts : setting.context.entity? = some me) (means : deed.word = a.word) :
    Heeds setting (.action at? a) answer.toOption [.deed me deed answer]

/-- The record of the handler's calls has grown by calls that a statement came to its end with. -/
def Machine.Heeded {σ : Type} (setting : Setting σ) (s : Stmt) (before : List HandlerCall) (done? : Option Bool)
    (m : Machine (σ × List HandlerCall)) : Prop :=
  ∃ calls, setting.Heeds s done? calls ∧ m.host.2 = before ++ calls

namespace Setting

variable {σ : Type} {setting : Setting σ} {m : Machine (σ × List HandlerCall)} {h : σ × List HandlerCall}

/-- What a leaf came to its end with is what it asked for. -/
theorem Heeds.asks {s : Stmt} {done? : Option Bool} {calls : List HandlerCall} (heeds : setting.Heeds s done? calls) :
    s.Asks calls := by
  cases heeds with
  | failed | silent => exact .nothing
  | text => exact .text
  | deed => exact .deed

theorem heeded_of_same {s : Stmt} {done? : Option Bool} (same : m.host = h) (heeds : setting.Heeds s done? []) :
    m.Heeded setting s h.2 done? := ⟨[], heeds, by simp [same]⟩

/-- Steps that do not call the handler may fail before a call. -/
theorem meets_quiet {α : Type} {s : Stmt} {x : Exec (σ × List HandlerCall) α}
    (keeps : Exec.Meets (fun _ m' => m'.host = h) (fun _ m' => m'.host = h) x m) :
    Exec.Meets (fun _ m' => m'.host = h) (fun _ m' => m'.Heeded setting s h.2 none) x m :=
  keeps.mono (fun _ _ same => same) fun _ _ same => heeded_of_same same .failed

theorem heeded_perform (same : m.host = h) (at? : Option Position) {a : Action} {me : EntityId} {deed : Deed}
    (acts : setting.context.entity? = some me) (means : deed.word = a.word) :
    Exec.Meets (fun done m' => m'.Heeded setting (.action at? a) h.2 (some done))
      (fun _ m' => m'.Heeded setting (.action at? a) h.2 none) (Exec.perform setting.recording me deed) m := by
  subst same
  unfold Exec.Meets
  rw [show EStateM.run (Exec.perform setting.recording me deed) m = Exec.perform setting.recording me deed m from rfl]
  rw [Exec.perform, show setting.recording.game.handler.perform me deed m.host = _ from
    setting.game.perform_recording me deed m.host]
  generalize setting.game.handler.perform me deed m.host.1 = result
  obtain ⟨answer, host⟩ := result
  cases answer with
  | ok done => exact ⟨_, @Heeds.deed _ _ _ _ _ _ (.ok done) acts means, rfl⟩
  | error f => exact ⟨_, @Heeds.deed _ _ _ _ _ _ (.error f) acts means, rfl⟩

theorem heeded_printText (same : m.host = h) (at? : Option Position) (e : Expr) (text : String) :
    Exec.Meets (fun _ m' => m'.Heeded setting (.print at? e) h.2 (some true))
      (fun _ m' => m'.Heeded setting (.print at? e) h.2 none) (Exec.printText setting.recording text) m := by
  subst same
  unfold Exec.Meets
  rw [show EStateM.run (Exec.printText setting.recording text) m = Exec.printText setting.recording text m from rfl]
  rw [Exec.printText, show setting.recording.game.handler.print text m.host = _ from
    setting.game.print_recording text m.host]
  generalize setting.game.handler.print text m.host.1 = result
  obtain ⟨answer, host⟩ := result
  cases answer with
  | ok done => exact ⟨_, @Heeds.text _ _ _ _ _ (.ok done), rfl⟩
  | error f => exact ⟨_, @Heeds.text _ _ _ _ _ (.error f), rfl⟩

theorem heeded_attempt (same : m.host = h) (at? : Option Position) (a : Action) {me : EntityId}
    (acts : setting.context.entity? = some me) :
    Exec.Meets (fun done m' => m'.Heeded setting (.action at? a) h.2 (some done))
      (fun _ m' => m'.Heeded setting (.action at? a) h.2 none) (Exec.attempt setting.recording me a) m := by
  cases a with
  | turn angle =>
    exact (meets_quiet (.host_eval same angle)).bind fun v m' same => heeded_perform same at? acts rfl
  | fire power =>
    exact (meets_quiet (.host_eval same power)).bind fun v m' same =>
      (meets_quiet (.host_ofExcept same _)).bind fun n m' same => heeded_perform same at? acts rfl
  | move | jump | toggleWeapon => exact heeded_perform same at? acts rfl
  | skip => exact heeded_of_same same (.silent rfl)

/-- The effect of a leaf adds the calls to the record that it comes to its end with. -/
theorem meets_heeded (same : m.host = h) (s : Stmt) :
    Exec.Meets (fun done m' => m'.Heeded setting s h.2 (some done)) (fun _ m' => m'.Heeded setting s h.2 none)
      (setting.recording.effect s) m := by
  cases s with
  | assignment at? name e =>
    refine Exec.Meets.get_bind ?_
    split
    · exact heeded_of_same same .failed
    · refine (meets_quiet (.host_eval same e)).bind fun value m' same => ?_
      split
      · exact heeded_of_same same (.silent rfl)
      · exact heeded_of_same same .failed
  | print at? e =>
    refine (meets_quiet (.host_eval same e)).bind fun value m' same => ?_
    refine (meets_quiet (.host_ofExcept same _)).bind fun _ m' same => ?_
    refine Exec.Meets.get_bind ?_
    refine (meets_quiet (.host_ofExcept same _)).bind fun text m' same => ?_
    exact (heeded_printText same at? e text).bind fun _ m' heeded => heeded
  | action at? a =>
    -- What acts is the bound entity: the deed is asked for in its name.
    have actor : Exec.Meets (fun me m' => m'.host = h ∧ setting.context.entity? = some me)
        (fun _ m' => m'.Heeded setting (.action at? a) h.2 none) (Exec.ofExcept setting.context.actor) m :=
      .ofExcept (fun me acts => ⟨same, Context.entity?_of_actor acts⟩) fun _ _ => heeded_of_same same .failed
    refine actor.bind fun me m' ⟨same, acts⟩ => ?_
    refine (heeded_attempt same at? a acts).bind fun done m' heeded => ?_
    cases done <;> exact heeded
  | _ => exact heeded_of_same same (.silent rfl)

/-- After the effect of a leaf its calls are in the record, and the run stops if the leaf did. -/
theorem answered_heeded (s : Stmt) (m : Machine (σ × List HandlerCall)) (pending : List Duty) :
    ∃ done?, (Moment.answered pending (EStateM.run (setting.recording.effect s) m)).machine.Heeded setting s m.host.2
        done? ∧
      ((Moment.answered pending (EStateM.run (setting.recording.effect s) m)).control = .answer false ↔
        done? = some false) := by
  have heeded := @meets_heeded σ setting m _ rfl s
  unfold Exec.Meets at heeded
  cases ran : EStateM.run (setting.recording.effect s) m with
  | ok done m' =>
    rw [ran] at heeded
    exact ⟨some done, heeded, by simp [Moment.answered]⟩
  | error f m' =>
    rw [ran] at heeded
    exact ⟨none, heeded, by simp [Moment.answered]⟩

/-- A step calls the handler only if a leaf takes effect, and stops the run then only if the leaf does. -/
theorem Goes.heeded {now later : Moment (σ × List HandlerCall)} (goes : setting.recording.Goes now later) :
    later.machine.host = now.machine.host ∨
      ∃ s done?, now.control = .effect s ∧ later.machine.Heeded setting s now.machine.host.2 done? ∧
        (later.control = .answer false ↔ done? = some false) := by
  cases goes with
  | @effect s pending m =>
    obtain ⟨done?, heeded, stops⟩ := @answered_heeded σ setting s m pending
    exact .inr ⟨s, done?, rfl, heeded, stops⟩
  | @chosen c yes no pending m | @turned c body pending m =>
    obtain ⟨log, kept⟩ := setting.recording.exists_log_test c m
    refine .inl ?_
    rw [Moment.machine_tested, kept]
  | entered => exact .inl (Machine.host_entered _ _)
  | visit =>
    refine .inl ?_
    dsimp only
    split <;> rfl
  | _ => exact .inl rfl

/-- A step asks the handler for something only if a leaf takes effect. -/
theorem Goes.asked {now later : Moment (σ × List HandlerCall)} (goes : setting.recording.Goes now later) :
    later.machine.host = now.machine.host ∨
      ∃ s, now.control = .effect s ∧ later.machine.Asked s now.machine.host.2 := by
  obtain same | ⟨s, done?, taking, ⟨calls, heeds, grown⟩, -⟩ := goes.heeded
  · exact .inl same
  · exact .inr ⟨s, taking, calls, heeds.asks, grown⟩

end Setting

namespace Stage

variable {σ : Type} (game : Game σ) (s : Stage σ)

/-- What a run has begun up to a moment. -/
def begun (k : Nat) : List Begun := (List.range (k + 1)).filterMap fun i => (s.moment game i).begun?

@[simp] theorem begun_zero : s.begun game 0 = [] := rfl

theorem begun_succ (k : Nat) : s.begun game (k + 1) = s.begun game k ++ (s.moment game (k + 1)).begun?.toList := by
  rw [begun, List.range_succ, List.filterMap_append, ← begun]
  cases found : (s.moment game (k + 1)).begun? <;> simp [found]

/-- The budget and what was begun add up. -/
theorem budget_add_begun (k : Nat) :
    (s.moment game k).machine.run.budget + (s.begun game k).length = s.program.maxStatements := by
  induction k with
  | zero => exact Int.add_zero _
  | succ k ih =>
    rw [begun_succ]
    have pays := ((s.setting game).goes_next (s.moment game k)).pays
    rw [← moment_succ] at pays
    cases pays with
    | free nothing same => simp [nothing, same, ih]
    | paid b begins left less =>
      rw [begins, less, List.length_append]
      push_cast [Option.toList_some, List.length_singleton]
      omega

/-- A budget is never overdrawn. -/
theorem budget_nonneg (start : 0 ≤ s.program.maxStatements) (k : Nat) :
    0 ≤ (s.moment game k).machine.run.budget := by
  refine s.moment_induction game (motive := fun now => 0 ≤ now.machine.run.budget) start (fun now left => ?_) k
  cases ((s.setting game).goes_next now).pays with
  | free nothing same => exact same ▸ left
  | paid b begins unused less =>
    have positive : ¬ now.machine.run.budget ≤ 0 := of_decide_eq_false unused
    omega

/-- A walk that seeks is free. -/
theorem begun_of_seeking (k : Nat) (seeking : (s.moment game k).machine.run.seeking = true) :
    s.begun game k = [] := by
  have quiet : ∀ k, (s.moment game k).Quiet :=
    s.moment_induction game (fun _ => ⟨rfl, by simp⟩) fun now quiet => ((s.setting game).goes_next now).quiet quiet
  induction k with
  | zero => rfl
  | succ k ih =>
    have goes := (s.setting game).goes_next (s.moment game k)
    rw [← moment_succ] at goes
    rw [begun_succ, ih (goes.seeking_before seeking), (quiet (k + 1) seeking).1]
    rfl

theorem begun_recorded (k : Nat) : s.begun game k = s.recorded.begun game.recording k := by
  unfold begun
  congr 1
  funext i
  rw [moment_recorded]
  rfl

/-- From one moment to the next the record grows only by what a leaf asks for that takes effect. -/
theorem moment_asked (k : Nat) :
    (s.recorded.moment game.recording (k + 1)).machine.host = (s.recorded.moment game.recording k).machine.host ∨
      ∃ t, (s.recorded.moment game.recording k).control = .effect t ∧
        (s.recorded.moment game.recording (k + 1)).machine.Asked t
          (s.recorded.moment game.recording k).machine.host.2 := by
  rw [moment_succ]
  have goes : (s.setting game).recording.Goes _ _ :=
    (s.recorded.setting game.recording).goes_next (s.recorded.moment game.recording k)
  exact goes.asked

/-- Before a moment the handler was called at most once for every statement begun that is no assignment. -/
theorem calls_le (k : Nat) : (s.recorded.moment game.recording (k + 1)).machine.host.2.length ≤
    (s.recorded.begun game.recording k).countP (!·.isAssignment) := by
  -- A leaf is begun at the moment before the one at which its call is in the record.
  have step : ∀ k, (s.recorded.moment game.recording (k + 1)).machine.host.2.length ≤
      (s.recorded.moment game.recording k).machine.host.2.length +
        (s.recorded.moment game.recording k).begun?.toList.countP (!·.isAssignment) := by
    intro k
    obtain same | ⟨t, taking, asked, asks, record⟩ := s.moment_asked game k
    · rw [same]
      omega
    · rw [record, Moment.begun?, taking]
      cases asks <;> simp [Begun.isAssignment, Stmt.isAssignment]
  induction k with
  | zero => exact step 0
  | succ k ih =>
    rw [begun_succ, List.countP_append]
    have next := step (k + 1)
    omega

/-- Handler calls and assignments are paid for. -/
theorem calls_add_assignments_le (k : Nat) : (s.recorded.moment game.recording k).machine.host.2.length +
    (s.begun game k).countP Begun.isAssignment ≤ (s.begun game k).length := by
  rw [begun_recorded]
  have called : (s.recorded.moment game.recording k).machine.host.2.length ≤
      (s.recorded.begun game.recording k).countP (!·.isAssignment) := by
    cases k with
    | zero => exact Nat.zero_le _
    | succ k =>
      have before := s.calls_le game k
      rw [begun_succ, List.countP_append]
      omega
  have split := List.length_eq_countP_add_countP Begun.isAssignment (l := s.recorded.begun game.recording k)
  simp only [Bool.not_eq_true, Bool.decide_eq_false] at split
  omega

theorem budget_concluded (a : Answer σ) :
    (s.concluded a).2.program.state.budget = (Exec.machineOf a).run.budget := by
  obtain ⟨m, rfl⟩ | ⟨m, rfl⟩ | ⟨f, m, rfl⟩ := a.cases_on <;> rfl

/-- A run and the run with a record end at the same moment. -/
theorem exists_end : ∃ last, s.moment game last = .answered [] (s.answer game) ∧
    s.recorded.moment game.recording last = .answered [] (s.recorded.answer game.recording) := by
  obtain ⟨last, -, reached⟩ := s.recorded.exists_last game.recording
  exact ⟨last, by rw [moment_recorded, reached, s.answer_recorded game, Moment.answered_onState], reached⟩

/-- Every run is paid for by its budget. At every moment of a run the budget is between zero and what it was at the
start, and what is missing is the number of live statements, tests of while loops and live turns of foreach loops that
were begun; nothing is begun by a walk that seeks. So it is when the run ends, completed, suspended or raised, and the
calls of the handler and the assignments are no more than the budget, also if the root was executed twice. A run that
is refused does nothing. -/
theorem run_pays (game : Game σ) (s : Stage σ) {n : Nat} (budget : s.program.maxStatements = n) :
    (∃ cause, s.program.refusal? game.world s.host = some cause ∧ s.run game = (.error { cause }, s) ∧
      s.calls game = []) ∨
    s.program.refusal? game.world s.host = none ∧
      (∀ k, 0 ≤ (s.moment game k).machine.run.budget ∧ (s.moment game k).machine.run.budget ≤ n ∧
        n - (s.moment game k).machine.run.budget = (s.begun game k).length ∧
        ((s.moment game k).machine.run.seeking = true → s.begun game k = [])) ∧
      ∃ last answer, (s.moment game last).outcome? = some answer ∧ s.run game = s.concluded answer ∧
        n - (s.run game).2.program.state.budget = (s.begun game last).length ∧
        (s.calls game).length + (s.begun game last).countP Begun.isAssignment ≤ n := by
  cases ready : s.program.refusal? game.world s.host with
  | some cause => exact .inl ⟨cause, rfl, run_of_refusal ready, calls_of_refusal ready⟩
  | none =>
    have balance : ∀ k, (s.moment game k).machine.run.budget + (s.begun game k).length = n := fun k =>
      (s.budget_add_begun game k).trans budget
    have left : ∀ k, 0 ≤ (s.moment game k).machine.run.budget :=
      s.budget_nonneg game (by omega)
    refine .inr ⟨rfl, fun k => ⟨left k, ?_, ?_, s.begun_of_seeking game k⟩, ?_⟩
    · have even := balance k
      omega
    · have even := balance k
      omega
    · obtain ⟨last, here, reached⟩ := s.exists_end game
      have even := balance last
      refine ⟨last, s.answer game, by rw [here, Moment.outcome?_answered], run_eq_concluded ready, ?_, ?_⟩
      · rw [run_eq_concluded ready, budget_concluded]
        rw [here, Moment.machine_answered] at even
        omega
      · have paid := s.calls_add_assignments_le game last
        rw [reached, Moment.machine_answered, ← calls_eq ready] at paid
        have unspent := left last
        omega

end Stage

/-- The food is gone: the walk to the old cursor is free, and the second pass pays for the move and for the loop that
has nothing to watch. -/
theorem larder_run_pays :
    Program.parse Larder.source none none (.ok 9) = .ok Larder.program ∧
      Larder.stage.program.maxStatements = (9 : Nat) ∧ Larder.stage.program.state.cursor = some Larder.watch ∧
      (Larder.stage.run hungryGame).2.program.state.budget = 7 ∧
      ∃ last, (Larder.stage.begun hungryGame last).length = 2 ∧ (Larder.stage.calls hungryGame).length ≤ 9 := by
  have left : (Larder.stage.run hungryGame).2.program.state.budget = 7 := by decide +kernel
  refine ⟨Larder.parse_source, rfl, rfl, left, ?_⟩
  obtain ⟨cause, refused, -⟩ | ⟨-, -, last, answer, -, -, spent, called⟩ :=
    Stage.run_pays hungryGame Larder.stage (n := 9) rfl
  · cases refused
  · rw [left] at spent
    exact ⟨last, by omega, by omega⟩

end WormLang
