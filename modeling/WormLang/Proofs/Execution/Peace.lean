import WormLang.Proofs.Build.Deeds
import WormLang.Proofs.Execution.Payment

/-!
No action during a loop over entities. From the moment a run enters such a loop until it leaves it, whether it seeks or
is live and wherever it resumed, everything that it comes to and everything that is left to do inside is part of a
statement without actions. So each deed that a handler is asked for is asked for outside of all loops over entities.
-/
namespace WormLang

open Answer

namespace Duty

/-- Whether a duty is to leave a loop over entities. -/
def leavesEach : Duty → Bool
  | leave node => node.isEach
  | _ => false

/-- A loop over entities is around. -/
def InEach (around : List Duty) : Prop := ∃ duty ∈ around, duty.leavesEach = true

/-- The statements that a duty may yet come to. -/
def parts : Duty → List Stmt
  | root s => [s]
  | rest body => body
  | leave _ => []
  | other no => [no]
  | walked _ body | turns _ body => [body]
  | visits _ body _ _ => [body]

theorem inEach_cons {duty : Duty} {around : List Duty} :
    InEach (duty :: around) ↔ duty.leavesEach = true ∨ InEach around := by
  simp [InEach]

theorem inEach_of_other {duty : Duty} {around : List Duty} (other : duty.leavesEach = false) :
    InEach (duty :: around) ↔ InEach around := by
  simp [inEach_cons, other]

end Duty

/-- The statements that what is being done is about. -/
def Control.parts : Control → List Stmt
  | come s | enter s | effect s => [s]
  | choose _ yes no => [yes, no]
  | turn _ body => [body]
  | visit _ _ body => [body]
  | answer _ | fault _ => []

/-- A part of the root that has no actions where a loop over entities is around. -/
def Stmt.Allowed (s root : Stmt) (around : List Duty) : Prop :=
  s ∈ root.walk ∧ (Duty.InEach around → s.Peaceful)

/-- What is left to do is allowed by what is around it. -/
inductive Duty.Guarded (root : Stmt) : List Duty → Prop
  | nil : Duty.Guarded root []
  | cons {duty : Duty} {around : List Duty} (here : ∀ s ∈ duty.parts, s.Allowed root around)
    (outer : Duty.Guarded root around) : Duty.Guarded root (duty :: around)

/-- A moment at which everything that can be come to is allowed. -/
structure Moment.Guarded {σ : Type} (root : Stmt) (now : Moment σ) : Prop where
  control : ∀ s ∈ now.control.parts, s.Allowed root now.pending
  pending : Duty.Guarded root now.pending

variable {root : Stmt}

namespace Stmt.Allowed

variable {around : List Duty} {s : Stmt}

theorem child (allowed : s.Allowed root around) {t : Stmt} (inside : t ∈ s.children) : t.Allowed root around := by
  have within : ∀ u ∈ t.walk, u ∈ s.walk := fun _ among => mem_walk_of_child inside among
  exact ⟨mem_walk_trans allowed.1 (within t (mem_walk_self t)), fun watched u among =>
    allowed.2 watched u (within u among)⟩

/-- Only a loop over entities makes a difference to what it is around. -/
theorem under (allowed : s.Allowed root around) {duty : Duty} (other : duty.leavesEach = false) :
    s.Allowed root (duty :: around) :=
  ⟨allowed.1, fun watched => allowed.2 ((Duty.inEach_of_other other).mp watched)⟩

/-- A statement of a well-formed tree is allowed inside itself. -/
theorem entered (allowed : s.Allowed root around) (wellFormed : root.isWellFormed = true) :
    s.Allowed root (.leave s :: around) := by
  refine ⟨allowed.1, fun watched => ?_⟩
  obtain here | watched := Duty.inEach_cons.mp watched
  · exact peaceful_of_isEach wellFormed allowed.1 here
  · exact allowed.2 watched

end Stmt.Allowed

namespace Duty

theorem guarded_tail {pending : List Duty} (guarded : Guarded root pending) : Guarded root pending.tail := by
  cases guarded with
  | nil => exact .nil
  | cons _ outer => exact outer

end Duty

namespace Moment.Guarded

variable {σ : Type} {pending : List Duty} {m : Machine σ}

theorem answer {done : Bool} (guarded : Duty.Guarded root pending) :
    Moment.Guarded root ⟨.answer done, pending, m⟩ := ⟨by simp [Control.parts], guarded⟩

theorem fault {f : Fault} (guarded : Duty.Guarded root pending) :
    Moment.Guarded root ⟨.fault f, pending, m⟩ := ⟨by simp [Control.parts], guarded⟩

theorem come {s : Stmt} (allowed : s.Allowed root pending) (guarded : Duty.Guarded root pending) :
    Moment.Guarded root ⟨.come s, pending, m⟩ := ⟨by simpa [Control.parts] using allowed, guarded⟩

/-- Coming to a statement with one more duty around it. -/
theorem within {s : Stmt} {duty : Duty} (other : duty.leavesEach = false) (allowed : s.Allowed root pending)
    (parts : ∀ t ∈ duty.parts, t.Allowed root pending) (guarded : Duty.Guarded root pending) :
    Moment.Guarded root ⟨.come s, duty :: pending, m⟩ := come (allowed.under other) (.cons parts guarded)

theorem answered (guarded : Duty.Guarded root pending) (a : Answer σ) :
    Moment.Guarded root (.answered pending a) := by
  cases a with
  | ok => exact answer guarded
  | error => exact fault guarded

theorem tested (guarded : Duty.Guarded root pending) (a : Answer σ) {yes no : Machine σ → Moment σ}
    (onYes : ∀ m, (yes m).Guarded root) (onNo : ∀ m, (no m).Guarded root) :
    Moment.Guarded root (.tested pending a yes no) := by
  obtain ⟨m, rfl⟩ | ⟨m, rfl⟩ | ⟨f, m, rfl⟩ := a.cases_on
  · exact onYes m
  · exact onNo m
  · exact fault guarded

end Moment.Guarded

open Moment.Guarded in
/-- No step comes to an action with a loop over entities around it. -/
theorem Setting.Goes.guarded {σ : Type} {setting : Setting σ} {now later : Moment σ} (goes : setting.Goes now later)
    (wellFormed : root.isWellFormed = true) (guarded : now.Guarded root) : later.Guarded root := by
  obtain ⟨here, outer⟩ := guarded
  cases goes with
  | @opened at? body pending m =>
    refine answer (.cons (fun t inside => ?_) outer)
    exact (here _ List.mem_cons_self).child inside
  | @entered s id pending m own paid =>
    -- The only step that puts a loop over entities around: the loop itself is allowed there, since it is peaceful.
    have allowed := here s List.mem_cons_self
    exact ⟨by simpa [Control.parts] using allowed.entered wellFormed, .cons (by simp [Duty.parts]) outer⟩
  | started => exact ⟨here, outer⟩
  | gap | unfetched => exact fault outer
  | halted | unpaid | skipped | hollow | last => exact answer outer
  | failed => exact fault (Duty.guarded_tail outer)
  | through | spent | left | dropped => exact answer (Duty.guarded_tail outer)
  | effect => exact answered outer _
  | @both id at? c yes no pending m seeking =>
    have allowed := here _ List.mem_cons_self
    refine within rfl (allowed.child List.mem_cons_self) ?_ outer
    simpa [Duty.parts] using allowed.child (t := no) (by simp [Stmt.children])
  | @choosing id at? c yes no pending m live =>
    have allowed := here _ List.mem_cons_self
    exact ⟨fun t inside => allowed.child inside, outer⟩
  | @inside id at? c body pending m seeking =>
    have allowed := here _ List.mem_cons_self
    exact within rfl (allowed.child List.mem_cons_self) (fun t inside => allowed.child inside) outer
  | @turns id at? c body pending m live =>
    have allowed := here _ List.mem_cons_self
    exact answer (.cons (fun t inside => allowed.child inside) outer)
  | @fetched id at? kind name body pending m entities members =>
    have allowed := here _ List.mem_cons_self
    exact answer (.cons (fun t inside => allowed.child inside) outer)
  | @chosen c yes no pending m =>
    refine tested outer _ (fun m => come (here yes List.mem_cons_self) outer) fun m => come (here no ?_) outer
    exact List.mem_cons_of_mem _ List.mem_cons_self
  | @turned c body pending m =>
    exact tested outer _ (fun m => within rfl (here body List.mem_cons_self) here outer) fun m => answer outer
  | @bound name e body pending m => exact come (here body List.mem_cons_self) outer
  | @again s pending m seeking =>
    cases outer with
    | cons parts outer => exact within rfl (parts s List.mem_cons_self) parts outer
  | @further s body pending m =>
    cases outer with
    | cons parts outer =>
      exact within rfl (parts s List.mem_cons_self) (fun t inside => parts t (List.mem_cons_of_mem _ inside)) outer
  | @other no pending m seeking =>
    cases outer with
    | cons parts outer => exact come (parts no List.mem_cons_self) outer
  | @found c body pending m live =>
    cases outer with
    | cons parts outer => exact answer (.cons parts outer)
  | @turn c body pending m paid =>
    cases outer with
    | cons parts outer => exact ⟨parts, outer⟩
  | @visit name body e rest sought pending m paid =>
    cases outer with
    | cons parts outer =>
      exact ⟨fun t inside => (parts t inside).under rfl, .cons parts outer⟩

/-- Whether a call asked for a deed. -/
def HandlerCall.isDeed : HandlerCall → Bool
  | deed .. => true
  | text .. => false

/-- Only an action asks for a deed. -/
theorem Stmt.Asks.isAction {s : Stmt} {calls : List HandlerCall} (asks : s.Asks calls) {call : HandlerCall}
    (among : call ∈ calls) (isDeed : call.isDeed = true) : s.isAction = true := by
  cases asks with
  | nothing => cases among
  | text =>
    obtain rfl := List.mem_singleton.mp among
    cases isDeed
  | deed => rfl

namespace Moment

variable {σ : Type}

/-- A run is inside a loop over entities. -/
def InEach (now : Moment σ) : Prop := Duty.InEach now.pending

end Moment

namespace Stage

variable {σ : Type} (game : Game σ) (s : Stage σ)

theorem guarded (wellFormed : s.program.root.isWellFormed = true) (k : Nat) :
    (s.moment game k).Guarded s.program.root := by
  have atRoot : s.program.root.Allowed s.program.root [] :=
    ⟨Stmt.mem_walk_self _, fun watched => by simp [Duty.InEach] at watched⟩
  refine s.moment_induction game ?_ (fun now guarded => ((s.setting game).goes_next now).guarded wellFormed guarded) k
  exact .within rfl atRoot (fun t inside => List.mem_singleton.mp inside ▸ atRoot) .nil

/-- What a run does inside a loop over entities has no action in it. -/
theorem peaceful_of_inEach (wellFormed : s.program.root.isWellFormed = true) {k : Nat}
    (watched : (s.moment game k).InEach) : ∀ t ∈ (s.moment game k).control.parts, t.Peaceful := fun t inside =>
  ((s.guarded game wellFormed k).control t inside).2 watched

/-- A deed in the record at a moment was asked for by an action that took effect before, outside of all loops over
entities. -/
theorem exists_action_of_deed (wellFormed : s.program.root.isWellFormed = true) (k : Nat) {call : HandlerCall}
    (called : call ∈ (s.recorded.moment game.recording k).machine.host.2) (isDeed : call.isDeed = true) :
    ∃ j at? a, (s.moment game j).control = .effect (.action at? a) ∧ ¬ (s.moment game j).InEach := by
  induction k with
  | zero => cases called
  | succ k ih =>
    obtain same | ⟨t, taking, asked, asks, record⟩ := s.moment_asked game k
    · exact ih (same ▸ called)
    · obtain before | now := List.mem_append.mp (record ▸ called)
      · exact ih before
      · have acts := asks.isAction now isDeed
        have here : (s.moment game k).control = .effect t := by
          rw [moment_recorded]
          exact taking
        cases t with
        | action at? a =>
          refine ⟨k, at?, a, here, fun watched => ?_⟩
          have among : Stmt.action at? a ∈ (s.moment game k).control.parts := by simp [here, Control.parts]
          cases s.peaceful_of_inEach game wellFormed watched _ among _ (Stmt.mem_walk_self _)
        | _ => cases acts

end Stage

open Stage in
/-- A loop over entities never acts. Every statement of a tree that a builder made notes an action exactly if one is in
its walk; so each program that is built is well formed, and the check of a program has nothing to complain of. In a run
of such a program, whatever its cursor, variables, world and mode, nothing that is done between the moment a loop over
entities is entered and the moment it is left is about an action, and each deed that the handler is asked for is that of
an action outside of all these loops. -/
theorem Program.each_never_acts :
    (∀ s : Stmt, s.Made → ∀ t ∈ s.walk, (t.hasAction = true ↔ ∃ u ∈ t.walk, u.isAction = true)) ∧
    ∀ p : Program, p.Built → p.isWellFormed = true ∧
      (∀ source dump status complaint, status ≠ 0 →
        (CommandLine.checkReport source dump p).ending ≠ .exit status complaint) ∧
      ∀ {σ : Type} (game : Game σ) (s : Stage σ), s.program.root = p.root →
        (s.program.refusal? game.world s.host = none →
          ∃ last answer, (s.moment game last).outcome? = some answer ∧ s.run game = s.concluded answer) ∧
        (∀ k, (s.moment game k).InEach → ∀ t ∈ (s.moment game k).control.parts, t.Peaceful) ∧
        ∀ call ∈ s.calls game, call.isDeed = true →
          ∃ k at? a, (s.moment game k).control = .effect (.action at? a) ∧ ¬ (s.moment game k).InEach := by
  refine ⟨fun s made t inside => ?_, fun p built => ⟨built.isWellFormed, ?_, fun game s root => ?_⟩⟩
  · exact Stmt.hasAction_iff (Stmt.isWellFormed_of_mem_walk made.isWellFormed inside)
  · exact fun source dump => CommandLine.ending_checkReport built.isWellFormed source dump
  · have wellFormed : s.program.root.isWellFormed = true := root ▸ built.made.isWellFormed
    refine ⟨fun ready => ?_, fun k => s.peaceful_of_inEach game wellFormed, fun call called isDeed => ?_⟩
    · obtain ⟨last, here, -⟩ := s.exists_end game
      exact ⟨last, s.answer game, by rw [here, Moment.outcome?_answered], run_eq_concluded ready⟩
    cases ready : s.program.refusal? game.world s.host with
    | some cause =>
      rw [calls_of_refusal ready] at called
      cases called
    | none =>
      obtain ⟨last, -, reached⟩ := s.exists_end game
      refine s.exists_action_of_deed game wellFormed last ?_ isDeed
      rw [reached, Moment.machine_answered, ← calls_eq ready]
      exact called

/-- While the food is there, the larder's run walks into its loop and goes on inside without acting; once it is gone, the
only deed is the move in front of the loop. -/
theorem larder_never_acts :
    Program.parse Larder.source none none (.ok 9) = .ok Larder.program ∧ Larder.program.isWellFormed = true ∧
      (∀ t ∈ Larder.program.root.walk, (t.hasAction = true ↔ ∃ u ∈ t.walk, u.isAction = true)) ∧
      (CommandLine.checkReport "larder" false Larder.program).ending ≠ .exit 1 "" ∧
      ((Larder.stage.moment soloGame 8).InEach ∧ (Larder.stage.moment soloGame 8).machine.run.seeking = true ∧
        ∀ t ∈ (Larder.stage.moment soloGame 8).control.parts, t.Peaceful) ∧
      ∃ call ∈ Larder.stage.calls hungryGame, call.isDeed = true ∧ ∃ k at? a,
        (Larder.stage.moment hungryGame k).control = .effect (.action at? a) ∧
          ¬ (Larder.stage.moment hungryGame k).InEach := by
  obtain ⟨noted, ofBuilt⟩ := Program.each_never_acts
  have built : Larder.program.Built := .parsed Larder.parse_source
  obtain ⟨wellFormed, checked, ofRun⟩ := ofBuilt Larder.program built
  have watched : (Larder.stage.moment soloGame 8).InEach := by
    unfold Moment.InEach Duty.InEach
    decide +kernel
  have called : ∃ call ∈ Larder.stage.calls hungryGame, call.isDeed = true := by decide +kernel
  obtain ⟨call, among, isDeed⟩ := called
  exact ⟨Larder.parse_source, wellFormed, noted _ built.made, checked _ _ _ _ (by decide),
    ⟨watched, by decide +kernel, (ofRun soloGame Larder.stage rfl).2.1 8 watched⟩,
    call, among, isDeed, (ofRun hungryGame Larder.stage rfl).2.2 call among isDeed⟩

end WormLang
