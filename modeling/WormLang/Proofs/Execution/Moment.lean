import WormLang.Proofs.Execution.Recording

/-!
Execution in single steps. A moment of a run is what is being done, what is left to do once it has answered, and the
machine. A step is no recursion and has no fuel: it looks at the budget, spends one unit, tests one condition, takes
the effect of one leaf, binds one loop variable, or gives an answer to the statement around.
-/
namespace WormLang

/-- What is left to do once the statement at hand has answered. -/
inductive Duty where
  /-- To execute the root again, if the walk did not find the cursor. -/
  | root (root : Stmt)
  /-- To execute the statements behind it. -/
  | rest (body : List Stmt)
  /-- To leave the conditional statement around it. -/
  | leave (node : Stmt)
  /-- To look for the cursor in the else branch too. -/
  | other (no : Stmt)
  /-- To go on with the turns of a while loop, if the walk found the cursor in the body. -/
  | walked (condition : Expr) (body : Stmt)
  /-- To begin the next turn of a while loop. -/
  | turns (condition : Expr) (body : Stmt)
  /-- To begin the next turn of a foreach loop. The last turn sought the cursor or was live. -/
  | visits (name : String) (body : Stmt) (entities : List EntityId) (sought : Bool)

/-- What is being done. -/
inductive Control where
  /-- A statement is to be executed. -/
  | come (s : Stmt)
  /-- A conditional statement was entered. -/
  | enter (s : Stmt)
  /-- A leaf that is paid for is to take effect. -/
  | effect (s : Stmt)
  /-- The condition of an if statement is to be tested. -/
  | choose (condition : Expr) (yes no : Stmt)
  /-- The condition of a while loop, paid for, is to be tested. -/
  | turn (condition : Expr) (body : Stmt)
  /-- A turn of a foreach loop, paid for if it is live, is to bind the loop variable. -/
  | visit (name : String) (entity : EntityId) (body : Stmt)
  /-- A statement answered. -/
  | answer (done : Bool)
  /-- A statement failed. -/
  | fault (f : Fault)

/-- A moment of a run. -/
structure Moment (σ : Type) where
  control : Control
  /-- What is left to do, the innermost first. -/
  pending : List Duty
  machine : Machine σ

theorem RunState.budget_suspendAt (s : RunState Stmt) (node : Stmt) : (s.suspendAt node).budget = s.budget := by
  unfold suspendAt
  split <;> rfl

namespace Moment

variable {σ : Type}

/-- The moment at which an answer is given to what is left to do. -/
def answered (pending : List Duty) : Answer σ → Moment σ
  | .ok done m => ⟨.answer done, pending, m⟩
  | .error f m => ⟨.fault f, pending, m⟩

/-- Go on after a test, one way or the other. -/
def tested (pending : List Duty) (a : Answer σ) (yes no : Machine σ → Moment σ) : Moment σ :=
  match a with
  | .ok true m => yes m
  | .ok false m => no m
  | .error f m => ⟨.fault f, pending, m⟩

/-- Come to a statement. A conditional statement and a leaf look at the budget first. -/
def come (s : Stmt) (pending : List Duty) (m : Machine σ) : Moment σ :=
  match s with
  | .sequence _ body => ⟨.answer true, .rest body :: pending, m⟩
  | .placeholder fault =>
    ⟨.fault { cause := .placeholderExecuted, position := fault.position }, pending, m⟩
  | s =>
    match s.id? with
    | some id =>
      if m.run.exhausted then ⟨.answer false, pending, m.onRun (·.suspendAt s)⟩
      else ⟨.enter s, .leave s :: pending, m.entered id⟩
    | none =>
      if m.run.exhausted then ⟨.answer false, pending, m⟩
      else if m.run.seeking then ⟨.answer true, pending, m⟩
      else ⟨.effect s, pending, m.onRun RunState.charge⟩

/-- A conditional statement is entered, unless the budget is used up. -/
theorem come_conditional {s : Stmt} {id : NodeId} (own : s.id? = some id) (pending : List Duty) (m : Machine σ) :
    come s pending m =
      if m.run.exhausted then ⟨.answer false, pending, m.onRun (·.suspendAt s)⟩
      else ⟨.enter s, .leave s :: pending, m.entered id⟩ := by
  cases s with
  | branch | loop | each =>
    cases own
    rfl
  | _ => cases own

/-- A leaf stops a run without budget, is skipped by a seeking run, and is paid for by a live one. -/
theorem come_leaf {s : Stmt} (isLeaf : s.isLeaf = true) (pending : List Duty) (m : Machine σ) :
    come s pending m =
      if m.run.exhausted then ⟨.answer false, pending, m⟩
      else if m.run.seeking then ⟨.answer true, pending, m⟩
      else ⟨.effect s, pending, m.onRun RunState.charge⟩ := by
  cases s with
  | assignment | print | action => rfl
  | _ => cases isLeaf

/-- Go on after a statement that ran to its end. -/
def goOn (m : Machine σ) : List Duty → Moment σ
  | [] => ⟨.answer true, [], m⟩
  | .root s :: pending =>
    if m.run.seeking then ⟨.come s, .root s :: pending, m.restarted⟩ else ⟨.answer true, pending, m⟩
  | .rest [] :: pending => ⟨.answer true, pending, m⟩
  | .rest (s :: body) :: pending => ⟨.come s, .rest body :: pending, m⟩
  | .leave _ :: pending => ⟨.answer true, pending, m⟩
  | .other no :: pending => if m.run.seeking then ⟨.come no, pending, m⟩ else ⟨.answer true, pending, m⟩
  | .walked c body :: pending =>
    ⟨.answer true, if m.run.seeking then pending else .turns c body :: pending, m⟩
  | .turns c body :: pending =>
    if m.run.exhausted then ⟨.answer false, pending, m⟩ else ⟨.turn c body, pending, m.onRun RunState.charge⟩
  | .visits name body entities sought :: pending =>
    if sought && m.run.seeking then ⟨.answer true, pending, m⟩
    else
      match entities with
      | [] => ⟨.answer true, pending, m⟩
      | e :: rest =>
        if m.run.exhausted then ⟨.answer false, pending, m⟩
        else ⟨.visit name e body, .visits name body rest m.run.seeking :: pending,
          if m.run.seeking then m else m.onRun RunState.charge⟩

/-- Pass a stop on to what is left to do: a conditional statement that is left becomes the cursor, unless there is
one already. -/
def stop (m : Machine σ) : List Duty → Moment σ
  | .leave node :: pending => ⟨.answer false, pending, m.onRun (·.suspendAt node)⟩
  | pending => ⟨.answer false, pending.tail, m⟩

def outcome? (now : Moment σ) : Option (Answer σ) :=
  match now.control, now.pending with
  | .answer done, [] => some (.ok done now.machine)
  | .fault f, [] => some (.error f now.machine)
  | _, _ => none

theorem machine_answered (pending : List Duty) (a : Answer σ) : (answered pending a).machine = Exec.machineOf a := by
  cases a <;> rfl

theorem machine_tested (pending : List Duty) (a : Answer σ) (yes no : Control) (yesPending noPending : List Duty) :
    (tested pending a (⟨yes, yesPending, ·⟩) (⟨no, noPending, ·⟩)).machine = Exec.machineOf a := by
  obtain ⟨m, rfl⟩ | ⟨m, rfl⟩ | ⟨f, m, rfl⟩ := a.cases_on <;> rfl

@[simp] theorem outcome?_answered (a : Answer σ) : (answered [] a).outcome? = some a := by
  cases a <;> rfl

end Moment

namespace Setting

variable {σ : Type} (setting : Setting σ)

/-- A test changes nothing but the log. -/
theorem exists_log_test (c : Expr) (m : Machine σ) : ∃ log, Exec.machineOf (setting.test c m) = { m with log } := by
  unfold test
  rw [EStateM.run_bind, Exec.run_eval]
  cases EStateM.run ((setting.env m).eval c) m.log with
  | ok v log => exact ⟨log, rfl⟩
  | error f log => exact ⟨log, rfl⟩

/-- Begin inside a conditional statement. -/
def enter (s : Stmt) (pending : List Duty) (m : Machine σ) : Moment σ :=
  match s with
  | .branch _ _ c yes no =>
    if m.run.seeking then ⟨.come yes, .other no :: pending, m⟩ else ⟨.choose c yes no, pending, m⟩
  | .loop _ _ c body =>
    if m.run.seeking then ⟨.come body, .walked c body :: pending, m⟩
    else ⟨.answer true, .turns c body :: pending, m⟩
  | .each _ at? kind name body =>
    match setting.members at? kind name m with
    | .ok entities => ⟨.answer true, .visits name body entities false :: pending, m⟩
    | .error f => ⟨.fault f, pending, m⟩
  | _ => ⟨.answer true, pending, m⟩

/-- One step of execution. Nothing follows the last moment. -/
def next (now : Moment σ) : Moment σ :=
  match now.control with
  | .come s => .come s now.pending now.machine
  | .enter s => setting.enter s now.pending now.machine
  | .effect s => .answered now.pending (EStateM.run (setting.effect s) now.machine)
  | .choose c yes no =>
    .tested now.pending (setting.test c now.machine) (⟨.come yes, now.pending, ·⟩) (⟨.come no, now.pending, ·⟩)
  | .turn c body =>
    .tested now.pending (setting.test c now.machine) (⟨.come body, .turns c body :: now.pending, ·⟩)
      (⟨.answer true, now.pending, ·⟩)
  | .visit name e body => ⟨.come body, now.pending, now.machine.bound name e⟩
  | .answer true => .goOn now.machine now.pending
  | .answer false => .stop now.machine now.pending
  | .fault f => ⟨.fault f, now.pending.tail, now.machine⟩

/-- What a step can do. -/
inductive Goes : Moment σ → Moment σ → Prop
  /-- A sequence is begun. -/
  | opened {at? body pending m} :
    Goes ⟨.come (.sequence at? body), pending, m⟩ ⟨.answer true, .rest body :: pending, m⟩
  /-- A placeholder fails. -/
  | gap {fault pending m} : Goes ⟨.come (.placeholder fault), pending, m⟩
    ⟨.fault { cause := .placeholderExecuted, position := fault.position }, pending, m⟩
  /-- A conditional statement finds the budget used up. -/
  | halted {s id pending m} (own : s.id? = some id) (used : m.run.exhausted = true) :
    Goes ⟨.come s, pending, m⟩ ⟨.answer false, pending, m.onRun (·.suspendAt s)⟩
  /-- A conditional statement is entered. -/
  | entered {s id pending m} (own : s.id? = some id) (paid : m.run.exhausted = false) :
    Goes ⟨.come s, pending, m⟩ ⟨.enter s, .leave s :: pending, m.entered id⟩
  /-- A leaf finds the budget used up. -/
  | unpaid {s pending m} (isLeaf : s.isLeaf = true) (used : m.run.exhausted = true) :
    Goes ⟨.come s, pending, m⟩ ⟨.answer false, pending, m⟩
  /-- A leaf is skipped. -/
  | skipped {s pending m} (isLeaf : s.isLeaf = true) (seeking : m.run.seeking = true) :
    Goes ⟨.come s, pending, m⟩ ⟨.answer true, pending, m⟩
  /-- A leaf is paid for. -/
  | started {s pending m} (isLeaf : s.isLeaf = true) (paid : m.run.exhausted = false)
    (live : m.run.seeking = false) : Goes ⟨.come s, pending, m⟩ ⟨.effect s, pending, m.onRun RunState.charge⟩
  /-- A leaf takes effect. -/
  | effect {s pending m} : Goes ⟨.effect s, pending, m⟩ (.answered pending (EStateM.run (setting.effect s) m))
  /-- Both branches are walked, the first one now. -/
  | both {id at? c yes no pending m} (seeking : m.run.seeking = true) :
    Goes ⟨.enter (.branch id at? c yes no), pending, m⟩ ⟨.come yes, .other no :: pending, m⟩
  /-- A branch is to be chosen. -/
  | choosing {id at? c yes no pending m} (live : m.run.seeking = false) :
    Goes ⟨.enter (.branch id at? c yes no), pending, m⟩ ⟨.choose c yes no, pending, m⟩
  /-- The body of a while loop is walked. -/
  | inside {id at? c body pending m} (seeking : m.run.seeking = true) :
    Goes ⟨.enter (.loop id at? c body), pending, m⟩ ⟨.come body, .walked c body :: pending, m⟩
  /-- The turns of a while loop are begun. -/
  | turns {id at? c body pending m} (live : m.run.seeking = false) :
    Goes ⟨.enter (.loop id at? c body), pending, m⟩ ⟨.answer true, .turns c body :: pending, m⟩
  /-- The entities of a foreach loop are fetched. -/
  | fetched {id at? kind name body pending m entities} (members : setting.members at? kind name m = .ok entities) :
    Goes ⟨.enter (.each id at? kind name body), pending, m⟩
      ⟨.answer true, .visits name body entities false :: pending, m⟩
  /-- The entities of a foreach loop cannot be fetched. -/
  | unfetched {id at? kind name body pending m f} (members : setting.members at? kind name m = .error f) :
    Goes ⟨.enter (.each id at? kind name body), pending, m⟩ ⟨.fault f, pending, m⟩
  /-- Nothing is inside a statement that is not conditional. -/
  | hollow {s pending m} (other : s.id? = none) : Goes ⟨.enter s, pending, m⟩ ⟨.answer true, pending, m⟩
  /-- A branch is chosen by a test. -/
  | chosen {c yes no pending m} : Goes ⟨.choose c yes no, pending, m⟩
    (.tested pending (setting.test c m) (⟨.come yes, pending, ·⟩) (⟨.come no, pending, ·⟩))
  /-- A turn of a while loop begins with a test. -/
  | turned {c body pending m} : Goes ⟨.turn c body, pending, m⟩
    (.tested pending (setting.test c m) (⟨.come body, .turns c body :: pending, ·⟩) (⟨.answer true, pending, ·⟩))
  /-- A loop variable is bound. -/
  | bound {name e body pending m} : Goes ⟨.visit name e body, pending, m⟩ ⟨.come body, pending, m.bound name e⟩
  /-- Nothing is left to do behind an answer. -/
  | last {done m} : Goes ⟨.answer done, [], m⟩ ⟨.answer done, [], m⟩
  /-- The root is executed again. -/
  | again {s pending m} (seeking : m.run.seeking = true) :
    Goes ⟨.answer true, .root s :: pending, m⟩ ⟨.come s, .root s :: pending, m.restarted⟩
  /-- Nothing more is to be done here. -/
  | through {duty pending m} : Goes ⟨.answer true, duty :: pending, m⟩ ⟨.answer true, pending, m⟩
  /-- The next statement of a sequence is executed. -/
  | further {s body pending m} : Goes ⟨.answer true, .rest (s :: body) :: pending, m⟩ ⟨.come s, .rest body :: pending, m⟩
  /-- The else branch is walked. -/
  | other {no pending m} (seeking : m.run.seeking = true) :
    Goes ⟨.answer true, .other no :: pending, m⟩ ⟨.come no, pending, m⟩
  /-- The cursor was found in the body of a while loop. -/
  | found {c body pending m} (live : m.run.seeking = false) :
    Goes ⟨.answer true, .walked c body :: pending, m⟩ ⟨.answer true, .turns c body :: pending, m⟩
  /-- A turn finds the budget used up. -/
  | spent {duty pending m} (used : m.run.exhausted = true) :
    Goes ⟨.answer true, duty :: pending, m⟩ ⟨.answer false, pending, m⟩
  /-- A turn of a while loop is paid for. -/
  | turn {c body pending m} (paid : m.run.exhausted = false) :
    Goes ⟨.answer true, .turns c body :: pending, m⟩ ⟨.turn c body, pending, m.onRun RunState.charge⟩
  /-- A turn of a foreach loop is paid for, if it is live. -/
  | visit {name body e rest sought pending m} (paid : m.run.exhausted = false) :
    Goes ⟨.answer true, .visits name body (e :: rest) sought :: pending, m⟩
      ⟨.visit name e body, .visits name body rest m.run.seeking :: pending,
        if m.run.seeking then m else m.onRun RunState.charge⟩
  /-- A stop leaves a conditional statement. -/
  | left {node pending m} :
    Goes ⟨.answer false, .leave node :: pending, m⟩ ⟨.answer false, pending, m.onRun (·.suspendAt node)⟩
  /-- A stop passes what was left to do. -/
  | dropped {duty pending m} : Goes ⟨.answer false, duty :: pending, m⟩ ⟨.answer false, pending, m⟩
  /-- A fault passes what was left to do. -/
  | failed {f pending m} : Goes ⟨.fault f, pending, m⟩ ⟨.fault f, pending.tail, m⟩

theorem goes_come (s : Stmt) (pending : List Duty) (m : Machine σ) :
    setting.Goes ⟨.come s, pending, m⟩ (.come s pending m) := by
  have conditional : ∀ {s : Stmt} {id : NodeId}, s.id? = some id →
      setting.Goes ⟨.come s, pending, m⟩ (.come s pending m) := by
    intro s id own
    rw [Moment.come_conditional own]
    cases paid : m.run.exhausted with
    | true => exact .halted own paid
    | false => exact .entered own paid
  have leaf : ∀ {s : Stmt}, s.isLeaf = true → setting.Goes ⟨.come s, pending, m⟩ (.come s pending m) := by
    intro s isLeaf
    rw [Moment.come_leaf isLeaf]
    cases paid : m.run.exhausted with
    | true => exact .unpaid isLeaf paid
    | false =>
      cases live : m.run.seeking with
      | true => exact .skipped isLeaf live
      | false => exact .started isLeaf paid live
  cases s with
  | sequence => exact .opened
  | placeholder => exact .gap
  | assignment | print | action => exact leaf rfl
  | branch | loop | each => exact conditional rfl

theorem goes_enter (s : Stmt) (pending : List Duty) (m : Machine σ) :
    setting.Goes ⟨.enter s, pending, m⟩ (setting.enter s pending m) := by
  cases s with
  | branch id at? c yes no =>
    unfold enter
    cases live : m.run.seeking with
    | true => exact .both live
    | false => exact .choosing live
  | loop id at? c body =>
    unfold enter
    cases live : m.run.seeking with
    | true => exact .inside live
    | false => exact .turns live
  | each id at? kind name body =>
    cases members : setting.members at? kind name m with
    | ok entities =>
      simp only [enter, members]
      exact .fetched members
    | error f =>
      simp only [enter, members]
      exact .unfetched members
  | _ => exact .hollow rfl

theorem goes_goOn (m : Machine σ) (pending : List Duty) :
    setting.Goes ⟨.answer true, pending, m⟩ (.goOn m pending) := by
  cases pending with
  | nil => exact .last
  | cons duty pending =>
    cases duty with
    | root s =>
      unfold Moment.goOn
      cases live : m.run.seeking with
      | true => exact .again live
      | false => exact .through
    | rest body =>
      cases body with
      | nil => exact .through
      | cons s body => exact .further
    | leave node => exact .through
    | other no =>
      unfold Moment.goOn
      cases live : m.run.seeking with
      | true => exact .other live
      | false => exact .through
    | walked c body =>
      unfold Moment.goOn
      cases live : m.run.seeking with
      | true => exact .through
      | false => exact .found live
    | turns c body =>
      unfold Moment.goOn
      cases paid : m.run.exhausted with
      | true => exact .spent paid
      | false => exact .turn paid
    | visits name body entities sought =>
      unfold Moment.goOn
      dsimp only
      split
      · exact .through
      · cases entities with
        | nil => exact .through
        | cons e rest =>
          cases paid : m.run.exhausted with
          | true => exact .spent paid
          | false => exact .visit paid

/-- Every step is one of these. -/
theorem goes_next (now : Moment σ) : setting.Goes now (setting.next now) := by
  obtain ⟨control, pending, m⟩ := now
  cases control with
  | come s => exact setting.goes_come s pending m
  | enter s => exact setting.goes_enter s pending m
  | effect s => exact .effect
  | choose c yes no => exact .chosen
  | turn c body => exact .turned
  | visit name e body => exact .bound
  | answer done =>
    cases done with
    | true => exact setting.goes_goOn m pending
    | false =>
      cases pending with
      | nil => exact .last
      | cons duty pending =>
        cases duty with
        | leave node => exact .left
        | _ => exact .dropped
  | fault f => exact .failed

end Setting

namespace Stage

variable {σ : Type} (game : Game σ) (s : Stage σ)

def moment (k : Nat) : Moment σ :=
  (s.setting game).next^[k] ⟨.come s.program.root, [.root s.program.root], s.started⟩

@[simp] theorem moment_zero :
    s.moment game 0 = ⟨.come s.program.root, [.root s.program.root], s.started⟩ := rfl

theorem moment_succ (k : Nat) : s.moment game (k + 1) = (s.setting game).next (s.moment game k) :=
  Function.iterate_succ_apply' _ _ _

/-- What holds at the first moment and is kept by every step holds at all moments. -/
theorem moment_induction {motive : Moment σ → Prop}
    (first : motive ⟨.come s.program.root, [.root s.program.root], s.started⟩)
    (step : ∀ now, motive now → motive ((s.setting game).next now)) (k : Nat) : motive (s.moment game k) := by
  induction k with
  | zero => exact first
  | succ k ih =>
    rw [moment_succ]
    exact step _ ih

end Stage

def Moment.onState {σ τ : Type} (view : Machine σ → Machine τ) (now : Moment σ) : Moment τ :=
  { control := now.control, pending := now.pending, machine := view now.machine }

namespace Moment

variable {σ τ : Type} {view : Machine σ → Machine τ}

theorem answered_onState (pending : List Duty) (a : Answer σ) :
    answered pending (Outcome.onState view a) = (answered pending a).onState view := by
  cases a <;> rfl

theorem tested_onState (pending : List Duty) (a : Answer σ) (yes no : Control) (yesPending noPending : List Duty) :
    tested pending (Outcome.onState view a) (⟨yes, yesPending, ·⟩) (⟨no, noPending, ·⟩) =
      (tested pending a (⟨yes, yesPending, ·⟩) (⟨no, noPending, ·⟩)).onState view := by
  obtain ⟨m, rfl⟩ | ⟨m, rfl⟩ | ⟨f, m, rfl⟩ := a.cases_on <;> rfl

end Moment

namespace Setting.Twin

variable {σ τ : Type} {a : Setting σ} {b : Setting τ} {view : Machine σ → Machine τ}

theorem come (twin : Twin a b view) (s : Stmt) (pending : List Duty) (m : Machine σ) :
    Moment.come s pending (view m) = (Moment.come s pending m).onState view := by
  have conditional : ∀ {s : Stmt} {id : NodeId}, s.id? = some id →
      Moment.come s pending (view m) = (Moment.come s pending m).onState view := by
    intro s id own
    rw [Moment.come_conditional own, Moment.come_conditional own, twin.run, twin.entered, ← twin.onRun]
    split <;> rfl
  have leaf : ∀ {s : Stmt}, s.isLeaf = true →
      Moment.come s pending (view m) = (Moment.come s pending m).onState view := by
    intro s isLeaf
    rw [Moment.come_leaf isLeaf, Moment.come_leaf isLeaf, twin.run, ← twin.onRun]
    split
    · rfl
    · split <;> rfl
  cases s with
  | sequence | placeholder => rfl
  | assignment | print | action => exact leaf rfl
  | branch | loop | each => exact conditional rfl

theorem goOn (twin : Twin a b view) (again : ∀ m, view m.restarted = (view m).restarted) (m : Machine σ)
    (pending : List Duty) : Moment.goOn (view m) pending = (Moment.goOn m pending).onState view := by
  unfold Moment.goOn
  rw [twin.run, ← twin.onRun, ← again]
  split
  case h_9 =>
    split
    · rfl
    · split
      · rfl
      · split
        · rfl
        · split <;> rfl
  all_goals first | rfl | (split <;> rfl)

theorem stop (twin : Twin a b view) (m : Machine σ) (pending : List Duty) :
    Moment.stop (view m) pending = (Moment.stop m pending).onState view := by
  cases pending with
  | nil => rfl
  | cons duty pending =>
    cases duty with
    | leave node => exact congrArg (Moment.mk _ _) (twin.onRun _ m).symm
    | _ => rfl

theorem enter (twin : Twin a b view) (s : Stmt) (pending : List Duty) (m : Machine σ) :
    b.enter s pending (view m) = (a.enter s pending m).onState view := by
  unfold Setting.enter
  rw [twin.run]
  split
  case h_3 at? kind name body =>
    rw [twin.members]
    split <;> rfl
  all_goals first | rfl | (split <;> rfl)

/-- A step is the same in the mirror. -/
theorem next (twin : Twin a b view) (again : ∀ m, view m.restarted = (view m).restarted) (now : Moment σ) :
    b.next (now.onState view) = (a.next now).onState view := by
  obtain ⟨control, pending, m⟩ := now
  unfold Setting.next
  cases control with
  | come s => exact twin.come s pending m
  | enter s => exact twin.enter s pending m
  | effect s =>
    refine (congrArg (Moment.answered pending) (twin.effect s m)).trans ?_
    exact Moment.answered_onState pending _
  | choose c yes no | turn c body =>
    simp only [Moment.onState]
    rw [twin.test]
    exact Moment.tested_onState _ _ _ _ _ _
  | visit name e body => exact congrArg (Moment.mk _ _) (twin.bound name e m).symm
  | answer done =>
    cases done with
    | true => exact twin.goOn again m pending
    | false => exact twin.stop m pending
  | fault f => rfl

end Setting.Twin

/-- The moments of a run are those of the run with a record of the handler's calls. -/
theorem Stage.moment_recorded {σ : Type} (game : Game σ) (s : Stage σ) (k : Nat) :
    s.moment game k = (s.recorded.moment game.recording k).onState Machine.unrecorded := by
  induction k with
  | zero => rfl
  | succ k ih =>
    rw [moment_succ, moment_succ, ih]
    exact (s.setting game).twin_unrecorded.next (fun _ => rfl) _

end WormLang
