import WormLang.Program
import WormLang.Proofs.Statement

/-!
What executing a statement does to a machine, one equation per construct. An answer is what execution gives
back: whether the statement ran to its end or the run must stop, or a fault, each with the machine after it.
The equations are stated on answers, so that proofs about runs never open the monad again.
-/
namespace WormLang

/-- What executing a statement gives back. -/
abbrev Answer (σ : Type) := EStateM.Result Fault (Machine σ) Bool

namespace Machine

variable {σ : Type}

def onRun (f : RunState Stmt → RunState Stmt) (m : Machine σ) : Machine σ := { m with run := f m.run }

def bound (name : String) (entity : EntityId) (m : Machine σ) : Machine σ :=
  { m with table := m.table.set name { ty := .entity, value := .entity (.being entity) } }

/-- The machine on which the inside of a conditional statement runs: a live run pays for the entry, and so does
a seeking run that has reached its cursor, which is live from here on. -/
def entered (id : NodeId) (m : Machine σ) : Machine σ :=
  if m.run.seeking then
    if m.run.isAt id then m.onRun fun s => s.resume.charge else m
  else m.onRun RunState.charge

/-- Entering spends a unit, of a live run or of one that becomes live here, or does nothing. -/
theorem entered_cases (id : NodeId) (m : Machine σ) :
    (m.run.seeking = false ∧ m.entered id = m.onRun RunState.charge) ∨
    (m.run.seeking = true ∧ m.run.isAt id = true ∧ m.entered id = m.onRun fun s => s.resume.charge) ∨
    (m.run.seeking = true ∧ m.run.isAt id = false ∧ m.entered id = m) := by
  unfold entered
  cases m.run.seeking with
  | false => exact .inl ⟨rfl, rfl⟩
  | true =>
    cases m.run.isAt id with
    | true => exact .inr (.inl ⟨rfl, rfl, rfl⟩)
    | false => exact .inr (.inr ⟨rfl, rfl, rfl⟩)

theorem host_entered (id : NodeId) (m : Machine σ) : (m.entered id).host = m.host := by
  obtain ⟨-, same⟩ | ⟨-, -, same⟩ | ⟨-, -, same⟩ := m.entered_cases id <;> exact (congrArg host same).trans rfl

theorem table_entered (id : NodeId) (m : Machine σ) : (m.entered id).table = m.table := by
  obtain ⟨-, same⟩ | ⟨-, -, same⟩ | ⟨-, -, same⟩ := m.entered_cases id <;> exact (congrArg table same).trans rfl

end Machine

/-- What an expression can read on a machine. -/
def Setting.env {σ : Type} (setting : Setting σ) (m : Machine σ) : Env σ :=
  { world := setting.game.world, host := m.host, table := m.table, context := setting.context }

namespace Answer

variable {σ : Type}

/-- Go on after a statement that ran to its end; a stop and a fault pass through. -/
def andThen (a : Answer σ) (next : Machine σ → Answer σ) : Answer σ :=
  match a with
  | .ok true m => next m
  | .ok false m => .ok false m
  | .error f m => .error f m

/-- Go on after a test, one way or the other; a fault passes through. -/
def either (a : Answer σ) (yes no : Machine σ → Answer σ) : Answer σ :=
  match a with
  | .ok true m => yes m
  | .ok false m => no m
  | .error f m => .error f m

/-- Leave a conditional statement: a stop inside makes it the cursor, unless there is one already. -/
def leaving (node : Stmt) (a : Answer σ) : Answer σ :=
  match a with
  | .ok true m => .ok true m
  | .ok false m => .ok false (m.onRun (·.suspendAt node))
  | .error f m => .error f m

@[simp] theorem andThen_true (m : Machine σ) (next : Machine σ → Answer σ) :
    andThen (.ok true m) next = next m := rfl

@[simp] theorem andThen_false (m : Machine σ) (next : Machine σ → Answer σ) :
    andThen (.ok false m) next = .ok false m := rfl

@[simp] theorem andThen_error (f : Fault) (m : Machine σ) (next : Machine σ → Answer σ) :
    andThen (.error f m) next = .error f m := rfl

@[simp] theorem either_true (m : Machine σ) (yes no : Machine σ → Answer σ) :
    either (.ok true m) yes no = yes m := rfl

@[simp] theorem either_false (m : Machine σ) (yes no : Machine σ → Answer σ) :
    either (.ok false m) yes no = no m := rfl

@[simp] theorem either_error (f : Fault) (m : Machine σ) (yes no : Machine σ → Answer σ) :
    either (.error f m) yes no = .error f m := rfl

@[simp] theorem leaving_true (node : Stmt) (m : Machine σ) : leaving node (.ok true m) = .ok true m := rfl

@[simp] theorem leaving_false (node : Stmt) (m : Machine σ) :
    leaving node (.ok false m) = .ok false (m.onRun (·.suspendAt node)) := rfl

@[simp] theorem leaving_error (node : Stmt) (f : Fault) (m : Machine σ) :
    leaving node (.error f m) = .error f m := rfl

/-- Every answer is one of the three. -/
theorem cases_on (a : Answer σ) :
    (∃ m, a = .ok true m) ∨ (∃ m, a = .ok false m) ∨ ∃ f m, a = .error f m := by
  cases a with
  | ok b m => cases b <;> simp
  | error f m => simp

section

variable {m : Machine σ} {a : Answer σ}

theorem andThen_eq_true {next : Machine σ → Answer σ} :
    andThen a next = .ok true m ↔ ∃ m', a = .ok true m' ∧ next m' = .ok true m := by
  obtain ⟨m', rfl⟩ | ⟨m', rfl⟩ | ⟨f, m', rfl⟩ := a.cases_on <;> simp

theorem andThen_eq_false {next : Machine σ → Answer σ} :
    andThen a next = .ok false m ↔ a = .ok false m ∨ ∃ m', a = .ok true m' ∧ next m' = .ok false m := by
  obtain ⟨m', rfl⟩ | ⟨m', rfl⟩ | ⟨f, m', rfl⟩ := a.cases_on <;> simp

theorem andThen_eq_error {next : Machine σ → Answer σ} {f : Fault} :
    andThen a next = .error f m ↔ a = .error f m ∨ ∃ m', a = .ok true m' ∧ next m' = .error f m := by
  obtain ⟨m', rfl⟩ | ⟨m', rfl⟩ | ⟨g, m', rfl⟩ := a.cases_on <;> simp

theorem either_eq_ok {yes no : Machine σ → Answer σ} {done : Bool} :
    either a yes no = .ok done m ↔
      ∃ m', (a = .ok true m' ∧ yes m' = .ok done m) ∨ (a = .ok false m' ∧ no m' = .ok done m) := by
  obtain ⟨m', rfl⟩ | ⟨m', rfl⟩ | ⟨f, m', rfl⟩ := a.cases_on <;> simp

theorem leaving_eq_true {node : Stmt} : leaving node a = .ok true m ↔ a = .ok true m := by
  obtain ⟨m', rfl⟩ | ⟨m', rfl⟩ | ⟨f, m', rfl⟩ := a.cases_on <;> simp

theorem leaving_eq_false {node : Stmt} :
    leaving node a = .ok false m ↔ ∃ m', a = .ok false m' ∧ m = m'.onRun (·.suspendAt node) := by
  obtain ⟨m', rfl⟩ | ⟨m', rfl⟩ | ⟨f, m', rfl⟩ := a.cases_on <;> simp [eq_comm]

end

end Answer

open Answer

namespace Exec

variable {σ : Type}

theorem run_andThen (x y : Exec σ Bool) (m : Machine σ) :
    EStateM.run (x >>= fun b => if b = true then y else pure false) m =
      andThen (EStateM.run x m) (EStateM.run y) := by
  rw [EStateM.run_bind]
  cases EStateM.run x m with
  | ok b m' => cases b <;> rfl
  | error f m' => rfl

theorem run_either (x y z : Exec σ Bool) (m : Machine σ) :
    EStateM.run (x >>= fun b => if b = true then y else z) m =
      either (EStateM.run x m) (EStateM.run y) (EStateM.run z) := by
  rw [EStateM.run_bind]
  cases EStateM.run x m with
  | ok b m' => cases b <;> rfl
  | error f m' => rfl

theorem run_ite (p : Prop) [Decidable p] (x y : Exec σ Bool) (m : Machine σ) :
    EStateM.run (if p then x else y) m = if p then EStateM.run x m else EStateM.run y m := by
  split <;> rfl

theorem run_state_bind (f : RunState Stmt → Exec σ Bool) (m : Machine σ) :
    EStateM.run (state >>= f) m = EStateM.run (f m.run) m := rfl

theorem run_leaf (effect : Exec σ Bool) (m : Machine σ) :
    EStateM.run (leaf effect) m =
      if m.run.exhausted then .ok false m
      else if m.run.seeking then .ok true m
      else EStateM.run effect (m.onRun RunState.charge) := by
  unfold leaf
  rw [run_state_bind, run_ite, run_ite]
  rfl

/-- Evaluation changes nothing but the log. -/
theorem run_eval (setting : Setting σ) (e : Expr) (m : Machine σ) :
    EStateM.run (eval setting e) m =
      match EStateM.run ((setting.env m).eval e) m.log with
      | .ok v log => .ok v { m with log }
      | .error f log => .error f { m with log } := by
  cases outcome : (setting.env m).eval e m.log with
  | ok v log =>
    have evaluated : EStateM.run ((setting.env m).eval e) m.log = .ok v log := outcome
    rw [evaluated]
    show eval setting e m = .ok v { m with log }
    unfold eval
    dsimp only
    rw [← Setting.env, outcome]
  | error f log =>
    have evaluated : EStateM.run ((setting.env m).eval e) m.log = .error f log := outcome
    rw [evaluated]
    show eval setting e m = .error f { m with log }
    unfold eval
    dsimp only
    rw [← Setting.env, outcome]

theorem run_conditional (node : Stmt) (id : NodeId) (body : Exec σ Bool) (m : Machine σ) :
    EStateM.run (conditional node id body) m =
      if m.run.exhausted then .ok false (m.onRun (·.suspendAt node))
      else leaving node (EStateM.run body (m.entered id)) := by
  have inside : ∀ m : Machine σ,
      EStateM.run (body >>= fun b => if b = true then pure true
        else update (·.suspendAt node) >>= fun _ => (pure false : Exec σ Bool)) m =
        leaving node (EStateM.run body m) := by
    intro m
    rw [run_either]
    cases EStateM.run body m with
    | ok b m' => cases b <;> rfl
    | error f m' => rfl
  unfold conditional
  rw [run_state_bind, run_ite]
  split
  · rfl
  · rw [← inside]
    unfold Machine.entered
    split
    · split <;> rfl
    · rfl

end Exec

namespace Setting

variable {σ : Type} (setting : Setting σ)

def execute (s : Stmt) (m : Machine σ) : Answer σ := EStateM.run (Exec.exec setting s) m

def executeAll (body : List Stmt) (m : Machine σ) : Answer σ := EStateM.run (Exec.execAll setting body) m

def test (c : Expr) (m : Machine σ) : Answer σ :=
  EStateM.run (do return (← Exec.eval setting c).toBool : Exec σ Bool) m

/-- What a leaf does once it is paid for; other statements have no effect of their own. -/
def effect : Stmt → Exec σ Bool
  | .assignment at? name e => Exec.assign setting at? name e
  | .print _ e => Exec.printValue setting e
  | .action _ a => Exec.act setting a
  | _ => pure true

/-- The turns of a while loop, at most `n` of them. -/
def turns (c : Expr) (body : Stmt) (n : Nat) (m : Machine σ) : Answer σ :=
  EStateM.run (Exec.whileLoop (do return (← Exec.eval setting c).toBool) (Exec.exec setting body) n) m

/-- The turns of a foreach loop over the given entities. -/
def visits (name : String) (body : Stmt) (entities : List EntityId) (m : Machine σ) : Answer σ :=
  EStateM.run (Exec.eachLoop (Exec.bindEntity name) (Exec.exec setting body) entities) m

def members (at? : Option Position) (kind : LoopKind) (name : String) (m : Machine σ) :
    Except Fault (List EntityId) :=
  match m.table.get? name with
  | none => .error { cause := .loopVanished name, position := at? }
  | some v =>
    if v.ty = .entity then
      match setting.context.resident setting.game.world m.host with
      | .ok _ => setting.game.world.members m.host kind
      | .error f => .error f
    else .error { cause := .loopMismatch name v.ty, position := at? }

@[simp] theorem executeAll_nil (m : Machine σ) : setting.executeAll [] m = .ok true m := rfl

theorem executeAll_cons (s : Stmt) (rest : List Stmt) (m : Machine σ) :
    setting.executeAll (s :: rest) m = andThen (setting.execute s m) (setting.executeAll rest) := by
  exact Exec.run_andThen _ _ m

theorem executeAll_append (before after : List Stmt) (m : Machine σ) :
    setting.executeAll (before ++ after) m =
      andThen (setting.executeAll before m) (setting.executeAll after) := by
  induction before generalizing m with
  | nil => simp
  | cons s rest ih =>
    rw [List.cons_append, executeAll_cons, executeAll_cons]
    obtain ⟨m', h⟩ | ⟨m', h⟩ | ⟨f, m', h⟩ := (setting.execute s m).cases_on
    · simp [h, ih]
    · simp [h]
    · simp [h]

theorem execute_sequence (at? : Option Position) (body : List Stmt) (m : Machine σ) :
    setting.execute (.sequence at? body) m = setting.executeAll body m := rfl

theorem execute_placeholder (fault : Fault) (m : Machine σ) :
    setting.execute (.placeholder fault) m =
      .error { cause := .placeholderExecuted, position := fault.position } m := rfl

/-- A leaf stops a run without budget, is skipped by a seeking run, and takes effect in a live one that pays. -/
theorem execute_leaf {s : Stmt} (isLeaf : s.isLeaf = true) (m : Machine σ) :
    setting.execute s m =
      if m.run.exhausted then .ok false m
      else if m.run.seeking then .ok true m
      else EStateM.run (setting.effect s) (m.onRun RunState.charge) := by
  cases s with
  | assignment at? name e => exact Exec.run_leaf _ m
  | print at? e => exact Exec.run_leaf _ m
  | action at? a => exact Exec.run_leaf _ m
  | _ => cases isLeaf

/-- The inside of a conditional statement, on a machine that has entered it. A seeking run walks through the branches of
an if, and through the body of a while before its turns, until the cursor is found. Other statements have no inside. -/
def interior (s : Stmt) (m : Machine σ) : Answer σ :=
  match s with
  | .branch _ _ c yes no =>
    if m.run.seeking then
      andThen (setting.execute yes m) fun m' => if m'.run.seeking then setting.execute no m' else .ok true m'
    else either (setting.test c m) (setting.execute yes) (setting.execute no)
  | .loop _ _ c body =>
    if m.run.seeking then
      andThen (setting.execute body m) fun m' =>
        if m'.run.seeking then .ok true m' else setting.turns c body m'.run.budget.toNat m'
    else setting.turns c body m.run.budget.toNat m
  | .each _ at? kind name body =>
    match setting.members at? kind name m with
    | .ok entities => setting.visits name body entities m
    | .error f => .error f m
  | _ => .ok true m

private theorem run_branch (id : NodeId) (at? : Option Position) (c : Expr) (yes no : Stmt) (m : Machine σ) :
    setting.execute (.branch id at? c yes no) m =
      if m.run.exhausted then .ok false (m.onRun (·.suspendAt (.branch id at? c yes no)))
      else leaving (.branch id at? c yes no) (setting.interior (.branch id at? c yes no) (m.entered id)) := by
  refine (Exec.run_conditional _ _ _ m).trans ?_
  congr 2
  rw [Exec.run_state_bind, Exec.run_ite, interior]
  split
  · rw [Exec.run_andThen]
    congr 1
    funext m'
    rw [Exec.run_state_bind, Exec.run_ite]
    rfl
  · rw [EStateM.run_bind]
    unfold test
    rw [EStateM.run_bind]
    cases EStateM.run (Exec.eval setting c) (m.entered id) with
    | ok v m' =>
      dsimp only
      cases v.toBool <;> rfl
    | error f m' => rfl

private theorem run_loop (id : NodeId) (at? : Option Position) (c : Expr) (body : Stmt) (m : Machine σ) :
    setting.execute (.loop id at? c body) m =
      if m.run.exhausted then .ok false (m.onRun (·.suspendAt (.loop id at? c body)))
      else leaving (.loop id at? c body) (setting.interior (.loop id at? c body) (m.entered id)) := by
  refine (Exec.run_conditional _ _ _ m).trans ?_
  congr 2
  rw [Exec.run_state_bind, Exec.run_ite, interior]
  split
  · rw [Exec.run_andThen]
    congr 1
    funext m'
    rw [Exec.run_state_bind, Exec.run_ite]
    rfl
  · rfl

private theorem run_loopMembers (at? : Option Position) (kind : LoopKind) (name : String) (m : Machine σ) :
    EStateM.run (Exec.loopMembers setting at? kind name) m =
      match setting.members at? kind name m with
      | .ok entities => .ok entities m
      | .error f => .error f m := by
  unfold Exec.loopMembers members
  rw [EStateM.run_bind, EStateM.run_get]
  dsimp only
  cases m.table.get? name with
  | none => rfl
  | some v =>
    dsimp only
    split
    · rw [EStateM.run_bind, EStateM.run_get]
      dsimp only
      cases setting.context.resident setting.game.world m.host with
      | error f => rfl
      | ok me =>
        cases setting.game.world.members m.host kind <;> rfl
    · rfl

private theorem run_each (id : NodeId) (at? : Option Position) (kind : LoopKind) (name : String) (body : Stmt)
    (m : Machine σ) :
    setting.execute (.each id at? kind name body) m =
      if m.run.exhausted then .ok false (m.onRun (·.suspendAt (.each id at? kind name body)))
      else leaving (.each id at? kind name body)
        (setting.interior (.each id at? kind name body) (m.entered id)) := by
  refine (Exec.run_conditional _ _ _ m).trans ?_
  congr 2
  rw [EStateM.run_bind, run_loopMembers, interior]
  cases setting.members at? kind name (m.entered id) <;> rfl

/-- A conditional statement stops a run without budget and is its cursor then. Else it is entered, and left after what
is inside it. -/
theorem execute_conditional {s : Stmt} {id : NodeId} (own : s.id? = some id) (m : Machine σ) :
    setting.execute s m =
      if m.run.exhausted then .ok false (m.onRun (·.suspendAt s))
      else leaving s (setting.interior s (m.entered id)) := by
  cases s with
  | branch other at? c yes no =>
    cases own
    exact setting.run_branch id at? c yes no m
  | loop other at? c body =>
    cases own
    exact setting.run_loop id at? c body m
  | each other at? kind name body =>
    cases own
    exact setting.run_each id at? kind name body m
  | _ => cases own

theorem execute_of_exhausted {s : Stmt} {id : NodeId} (own : s.id? = some id) {m : Machine σ}
    (used : m.run.exhausted = true) : setting.execute s m = .ok false (m.onRun (·.suspendAt s)) := by
  rw [setting.execute_conditional own, if_pos used]

theorem execute_of_paid {s : Stmt} {id : NodeId} (own : s.id? = some id) {m : Machine σ}
    (paid : m.run.exhausted = false) :
    setting.execute s m = leaving s (setting.interior s (m.entered id)) := by
  rw [setting.execute_conditional own, paid, if_neg (by simp)]

/-- A conditional statement that comes to its end has been paid for, and so does its inside. -/
theorem paid_and_done_inside {s : Stmt} {id : NodeId} {m m' : Machine σ} (done : setting.execute s m = .ok true m')
    (own : s.id? = some id) : m.run.exhausted = false ∧ setting.interior s (m.entered id) = .ok true m' := by
  cases paid : m.run.exhausted with
  | true =>
    rw [setting.execute_of_exhausted own paid] at done
    cases done
  | false =>
    rw [setting.execute_of_paid own paid] at done
    exact ⟨rfl, leaving_eq_true.mp done⟩

/-- A conditional statement stops before it is entered, because the budget is used up, or on its inside. -/
theorem exhausted_or_stops_inside {s : Stmt} {id : NodeId} {m m' : Machine σ}
    (stops : setting.execute s m = .ok false m') (own : s.id? = some id) :
    m.run.exhausted = true ∧ m' = m.onRun (·.suspendAt s) ∨
      m.run.exhausted = false ∧
        ∃ inner, setting.interior s (m.entered id) = .ok false inner ∧ m' = inner.onRun (·.suspendAt s) := by
  cases paid : m.run.exhausted with
  | true =>
    rw [setting.execute_of_exhausted own paid] at stops
    cases stops
    exact .inl ⟨rfl, rfl⟩
  | false =>
    rw [setting.execute_of_paid own paid] at stops
    exact .inr ⟨rfl, leaving_eq_false.mp stops⟩

section

variable {id : NodeId} {at? : Option Position} {c : Expr} {yes no body : Stmt} {kind : LoopKind} {name : String}
  {m : Machine σ} (paid : m.run.exhausted = false)

include paid

theorem execute_branch_of_seeking (seeking : (m.entered id).run.seeking = true) :
    setting.execute (.branch id at? c yes no) m = leaving (.branch id at? c yes no)
      (andThen (setting.execute yes (m.entered id)) fun m' =>
        if m'.run.seeking then setting.execute no m' else .ok true m') :=
  Eq.trans (setting.execute_of_paid rfl paid) (congrArg _ (if_pos seeking))

theorem execute_branch_of_live (live : (m.entered id).run.seeking = false) :
    setting.execute (.branch id at? c yes no) m = leaving (.branch id at? c yes no)
      (either (setting.test c (m.entered id)) (setting.execute yes) (setting.execute no)) :=
  Eq.trans (setting.execute_of_paid rfl paid) (congrArg _ (if_neg (by simp [live])))

theorem execute_loop_of_seeking (seeking : (m.entered id).run.seeking = true) :
    setting.execute (.loop id at? c body) m = leaving (.loop id at? c body)
      (andThen (setting.execute body (m.entered id)) fun m' =>
        if m'.run.seeking then .ok true m' else setting.turns c body m'.run.budget.toNat m') :=
  Eq.trans (setting.execute_of_paid rfl paid) (congrArg _ (if_pos seeking))

theorem execute_loop_of_live (live : (m.entered id).run.seeking = false) :
    setting.execute (.loop id at? c body) m = leaving (.loop id at? c body)
      (setting.turns c body (m.entered id).run.budget.toNat (m.entered id)) :=
  Eq.trans (setting.execute_of_paid rfl paid) (congrArg _ (if_neg (by simp [live])))

theorem execute_each_of_ok {entities : List EntityId}
    (fetched : setting.members at? kind name (m.entered id) = .ok entities) :
    setting.execute (.each id at? kind name body) m = leaving (.each id at? kind name body)
      (setting.visits name body entities (m.entered id)) := by
  refine Eq.trans (setting.execute_of_paid rfl paid) (congrArg _ ?_)
  rw [interior, fetched]

end

@[simp] theorem turns_zero (c : Expr) (body : Stmt) (m : Machine σ) :
    setting.turns c body 0 m = .ok false m := rfl

theorem turns_succ (c : Expr) (body : Stmt) (n : Nat) (m : Machine σ) :
    setting.turns c body (n + 1) m =
      if m.run.exhausted then .ok false m
      else either (setting.test c (m.onRun RunState.charge))
        (fun m' => andThen (setting.execute body m') (setting.turns c body n)) (.ok true) := by
  unfold turns
  rw [Exec.whileLoop, Exec.run_state_bind, Exec.run_ite]
  split
  · rfl
  · show EStateM.run (_ >>= fun b => if b = true then _ else pure true) (m.onRun RunState.charge) = _
    rw [Exec.run_either]
    congr 1
    funext m'
    exact Exec.run_andThen _ _ m'

@[simp] theorem visits_nil (name : String) (body : Stmt) (m : Machine σ) :
    setting.visits name body [] m = .ok true m := rfl

theorem visits_cons (name : String) (body : Stmt) (e : EntityId) (rest : List EntityId) (m : Machine σ) :
    setting.visits name body (e :: rest) m =
      if m.run.exhausted then .ok false m
      else if m.run.seeking then
        andThen (setting.execute body (m.bound name e)) fun m' =>
          if m'.run.seeking then .ok true m' else setting.visits name body rest m'
      else andThen (setting.execute body ((m.onRun RunState.charge).bound name e))
        (setting.visits name body rest) := by
  unfold visits
  rw [Exec.eachLoop, Exec.run_state_bind, Exec.run_ite]
  split
  · rfl
  · cases seeking : m.run.seeking with
    | true =>
      show EStateM.run (_ >>= fun b => if b = true then _ else pure false) (m.bound name e) = _
      rw [Exec.run_andThen]
      congr 1
      funext m'
      rw [Exec.run_state_bind, Exec.run_ite]
      rfl
    | false =>
      show EStateM.run (_ >>= fun b => if b = true then _ else pure false)
        ((m.onRun RunState.charge).bound name e) = _
      rw [Exec.run_andThen]
      congr 1

end Setting

end WormLang
