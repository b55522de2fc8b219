import WormLang.Proofs.Execution.Run

/-!
The meaning of statements without budget, cursor or seeking, as rules with a cost: one unit for each statement
entered that is no sequence, one for each test of a while loop, one for each turn of a foreach loop. A statement
that is refused or fails has no rule, and neither has a loop that never ends.

A fresh run is this meaning, cut off where the budget ends: it completes iff a derivation exists whose cost the
budget pays for.
-/
namespace WormLang

open Answer

/-- What a statement can change: variables, the host state and the debug log. -/
structure Scene (σ : Type) where
  table : Table Variable
  host : σ
  log : Log

namespace Scene

variable {σ : Type}

def bound (name : String) (entity : EntityId) (a : Scene σ) : Scene σ :=
  { a with table := a.table.set name { ty := .entity, value := .entity (.being entity) } }

def env (a : Scene σ) (setting : Setting σ) : Env σ :=
  { world := setting.game.world, host := a.host, table := a.table, context := setting.context }

/-- The machine of a live run with a budget. -/
def live (a : Scene σ) (budget : Nat) : Machine σ :=
  { table := a.table, host := a.host, log := a.log, run := { budget := budget } }

end Scene

/-- A part of a run: statements, and the turns of loops that were entered. -/
inductive Task where
  | stmt (s : Stmt)
  | stmts (body : List Stmt)
  | turns (condition : Expr) (body : Stmt)
  | visits (name : String) (body : Stmt) (entities : List EntityId)

namespace Setting

variable {σ : Type} (setting : Setting σ)

/-- An expression has a value; its evaluation may write to the log. -/
def Evaluates (a : Scene σ) (e : Expr) (v : Value) (b : Scene σ) : Prop :=
  ∃ log, EStateM.run ((a.env setting).eval e) a.log = .ok v log ∧ b = { a with log }

/-- What an action asks the handler for, after its operand is evaluated. -/
inductive Asks (a : Scene σ) : Action → Deed → Scene σ → Prop
  | turn {angle : Expr} {v : Value} {b : Scene σ} (value : setting.Evaluates a angle v b) :
    Asks a (.turn angle) (.turn v.toNumber) b
  | fire {power : Expr} {v : Value} {n : Int} {b : Scene σ} (value : setting.Evaluates a power v b)
    (whole : Exec.wholePart v.toNumber = .ok n) : Asks a (.fire power) (.fire n) b
  | move : Asks a .move .move a
  | jump : Asks a .jump .jump a
  | toggleWeapon : Asks a .toggleWeapon .toggleWeapon a

/-- What a leaf does. An action that is refused has no rule. -/
inductive Acts (a : Scene σ) : Stmt → Scene σ → Prop
  | assignment {at? : Option Position} {name : String} {e : Expr} {v : Value} {w : Variable} {b : Scene σ}
    (value : setting.Evaluates a e v b) (declared : a.table.get? name = some w) (same : v.ty = w.ty) :
    Acts a (.assignment at? name e) { b with table := b.table.set name { w with value := v } }
  | print {at? : Option Position} {e : Expr} {v : Value} {b : Scene σ} {me : EntityId} {text : String} {host : σ}
    (value : setting.Evaluates a e v b) (actor : setting.context.actor = .ok me)
    (shown : v.display (setting.game.world.written b.host) (setting.game.world.shown b.host) = .ok text)
    (printed : setting.game.handler.print text b.host = (.ok (), host)) :
    Acts a (.print at? e) { b with host }
  | action {at? : Option Position} {act : Action} {deed : Deed} {b : Scene σ} {me : EntityId} {host : σ}
    (actor : setting.context.actor = .ok me) (asked : setting.Asks a act deed b)
    (performed : setting.game.handler.perform me deed b.host = (.ok true, host)) :
    Acts a (.action at? act) { b with host }
  | skip {at? : Option Position} {me : EntityId} (actor : setting.context.actor = .ok me) :
    Acts a (.action at? .skip) a

/-- A part of a run leads from a scene to a scene at a cost. -/
inductive Runs : Task → Scene σ → Nat → Scene σ → Prop
  | leaf {s : Stmt} {a b : Scene σ} (acts : setting.Acts a s b) : Runs (.stmt s) a 1 b
  | sequence {at? : Option Position} {body : List Stmt} {a b : Scene σ} {k : Nat}
    (inside : Runs (.stmts body) a k b) : Runs (.stmt (.sequence at? body)) a k b
  | yes {id : NodeId} {at? : Option Position} {c : Expr} {yes no : Stmt} {a b d : Scene σ} {v : Value} {k : Nat}
    (value : setting.Evaluates a c v b) (holds : v.toBool = true) (inside : Runs (.stmt yes) b k d) :
    Runs (.stmt (.branch id at? c yes no)) a (1 + k) d
  | no {id : NodeId} {at? : Option Position} {c : Expr} {yes no : Stmt} {a b d : Scene σ} {v : Value} {k : Nat}
    (value : setting.Evaluates a c v b) (fails : v.toBool = false) (inside : Runs (.stmt no) b k d) :
    Runs (.stmt (.branch id at? c yes no)) a (1 + k) d
  | loop {id : NodeId} {at? : Option Position} {c : Expr} {body : Stmt} {a b : Scene σ} {k : Nat}
    (inside : Runs (.turns c body) a k b) : Runs (.stmt (.loop id at? c body)) a (1 + k) b
  | each {id : NodeId} {at? : Option Position} {kind : LoopKind} {name : String} {body : Stmt} {a b : Scene σ}
    {k : Nat} {w : Variable} {me : EntityId} {entities : List EntityId} (declared : a.table.get? name = some w)
    (ty : w.ty = .entity) (resident : setting.context.resident setting.game.world a.host = .ok me)
    (fetched : setting.game.world.members a.host kind = .ok entities)
    (inside : Runs (.visits name body entities) a k b) : Runs (.stmt (.each id at? kind name body)) a (1 + k) b
  | nil {a : Scene σ} : Runs (.stmts []) a 0 a
  | cons {s : Stmt} {rest : List Stmt} {a b d : Scene σ} {k l : Nat} (first : Runs (.stmt s) a k b)
    (second : Runs (.stmts rest) b l d) : Runs (.stmts (s :: rest)) a (k + l) d
  | ended {c : Expr} {body : Stmt} {a b : Scene σ} {v : Value} (value : setting.Evaluates a c v b)
    (fails : v.toBool = false) : Runs (.turns c body) a 1 b
  | turn {c : Expr} {body : Stmt} {a b d e : Scene σ} {v : Value} {k l : Nat} (value : setting.Evaluates a c v b)
    (holds : v.toBool = true) (inside : Runs (.stmt body) b k d) (later : Runs (.turns c body) d l e) :
    Runs (.turns c body) a (1 + k + l) e
  | none {name : String} {body : Stmt} {a : Scene σ} : Runs (.visits name body []) a 0 a
  | visit {name : String} {body : Stmt} {entity : EntityId} {rest : List EntityId} {a b d : Scene σ} {k l : Nat}
    (inside : Runs (.stmt body) (a.bound name entity) k b) (later : Runs (.visits name body rest) b l d) :
    Runs (.visits name body (entity :: rest)) a (1 + k + l) d

end Setting

namespace Exec

variable {σ α β : Type} (setting : Setting σ)

theorem run_bind_ok {x : Exec σ α} {f : α → Exec σ β} {m m'' : Machine σ} {value : β} :
    EStateM.run (x >>= f) m = .ok value m'' ↔
      ∃ v m', EStateM.run x m = .ok v m' ∧ EStateM.run (f v) m' = .ok value m'' := by
  rw [EStateM.run_bind]
  cases EStateM.run x m with
  | error f m' => simp
  | ok v m' =>
    constructor
    · intro ran
      exact ⟨v, m', rfl, ran⟩
    · rintro ⟨_, _, same, ran⟩
      cases same
      exact ran

theorem run_ofExcept_ok {x : Except Fault α} {m m' : Machine σ} {v : α} :
    EStateM.run (ofExcept x) m = .ok v m' ↔ x = .ok v ∧ m' = m := by
  cases x with
  | error f =>
    constructor
    · intro failed
      cases failed
    · rintro ⟨failed, -⟩
      cases failed
  | ok w =>
    constructor
    · intro ran
      cases ran
      exact ⟨rfl, rfl⟩
    · rintro ⟨same, rfl⟩
      cases same
      rfl

theorem run_eval_ok {a : Scene σ} {n : Nat} {e : Expr} {v : Value} {m : Machine σ} :
    EStateM.run (eval setting e) (a.live n) = .ok v m ↔ ∃ b, setting.Evaluates a e v b ∧ m = b.live n := by
  rw [run_eval]
  have same : setting.env (a.live n) = a.env setting := rfl
  rw [same, show (a.live n).log = a.log from rfl]
  unfold Setting.Evaluates
  cases EStateM.run ((a.env setting).eval e) a.log with
  | error f log => simp
  | ok w log =>
    constructor
    · intro ran
      cases ran
      exact ⟨{ a with log }, ⟨log, rfl, rfl⟩, rfl⟩
    · rintro ⟨b, ⟨_, same, rfl⟩, rfl⟩
      cases same
      rfl

theorem run_perform_ok {a : Scene σ} {n : Nat} {me : EntityId} {deed : Deed} {done : Bool} {m : Machine σ} :
    EStateM.run (perform setting me deed) (a.live n) = .ok done m ↔
      ∃ host, setting.game.handler.perform me deed a.host = (.ok done, host) ∧ m = { a with host }.live n := by
  obtain ⟨answer, host, performed⟩ : ∃ answer host, setting.game.handler.perform me deed a.host = (answer, host) :=
    ⟨_, _, rfl⟩
  have asked : setting.game.handler.perform me deed (a.live n).host = (answer, host) := performed
  rw [performed]
  cases answer with
  | error f =>
    have out : EStateM.run (perform setting me deed) (a.live n) = .error f ({ a with host }.live n) := by
      show perform setting me deed (a.live n) = _
      rw [perform, asked]
      rfl
    simp [out]
  | ok answer =>
    have out : EStateM.run (perform setting me deed) (a.live n) = .ok answer ({ a with host }.live n) := by
      show perform setting me deed (a.live n) = _
      rw [perform, asked]
      rfl
    rw [out]
    constructor
    · intro ran
      cases ran
      exact ⟨host, rfl, rfl⟩
    · rintro ⟨_, same, rfl⟩
      cases same
      rfl

theorem run_printText_ok {a : Scene σ} {n : Nat} {text : String} {u : Unit} {m : Machine σ} :
    EStateM.run (printText setting text) (a.live n) = .ok u m ↔
      ∃ host, setting.game.handler.print text a.host = (.ok (), host) ∧ m = { a with host }.live n := by
  obtain ⟨answer, host, printed⟩ : ∃ answer host, setting.game.handler.print text a.host = (answer, host) :=
    ⟨_, _, rfl⟩
  have asked : setting.game.handler.print text (a.live n).host = (answer, host) := printed
  rw [printed]
  cases answer with
  | error f =>
    have out : EStateM.run (printText setting text) (a.live n) = .error f ({ a with host }.live n) := by
      show printText setting text (a.live n) = _
      rw [printText, asked]
      rfl
    simp [out]
  | ok answer =>
    have out : EStateM.run (printText setting text) (a.live n) = .ok answer ({ a with host }.live n) := by
      show printText setting text (a.live n) = _
      rw [printText, asked]
      rfl
    rw [out]
    constructor
    · intro ran
      cases ran
      exact ⟨host, rfl, rfl⟩
    · rintro ⟨_, same, rfl⟩
      cases same
      rfl

theorem run_assign_ok {at? : Option Position} {name : String} {e : Expr} {a : Scene σ} {n : Nat} {m : Machine σ} :
    EStateM.run (assign setting at? name e) (a.live n) = .ok true m ↔
      ∃ b, setting.Acts a (.assignment at? name e) b ∧ m = b.live n := by
  unfold assign
  rw [run_bind_ok]
  constructor
  · rintro ⟨_, _, got, ran⟩
    cases got
    split at ran
    · cases ran
    · next w declared =>
      obtain ⟨v, _, evaluated, ran⟩ := run_bind_ok.mp ran
      obtain ⟨b, value, rfl⟩ := (run_eval_ok setting).mp evaluated
      split at ran
      · next accepted =>
        cases ran
        exact ⟨_, .assignment value declared (beq_iff_eq.mp accepted), rfl⟩
      · cases ran
  · rintro ⟨_, acts, rfl⟩
    cases acts with
    | @assignment _ _ _ v w b value declared same =>
      refine ⟨a.live n, a.live n, rfl, ?_⟩
      rw [show (a.live n).table.get? name = some w from declared]
      dsimp only
      refine run_bind_ok.mpr ⟨v, b.live n, (run_eval_ok setting).mpr ⟨b, value, rfl⟩, ?_⟩
      rw [if_pos (show w.accepts v = true from beq_iff_eq.mpr same)]
      rfl

theorem run_printValue_ok {at? : Option Position} {e : Expr} {a : Scene σ} {n : Nat} {m : Machine σ} :
    EStateM.run (printValue setting e) (a.live n) = .ok true m ↔
      ∃ b, setting.Acts a (.print at? e) b ∧ m = b.live n := by
  unfold printValue
  constructor
  · intro ran
    obtain ⟨v, _, evaluated, ran⟩ := run_bind_ok.mp ran
    obtain ⟨b, value, rfl⟩ := (run_eval_ok setting).mp evaluated
    obtain ⟨me, _, found, ran⟩ := run_bind_ok.mp ran
    obtain ⟨actor, rfl⟩ := run_ofExcept_ok.mp found
    obtain ⟨_, _, got, ran⟩ := run_bind_ok.mp ran
    cases got
    obtain ⟨text, _, written, ran⟩ := run_bind_ok.mp ran
    obtain ⟨shown, rfl⟩ := run_ofExcept_ok.mp written
    obtain ⟨_, _, asked, ran⟩ := run_bind_ok.mp ran
    obtain ⟨host, printed, rfl⟩ := (run_printText_ok setting).mp asked
    cases ran
    exact ⟨_, .print value actor shown printed, rfl⟩
  · rintro ⟨_, acts, rfl⟩
    cases acts with
    | @print _ _ v b me text host value actor shown printed =>
      refine run_bind_ok.mpr ⟨v, b.live n, (run_eval_ok setting).mpr ⟨b, value, rfl⟩, ?_⟩
      refine run_bind_ok.mpr ⟨me, b.live n, run_ofExcept_ok.mpr ⟨actor, rfl⟩, ?_⟩
      refine run_bind_ok.mpr ⟨b.live n, b.live n, rfl, ?_⟩
      refine run_bind_ok.mpr ⟨text, b.live n, run_ofExcept_ok.mpr ⟨shown, rfl⟩, ?_⟩
      exact run_bind_ok.mpr ⟨(), _, (run_printText_ok setting).mpr ⟨host, printed, rfl⟩, rfl⟩

/-- An action without operand asks for its deed at once. -/
theorem run_attempt_ok {me : EntityId} {act : Action} {a : Scene σ} {n : Nat} {m : Machine σ} :
    EStateM.run (attempt setting me act) (a.live n) = .ok true m ↔
      (∃ deed b host, setting.Asks a act deed b ∧
        setting.game.handler.perform me deed b.host = (.ok true, host) ∧ m = { b with host }.live n) ∨
      act = .skip ∧ m = a.live n := by
  cases act with
  | turn angle =>
    unfold attempt
    rw [run_bind_ok]
    constructor
    · rintro ⟨v, _, evaluated, ran⟩
      obtain ⟨b, value, rfl⟩ := (run_eval_ok setting).mp evaluated
      obtain ⟨host, performed, rfl⟩ := (run_perform_ok setting).mp ran
      exact .inl ⟨_, b, host, .turn value, performed, rfl⟩
    · rintro (⟨_, b, host, ⟨value⟩, performed, rfl⟩ | ⟨skip, -⟩)
      · exact ⟨_, b.live n, (run_eval_ok setting).mpr ⟨b, value, rfl⟩,
          (run_perform_ok setting).mpr ⟨host, performed, rfl⟩⟩
      · cases skip
  | fire power =>
    unfold attempt
    rw [run_bind_ok]
    constructor
    · rintro ⟨v, _, evaluated, ran⟩
      obtain ⟨b, value, rfl⟩ := (run_eval_ok setting).mp evaluated
      obtain ⟨w, _, cut, ran⟩ := run_bind_ok.mp ran
      obtain ⟨whole, rfl⟩ := run_ofExcept_ok.mp cut
      obtain ⟨host, performed, rfl⟩ := (run_perform_ok setting).mp ran
      exact .inl ⟨_, b, host, .fire value whole, performed, rfl⟩
    · rintro (⟨_, b, host, asked, performed, rfl⟩ | ⟨skip, -⟩)
      · cases asked with
        | fire value whole =>
          exact ⟨_, b.live n, (run_eval_ok setting).mpr ⟨b, value, rfl⟩, run_bind_ok.mpr
            ⟨_, b.live n, run_ofExcept_ok.mpr ⟨whole, rfl⟩, (run_perform_ok setting).mpr ⟨host, performed, rfl⟩⟩⟩
      · cases skip
  | skip =>
    unfold attempt
    constructor
    · intro ran
      cases ran
      exact .inr ⟨rfl, rfl⟩
    · rintro (⟨_, b, host, asked, -, -⟩ | ⟨-, rfl⟩)
      · cases asked
      · rfl
  | move | jump | toggleWeapon =>
    unfold attempt
    rw [run_perform_ok]
    constructor
    · rintro ⟨host, performed, rfl⟩
      exact .inl ⟨_, a, host, by constructor, performed, rfl⟩
    · rintro (⟨_, b, host, asked, performed, rfl⟩ | ⟨skip, -⟩)
      · cases asked
        exact ⟨host, performed, rfl⟩
      · cases skip

theorem run_act_ok {at? : Option Position} {act : Action} {a : Scene σ} {n : Nat} {m : Machine σ} :
    EStateM.run (Exec.act setting act) (a.live n) = .ok true m ↔
      ∃ b, setting.Acts a (.action at? act) b ∧ m = b.live n := by
  unfold Exec.act
  constructor
  · intro ran
    obtain ⟨me, _, found, ran⟩ := run_bind_ok.mp ran
    obtain ⟨actor, rfl⟩ := run_ofExcept_ok.mp found
    obtain ⟨done, m', attempted, ran⟩ := run_bind_ok.mp ran
    cases done with
    | false => cases ran
    | true =>
      cases ran
      obtain ⟨deed, b, host, asked, performed, rfl⟩ | ⟨rfl, rfl⟩ := (run_attempt_ok setting).mp attempted
      · exact ⟨_, .action actor asked performed, rfl⟩
      · exact ⟨a, .skip actor, rfl⟩
  · rintro ⟨_, acts, rfl⟩
    cases acts with
    | @action _ _ deed b me host actor asked performed =>
      refine run_bind_ok.mpr ⟨me, a.live n, run_ofExcept_ok.mpr ⟨actor, rfl⟩, ?_⟩
      refine run_bind_ok.mpr ⟨true, _, (run_attempt_ok setting).mpr (.inl ⟨deed, b, host, asked, performed, rfl⟩), rfl⟩
    | @skip _ me actor =>
      refine run_bind_ok.mpr ⟨me, a.live n, run_ofExcept_ok.mpr ⟨actor, rfl⟩, ?_⟩
      exact run_bind_ok.mpr ⟨true, _, (run_attempt_ok setting).mpr (.inr ⟨rfl, rfl⟩), rfl⟩

end Exec

namespace Scene

variable {σ : Type} (a : Scene σ)

@[simp] theorem exhausted_live_zero : (a.live 0).run.exhausted = true := rfl

@[simp] theorem exhausted_live_succ (n : Nat) : (a.live (n + 1)).run.exhausted = false := by
  show decide (((n + 1 : Nat) : Int) ≤ 0) = false
  exact decide_eq_false (by omega)

@[simp] theorem seeking_live (n : Nat) : (a.live n).run.seeking = false := rfl

@[simp] theorem budget_live (n : Nat) : (a.live n).run.budget.toNat = n := rfl

@[simp] theorem charge_live (n : Nat) : (a.live (n + 1)).onRun RunState.charge = a.live n := by
  simp [live, Machine.onRun, RunState.charge]

@[simp] theorem entered_live (id : NodeId) (n : Nat) : (a.live (n + 1)).entered id = a.live n := by
  simp [Machine.entered]

theorem bound_live (name : String) (e : EntityId) (n : Nat) : (a.live n).bound name e = (a.bound name e).live n := rfl

end Scene

namespace Setting

variable {σ : Type} (setting : Setting σ)

/-- A machine of a live run that can still pay. -/
theorem exists_succ_of_paid {a : Scene σ} {n : Nat} (paid : (a.live n).run.exhausted = false) : ∃ k, n = k + 1 := by
  cases n with
  | zero =>
    rw [a.exhausted_live_zero] at paid
    cases paid
  | succ k => exact ⟨k, rfl⟩

/-- A live run pays a unit for a conditional statement and goes on inside it. -/
theorem execute_live_succ {s : Stmt} {id : NodeId} (own : s.id? = some id) (a : Scene σ) (n : Nat) :
    setting.execute s (a.live (n + 1)) = leaving s (setting.interior s (a.live n)) := by
  rw [setting.execute_of_paid own (a.exhausted_live_succ n), a.entered_live]

theorem effect_ok {s : Stmt} (isLeaf : s.isLeaf = true) {a : Scene σ} {n : Nat} {m : Machine σ} :
    EStateM.run (setting.effect s) (a.live n) = .ok true m ↔ ∃ b, setting.Acts a s b ∧ m = b.live n := by
  cases s with
  | assignment at? name e => exact Exec.run_assign_ok setting
  | print at? e => exact Exec.run_printValue_ok setting
  | action at? act => exact Exec.run_act_ok setting
  | _ => cases isLeaf

theorem test_ok {c : Expr} {a : Scene σ} {n : Nat} {holds : Bool} {m : Machine σ} :
    setting.test c (a.live n) = .ok holds m ↔
      ∃ v b, setting.Evaluates a c v b ∧ v.toBool = holds ∧ m = b.live n := by
  unfold test
  rw [Exec.run_bind_ok]
  constructor
  · rintro ⟨v, _, evaluated, ran⟩
    obtain ⟨b, value, rfl⟩ := (Exec.run_eval_ok setting).mp evaluated
    cases ran
    exact ⟨v, b, value, rfl, rfl⟩
  · rintro ⟨v, b, value, rfl, rfl⟩
    exact ⟨v, b.live n, (Exec.run_eval_ok setting).mpr ⟨b, value, rfl⟩, rfl⟩

theorem members_live {at? : Option Position} {kind : LoopKind} {name : String} {a : Scene σ} {n : Nat}
    {entities : List EntityId} :
    setting.members at? kind name (a.live n) = .ok entities ↔
      (∃ w, a.table.get? name = some w ∧ w.ty = .entity) ∧
        (∃ me, setting.context.resident setting.game.world a.host = .ok me) ∧
        setting.game.world.members a.host kind = .ok entities := by
  unfold members
  rw [show (a.live n).table = a.table from rfl, show (a.live n).host = a.host from rfl]
  cases a.table.get? name with
  | none => simp
  | some w =>
    by_cases ty : w.ty = .entity
    · cases setting.context.resident setting.game.world a.host <;> simp [ty]
    · simp [ty]

/-- Carry out a part of a run; `fuel` bounds the turns of a while loop. -/
def carryOut (fuel : Nat) : Task → Machine σ → Answer σ
  | .stmt s => setting.execute s
  | .stmts body => setting.executeAll body
  | .turns c body => setting.turns c body fuel
  | .visits name body entities => setting.visits name body entities

variable {setting}

theorem Acts.isLeaf {a b : Scene σ} {s : Stmt} (acts : setting.Acts a s b) : s.isLeaf = true := by
  cases acts <;> rfl

/-- A run that can pay for a derivation follows it. -/
theorem Runs.carryOut {task : Task} {a b : Scene σ} {k : Nat} (runs : setting.Runs task a k b) (left fuel : Nat)
    (enough : k + left ≤ fuel) : setting.carryOut fuel task (a.live (k + left)) = .ok true (b.live left) := by
  induction runs generalizing left fuel with
  | leaf acts =>
    rw [Nat.add_comm, Setting.carryOut, execute_leaf setting acts.isLeaf]
    simpa using (setting.effect_ok acts.isLeaf).mpr ⟨_, acts, rfl⟩
  | sequence inside ih =>
    rw [Setting.carryOut, execute_sequence]
    exact ih left fuel enough
  | @yes id at? c yes no a b d v k value holds inside ih =>
    have tested := (setting.test_ok (n := k + left)).mpr ⟨v, b, value, holds, rfl⟩
    have chosen : setting.execute yes (b.live (k + left)) = .ok true (d.live left) :=
      ih left fuel (by omega)
    rw [show 1 + k + left = k + left + 1 by omega]
    refine Eq.trans (setting.execute_live_succ rfl a (k + left)) ?_
    simp [interior, tested, chosen]
  | @no id at? c yes no a b d v k value fails inside ih =>
    have tested := (setting.test_ok (n := k + left)).mpr ⟨v, b, value, fails, rfl⟩
    have chosen : setting.execute no (b.live (k + left)) = .ok true (d.live left) :=
      ih left fuel (by omega)
    rw [show 1 + k + left = k + left + 1 by omega]
    refine Eq.trans (setting.execute_live_succ rfl a (k + left)) ?_
    simp [interior, tested, chosen]
  | @loop id at? c body a b k inside ih =>
    have turned : setting.turns c body (k + left) (a.live (k + left)) = .ok true (b.live left) :=
      ih left (k + left) (Nat.le_refl _)
    rw [show 1 + k + left = k + left + 1 by omega]
    refine Eq.trans (setting.execute_live_succ rfl a (k + left)) ?_
    simp [interior, turned]
  | @each id at? kind name body a b k w me entities declared ty resident fetched inside ih =>
    have visited : setting.visits name body entities (a.live (k + left)) = .ok true (b.live left) :=
      ih left fuel (by omega)
    have members : setting.members at? kind name (a.live (k + left)) = .ok entities :=
      setting.members_live.mpr ⟨⟨w, declared, ty⟩, ⟨me, resident⟩, fetched⟩
    rw [show 1 + k + left = k + left + 1 by omega]
    refine Eq.trans (setting.execute_live_succ rfl a (k + left)) ?_
    simp [interior, members, visited]
  | nil => simp [Setting.carryOut]
  | @cons s rest a b d k l first second ihFirst ihSecond =>
    have here : setting.execute s (a.live (k + (l + left))) = .ok true (b.live (l + left)) :=
      ihFirst (l + left) fuel (by omega)
    have later : setting.executeAll rest (b.live (l + left)) = .ok true (d.live left) :=
      ihSecond left fuel (by omega)
    rw [Nat.add_assoc, Setting.carryOut, executeAll_cons, here, andThen_true, later]
  | @ended c body a b v value fails =>
    obtain ⟨fuel, rfl⟩ : ∃ f, fuel = f + 1 := ⟨fuel - 1, by omega⟩
    have tested := (setting.test_ok (n := left)).mpr ⟨v, b, value, fails, rfl⟩
    rw [Nat.add_comm 1 left, Setting.carryOut, turns_succ]
    simp [tested]
  | @turn c body a b d e v k l value holds inside later ihInside ihLater =>
    obtain ⟨fuel, rfl⟩ : ∃ f, fuel = f + 1 := ⟨fuel - 1, by omega⟩
    have tested := (setting.test_ok (n := k + (l + left))).mpr ⟨v, b, value, holds, rfl⟩
    have turned : setting.execute body (b.live (k + (l + left))) = .ok true (d.live (l + left)) :=
      ihInside (l + left) fuel (by omega)
    have rest : setting.turns c body fuel (d.live (l + left)) = .ok true (e.live left) :=
      ihLater left fuel (by omega)
    rw [show 1 + k + l + left = k + (l + left) + 1 by omega, Setting.carryOut, turns_succ]
    simp [tested, turned, rest]
  | none => simp [Setting.carryOut]
  | @visit name body entity rest a b d k l inside later ihInside ihLater =>
    have visited : setting.execute body ((a.bound name entity).live (k + (l + left))) = .ok true (b.live (l + left)) :=
      ihInside (l + left) fuel (by omega)
    have others : setting.visits name body rest (b.live (l + left)) = .ok true (d.live left) :=
      ihLater left fuel (by omega)
    rw [show 1 + k + l + left = k + (l + left) + 1 by omega, Setting.carryOut, visits_cons]
    simp [Scene.bound_live, visited, others]

/-- A part of a run that comes to its end does so by a derivation that the budget pays for. -/
def Explained (setting : Setting σ) (fuel : Nat) (task : Task) : Prop :=
  ∀ (a : Scene σ) (n : Nat) (m : Machine σ), setting.carryOut fuel task (a.live n) = .ok true m →
    ∃ k left b, setting.Runs task a k b ∧ n = k + left ∧ m = b.live left

theorem explained_turns {fuel : Nat} (c : Expr) {body : Stmt} (inside : setting.Explained 0 (.stmt body)) :
    setting.Explained fuel (.turns c body) := by
  induction fuel with
  | zero =>
    intro a n m ended
    cases ended
  | succ fuel ih =>
    intro a n m ended
    rw [Setting.carryOut, turns_succ] at ended
    cases n with
    | zero => cases ended
    | succ n =>
      rw [a.exhausted_live_succ, if_neg (by simp), a.charge_live, either_eq_ok] at ended
      obtain ⟨m', ⟨tested, ended⟩ | ⟨tested, ended⟩⟩ := ended
      · obtain ⟨v, b, value, holds, rfl⟩ := setting.test_ok.mp tested
        obtain ⟨m'', ranBody, ended⟩ := andThen_eq_true.mp ended
        obtain ⟨k, left, d, runs, rfl, rfl⟩ := inside b n m'' ranBody
        obtain ⟨l, rest, e, later, rfl, rfl⟩ := ih d left m ended
        exact ⟨1 + k + l, rest, e, .turn value holds runs later, by omega, rfl⟩
      · obtain ⟨v, b, value, fails, rfl⟩ := setting.test_ok.mp tested
        cases ended
        exact ⟨1, n, b, .ended value fails, by omega, rfl⟩

theorem explained_visits {fuel : Nat} (name : String) {body : Stmt} (inside : setting.Explained 0 (.stmt body))
    (entities : List EntityId) : setting.Explained fuel (.visits name body entities) := by
  induction entities with
  | nil =>
    intro a n m ended
    cases ended
    exact ⟨0, n, a, .none, by omega, rfl⟩
  | cons e rest ih =>
    intro a n m ended
    rw [Setting.carryOut, visits_cons] at ended
    cases n with
    | zero => cases ended
    | succ n =>
      rw [a.exhausted_live_succ, a.seeking_live, if_neg (by simp), if_neg (by simp), a.charge_live,
        Scene.bound_live] at ended
      obtain ⟨m', ranBody, ended⟩ := andThen_eq_true.mp ended
      obtain ⟨k, left, b, runs, rfl, rfl⟩ := inside _ n m' ranBody
      obtain ⟨l, others, d, later, rfl, rfl⟩ := ih b left m ended
      exact ⟨1 + k + l, others, d, .visit runs later, by omega, rfl⟩

theorem explained_stmts {fuel : Nat} (body : List Stmt) (inside : ∀ s ∈ body, setting.Explained 0 (.stmt s)) :
    setting.Explained fuel (.stmts body) := by
  induction body with
  | nil =>
    intro a n m ended
    rw [Setting.carryOut, executeAll_nil] at ended
    cases ended
    exact ⟨0, n, a, .nil, by omega, rfl⟩
  | cons s rest ih =>
    intro a n m ended
    rw [Setting.carryOut, executeAll_cons] at ended
    obtain ⟨m', ran, ended⟩ := andThen_eq_true.mp ended
    obtain ⟨k, left, b, runs, rfl, rfl⟩ := inside s List.mem_cons_self a n m' ran
    obtain ⟨l, others, d, later, rfl, rfl⟩ :=
      ih (fun t member => inside t (List.mem_cons_of_mem _ member)) b left m ended
    exact ⟨k + l, others, d, .cons runs later, by omega, rfl⟩

/-- What a live run does inside a conditional statement is explained by what is directly inside. -/
theorem explained_interior {s : Stmt} {id : NodeId} (own : s.id? = some id)
    (inside : ∀ t ∈ s.children, setting.Explained 0 (.stmt t)) {a : Scene σ} {n : Nat} {m : Machine σ}
    (ended : setting.interior s (a.live n) = .ok true m) :
    ∃ k left b, setting.Runs (.stmt s) a (1 + k) b ∧ n = k + left ∧ m = b.live left := by
  cases s with
  | branch _ at? c yes no =>
    rw [interior, a.seeking_live, if_neg (by simp), either_eq_ok] at ended
    obtain ⟨m', ⟨tested, ended⟩ | ⟨tested, ended⟩⟩ := ended
    · obtain ⟨v, b, value, holds, rfl⟩ := setting.test_ok.mp tested
      obtain ⟨k, left, d, runs, paid, rest⟩ := inside yes (by simp [Stmt.children]) b n m ended
      exact ⟨k, left, d, .yes value holds runs, paid, rest⟩
    · obtain ⟨v, b, value, fails, rfl⟩ := setting.test_ok.mp tested
      obtain ⟨k, left, d, runs, paid, rest⟩ := inside no (by simp [Stmt.children]) b n m ended
      exact ⟨k, left, d, .no value fails runs, paid, rest⟩
  | loop _ at? c body =>
    rw [interior, a.seeking_live, if_neg (by simp)] at ended
    obtain ⟨k, left, b, runs, paid, rest⟩ := explained_turns c (inside body (by simp [Stmt.children])) a n m ended
    exact ⟨k, left, b, .loop runs, paid, rest⟩
  | each _ at? kind name body =>
    rw [interior] at ended
    split at ended
    · next entities members =>
      obtain ⟨⟨w, declared, ty⟩, ⟨me, resident⟩, fetched⟩ := setting.members_live.mp members
      obtain ⟨k, left, b, runs, paid, rest⟩ :=
        @explained_visits σ setting 0 name _ (inside body (by simp [Stmt.children])) entities a n m ended
      exact ⟨k, left, b, .each declared ty resident fetched runs, paid, rest⟩
    · cases ended
  | sequence | assignment | print | action | placeholder => cases own

/-- Only derivations lead to the end. The induction is on the tree; loops are explained by their bodies. -/
theorem explained_stmt (s : Stmt) : setting.Explained 0 (.stmt s) := by
  induction s using Stmt.conditional_induction with
  | sequence at? body ih =>
    intro a n m ended
    rw [Setting.carryOut, execute_sequence] at ended
    obtain ⟨k, left, b, runs, paid, rest⟩ := @explained_stmts σ setting 0 body ih a n m ended
    exact ⟨k, left, b, .sequence runs, paid, rest⟩
  | conditional s id own ih =>
    intro a n m ended
    obtain ⟨paid, inside⟩ := setting.paid_and_done_inside ended own
    obtain ⟨n, rfl⟩ := exists_succ_of_paid paid
    rw [a.entered_live] at inside
    obtain ⟨k, left, b, runs, rfl, rest⟩ := explained_interior own ih inside
    exact ⟨1 + k, left, b, runs, by omega, rest⟩
  | leaf s isLeaf =>
    intro a n m ended
    rw [Setting.carryOut, setting.execute_leaf isLeaf] at ended
    cases n with
    | zero => cases ended
    | succ n =>
      rw [a.exhausted_live_succ, a.seeking_live, if_neg (by simp), if_neg (by simp), a.charge_live] at ended
      obtain ⟨b, acts, rfl⟩ := (setting.effect_ok isLeaf).mp ended
      exact ⟨1, n, b, .leaf acts, by omega, rfl⟩
  | placeholder fault =>
    intro a n m ended
    rw [Setting.carryOut, execute_placeholder] at ended
    cases ended

end Setting

namespace Stage

variable {σ : Type}

def opening (s : Stage σ) : Scene σ :=
  { table := s.program.globals, host := s.host, log := s.started.log }

/-- What can be seen of a program after a run that completed: nothing failed, the program is finished and there is
no cursor. -/
def Completes (game : Game σ) (s : Stage σ) : Prop :=
  (s.run game).1 = .ok () ∧ (s.run game).2.program.isFinished = true ∧
    (s.run game).2.program.state.cursor = none

theorem started_of_fresh {s : Stage σ} {n : Nat} (fresh : s.program.state.cursor = none)
    (budget : s.program.maxStatements = n) : s.started = s.opening.live n := by
  have run : s.started.run = { budget := n } := by
    show s.program.state.start s.program.maxStatements = _
    unfold RunState.start
    rw [fresh, budget]
    rfl
  show { table := s.program.globals, run := s.started.run, host := s.host, log := s.started.log : Machine σ } = _
  rw [run]
  rfl

/-- A fresh run answers as its root does: it never seeks. -/
theorem answer_of_fresh {game : Game σ} {s : Stage σ} {n : Nat} (fresh : s.program.state.cursor = none)
    (budget : s.program.maxStatements = n) :
    s.answer game = (s.setting game).execute s.program.root (s.opening.live n) := by
  unfold answer
  rw [started_of_fresh fresh budget]
  rw [andThen_of_live ((s.setting game).execute_live ⟨rfl, rfl⟩ s.program.root), andThen_done]

/-- A run that is not refused completes iff its answer is that the root came to its end. -/
theorem completes_iff {game : Game σ} {s : Stage σ} (ready : s.program.refusal? game.world s.host = none) :
    s.Completes game ↔ ∃ m, s.answer game = .ok true m := by
  unfold Completes
  rw [run_eq game s ready]
  obtain ⟨m, ran⟩ | ⟨m, ran⟩ | ⟨f, m, ran⟩ := (s.answer game).cases_on
  · rw [ran]
    exact ⟨fun _ => ⟨m, rfl⟩, fun _ => ⟨rfl, rfl, rfl⟩⟩
  · rw [ran]
    constructor
    · rintro ⟨-, finished, -⟩
      cases finished
    · rintro ⟨_, ended⟩
      cases ended
  · rw [ran]
    constructor
    · rintro ⟨failed, -⟩
      cases failed
    · rintro ⟨_, ended⟩
      cases ended

/-- A fresh run is the meaning of the program, cut off where the budget ends: it completes iff the root has a
derivation whose cost the budget pays for, and then variables, host state and remaining budget are those of the
derivation. -/
theorem completes_iff_runs (game : Game σ) (s : Stage σ) (n : Nat)
    (ready : s.program.refusal? game.world s.host = none) (fresh : s.program.state.cursor = none)
    (budget : s.program.maxStatements = n) :
    (s.Completes game ↔ ∃ k after, (s.setting game).Runs (.stmt s.program.root) s.opening k after ∧ k ≤ n) ∧
    ∀ k after, (s.setting game).Runs (.stmt s.program.root) s.opening k after → k ≤ n →
      (s.run game).2.program.globals = after.table ∧ (s.run game).2.host = after.host ∧
        (s.run game).2.program.remainingBudget = (n : Int) - k := by
  have answer := @answer_of_fresh σ game s n fresh budget
  have follows : ∀ k after, (s.setting game).Runs (.stmt s.program.root) s.opening k after → k ≤ n →
      s.answer game = .ok true (after.live (n - k)) := by
    intro k after runs paid
    have ran := runs.carryOut (n - k) n (by omega)
    rw [Nat.add_sub_cancel' paid] at ran
    rw [answer]
    exact ran
  refine ⟨(completes_iff ready).trans ⟨?_, ?_⟩, ?_⟩
  · rintro ⟨m, ended⟩
    rw [answer] at ended
    obtain ⟨k, left, after, runs, paid, -⟩ := Setting.explained_stmt s.program.root s.opening n m ended
    exact ⟨k, after, runs, by omega⟩
  · rintro ⟨k, after, runs, paid⟩
    exact ⟨_, follows k after runs paid⟩
  · intro k after runs paid
    rw [run_eq game s ready, follows k after runs paid]
    refine ⟨rfl, rfl, ?_⟩
    show max ((n - k : Nat) : Int) 0 = (n : Int) - k
    omega

end Stage

/-- A program that moves once, through a loop that it ends itself. -/
def hop : Program where
  root := .loop ⟨0⟩ none (.negation none (.access none "done" .boolean))
    (.sequence none [.assignment none "done" (.boolean none true), .action none .move])
  globals := { entries := [("done", .ofTy .boolean)] }
  maxStatements := 5
  context := { entity? := some ⟨0⟩ }

/-- Five units pay for the loop, two tests, an assignment and an action, and nothing is left. -/
theorem hop_completes_iff_runs :
    let s : Stage (List String) := { program := hop, host := [] }
    (s.program.refusal? soloGame.world s.host = none ∧ s.program.state.cursor = none ∧
      s.program.maxStatements = (5 : Nat)) ∧
    s.Completes soloGame ∧ (s.run soloGame).2.host = ["move"] ∧
    ∃ k after, (s.setting soloGame).Runs (.stmt hop.root) s.opening k after ∧ k ≤ 5 := by
  intro s
  have completes : s.Completes soloGame := ⟨rfl, rfl, rfl⟩
  exact ⟨⟨rfl, rfl, rfl⟩, completes, rfl, (Stage.completes_iff_runs soloGame s 5 rfl rfl rfl).1.mp completes⟩

end WormLang
