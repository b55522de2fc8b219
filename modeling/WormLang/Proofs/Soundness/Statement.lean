import WormLang.Proofs.Execution.Invariant
import WormLang.Proofs.Soundness.Evaluation

/-!
Soundness of types for statements. Inside the statements of a program that passed all checks, on variables of their
declared types and with a game that does not disturb it, every single step of execution keeps the variables in order,
and no fault is about a missing or retyped variable or a placeholder.

What can still fail is named: an entity lacks a capability, a member of the world is no entity, a search has an
infinite angle, or a number to fire with has no whole part. None of these is about a type. Besides, a statement trips
over what a host put on a being, which can be a value of a wrong type.
-/
namespace WormLang

open Answer

namespace Cause

/-- A program breaks down: a variable is missing or has another type, an assignment or a loop has lost its variable, or
a placeholder was reached. -/
def breaksDown : Cause → Bool
  | placeholderEvaluated | placeholderExecuted | assignmentVanished _ | assignmentMismatch .. | loopVanished _
  | loopMismatch .. => true
  | c => c.kind == .variableReference

/-- A program goes wrong on names or types: it breaks down, or a value or data has a wrong type. -/
def goesWrong (c : Cause) : Bool := c.breaksDown || [FaultKind.valueType, .type].contains c.kind

theorem breaksDown_of_goesWrong {c : Cause} (right : c.goesWrong = false) : c.breaksDown = false :=
  (Bool.or_eq_false_iff.mp right).1

/-- What is neither a missing variable nor a program in a bad state does not break a program down. -/
theorem breaksDown_eq_false {c : Cause} (kind : c.kind ∉ [FaultKind.variableReference, .illegalState]) :
    c.breaksDown = false := by
  cases c with
  | reported k message =>
    simp only [Cause.kind, List.mem_cons, List.not_mem_nil, or_false, not_or] at kind
    simpa [breaksDown, Cause.kind] using kind.1
  | _ => first | rfl | simp [Cause.kind] at kind

theorem goesWrong_eq_false {c : Cause}
    (kind : c.kind ∉ [FaultKind.variableReference, .illegalState, .valueType, .type]) : c.goesWrong = false := by
  simp only [List.mem_cons, List.not_mem_nil, or_false, not_or] at kind
  simp [goesWrong, breaksDown_eq_false, kind]

end Cause

namespace Stmt

variable {globals : Table Variable}

/-- The type that the value of an expression in a statement must have. A print statement takes any. -/
def demand (globals : Table Variable) : Stmt → Option Ty
  | assignment _ name _ => (globals.get? name).map Variable.ty
  | action _ (.turn _) | action _ (.fire _) => some .number
  | branch .. | loop .. => some .boolean
  | _ => none

/-- The target of an assignment that fits the declared variables has the type of its expression. -/
theorem declared_of_assignment {at? : Option Position} {name : String} {e : Expr} (typed : e.WellTyped globals)
    (checked : (assignment at? name e).check globals = none) : (globals.get? name).map Variable.ty = e.ty? := by
  obtain ⟨t, known⟩ := typed.exists_ty
  rw [check] at checked
  cases declared : globals.get? name with
  | none =>
    rw [declared] at checked
    cases checked
  | some v =>
    rw [declared, known] at checked
    simp only [ite_eq_left_iff, reduceCtorEq, imp_false, not_not] at checked
    rw [known, checked]
    rfl

/-- The variable of a loop over entities that fits the declared variables is one for entities. -/
theorem declared_of_each {id : NodeId} {at? : Option Position} {kind : LoopKind} {name : String} {body : Stmt}
    (checked : (each id at? kind name body).check globals = none) :
    (globals.get? name).map Variable.ty = some .entity := by
  rw [check] at checked
  cases declared : globals.get? name with
  | none =>
    rw [declared] at checked
    cases checked
  | some v =>
    rw [declared] at checked
    simp only [ite_eq_left_iff, reduceCtorEq, imp_false, not_not] at checked
    exact congrArg some checked

theorem mem_expressions_of_condition {s : Stmt} {c : Expr} (own : s.condition? = some c) : c ∈ s.expressions := by
  cases s with
  | branch | loop =>
    cases own
    exact List.mem_singleton_self _
  | _ => cases own

/-- The static type of an expression is what its statement demands. -/
theorem ty?_of_demand {s : Stmt} (fits : s.Fits globals) (checked : s.check globals = none) {e : Expr}
    (directly : e ∈ s.expressions) {t : Ty} (demanded : s.demand globals = some t) : e.ty? = some t := by
  cases s with
  | assignment at? name e =>
    cases List.mem_singleton.mp directly
    rw [← declared_of_assignment fits checked]
    exact demanded
  | branch | loop =>
    cases List.mem_singleton.mp directly
    cases demanded
    exact fits.2
  | action at? a =>
    cases a with
    | turn | fire =>
      cases List.mem_singleton.mp directly
      cases demanded
      exact fits.2
    | _ => cases directly
  | print => cases demanded
  | _ => cases directly

end Stmt

/-- A world and a handler that do not disturb a program: the world is a sandbox, and the handler neither fails nor takes
the bound entity out of the world. `occurs` says which host states there are; the handler stays among them. -/
structure Game.Tame {σ : Type} (arena : σ → Arena) (me : EntityId) (occurs : σ → Prop) (game : Game σ) : Prop where
  world : game.world = Arena.world.within arena
  sandbox : ∀ h, occurs h → (arena h).isBare = false
  perform : ∀ h deed, occurs h → (arena h).isPlaced me = true →
    ∃ done h', game.handler.perform me deed h = (.ok done, h') ∧ occurs h' ∧ (arena h').isPlaced me = true
  print : ∀ h text, occurs h → (arena h).isPlaced me = true →
    ∃ h', game.handler.print text h = (.ok (), h') ∧ occurs h' ∧ (arena h').isPlaced me = true

/-- A world and a handler that keep a program in order: the world is a sandbox, and whatever comes of a deed, the host
state is one that occurs, with the bound entity in the world. A deed may fail; printing does not. -/
structure Game.Orderly {σ : Type} (arena : σ → Arena) (me : EntityId) (occurs : σ → Prop) (game : Game σ) : Prop where
  world : game.world = Arena.world.within arena
  sandbox : ∀ h, occurs h → (arena h).isBare = false
  perform : ∀ h deed, occurs h → (arena h).isPlaced me = true →
    occurs (game.handler.perform me deed h).2 ∧ (arena (game.handler.perform me deed h).2).isPlaced me = true
  print : ∀ h text, occurs h → (arena h).isPlaced me = true →
    ∃ h', game.handler.print text h = (.ok (), h') ∧ occurs h' ∧ (arena h').isPlaced me = true

theorem Game.Tame.orderly {σ : Type} {arena : σ → Arena} {me : EntityId} {occurs : σ → Prop} {game : Game σ}
    (tame : game.Tame arena me occurs) : game.Orderly arena me occurs where
  world := tame.world
  sandbox := tame.sandbox
  perform h deed here placed := by
    obtain ⟨done, h', performed, kept⟩ := tame.perform h deed here placed
    rw [performed]
    exact kept
  print := tame.print

/-- The deed that an action asks for, with the value of its operand. -/
inductive Env.Asks {σ : Type} (env : Env σ) : Action → Deed → Prop
  | turn {angle : Expr} {v : Value} {log log' : Log} (value : EStateM.run (env.eval angle) log = .ok v log') :
    Asks env (.turn angle) (.turn v.toNumber)
  | fire {power : Expr} {v : Value} {n : Int} {log log' : Log}
    (value : EStateM.run (env.eval power) log = .ok v log') (whole : Exec.wholePart v.toNumber = .ok n) :
    Asks env (.fire power) (.fire n)
  | move : Asks env .move .move
  | jump : Asks env .jump .jump
  | toggleWeapon : Asks env .toggleWeapon .toggleWeapon

/-- A machine in order: variables with values of their declared types, a host state that occurs, and the bound entity
in its world. -/
structure Machine.Safe {σ : Type} (globals : Table Variable) (arena : σ → Arena) (me : EntityId) (occurs : σ → Prop)
    (m : Machine σ) : Prop where
  fits : globals.Fits m.table
  occurs : occurs m.host
  placed : (arena m.host).isPlaced me = true

namespace Setting

variable {σ : Type}

/-- How a statement can fail although every value has the right type. -/
inductive Raises (setting : Setting σ) (arena : σ → Arena) (m : Machine σ) : Stmt → Cause → Prop
  | operator {s : Stmt} {e part : Expr} {cause : Cause} (directly : e ∈ s.expressions) (among : part ∈ e.walk)
    (raises : (setting.env m).Raises arena part cause) : Raises setting arena m s cause
  | member {id : NodeId} {at? : Option Position} {kind : LoopKind} {name : String} {body : Stmt} {cause : Cause}
    (lacks : (arena m.host).Lacks cause) : Raises setting arena m (.each id at? kind name body) cause
  | infinite {at? : Option Position} {power : Expr} {v : Value} {log log' : Log}
    (value : EStateM.run ((setting.env m).eval power) log = .ok v log') (size : Number.IsInfinite v.toNumber) :
    Raises setting arena m (.action at? (.fire power)) .infinityToInteger
  | undefined {at? : Option Position} {power : Expr} {v : Value} {log log' : Log}
    (value : EStateM.run ((setting.env m).eval power) log = .ok v log') (size : Number.parts v.toNumber = .nan) :
    Raises setting arena m (.action at? (.fire power)) .nanToInteger

theorem Raises.goesWrong {setting : Setting σ} {arena : σ → Arena} {m : Machine σ} {s : Stmt} {cause : Cause}
    (raises : setting.Raises arena m s cause) : cause.goesWrong = false := by
  have capability : ∀ {c : Cause}, c.kind = .capability → c.goesWrong = false := fun kind =>
    Cause.goesWrong_eq_false (by simp [kind])
  have lacks : ∀ {c : Cause}, (arena m.host).Lacks c → c.goesWrong = false := by
    intro c lacks
    cases lacks with
    | capability kind => exact capability kind
    | field => rfl
  cases raises with
  | operator directly among raises =>
    cases raises with
    | query kind | sameTeam kind | blind kind => exact capability kind
    | search value facing vain =>
      cases vain with
      | lacks how => exact lacks how
      | endless => rfl
  | member how => exact lacks how
  | infinite | undefined => rfl

/-- A statement trips over what a host put on a being: one of its operators does, or it prints a being whose name is no
text. -/
inductive Trips (setting : Setting σ) (arena : σ → Arena) (m : Machine σ) : Stmt → Fault → Prop
  | operator {s : Stmt} {e part : Expr} {f : Fault} (directly : e ∈ s.expressions) (among : part ∈ e.walk)
    (trips : (setting.env m).Trips arena part f) : Trips setting arena m s f
  | print {at? : Option Position} {e : Expr} {id : EntityId} {d : Datum} {f : Fault} {log log' : Log}
    (value : EStateM.run ((setting.env m).eval e) log = .ok (.entity (.being id)) log')
    (renamed : (arena m.host).renamed? id = some d) (unfit : (arena m.host).textOf id = .error f) :
    Trips setting arena m (.print at? e) f

/-- What a statement trips over can have a wrong type, but it does not break the program down. -/
theorem Trips.breaksDown {setting : Setting σ} {arena : σ → Arena} {m : Machine σ} {s : Stmt} {f : Fault}
    (trips : setting.Trips arena m s f) : f.cause.breaksDown = false := by
  have kind : f.kind = .valueType ∨ f.kind.isLocated = false := by
    cases trips with
    | operator directly among trips => exact trips.kind
    | print value renamed unfit => exact .inr ((arena m.host).unlocated_textOf _ f unfit)
  refine Cause.breaksDown_eq_false fun among => ?_
  obtain same | same : f.kind = .variableReference ∨ f.kind = .illegalState := by simpa [Fault.kind] using among
  all_goals simp [same, FaultKind.isLocated] at kind

/-- How a statement can fail in a game that keeps programs in order: by itself, over what a host put on a being, or with
the deed that it asks for. The machine is the one that the failure leaves behind. -/
inductive Fails (setting : Setting σ) (arena : σ → Arena) (me : EntityId) (occurs : σ → Prop) (m : Machine σ) :
    Stmt → Fault → Prop
  | raises {s : Stmt} {f : Fault} (raises : setting.Raises arena m s f.cause) : Fails setting arena me occurs m s f
  | trips {s : Stmt} {f : Fault} (trips : setting.Trips arena m s f) : Fails setting arena me occurs m s f
  | deed {at? : Option Position} {a : Action} {deed : Deed} {f : Fault} {before : Machine σ}
    (occurred : occurs before.host) (placed : (arena before.host).isPlaced me = true)
    (asks : (setting.env before).Asks a deed)
    (failed : setting.game.handler.perform me deed before.host = (.error f, m.host)) :
    Fails setting arena me occurs m (.action at? a) f

/-- With a handler that never fails only statements by themselves do. -/
theorem Fails.of_tame {setting : Setting σ} {arena : σ → Arena} {me : EntityId} {occurs : σ → Prop} {m : Machine σ}
    {s : Stmt} {f : Fault} (tame : setting.game.Tame arena me occurs) (fails : setting.Fails arena me occurs m s f) :
    setting.Raises arena m s f.cause ∨ setting.Trips arena m s f := by
  cases fails with
  | raises raises => exact .inl raises
  | trips trips => exact .inr trips
  | deed occurred placed asks failed =>
    obtain ⟨done, h', performed, -⟩ := tame.perform _ _ occurred placed
    rw [performed] at failed
    cases failed

end Setting

namespace Setting

variable {σ : Type} {setting : Setting σ} {globals : Table Variable} {arena : σ → Arena} {me : EntityId}
  {occurs : σ → Prop}

/-- On a machine in order, what expressions read is in order. -/
theorem sound_env (orderly : setting.game.Orderly arena me occurs) (bound : setting.context.entity? = some me)
    {m : Machine σ} (safe : m.Safe globals arena me occurs) : (setting.env m).Sound globals arena me :=
  ⟨orderly.world, bound, orderly.sandbox _ safe.occurs, safe.placed, safe.fits⟩

theorem actor_eq (bound : setting.context.entity? = some me) : setting.context.actor = .ok me := by
  rw [Context.actor, bound]

/-- Evaluation keeps a machine in order with its variables, and gives a value of the type of its expression or a fault
of one of its operators. -/
theorem meets_eval (orderly : setting.game.Orderly arena me occurs) (bound : setting.context.entity? = some me)
    {e : Expr} (typed : e.WellTyped globals) {m : Machine σ} (safe : m.Safe globals arena me occurs) :
    Exec.Meets
      (fun v m' => m'.Safe globals arena me occurs ∧ m'.table = m.table ∧ e.ty? = some v.ty ∧
        ∃ log log', EStateM.run ((setting.env m').eval e) log = .ok v log')
      (fun f m' => m'.Safe globals arena me occurs ∧ ∃ part ∈ e.walk, (setting.env m').Fails arena part f)
      (Exec.eval setting e) m := by
  have meets := (sound_env orderly bound safe).meets_eval typed m.log
  have kept : ∀ log, { m with log }.Safe globals arena me occurs := fun log => ⟨safe.fits, safe.occurs, safe.placed⟩
  unfold Exec.Meets
  rw [Exec.run_eval]
  cases ran : EStateM.run ((setting.env m).eval e) m.log with
  | ok v log => exact ⟨kept log, rfl, meets.1 v log ran, m.log, log, ran⟩
  | error f log => exact ⟨kept log, meets.2 f log ran⟩

/-- An expression directly in a statement fails as the statement may. -/
theorem meets_operand (orderly : setting.game.Orderly arena me occurs) (bound : setting.context.entity? = some me)
    {s : Stmt} {e : Expr} (directly : e ∈ s.expressions) (typed : e.WellTyped globals) {m : Machine σ}
    (safe : m.Safe globals arena me occurs) :
    Exec.Meets
      (fun v m' => m'.Safe globals arena me occurs ∧ m'.table = m.table ∧ e.ty? = some v.ty ∧
        ∃ log log', EStateM.run ((setting.env m').eval e) log = .ok v log')
      (fun f m' => m'.Safe globals arena me occurs ∧ setting.Fails arena me occurs m' s f) (Exec.eval setting e) m :=
  (meets_eval orderly bound typed safe).mono (fun _ _ h => h) fun _ _ ⟨safe, _, among, failed⟩ =>
    ⟨safe, failed.elim (fun raises => .raises (.operator directly among raises))
      fun trips => .trips (.operator directly among trips)⟩

/-- A handler keeps a machine in order, whatever comes of a deed. -/
theorem meets_perform (orderly : setting.game.Orderly arena me occurs) (at? : Option Position) {a : Action}
    {deed : Deed} {m : Machine σ} (safe : m.Safe globals arena me occurs) (asks : (setting.env m).Asks a deed) :
    Exec.Meets (fun _ m' => m'.Safe globals arena me occurs)
      (fun f m' => m'.Safe globals arena me occurs ∧ setting.Fails arena me occurs m' (.action at? a) f)
      (Exec.perform setting me deed) m := by
  obtain ⟨occurs', placed'⟩ := orderly.perform m.host deed safe.occurs safe.placed
  unfold Exec.Meets
  rw [show EStateM.run (Exec.perform setting me deed) m = Exec.perform setting me deed m from rfl, Exec.perform]
  cases performed : setting.game.handler.perform me deed m.host with
  | mk answer host =>
    rw [performed] at occurs' placed'
    cases answer with
    | ok done => exact ⟨safe.fits, occurs', placed'⟩
    | error f => exact ⟨⟨safe.fits, occurs', placed'⟩, .deed safe.occurs safe.placed asks performed⟩

theorem meets_printText (orderly : setting.game.Orderly arena me occurs) (text : String)
    {failed : Fault → Machine σ → Prop} {m : Machine σ} (safe : m.Safe globals arena me occurs) :
    Exec.Meets (fun _ m' => m'.Safe globals arena me occurs) failed (Exec.printText setting text) m := by
  obtain ⟨host, printed, occurs, placed⟩ := orderly.print m.host text safe.occurs safe.placed
  have ran : EStateM.run (Exec.printText setting text) m = .ok () { m with host } := by
    show Exec.printText setting text m = _
    rw [Exec.printText, printed]
  unfold Exec.Meets
  rw [ran]
  exact ⟨safe.fits, occurs, placed⟩

/-- Every value has a text, except a being whose name is none. -/
theorem display_error (orderly : setting.game.Orderly arena me occurs) {m : Machine σ} {v : Value} {f : Fault}
    (failed : v.display (setting.game.world.written m.host) (setting.game.world.shown m.host) = .error f) :
    ∃ id d, v = .entity (.being id) ∧ (arena m.host).renamed? id = some d ∧ (arena m.host).textOf id = .error f := by
  rw [orderly.world] at failed
  cases v with
  | number x => cases failed
  | boolean b => cases failed
  | entity h =>
    cases h with
    | null => cases failed
    | thing t => cases failed
    | being id =>
      have unfit : (arena m.host).textOf id = .error f := failed
      cases renamed : (arena m.host).renamed? id with
      | some d => exact ⟨id, d, rfl, renamed, unfit⟩
      | none =>
        rw [Arena.textOf, renamed] at unfit
        cases unfit

/-- Only a number that is none or infinite has no whole part. -/
theorem raises_of_wholePart {at? : Option Position} {power : Expr} {m : Machine σ} {v : Value} {log log' : Log}
    (value : EStateM.run ((setting.env m).eval power) log = .ok v log') {f : Fault}
    (failed : Exec.wholePart v.toNumber = .error f) : setting.Raises arena m (.action at? (.fire power)) f.cause := by
  unfold Exec.wholePart Number.truncate at failed
  cases size : Number.parts v.toNumber with
  | nan =>
    rw [size] at failed
    cases failed
    exact .undefined value size
  | infinite negative =>
    rw [size] at failed
    cases failed
    exact .infinite value ⟨negative, size⟩
  | finite negative mantissa exponent =>
    rw [size] at failed
    cases failed

/-- An action asks for a deed with a number that has a whole part, or fails for want of one. -/
theorem meets_attempt (orderly : setting.game.Orderly arena me occurs) (bound : setting.context.entity? = some me)
    (at? : Option Position) {a : Action} (typed : a.WellTyped globals) {m : Machine σ}
    (safe : m.Safe globals arena me occurs) :
    Exec.Meets (fun _ m' => m'.Safe globals arena me occurs)
      (fun f m' => m'.Safe globals arena me occurs ∧ setting.Fails arena me occurs m' (.action at? a) f)
      (Exec.attempt setting me a) m := by
  cases a with
  | turn angle =>
    refine (meets_operand orderly bound (List.mem_singleton_self _) typed.1 safe).bind
      fun v m' ⟨safe, _, _, log, log', value⟩ => ?_
    exact meets_perform orderly at? safe (.turn value)
  | fire power =>
    refine (meets_operand orderly bound (List.mem_singleton_self _) typed.1 safe).bind
      fun v m' ⟨safe, _, _, log, log', value⟩ => ?_
    have whole : Exec.Meets
        (fun n m' => m'.Safe globals arena me occurs ∧ (setting.env m').Asks (.fire power) (.fire n))
        (fun f m' => m'.Safe globals arena me occurs ∧ setting.Fails arena me occurs m' (.action at? (.fire power)) f)
        (Exec.ofExcept (Exec.wholePart v.toNumber)) m' :=
      .ofExcept (fun n whole => ⟨safe, .fire value whole⟩)
        fun f failed => ⟨safe, .raises (raises_of_wholePart value failed)⟩
    exact whole.bind fun n m' ⟨safe, asks⟩ => meets_perform orderly at? safe asks
  | move => exact meets_perform orderly at? safe .move
  | jump => exact meets_perform orderly at? safe .jump
  | toggleWeapon => exact meets_perform orderly at? safe .toggleWeapon
  | skip => exact safe

/-- An assignment that passed its checks stores a value of the declared type. -/
theorem meets_assign (orderly : setting.game.Orderly arena me occurs) (bound : setting.context.entity? = some me)
    {at? : Option Position} {name : String} {e : Expr} (typed : e.WellTyped globals)
    (checked : (Stmt.assignment at? name e).check globals = none) {m : Machine σ}
    (safe : m.Safe globals arena me occurs) :
    Exec.Meets
      (fun _ m' => m'.Safe globals arena me occurs ∧ ∃ w, m'.table = m.table.set name w ∧
        (globals.get? name).map Variable.ty = some w.ty ∧ w.value.ty = w.ty)
      (fun f m' => m'.Safe globals arena me occurs ∧ setting.Fails arena me occurs m' (.assignment at? name e) f)
      (Exec.assign setting at? name e) m := by
  have target := Stmt.declared_of_assignment typed checked
  obtain ⟨t, known⟩ := typed.exists_ty
  obtain ⟨v, found, ty, -⟩ := safe.fits.exists_get? (target.trans known)
  have expected : e.ty? = some v.ty := known.trans (congrArg some ty.symm)
  unfold Exec.assign
  refine Exec.Meets.get_bind ?_
  rw [found]
  refine (meets_operand orderly bound (List.mem_singleton_self _) typed safe).bind fun value m' evaluated => ?_
  obtain ⟨safe, kept, got, -⟩ := evaluated
  have same : value.ty = v.ty := Option.some.inj (got.symm.trans expected)
  rw [if_pos (show v.accepts value = true from beq_iff_eq.mpr same)]
  exact ⟨⟨safe.fits.set (target.trans expected) same, safe.occurs, safe.placed⟩, { v with value }, kept ▸ rfl,
    target.trans expected, same⟩

/-- The effect of a leaf that passed its checks. -/
theorem meets_effect (orderly : setting.game.Orderly arena me occurs) (bound : setting.context.entity? = some me)
    {s : Stmt} (fits : s.Fits globals) (checked : s.check globals = none) (isLeaf : s.isLeaf = true) {m : Machine σ}
    (safe : m.Safe globals arena me occurs) :
    Exec.Meets (fun _ m' => m'.Safe globals arena me occurs)
      (fun f m' => m'.Safe globals arena me occurs ∧ setting.Fails arena me occurs m' s f) (setting.effect s) m := by
  cases s with
  | assignment at? name e =>
    exact (meets_assign orderly bound fits checked safe).mono (fun _ _ ⟨safe, _⟩ => safe) fun _ _ failed => failed
  | print at? e =>
    show Exec.Meets _ _ (Exec.printValue setting e) m
    unfold Exec.printValue
    rw [actor_eq bound]
    refine (meets_operand orderly bound (List.mem_singleton_self _) fits safe).bind
      fun v m' ⟨safe, _, _, log, log', value⟩ => ?_
    have shown : Exec.Meets (fun _ m' => m'.Safe globals arena me occurs)
        (fun f m' => m'.Safe globals arena me occurs ∧ setting.Fails arena me occurs m' (.print at? e) f)
        (Exec.ofExcept (v.display (setting.game.world.written m'.host) (setting.game.world.shown m'.host))) m' := by
      refine .ofExcept (fun _ _ => safe) fun f failed => ⟨safe, .trips ?_⟩
      obtain ⟨id, d, rfl, renamed, unfit⟩ := display_error orderly failed
      exact .print value renamed unfit
    exact shown.bind fun text m' safe => (meets_printText orderly text safe).bind fun _ _ safe => safe
  | action at? a =>
    show Exec.Meets _ _ (Exec.act setting a) m
    unfold Exec.act
    rw [actor_eq bound]
    refine (meets_attempt orderly bound at? fits safe).bind fun done m' safe => ?_
    cases done with
    | true => exact safe
    | false => exact ⟨safe.fits, safe.occurs, safe.placed⟩
  | _ => cases isLeaf

/-- What execution does step by step keeps a machine in order, inside the statements of a program that passed all
checks. -/
theorem guards_safe (orderly : setting.game.Orderly arena me occurs) (bound : setting.context.entity? = some me)
    {root : Stmt} (typed : root.WellTyped globals) (checked : root.Checked globals) :
    setting.Guards (· ∈ root.walk) (·.Safe globals arena me occurs) (·.Safe globals arena me occurs)
      fun f m => m.Safe globals arena me occurs ∧ ∃ t ∈ root.walk, setting.Fails arena me occurs m t f where
  stop _ h := h
  pay _ h _ := ⟨h.fits, h.occurs, h.placed⟩
  resume _ h := ⟨h.fits, h.occurs, h.placed⟩
  suspend _ _ h := ⟨h.fits, h.occurs, h.placed⟩
  bind id at? kind name body inside m e h :=
    ⟨h.fits.set (w := { ty := .entity, value := .entity (.being e) }) (Stmt.declared_of_each (checked _ inside)) rfl,
      h.occurs, h.placed⟩
  fetch id at? kind name body inside m h f failed := by
    obtain ⟨v, found, ty, -⟩ := h.fits.exists_get? (Stmt.declared_of_each (checked _ inside))
    have resident : setting.context.resident setting.game.world m.host = .ok me :=
      Context.resident_of_placed bound (by rw [orderly.world]; exact h.placed)
    unfold members at failed
    rw [found] at failed
    dsimp only at failed
    rw [if_pos ty, resident] at failed
    dsimp only at failed
    rw [orderly.world] at failed
    exact ⟨h, _, inside, .raises (.member (Arena.collection_error (orderly.sandbox _ h.occurs) failed))⟩
  test s c inside own m h := by
    have directly := Stmt.mem_expressions_of_condition own
    have tested : Exec.Meets (fun _ m' => m'.Safe globals arena me occurs)
        (fun f m' => m'.Safe globals arena me occurs ∧ ∃ t ∈ root.walk, setting.Fails arena me occurs m' t f)
        (Exec.eval setting c) m :=
      (meets_operand orderly bound directly ((typed s inside).expression directly) h).mono (fun _ _ ⟨safe, _⟩ => safe)
        fun f m' ⟨safe, raises⟩ => ⟨safe, s, inside, raises⟩
    have told : Exec.Meets (fun _ m' => m'.Safe globals arena me occurs)
        (fun f m' => m'.Safe globals arena me occurs ∧ ∃ t ∈ root.walk, setting.Fails arena me occurs m' t f)
        (do return (← Exec.eval setting c).toBool : Exec σ Bool) m := tested.bind fun v m' safe => safe
    exact told.answer
  effect s inside isLeaf m h :=
    ((meets_effect orderly bound (typed s inside) (checked s inside) isLeaf h).mono (fun _ _ => id)
      fun f m' ⟨safe, raises⟩ => ⟨safe, s, inside, raises⟩).answer
  gap fault inside _ _ := (typed _ inside).elim

end Setting

end WormLang
