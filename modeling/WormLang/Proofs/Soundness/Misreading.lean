import WormLang.Proofs.Soundness.Evaluation

/-!
Values of expressions where nothing is known of the variables. A host can take variables away and declare them anew
with other types, and can put whatever it likes in the place of a field of a being. An expression that its constructors
checked still has a value of its static type if it has one, since a variable is looked up with the type that the
expression was made with. The one way to a value of a wrong type is a query that finds something on a being that is no
number.
-/
namespace WormLang

namespace Expr

/-- Expressions made by constructors from expressions made so, all without a fault. No placeholder is among them. -/
inductive Made : Expr → Prop
  | number (at? : Option Position) (x : Float) : Made (.number at? x)
  | boolean (at? : Option Position) (b : Bool) : Made (.boolean at? b)
  | null (at? : Option Position) : Made (.null at?)
  | self (at? : Option Position) : Made (.self at?)
  | access {at? : Option Position} {name : String} {t : Ty} {e : Expr} (made : mkAccess at? name t = .ok e) : Made e
  | binary {at? : Option Position} {op : BinaryOp} {l r e : Expr} (left : Made l) (right : Made r)
    (made : op.make at? l r = .ok e) : Made e
  | math {at? : Option Position} {f : MathFunction} {o e : Expr} (operand : Made o)
    (made : mkMath at? f o = .ok e) : Made e
  | negation {at? : Option Position} {o e : Expr} (operand : Made o) (made : mkNegation at? o = .ok e) : Made e
  | query {at? : Option Position} {q : Query} {o e : Expr} (operand : Made o)
    (made : mkQuery at? q o = .ok e) : Made e
  | sameTeam {at? : Option Position} {o e : Expr} (operand : Made o) (made : mkSameTeam at? o = .ok e) : Made e
  | isKind {at? : Option Position} {kind : TestKind} {o e : Expr} (operand : Made o)
    (made : mkIsKind at? kind o = .ok e) : Made e
  | search {at? : Option Position} {o e : Expr} (operand : Made o) (made : mkSearch at? o = .ok e) : Made e

end Expr

namespace Expr

/-- An expression that is no placeholder and whose operands have the types that it needs. -/
structure Matched (e : Expr) : Prop where
  solid : e.isPlaceholder = false
  operands : ∀ o ∈ e.operands, o.ty? = e.demand

/-- An expression in which every part is matched. -/
def Coherent (e : Expr) : Prop := ∀ part ∈ e.walk, part.Matched

theorem coherent_iff {e : Expr} : e.Coherent ↔ e.Matched ∧ ∀ o ∈ e.operands, o.Coherent := by
  unfold Coherent
  rw [walk_eq]
  simp only [List.mem_cons, List.mem_flatMap, forall_eq_or_imp, forall_exists_index, and_imp]
  exact and_congr Iff.rfl ⟨fun inside o operand part among => inside part o operand among,
    fun inside part o operand among => inside o operand part among⟩

/-- Every part of a coherent expression is coherent. -/
theorem Coherent.part {e : Expr} (coherent : e.Coherent) : ∀ part ∈ e.walk, part.Coherent := by
  induction e using operand_induction with
  | step e ih =>
    intro part inside
    rw [walk_eq] at inside
    obtain rfl | deeper := List.mem_cons.mp inside
    · exact coherent
    · obtain ⟨operand, directly, among⟩ := List.mem_flatMap.mp deeper
      exact ih operand directly ((coherent_iff.mp coherent).2 operand directly) part among

theorem Coherent.exists_ty {e : Expr} (coherent : e.Coherent) : ∃ t, e.ty? = some t := by
  have solid := (coherent_iff.mp coherent).1.solid
  cases e <;> first | exact ⟨_, rfl⟩ | cases solid

/-- The type of an operand that is no placeholder is what was required. -/
theorem Coherent.expected {e : Expr} (coherent : e.Coherent) {at? : Option Position} {place : Place} {t : Ty} {u : Unit}
    (passed : expect at? place t e = .ok u) : e.ty? = some t := by
  obtain ⟨got, known⟩ := coherent.exists_ty
  unfold expect at passed
  rw [known] at passed
  dsimp only at passed
  split at passed
  · next same => rw [known, same]
  · cases passed

/-- An expression without operands. -/
theorem coherent_of_bare {e : Expr} (solid : e.isPlaceholder = false) (bare : e.operands = []) : e.Coherent :=
  coherent_iff.mpr ⟨⟨solid, by simp [bare]⟩, by simp [bare]⟩

/-- An expression with one operand. -/
theorem coherent_of_unary {e o : Expr} (solid : e.isPlaceholder = false) (only : e.operands = [o])
    (coherent : o.Coherent) (ty : o.ty? = e.demand) : e.Coherent :=
  coherent_iff.mpr ⟨⟨solid, by simpa [only] using ty⟩, by simpa [only] using coherent⟩

/-- An expression with two operands. -/
theorem coherent_of_binary {e l r : Expr} (solid : e.isPlaceholder = false) (both : e.operands = [l, r])
    (left : l.Coherent) (right : r.Coherent) (tyLeft : l.ty? = e.demand) (tyRight : r.ty? = e.demand) : e.Coherent :=
  coherent_iff.mpr ⟨⟨solid, by simpa [both] using ⟨tyLeft, tyRight⟩⟩, by simpa [both] using ⟨left, right⟩⟩

end Expr

theorem BinaryOp.coherent_make {at? : Option Position} {l r e : Expr} (left : l.Coherent) (right : r.Coherent)
    (op : BinaryOp) (made : op.make at? l r = .ok e) : e.Coherent := by
  cases op with
  | arithmetic op | order op | logical op =>
    obtain ⟨_, passedLeft, made⟩ := bind_eq_ok.mp made
    obtain ⟨_, passedRight, made⟩ := bind_eq_ok.mp made
    cases made
    exact Expr.coherent_of_binary rfl rfl left right (left.expected passedLeft) (right.expected passedRight)
  | equality op =>
    obtain ⟨t, tyLeft⟩ := left.exists_ty
    obtain ⟨u, tyRight⟩ := right.exists_ty
    simp only [BinaryOp.make, Expr.mkEquality, tyLeft, tyRight] at made
    split at made
    · next same =>
      cases made
      exact Expr.coherent_of_binary rfl rfl left right rfl (by rw [tyRight, ← same, ← tyLeft]; rfl)
    · cases made

namespace Expr

theorem Made.coherent {e : Expr} (made : e.Made) : e.Coherent := by
  induction made with
  | number | boolean | null | self => exact coherent_of_bare rfl rfl
  | access made =>
    unfold mkAccess at made
    split at made
    · cases made
    · cases made
      exact coherent_of_bare rfl rfl
  | binary _ _ made ihLeft ihRight => exact BinaryOp.coherent_make ihLeft ihRight _ made
  | math _ made ih | negation _ made ih | query _ made ih | sameTeam _ made ih | isKind _ made ih
  | search _ made ih =>
    obtain ⟨_, passed, made⟩ := bind_eq_ok.mp made
    cases made
    exact coherent_of_unary rfl rfl ih (ih.expected passed)

end Expr

/-- A step that does not fail with a value of a wrong type. -/
def Untorn {α : Type} (x : Except Fault α) : Prop := FailsAs (· ≠ .valueType) x

/-- A fault of host data is about no value. -/
theorem Unlocated.untorn {α : Type} {x : Except Fault α} (unlocated : Unlocated x) : Untorn x :=
  unlocated.mono fun kind elsewhere torn => by
    rw [torn] at elsewhere
    cases elsewhere

namespace Arena

variable (a : Arena)

theorem kind_lacks (b : Being) (capability field : String) : (b.lacks capability field).kind ≠ .valueType := by
  cases b <;> simp [Being.lacks, Fault.kind, Cause.kind]

theorem untorn_position (id : EntityId) : Untorn (a.position id) := by
  unfold position
  split
  · exact (Datum.unlocated_toPoint _ _).untorn
  · dsimp only
    split
    · exact .ok _
    · exact .error (kind_lacks _ _ _)

theorem untorn_difference (x y : Float) : Untorn (Angle.difference x y) := by
  intro f failed
  simp [Fault.kind, (Angle.difference_error failed).1, Cause.kind]

/-- Looking around reads places, never values. -/
theorem untorn_searchFrom (id : EntityId) (angle : Float) : Untorn (a.searchFrom id angle) := by
  have looks : ∀ x y nearest other, Untorn (a.lookBy .standard x y angle nearest other) := by
    intro x y nearest other
    refine (a.untorn_position other).bind fun place => ?_
    dsimp only
    split
    · exact .ok _
    · refine (untorn_difference _ _).bind fun off => ?_
      split <;> exact .ok _
  have bare : ∀ {α : Type} method, Untorn (.error (bareFault method) : Except Fault α) := fun _ => .error nofun
  unfold searchFrom searchAt
  split
  · exact bare _
  · refine (a.untorn_position id).bind fun origin => ?_
    unfold search searchBy
    split
    · exact bare _
    · exact ((FailsAs.foldlM (looks _ _) _ _).bind fun _ => .ok _).bind fun _ => .ok _

/-- A direction that cannot be turned from is no value either. -/
theorem untorn_heading {id : EntityId} {angle? : Except Fault Float} (found : a.heading id = .ok angle?) :
    Untorn angle? := by
  unfold heading at found
  split at found
  all_goals cases found
  · exact (Datum.unlocated_summand _ _).untorn
  · exact .ok _

end Arena

namespace Env

variable {σ : Type}

variable {arena : σ → Arena} {env : Env σ}

/-- A computation that does not fail with a value of a wrong type. -/
theorem meets_untorn {α : Type} {x : Except Fault α} (untorn : Untorn x) :
    (Evaluation.ofExcept x).Meets (fun a => x = .ok a) fun f => f.kind ≠ .valueType :=
  .ofExcept (fun _ same => same) untorn

theorem untorn_entity (context : Context) : Untorn context.entity := by
  unfold Context.entity
  split
  · exact .ok _
  · exact .error nofun

/-- Looking around never comes to a value of a wrong type. -/
theorem meets_lookAround_untorn (world : env.world = Arena.world.within arena) (at? : Option Position)
    (offset : Float) : (env.lookAround at? offset).Meets (fun _ => True) fun f => f.kind ≠ .valueType := by
  have capability : ∀ f : Fault, f.kind = .capability → f.kind ≠ .valueType := fun f kind => by simp [kind]
  refine (meets_untorn (untorn_entity _)).bind fun me _ => ?_
  refine (meets_ask_of_fault capability (fun id f _ failed => ?_) at? _).bind fun _ _ => ?_
  · split at failed <;> cases failed
  refine (meets_ask_of_fault capability (fun id f _ failed => ?_) at? _).bind fun angle? found => ?_
  · rw [world] at failed
    cases Arena.heading_error failed
  obtain ⟨_, -, facing⟩ := found
  rw [world] at facing
  have resident : Untorn (env.context.resident env.world env.host) := (untorn_entity _).bind fun _ => by
    split
    · exact .ok _
    · exact .error nofun
  refine (meets_untorn resident).bind fun _ _ => ?_
  refine (meets_untorn ((arena env.host).untorn_heading facing)).bind fun heading _ => ?_
  have searched : Untorn (env.world.search env.host me (heading + offset)) := by
    rw [world]
    exact (arena env.host).untorn_searchFrom me _
  refine (meets_untorn searched).bind fun seen _ => ?_
  split <;> exact (Evaluation.meets_note _).bind fun _ _ => .pure trivial

/-- Whatever the variables are, a coherent expression has a value of its static type, or it fails. It fails with a value
of a wrong type only where a query misreads a field. -/
theorem meets_coherent (world : env.world = Arena.world.within arena) {e : Expr} (coherent : e.Coherent) :
    (env.eval e).Meets (fun v => e.ty? = some v.ty)
      fun f => f.kind = .valueType → ∃ part ∈ e.walk, env.Misreads arena part f := by
  induction e using Expr.operand_induction with
  | step e ih =>
    obtain ⟨matched, inside⟩ := Expr.coherent_iff.mp coherent
    have inner : ∀ o ∈ e.operands, (env.eval o).Meets (fun v => e.demand = some v.ty)
        fun f => f.kind = .valueType → ∃ part ∈ e.walk, env.Misreads arena part f := by
      intro o operand
      refine (ih o operand (inside o operand)).mono (fun v same => (matched.operands o operand).symm.trans same)
        fun f failed torn => ?_
      obtain ⟨part, among, misreads⟩ := failed torn
      exact ⟨part, Expr.mem_walk_of_operand operand among, misreads⟩
    have spare : ∀ {α : Type} {x : Evaluation α} {done : α → Prop},
        x.Meets done (fun f => f.kind ≠ .valueType) →
        x.Meets done fun f => f.kind = .valueType → ∃ part ∈ e.walk, env.Misreads arena part f := fun meets =>
      meets.mono (fun _ h => h) fun f untorn torn => absurd torn untorn
    have capability : ∀ f : Fault, f.kind = .capability → f.kind ≠ .valueType := fun f kind => by simp [kind]
    have own := e.mem_walk_self
    cases e with
    | number | boolean | null | arithmetic | order | equality | logical | math | negation | isKind =>
      exact meets_eval_of_computes rfl inner
    | self => exact (spare (meets_untorn (untorn_entity _))).bind fun _ _ => .pure rfl
    | access at? name t =>
      show (env.readVariable at? name t).Meets _ _
      unfold readVariable Table.lookup
      cases found : env.table.get? name with
      | none => exact .throw nofun
      | some v =>
        -- The value is held against the type that the expression was made with, not against the declared one.
        refine (Evaluation.Meets.pure rfl).bind fun w same => ?_
        subst same
        split
        · next holds => exact .pure (congrArg some holds.symm)
        · exact .throw nofun
    | query at? q e =>
      refine (inner e (by simp [Expr.operands])).traced.bind fun v found => ?_
      obtain ⟨-, log, log', value⟩ := found
      exact ((meets_askNumber world at? q value).mono (fun _ h => h) fun f failed torn =>
        ⟨_, own, failed.resolve_left fun kind => capability f kind torn⟩).bind fun _ _ => .pure rfl
    | sameTeam at? e =>
      have asks : ∀ h, (env.askTeam at? h).Meets (fun _ => True) fun f => f.kind ≠ .valueType := fun h => by
        refine (meets_ask_of_fault capability (fun id f _ failed => ?_) at? _).mono (fun _ _ => trivial) fun _ h => h
        rw [world] at failed
        cases Arena.team_error failed
      exact (inner e (by simp [Expr.operands])).bind fun v _ => (spare (asks _)).bind fun _ _ =>
        (spare (meets_untorn (untorn_entity _))).bind fun _ _ => (spare (asks _)).bind fun _ _ => .pure rfl
    | search at? e =>
      exact (inner e (by simp [Expr.operands])).bind fun v _ =>
        (spare (meets_lookAround_untorn world at? _)).bind fun _ _ => .pure rfl
    | placeholder fault => cases matched.solid

/-- Every operator gets values of the type that it needs. -/
theorem meets_operand_of_coherent (world : env.world = Arena.world.within arena) {e : Expr} (coherent : e.Coherent) :
    ∀ part ∈ e.walk, ∀ o ∈ part.operands, (env.eval o).Meets (fun v => part.demand = some v.ty) fun _ => True := by
  intro part among o operand
  obtain ⟨matched, inner⟩ := Expr.coherent_iff.mp (coherent.part part among)
  exact (meets_coherent world (inner o operand)).mono (fun v same => (matched.operands o operand).symm.trans same)
    fun _ _ => trivial

end Env

end WormLang
