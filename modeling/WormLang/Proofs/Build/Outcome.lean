import WormLang.Builder.OfTree
import WormLang.Proofs.Statement

/-!
What comes out of a build. A build never forgets a fault, never declares a variable while it makes nodes, and gives
every conditional statement an identity that no other statement of the build has. If it ends without a fault, no
check has failed: every operand has the type that its operator needs, and there is no placeholder.
-/
namespace WormLang

namespace Expr

/-- Every operand has the type that its operator needs, every variable its declared type, and no part is a
placeholder. -/
def WellTyped (globals : Table Variable) : Expr → Prop
  | number .. | boolean .. | null _ | self _ => True
  | access _ name t => (globals.get? name).map Variable.ty = some t
  | arithmetic _ _ l r | order _ _ l r =>
    (l.WellTyped globals ∧ l.ty? = some .number) ∧ r.WellTyped globals ∧ r.ty? = some .number
  | equality _ _ l r => l.WellTyped globals ∧ r.WellTyped globals ∧ l.ty? = r.ty?
  | logical _ _ l r =>
    (l.WellTyped globals ∧ l.ty? = some .boolean) ∧ r.WellTyped globals ∧ r.ty? = some .boolean
  | math _ _ e | search _ e => e.WellTyped globals ∧ e.ty? = some .number
  | negation _ e => e.WellTyped globals ∧ e.ty? = some .boolean
  | query _ _ e | sameTeam _ e | isKind _ _ e => e.WellTyped globals ∧ e.ty? = some .entity
  | placeholder _ => False

def operands : Expr → List Expr
  | arithmetic _ _ l r | order _ _ l r | equality _ _ l r | logical _ _ l r => [l, r]
  | math _ _ e | negation _ e | query _ _ e | sameTeam _ e | isKind _ _ e | search _ e => [e]
  | _ => []

def walk : Expr → List Expr
  | arithmetic at? op l r => arithmetic at? op l r :: (l.walk ++ r.walk)
  | order at? op l r => order at? op l r :: (l.walk ++ r.walk)
  | equality at? op l r => equality at? op l r :: (l.walk ++ r.walk)
  | logical at? op l r => logical at? op l r :: (l.walk ++ r.walk)
  | math at? f e => math at? f e :: e.walk
  | negation at? e => negation at? e :: e.walk
  | query at? q e => query at? q e :: e.walk
  | sameTeam at? e => sameTeam at? e :: e.walk
  | isKind at? kind e => isKind at? kind e :: e.walk
  | search at? e => search at? e :: e.walk
  | e => [e]

theorem walk_eq (e : Expr) : e.walk = e :: e.operands.flatMap walk := by
  cases e <;> simp [walk, operands]

/-- Induction from the expressions directly inside an expression to the expression. -/
theorem operand_induction {motive : Expr → Prop} (step : ∀ e, (∀ o ∈ e.operands, motive o) → motive e)
    (e : Expr) : motive e := by
  induction e <;> refine step _ ?_ <;> simp only [operands] <;> grind

def isPlaceholder : Expr → Bool
  | placeholder _ => true
  | _ => false

theorem WellTyped.operand {globals : Table Variable} {e operand : Expr} (typed : e.WellTyped globals)
    (inside : operand ∈ e.operands) : operand.WellTyped globals := by
  cases e <;> simp only [operands, List.mem_cons, List.not_mem_nil, or_false] at inside
  case arithmetic | order | logical => obtain rfl | rfl := inside <;> first | exact typed.1.1 | exact typed.2.1
  case equality => obtain rfl | rfl := inside <;> first | exact typed.1 | exact typed.2.1
  all_goals
    subst inside
    exact typed.1

/-- A well typed expression has no placeholder inside. -/
theorem WellTyped.solid {globals : Table Variable} {e : Expr} (typed : e.WellTyped globals) :
    ∀ part ∈ e.walk, part.isPlaceholder = false := by
  induction e using operand_induction with
  | step e ih =>
    intro part inside
    rw [walk_eq] at inside
    obtain rfl | deeper := List.mem_cons.mp inside
    · cases part with
      | placeholder fault => cases typed
      | _ => rfl
    · obtain ⟨operand, directly, among⟩ := List.mem_flatMap.mp deeper
      exact ih operand directly (typed.operand directly) part among

theorem WellTyped.exists_ty {globals : Table Variable} {e : Expr} (typed : e.WellTyped globals) :
    ∃ t, e.ty? = some t := by
  cases e <;> first | exact ⟨_, rfl⟩ | cases typed

/-- The type of an operand that is no placeholder is what was required. -/
theorem ty?_of_expect {globals : Table Variable} {e : Expr} (typed : e.WellTyped globals) {at? : Option Position}
    {place : Place} {t : Ty} {u : Unit} (passed : expect at? place t e = .ok u) : e.ty? = some t := by
  obtain ⟨got, known⟩ := typed.exists_ty
  unfold expect at passed
  rw [known] at passed
  dsimp only at passed
  split at passed
  · next same => rw [known, same]
  · cases passed

end Expr

/-- The outcome of a step in an exception monad. -/
theorem bind_eq_ok {ε α β : Type} {step : Except ε α} {next : α → Except ε β} {value : β} :
    (step >>= next) = .ok value ↔ ∃ a, step = .ok a ∧ next a = .ok value := by
  cases step with
  | error e =>
    constructor
    · intro h
      cases h
    · rintro ⟨a, h, -⟩
      cases h
  | ok a =>
    constructor
    · intro h
      exact ⟨a, rfl, h⟩
    · rintro ⟨a, h, done⟩
      cases h
      exact done

namespace Builder

/-- What every step of a build keeps. -/
structure Grows (b b' : Builder) : Prop where
  globals : b'.globals = b.globals
  ids : b.nextId ≤ b'.nextId
  faults : b'.failed = false → b.failed = false

theorem Grows.refl (b : Builder) : b.Grows b := ⟨rfl, Nat.le_refl _, id⟩

theorem Grows.trans {b b' b'' : Builder} (first : b.Grows b') (second : b'.Grows b'') : b.Grows b'' where
  globals := second.globals.trans first.globals
  ids := Nat.le_trans first.ids second.ids
  faults := fun clean => first.faults (second.faults clean)

theorem run_bind {α β : Type} (x : Build α) (f : α → Build β) (b : Builder) :
    (x >>= f).run b = (f (x.run b).1).run (x.run b).2 := rfl

/-- A step of a build that makes an expression. -/
structure MakesExpr (b : Builder) (out : Expr × Builder) : Prop where
  grows : b.Grows out.2
  typed : out.2.failed = false → out.1.WellTyped b.globals

theorem MakesExpr.of_grows {b b' : Builder} {out : Expr × Builder} (before : b.Grows b')
    (makes : b'.MakesExpr out) : b.MakesExpr out where
  grows := before.trans makes.grows
  typed := fun clean => before.globals ▸ makes.typed clean

theorem failed_reject (form : Form) (f : Fault) (b : Builder) : ((reject form f).run b).2.failed = true := by
  show (!(b.faults.push f).isEmpty) = true
  simp

theorem grows_reject (form : Form) (f : Fault) (b : Builder) : b.Grows ((reject form f).run b).2 where
  globals := rfl
  ids := Nat.le_refl _
  faults := by simp [failed_reject]

/-- Keeping an expression, given that it is well typed if it passed its checks and no fault was collected. -/
theorem makes_keepExpr (form : Form) (e? : Except Fault Expr) (b : Builder)
    (typed : ∀ e, e? = .ok e → b.failed = false → e.WellTyped b.globals) :
    b.MakesExpr ((keepExpr form e?).run b) := by
  cases e? with
  | ok e => exact ⟨.refl b, typed e rfl⟩
  | error f =>
    refine ⟨grows_reject form f b, fun clean => ?_⟩
    rw [show ((keepExpr form (.error f)).run b).2 = ((reject form f).run b).2 from rfl, failed_reject] at clean
    cases clean

end Builder

open Builder

theorem BinaryOp.wellTyped_make {globals : Table Variable} {at? : Option Position} {l r e : Expr}
    (left : l.WellTyped globals) (right : r.WellTyped globals) (op : BinaryOp) (made : op.make at? l r = .ok e) :
    e.WellTyped globals := by
  cases op with
  | arithmetic op =>
    obtain ⟨_, passedLeft, made⟩ := bind_eq_ok.mp made
    obtain ⟨_, passedRight, made⟩ := bind_eq_ok.mp made
    cases made
    exact ⟨⟨left, Expr.ty?_of_expect left passedLeft⟩, right, Expr.ty?_of_expect right passedRight⟩
  | order op =>
    obtain ⟨_, passedLeft, made⟩ := bind_eq_ok.mp made
    obtain ⟨_, passedRight, made⟩ := bind_eq_ok.mp made
    cases made
    exact ⟨⟨left, Expr.ty?_of_expect left passedLeft⟩, right, Expr.ty?_of_expect right passedRight⟩
  | logical op =>
    obtain ⟨_, passedLeft, made⟩ := bind_eq_ok.mp made
    obtain ⟨_, passedRight, made⟩ := bind_eq_ok.mp made
    cases made
    exact ⟨⟨left, Expr.ty?_of_expect left passedLeft⟩, right, Expr.ty?_of_expect right passedRight⟩
  | equality op =>
    obtain ⟨t, tyLeft⟩ := left.exists_ty
    obtain ⟨u, tyRight⟩ := right.exists_ty
    simp only [BinaryOp.make, Expr.mkEquality, tyLeft, tyRight] at made
    split at made
    · next same =>
      cases made
      exact ⟨left, right, by rw [tyLeft, tyRight, same]⟩
    · cases made

theorem UnaryOp.makes_build {at? : Option Position} {e : Expr} {b : Builder}
    (operand : b.failed = false → e.WellTyped b.globals) (op : UnaryOp) :
    b.MakesExpr ((op.build at? e).run b) := by
  cases op with
  | negative =>
    refine makes_keepExpr _ _ b fun made ok clean => ?_
    have zero : (Expr.number at? 0.0).WellTyped b.globals := trivial
    exact BinaryOp.wellTyped_make zero (operand clean) (.arithmetic .sub) ok
  | bang | query | sameTeam | test | search =>
    refine makes_keepExpr _ _ b fun made ok clean => ?_
    obtain ⟨_, passed, ok⟩ := bind_eq_ok.mp ok
    cases ok
    exact ⟨operand clean, Expr.ty?_of_expect (operand clean) passed⟩

namespace Builder

theorem failed_collect (f : Fault) (b : Builder) : ((collect f).run b).2.failed = true := by
  show (!(b.faults.push f).isEmpty) = true
  simp

theorem grows_collect (f : Fault) (b : Builder) : b.Grows ((collect f).run b).2 where
  globals := rfl
  ids := Nat.le_refl _
  faults := by simp [failed_collect]

theorem run_access (at? : Option Position) (name : String) (b : Builder) :
    (access at? name).run b =
      match b.globals.get? name with
      | some v => (keepExpr .access (Expr.mkAccess at? name v.ty)).run b
      | none =>
        (Expr.placeholder { cause := .notDeclared name, position := at? },
          ((collect { cause := .notDeclared name, position := at? }).run b).2) := by
  unfold access
  rw [run_bind]
  show StateT.run (match b.globals.get? name with | some v => _ | none => _) b = _
  cases b.globals.get? name <;> rfl

theorem makes_access (at? : Option Position) (name : String) (b : Builder) :
    b.MakesExpr ((access at? name).run b) := by
  rw [run_access]
  cases declared : b.globals.get? name with
  | none => exact ⟨grows_collect _ b, fun clean => by rw [failed_collect] at clean; cases clean⟩
  | some v =>
    refine makes_keepExpr _ _ b fun e made _ => ?_
    unfold Expr.mkAccess at made
    split at made
    · cases made
    · cases made
      simp [Expr.WellTyped, declared]

end Builder

/-- What comes out of building an expression. -/
theorem ExprTree.makes_build (file : Option String) (t : ExprTree) (b : Builder) :
    b.MakesExpr ((t.build file).run b) := by
  induction t generalizing b with
  | number extent text => exact ⟨.refl b, fun _ => trivial⟩
  | truth extent value => exact ⟨.refl b, fun _ => trivial⟩
  | null extent => exact ⟨.refl b, fun _ => trivial⟩
  | self extent => exact ⟨.refl b, fun _ => trivial⟩
  | name extent text => exact makes_access _ text b
  | unary extent op operand ih =>
    have inner := ih b
    rw [build, run_bind]
    exact .of_grows inner.grows
      (UnaryOp.makes_build (fun clean => inner.grows.globals ▸ inner.typed clean) op)
  | call extent f argument ih =>
    have inner := ih b
    rw [build, run_bind]
    refine .of_grows inner.grows (makes_keepExpr _ _ _ fun e made clean => ?_)
    have typed := inner.grows.globals ▸ inner.typed clean
    obtain ⟨_, passed, made⟩ := bind_eq_ok.mp made
    cases made
    exact ⟨typed, Expr.ty?_of_expect typed passed⟩
  | binary extent op left right ihLeft ihRight =>
    have first := ihLeft b
    rw [build, run_bind, run_bind]
    have second := ihRight ((left.build file).run b).2
    refine .of_grows (first.grows.trans second.grows) (makes_keepExpr _ _ _ fun e made clean => ?_)
    have typedRight := second.grows.globals ▸ second.typed clean
    have typedLeft := first.typed (second.grows.faults clean)
    rw [← first.grows.globals, ← second.grows.globals] at typedLeft
    exact BinaryOp.wellTyped_make typedLeft typedRight op made

/-- The operand of an action is a number. -/
def Action.WellTyped (globals : Table Variable) : Action → Prop
  | turn e | fire e => e.WellTyped globals ∧ e.ty? = some .number
  | _ => True

namespace Stmt

/-- A statement passes its own checks, whatever is inside it. -/
def Fits (globals : Table Variable) : Stmt → Prop
  | sequence .. => True
  | assignment _ _ e | print _ e => e.WellTyped globals
  | action _ a => a.WellTyped globals
  | branch _ _ c _ _ | loop _ _ c _ => c.WellTyped globals ∧ c.ty? = some .boolean
  | each _ _ _ _ body => body.hasAction = false
  | placeholder _ => False

def WellTyped (globals : Table Variable) (s : Stmt) : Prop := ∀ t ∈ s.walk, t.Fits globals

theorem wellTyped_iff {globals : Table Variable} {s : Stmt} :
    s.WellTyped globals ↔ s.Fits globals ∧ ∀ t ∈ s.children, t.WellTyped globals := forall_walk_iff

theorem WellTyped.solid {globals : Table Variable} {s : Stmt} (typed : s.WellTyped globals) : s.Solid := by
  intro t inside
  have fits := typed t inside
  cases t with
  | placeholder fault => cases fits
  | _ => rfl

end Stmt

/-- Identities that are different and lie between two bounds. -/
structure IdRange (low high : Nat) (ids : List NodeId) : Prop where
  nodup : ids.Nodup
  bounds : ∀ id ∈ ids, low ≤ id.index ∧ id.index < high

namespace IdRange

variable {low middle high : Nat} {ids more : List NodeId}

theorem nil (low high : Nat) : IdRange low high [] := ⟨List.nodup_nil, by simp⟩

theorem mono {low' high' : Nat} (range : IdRange low high ids) (below : low' ≤ low) (above : high ≤ high') :
    IdRange low' high' ids where
  nodup := range.nodup
  bounds := fun id member => by
    have bounds := range.bounds id member
    omega

theorem append (first : IdRange low middle ids) (second : IdRange middle high more) (ordered : low ≤ middle)
    (above : middle ≤ high) : IdRange low high (ids ++ more) where
  nodup := by
    refine List.nodup_append.mpr ⟨first.nodup, second.nodup, fun a inFirst b inSecond same => ?_⟩
    have boundsFirst := first.bounds a inFirst
    have boundsSecond := second.bounds b inSecond
    rw [same] at boundsFirst
    omega
  bounds := fun id member => by
    obtain inFirst | inSecond := List.mem_append.mp member
    · have bounds := first.bounds id inFirst
      omega
    · have bounds := second.bounds id inSecond
      omega

theorem perm (range : IdRange low high ids) (same : ids.Perm more) : IdRange low high more where
  nodup := same.nodup_iff.mp range.nodup
  bounds := fun id member => range.bounds id (same.mem_iff.mpr member)

/-- The next identity is a new one. -/
theorem fresh (range : IdRange low high ids) (ordered : low ≤ high) : IdRange low (high + 1) (⟨high⟩ :: ids) where
  nodup := by
    refine List.nodup_cons.mpr ⟨fun member => ?_, range.nodup⟩
    have bounds := range.bounds _ member
    exact Nat.lt_irrefl _ bounds.2
  bounds := fun id member => by
    obtain rfl | member := List.mem_cons.mp member
    · exact ⟨ordered, Nat.lt_succ_self _⟩
    · have bounds := range.bounds id member
      omega

end IdRange

namespace Builder

/-- A step of a build that makes a statement. -/
structure MakesStmt (b : Builder) (out : Stmt × Builder) : Prop where
  grows : b.Grows out.2
  ids : IdRange b.nextId out.2.nextId out.1.ids
  typed : out.2.failed = false → out.1.WellTyped b.globals

/-- A step of a build that makes statements. -/
structure MakesStmts (b : Builder) (out : List Stmt × Builder) : Prop where
  grows : b.Grows out.2
  ids : IdRange b.nextId out.2.nextId (out.1.flatMap Stmt.ids)
  typed : out.2.failed = false → ∀ s ∈ out.1, s.WellTyped b.globals

/-- Keeping a statement after the steps that made its parts. -/
theorem makes_keepStmt (form : Form) (s? : Except Fault Stmt) {b b' : Builder} (before : b.Grows b')
    (ids : ∀ s, s? = .ok s → IdRange b.nextId b'.nextId s.ids)
    (typed : ∀ s, s? = .ok s → b'.failed = false → s.WellTyped b.globals) :
    b.MakesStmt ((keepStmt form s?).run b') := by
  cases s? with
  | ok s => exact ⟨before, ids s rfl, typed s rfl⟩
  | error f =>
    have failed : ((keepStmt form (.error f)).run b').2.failed = true := failed_reject form f b'
    refine ⟨before.trans (grows_reject form f b'), IdRange.nil _ _, fun clean => ?_⟩
    rw [failed] at clean
    cases clean

/-- Keeping a conditional statement under a new identity. -/
theorem makes_conditional (form : Form) (make : NodeId → Except Fault Stmt) {b b' : Builder} (before : b.Grows b')
    (own : ∀ id s, make id = .ok s → s.id? = some id)
    (ids : ∀ id s, make id = .ok s → IdRange b.nextId b'.nextId (s.children.flatMap Stmt.ids))
    (typed : ∀ id s, make id = .ok s → b'.failed = false →
      s.Fits b.globals ∧ ∀ t ∈ s.children, t.WellTyped b.globals) :
    b.MakesStmt ((freshId >>= fun id => keepStmt form (make id)).run b') := by
  rw [run_bind]
  have step : b'.Grows (freshId.run b').2 := ⟨rfl, Nat.le_succ _, id⟩
  refine makes_keepStmt form _ (before.trans step) (fun s made => ?_) fun s made clean => ?_
  · rw [Stmt.ids_eq, own _ s made]
    exact (ids _ s made).fresh before.ids
  · exact Stmt.wellTyped_iff.mpr (typed _ s made clean)

end Builder

namespace Stmt

variable {id : NodeId} {at? : Option Position} {name : String} {e c : Expr} {yes body s : Stmt} {no? : Option Stmt}

theorem eq_of_mkAssignment (made : mkAssignment at? name e = .ok s) : s = .assignment at? name e := by
  unfold mkAssignment at made
  split at made
  · cases made
  · cases made
    rfl

theorem eq_of_mkAction {a : Action} (made : mkAction at? a = .ok s) : s = .action at? a := by
  cases a with
  | turn e | fire e =>
    obtain ⟨_, -, made⟩ := bind_eq_ok.mp made
    cases made
    rfl
  | _ =>
    cases made
    rfl

theorem eq_of_mkBranch (made : mkBranch id at? c yes no? = .ok s) :
    (∃ u, Expr.expect at? (.condition "if") .boolean c = .ok u) ∧
      s = .branch id at? c yes (no?.getD (.sequence at? [])) := by
  obtain ⟨u, passed, made⟩ := bind_eq_ok.mp made
  cases made
  exact ⟨⟨u, passed⟩, rfl⟩

theorem eq_of_mkLoop (made : mkLoop id at? c body = .ok s) :
    (∃ u, Expr.expect at? (.condition "while") .boolean c = .ok u) ∧ s = .loop id at? c body := by
  obtain ⟨u, passed, made⟩ := bind_eq_ok.mp made
  cases made
  exact ⟨⟨u, passed⟩, rfl⟩

theorem eq_of_mkEach {kind : LoopKind} (made : mkEach id at? kind name body = .ok s) :
    body.hasAction = false ∧ s = .each id at? kind name body := by
  unfold mkEach at made
  split at made
  · cases made
  · split at made
    · cases made
    · next quiet =>
      cases made
      exact ⟨by simpa using quiet, rfl⟩

end Stmt

namespace Builder

variable {b b' : Builder}

/-- A statement without statements inside, kept after its expression was made. -/
theorem makes_leaf (form : Form) (s? : Except Fault Stmt) (before : b.Grows b')
    (leaf : ∀ s, s? = .ok s → s.isLeaf = true)
    (fits : ∀ s, s? = .ok s → b'.failed = false → s.Fits b.globals) :
    b.MakesStmt ((keepStmt form s?).run b') := by
  refine makes_keepStmt form s? before (fun s made => ?_) fun s made clean => ?_
  · rw [Stmt.ids_of_isLeaf (leaf s made)]
    exact IdRange.nil _ _
  · rw [Stmt.wellTyped_iff, Stmt.children_of_isLeaf (leaf s made)]
    exact ⟨fits s made clean, by simp⟩

theorem makes_assignment {e : Expr} (before : b.Grows b') (typed : b'.failed = false → e.WellTyped b.globals)
    (at? : Option Position) (name : String) :
    b.MakesStmt ((keepStmt .assignment (Stmt.mkAssignment at? name e)).run b') := by
  refine makes_leaf .assignment _ before (fun s made => ?_) fun s made clean => ?_
  · rw [Stmt.eq_of_mkAssignment made]
    rfl
  · rw [Stmt.eq_of_mkAssignment made]
    exact typed clean

/-- An action, kept after the number that it takes was made. -/
theorem makes_action {e : Expr} (before : b.Grows b') (typed : b'.failed = false → e.WellTyped b.globals) (form : Form)
    (at? : Option Position) (place : Place) {a : Action}
    (fits : e.WellTyped b.globals → e.ty? = some .number → (Stmt.action at? a).Fits b.globals) :
    b.MakesStmt ((keepStmt form (do Expr.expect at? place .number e; return .action at? a)).run b') := by
  refine makes_leaf form _ before (fun s made => ?_) fun s made clean => ?_
  · obtain ⟨_, -, made⟩ := bind_eq_ok.mp made
    cases made
    rfl
  · obtain ⟨_, passed, made⟩ := bind_eq_ok.mp made
    cases made
    exact fits (typed clean) (Expr.ty?_of_expect (typed clean) passed)

/-- A branch, after its condition and its branches were made in any order. -/
theorem makes_branch {c : Expr} {yes : Stmt} {no? : Option Stmt} (before : b.Grows b')
    (ids : IdRange b.nextId b'.nextId (yes.ids ++ (no?.toList.flatMap Stmt.ids)))
    (typed : b'.failed = false → c.WellTyped b.globals ∧ yes.WellTyped b.globals ∧
      ∀ no ∈ no?, no.WellTyped b.globals) (at? : Option Position) :
    b.MakesStmt ((branch at? c yes no?).run b') := by
  refine makes_conditional .branch (Stmt.mkBranch · at? c yes no?) before (fun id s made => ?_) (fun id s made => ?_)
    fun id s made clean => ?_
  · rw [(Stmt.eq_of_mkBranch made).2]
    rfl
  · rw [(Stmt.eq_of_mkBranch made).2]
    cases no? with
    | none => simpa [Stmt.children, Stmt.ids_eq, Stmt.id?] using ids
    | some no => simpa [Stmt.children] using ids
  · obtain ⟨⟨u, passed⟩, rfl⟩ := Stmt.eq_of_mkBranch made
    obtain ⟨typedC, typedYes, typedNo⟩ := typed clean
    refine ⟨⟨typedC, Expr.ty?_of_expect typedC passed⟩, ?_⟩
    have typedElse : (no?.getD (.sequence at? [])).WellTyped b.globals := by
      cases no? with
      | none => exact Stmt.wellTyped_iff.mpr ⟨trivial, by simp [Stmt.children]⟩
      | some no => exact typedNo no rfl
    simp [Stmt.children, typedYes, typedElse]

theorem makes_loop {c : Expr} {body : Stmt} (before : b.Grows b') (ids : IdRange b.nextId b'.nextId body.ids)
    (typed : b'.failed = false → c.WellTyped b.globals ∧ body.WellTyped b.globals) (at? : Option Position) :
    b.MakesStmt ((loop at? c body).run b') := by
  refine makes_conditional .loop (Stmt.mkLoop · at? c body) before (fun id s made => ?_) (fun id s made => ?_)
    fun id s made clean => ?_
  · rw [(Stmt.eq_of_mkLoop made).2]
    rfl
  · rw [(Stmt.eq_of_mkLoop made).2]
    simpa [Stmt.children] using ids
  · obtain ⟨⟨u, passed⟩, rfl⟩ := Stmt.eq_of_mkLoop made
    obtain ⟨typedC, typedBody⟩ := typed clean
    exact ⟨⟨typedC, Expr.ty?_of_expect typedC passed⟩, by simp [Stmt.children, typedBody]⟩

theorem makes_each {body : Stmt} (before : b.Grows b') (ids : IdRange b.nextId b'.nextId body.ids)
    (typed : b'.failed = false → body.WellTyped b.globals) (at? : Option Position) (kind : LoopKind)
    (name : String) : b.MakesStmt ((each at? kind name body).run b') := by
  refine makes_conditional .each (Stmt.mkEach · at? kind name body) before (fun id s made => ?_) (fun id s made => ?_)
    fun id s made clean => ?_
  · rw [(Stmt.eq_of_mkEach made).2]
    rfl
  · rw [(Stmt.eq_of_mkEach made).2]
    simpa [Stmt.children] using ids
  · obtain ⟨quiet, rfl⟩ := Stmt.eq_of_mkEach made
    exact ⟨quiet, by simp [Stmt.children, typed clean]⟩

end Builder

mutual

/-- What comes out of building a statement. -/
theorem StmtTree.makes_build (file : Option String) : (t : StmtTree) → (b : Builder) →
    b.MakesStmt ((t.build file).run b)
  | .block extent body, b => by
    have inner := StmtTree.makes_buildAll file body b
    rw [StmtTree.build, run_bind]
    refine ⟨inner.grows, ?_, fun clean => ?_⟩
    · show IdRange _ _ (Stmt.sequence _ ((StmtTree.buildAll file body).run b).1).ids
      rw [Stmt.ids_eq]
      exact inner.ids
    · show (Stmt.sequence _ ((StmtTree.buildAll file body).run b).1).WellTyped _
      exact Stmt.wellTyped_iff.mpr ⟨trivial, inner.typed clean⟩
  | .assignment extent name e, b => by
    have inner := e.makes_build file b
    rw [StmtTree.build, run_bind]
    exact makes_assignment inner.grows inner.typed _ name.text
  | .print extent e, b => by
    have inner := e.makes_build file b
    rw [StmtTree.build, run_bind]
    refine ⟨inner.grows, IdRange.nil _ _, fun clean => ?_⟩
    exact Stmt.wellTyped_iff.mpr ⟨inner.typed clean, by simp [Stmt.children]⟩
  | .turn extent e, b => by
    have inner := e.makes_build file b
    rw [StmtTree.build, run_bind]
    exact makes_action inner.grows inner.typed .turn _ .angle fun typed number => ⟨typed, number⟩
  | .fire extent e, b => by
    have inner := e.makes_build file b
    rw [StmtTree.build, run_bind]
    exact makes_action inner.grows inner.typed .fire _ .yield fun typed number => ⟨typed, number⟩
  | .simple extent a, b => by
    rw [StmtTree.build]
    refine ⟨.refl b, IdRange.nil _ _, fun _ => ?_⟩
    refine Stmt.wellTyped_iff.mpr ⟨?_, by simp [Stmt.children]⟩
    cases a <;> trivial
  | .branch extent c yes, b => by
    have first := c.makes_build file b
    rw [StmtTree.build, run_bind, run_bind]
    have second := StmtTree.makes_build file yes ((c.build file).run b).2
    refine makes_branch (first.grows.trans second.grows) ?_ (fun clean => ?_) _
    · simpa using second.ids.mono first.grows.ids (Nat.le_refl _)
    · exact ⟨first.typed (second.grows.faults clean), first.grows.globals ▸ second.typed clean, by simp⟩
  | .branchElse extent c yes no, b => by
    have first := StmtTree.makes_build file no b
    rw [StmtTree.build, run_bind, run_bind, run_bind]
    have second := c.makes_build file ((no.build file).run b).2
    have third := StmtTree.makes_build file yes ((c.build file).run ((no.build file).run b).2).2
    have between := first.grows.trans second.grows
    refine makes_branch (between.trans third.grows) ?_ (fun clean => ?_) _
    · have both := (first.ids.mono (Nat.le_refl _) second.grows.ids).append third.ids between.ids third.grows.ids
      simpa using both.perm List.perm_append_comm
    · have cleanBetween := third.grows.faults clean
      refine ⟨first.grows.globals ▸ second.typed cleanBetween, between.globals ▸ third.typed clean, ?_⟩
      intro s member
      cases member
      exact first.typed (second.grows.faults cleanBetween)
  | .loop extent c body, b => by
    have first := c.makes_build file b
    rw [StmtTree.build, run_bind, run_bind]
    have second := StmtTree.makes_build file body ((c.build file).run b).2
    refine makes_loop (first.grows.trans second.grows) (second.ids.mono first.grows.ids (Nat.le_refl _))
      (fun clean => ?_) _
    exact ⟨first.typed (second.grows.faults clean), first.grows.globals ▸ second.typed clean⟩
  | .each extent kindExtent kind name body, b => by
    have inner := StmtTree.makes_build file body b
    rw [StmtTree.build, run_bind]
    exact makes_each inner.grows inner.ids inner.typed _ kind name.text

theorem StmtTree.makes_buildAll (file : Option String) : (body : List StmtTree) → (b : Builder) →
    b.MakesStmts ((StmtTree.buildAll file body).run b)
  | [], b => by
    rw [StmtTree.buildAll]
    exact ⟨.refl b, IdRange.nil _ _, fun _ s member => by cases member⟩
  | t :: rest, b => by
    have first := StmtTree.makes_build file t b
    rw [StmtTree.buildAll, run_bind, run_bind]
    have second := StmtTree.makes_buildAll file rest ((t.build file).run b).2
    refine ⟨first.grows.trans second.grows, ?_, fun clean s member => ?_⟩
    · show IdRange _ _ (((t.build file).run b).1 :: ((StmtTree.buildAll file rest).run _).1 |>.flatMap Stmt.ids)
      rw [List.flatMap_cons]
      exact first.ids.append second.ids first.grows.ids second.grows.ids
    · obtain rfl | member := List.mem_cons.mp member
      · exact first.typed (second.grows.faults clean)
      · exact first.grows.globals ▸ second.typed clean s member

end

/-- What comes out of building an item: a declaration without a first value is no statement. -/
theorem ItemTree.makes_build (file : Option String) (item : ItemTree) (b : Builder) :
    b.MakesStmts (((item.build file).run b).1.toList, ((item.build file).run b).2) := by
  have single : ∀ out : Stmt × Builder, b.MakesStmt out → b.MakesStmts ([out.1], out.2) := by
    intro out makes
    exact ⟨makes.grows, by simpa using makes.ids, fun clean => by simpa using makes.typed clean⟩
  cases item with
  | declaration extent typeExtent ty name initial? =>
    cases initial? with
    | none => exact ⟨.refl b, IdRange.nil _ _, fun _ s member => by cases member⟩
    | some initial =>
      have inner := initial.makes_build file b
      exact single _ (makes_assignment inner.grows inner.typed (extent.position file) name.text)
  | statement tree => exact single _ (tree.makes_build file b)

theorem ItemTree.makes_buildAll (file : Option String) (items : List ItemTree) (b : Builder) :
    b.MakesStmts (((items.mapM (ItemTree.build file)).run b).1.filterMap id,
      ((items.mapM (ItemTree.build file)).run b).2) := by
  induction items generalizing b with
  | nil => exact ⟨.refl b, IdRange.nil _ _, fun _ s member => by cases member⟩
  | cons item rest ih =>
    have first := item.makes_build file b
    have second := ih ((item.build file).run b).2
    rw [List.mapM_cons, run_bind, run_bind]
    have split : ((item.build file).run b).1.toList ++
        ((rest.mapM (ItemTree.build file)).run ((item.build file).run b).2).1.filterMap id =
        (((item.build file).run b).1 :: ((rest.mapM (ItemTree.build file)).run ((item.build file).run b).2).1).filterMap
          id := by
      cases ((item.build file).run b).1 <;> rfl
    show b.MakesStmts ((_ :: _ : List (Option Stmt)).filterMap id, _)
    rw [← split]
    refine ⟨first.grows.trans second.grows, ?_, fun clean s member => ?_⟩
    · rw [List.flatMap_append]
      exact first.ids.append second.ids first.grows.ids second.grows.ids
    · obtain inFirst | inRest := List.mem_append.mp member
      · exact first.typed (second.grows.faults clean) s inFirst
      · exact first.grows.globals ▸ second.typed clean s inRest

namespace Program

variable {source : String} {file : Option String} {handler? : Option HandlerId} {budget : Except Fault Int}
  {p : Program}

/-- A program that comes out of its text was built without a fault. -/
theorem exists_tree_of_parse (parsed : parse source file handler? budget = .ok p) :
    ∃ tree, ProgramTree.parse source = .ok tree ∧ ((tree.build file).run { handler? }).2.failed = false ∧
      p.root = ((tree.build file).run { handler? }).1 ∧
      p.globals = ((tree.build file).run { handler? }).2.globals ∧ p.validate = [] ∧
      p.state.cursor = none := by
  obtain ⟨tree, read, parsed⟩ := bind_eq_ok.mp parsed
  obtain ⟨program, made, checked⟩ := bind_eq_ok.mp parsed
  refine ⟨tree, ?_, ?_⟩
  · cases outcome : ProgramTree.parse source with
    | error stop =>
      rw [outcome] at read
      cases read
    | ok other =>
      rw [outcome] at read
      cases read
      rfl
  · have same : program = p ∧ p.validate = [] := by
      split at checked
      · next clean =>
        cases checked
        exact ⟨rfl, clean⟩
      · cases checked
    obtain ⟨rfl, valid⟩ := same
    unfold Builder.program at made
    split at made
    · cases made
    · next clean =>
      refine ⟨Bool.eq_false_iff.mpr clean, ?_⟩
      cases budget with
      | error f => cases made
      | ok n =>
        cases made
        exact ⟨rfl, rfl, valid, rfl⟩

/-- A text that is read, built without a fault and fits its declarations is accepted. -/
theorem exists_parse_of_tree {tree : ProgramTree} (read : ProgramTree.parse source = .ok tree) (limit : Int)
    (clean : ((tree.build file).run { handler? }).2.failed = false)
    (valid : ((tree.build file).run { handler? }).1.validate ((tree.build file).run { handler? }).2.globals = []) :
    ∃ p, parse source file handler? (.ok limit) = .ok p ∧ p.root = ((tree.build file).run { handler? }).1 ∧
      p.globals = ((tree.build file).run { handler? }).2.globals := by
  obtain ⟨out, built⟩ : ∃ out, out = (tree.build file).run { handler? } := ⟨_, rfl⟩
  rw [← built] at clean valid ⊢
  obtain ⟨p, same⟩ : ∃ p : Program, p =
      { root := out.1, globals := out.2.globals, handler? := out.2.handler?, maxStatements := limit } := ⟨_, rfl⟩
  have made : out.2.program out.1 (.ok limit) = .ok p := by
    rw [Builder.program, clean, same]
    rfl
  have checked : p.validate = [] := by
    rw [same]
    exact valid
  refine ⟨p, bind_eq_ok.mpr ⟨tree, by rw [read]; rfl, ?_⟩, by rw [same], by rw [same]⟩
  rw [← built]
  refine bind_eq_ok.mpr ⟨p, made, ?_⟩
  rw [checked]
  rfl

/-- A program that comes out of its text has not run yet. -/
theorem cursor_of_parse (parsed : parse source file handler? budget = .ok p) : p.state.cursor = none := by
  obtain ⟨tree, -, -, -, -, -, fresh⟩ := exists_tree_of_parse parsed
  exact fresh

/-- Building the root keeps the variables that were declared first. -/
theorem makes_root (file : Option String) (tree : ProgramTree) (b : Builder) :
    ((tree.items.forM (·.declare file)).run b).2.MakesStmt ((tree.build file).run b) := by
  have inner := ItemTree.makes_buildAll file tree.items ((tree.items.forM (·.declare file)).run b).2
  unfold ProgramTree.build
  rw [run_bind, run_bind]
  refine ⟨inner.grows, ?_, fun clean => ?_⟩
  · show IdRange _ _ (Stmt.sequence _ (_ : List Stmt)).ids
    rw [Stmt.ids_eq]
    exact inner.ids
  · show (Stmt.sequence _ (_ : List Stmt)).WellTyped _
    exact Stmt.wellTyped_iff.mpr ⟨trivial, inner.typed clean⟩

/-- Every conditional statement of a program has an identity of its own. -/
theorem ids_nodup_of_parse (parsed : parse source file handler? budget = .ok p) : p.root.ids.Nodup := by
  obtain ⟨tree, -, -, root, -⟩ := exists_tree_of_parse parsed
  rw [root]
  exact (makes_root file tree _).ids.nodup

/-- Every statement of a program passes its checks. -/
theorem wellTyped_of_parse (parsed : parse source file handler? budget = .ok p) :
    p.root.WellTyped p.globals := by
  obtain ⟨tree, -, clean, root, globals, -⟩ := exists_tree_of_parse parsed
  have makes := makes_root file tree { handler? }
  rw [root, globals, makes.grows.globals]
  exact makes.typed clean

end Program

end WormLang
