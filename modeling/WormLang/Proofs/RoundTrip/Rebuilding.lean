import WormLang.Proofs.RoundTrip.Reading

/-!
Building from the trees of a printed program. The nodes that passed their checks pass them again, since the checks
look at types and names only, which do not depend on where a node stands.
-/
namespace WormLang

namespace Expr

def bare : Expr → Expr
  | number _ x => number none x
  | boolean _ b => boolean none b
  | null _ => null none
  | self _ => self none
  | access _ name ty => access none name ty
  | arithmetic _ op l r => arithmetic none op l.bare r.bare
  | math _ f e => math none f e.bare
  | order _ op l r => order none op l.bare r.bare
  | equality _ op l r => equality none op l.bare r.bare
  | logical _ op l r => logical none op l.bare r.bare
  | negation _ e => negation none e.bare
  | query _ q e => query none q e.bare
  | sameTeam _ e => sameTeam none e.bare
  | isKind _ k e => isKind none k e.bare
  | search _ e => search none e.bare
  | placeholder fault => placeholder fault

theorem ty?_bare (e : Expr) : e.bare.ty? = e.ty? := by cases e <;> rfl

theorem ty?_of_bare {e e' : Expr} (same : e'.bare = e.bare) : e'.ty? = e.ty? := by
  rw [← ty?_bare e', same, ty?_bare]

theorem unparse_bare (e : Expr) : e.bare.unparse = e.unparse := by
  induction e with
  | number | boolean | null | self | access | placeholder => rfl
  | arithmetic at? op l r ihLeft ihRight | order at? op l r ihLeft ihRight | equality at? op l r ihLeft ihRight
  | logical at? op l r ihLeft ihRight => rw [bare, unparse, ihLeft, ihRight, unparse]
  | math at? f e ih | negation at? e ih | query at? f e ih | sameTeam at? e ih | isKind at? f e ih | search at? e ih =>
    rw [bare, unparse, ih, unparse]

def literals : Expr → List Float
  | number _ x => [x]
  | arithmetic _ _ l r | order _ _ l r | equality _ _ l r | logical _ _ l r => l.literals ++ r.literals
  | math _ _ e | negation _ e | query _ _ e | sameTeam _ e | isKind _ _ e | search _ e => e.literals
  | boolean .. | null _ | self _ | access .. | placeholder _ => []

theorem expect_ok {e : Expr} {t : Ty} (known : e.ty? = some t) (at? : Option Position) (place : Place) :
    expect at? place t e = .ok () := by
  rw [expect, known]
  exact if_pos rfl

end Expr

/-- The text of a number is a number token that reads as the number. -/
structure Number.ReadsBack (x : Float) : Prop where
  valid : (Lexeme.number (displayText x)).Valid
  value : literalValue (displayText x) = x

instance (x : Float) : Decidable (Number.ReadsBack x) :=
  decidable_of_iff ((Lexeme.number (Number.displayText x)).Valid ∧ literalValue (Number.displayText x) = x)
    ⟨fun both => ⟨both.1, both.2⟩, fun reads => ⟨reads.valid, reads.value⟩⟩

namespace Builder

variable {b : Builder}

/-- Building an expression again comes to the same expression, places aside, and leaves no trace. -/
def Remakes (b : Builder) (e : Expr) (out : Expr × Builder) : Prop := out.1.bare = e.bare ∧ out.2 = b

theorem remakes_keepExpr {e : Expr} {e? : Except Fault Expr} (form : Form) (made : Expr) (passed : e? = .ok made)
    (same : made.bare = e.bare) : b.Remakes e ((keepExpr form e?).run b) := by
  rw [passed]
  exact ⟨same, rfl⟩

theorem remakes_bind {e operand : Expr} {x : Build Expr} {f : Expr → Build Expr} (inner : b.Remakes operand (x.run b))
    (outer : ∀ made : Expr, made.bare = operand.bare → b.Remakes e ((f made).run b)) :
    b.Remakes e ((x >>= f).run b) := by
  rw [run_bind, inner.2]
  exact outer _ inner.1

/-- An operand of the type that its operator needs, under the operator. -/
theorem remakes_operator {e operand : Expr} {t : Ty} {make : Expr → Expr} {check : Expr → Except Fault Expr}
    {x : Build Expr} (form : Form) (place : Place) (at? : Option Position) (inner : b.Remakes operand (x.run b))
    (known : operand.ty? = some t)
    (checks : ∀ made, check made = do Expr.expect at? place t made; return make made)
    (same : ∀ made : Expr, made.bare = operand.bare → (make made).bare = e.bare) :
    b.Remakes e ((x >>= fun made => keepExpr form (check made)).run b) := by
  refine remakes_bind inner fun made bare => remakes_keepExpr form _ ?_ (same made bare)
  rw [checks, Expr.expect_ok (Expr.ty?_of_bare bare ▸ known)]
  rfl

/-- Two operands of the type that their operator needs, under the operator. -/
theorem remakes_operators {e l r : Expr} {t : Ty} {make : Expr → Expr → Expr} {check : Expr → Expr → Except Fault Expr}
    {x y : Build Expr} (form : Form) (left right : Place) (at? : Option Position) (first : b.Remakes l (x.run b))
    (second : b.Remakes r (y.run b)) (knownLeft : l.ty? = some t) (knownRight : r.ty? = some t)
    (checks : ∀ l r, check l r = do Expr.expect at? left t l; Expr.expect at? right t r; return make l r)
    (same : ∀ l' r' : Expr, l'.bare = l.bare → r'.bare = r.bare → (make l' r').bare = e.bare) :
    b.Remakes e ((x >>= fun l => y >>= fun r => keepExpr form (check l r)).run b) := by
  refine remakes_bind first fun l' bareLeft => remakes_bind second fun r' bareRight => ?_
  refine remakes_keepExpr form _ ?_ (same l' r' bareLeft bareRight)
  rw [checks, Expr.expect_ok (Expr.ty?_of_bare bareLeft ▸ knownLeft),
    Expr.expect_ok (Expr.ty?_of_bare bareRight ▸ knownRight)]
  rfl

end Builder

open Builder

/-- A tree that matches a well typed expression is built as this expression. -/
theorem ExprTree.Matches.remakes {t : ExprTree} {e : Expr} (fits : t.Matches e) (file : Option String) {b : Builder}
    (typed : e.WellTyped b.globals) (named : ∀ name v, b.globals.get? name = some v → name ≠ "")
    (reads : ∀ x ∈ e.literals, Number.ReadsBack x) : b.Remakes e ((t.build file).run b) := by
  induction fits with
  | number extent at? x =>
    have value := (reads x List.mem_cons_self).value
    exact ⟨congrArg (Expr.number none) value, rfl⟩
  | truth | null | self => exact ⟨rfl, rfl⟩
  | name extent at? text ty =>
    obtain ⟨v, declared, rfl⟩ := Option.map_eq_some_iff.mp typed
    rw [build, run_access, declared]
    refine remakes_keepExpr .access (.access (extent.position file) text v.ty) ?_ rfl
    rw [Expr.mkAccess, if_neg (by simp [named text v declared])]
  | arithmetic extent at? op _ _ ihLeft ihRight =>
    exact remakes_operators .arithmetic (.left op.symbol) (.right op.symbol) _
      (ihLeft typed.1.1 fun x member => reads x (List.mem_append_left _ member))
      (ihRight typed.2.1 fun x member => reads x (List.mem_append_right _ member)) typed.1.2 typed.2.2
      (fun _ _ => rfl) fun l' r' left right => by simp [Expr.bare, left, right]
  | order extent at? op _ _ ihLeft ihRight =>
    exact remakes_operators .order (.left op.symbol) (.right op.symbol) _
      (ihLeft typed.1.1 fun x member => reads x (List.mem_append_left _ member))
      (ihRight typed.2.1 fun x member => reads x (List.mem_append_right _ member)) typed.1.2 typed.2.2
      (fun _ _ => rfl) fun l' r' left right => by simp [Expr.bare, left, right]
  | logical extent at? op _ _ ihLeft ihRight =>
    exact remakes_operators .logical (.left op.symbol) (.right op.symbol) _
      (ihLeft typed.1.1 fun x member => reads x (List.mem_append_left _ member))
      (ihRight typed.2.1 fun x member => reads x (List.mem_append_right _ member)) typed.1.2 typed.2.2
      (fun _ _ => rfl) fun l' r' left right => by simp [Expr.bare, left, right]
  | equality extent at? op _ _ ihLeft ihRight =>
    have first := ihLeft typed.1 fun x member => reads x (List.mem_append_left _ member)
    have second := ihRight typed.2.1 fun x member => reads x (List.mem_append_right _ member)
    refine remakes_bind first fun l' bareLeft => remakes_bind second fun r' bareRight => ?_
    refine remakes_keepExpr .equality (.equality (extent.position file) op l' r') ?_
      (by simp [Expr.bare, bareLeft, bareRight])
    obtain ⟨t, known⟩ := typed.1.exists_ty
    have knownLeft : l'.ty? = some t := by rw [Expr.ty?_of_bare bareLeft, known]
    have knownRight : r'.ty? = some t := by rw [Expr.ty?_of_bare bareRight, ← typed.2.2, known]
    simp [BinaryOp.make, Expr.mkEquality, knownLeft, knownRight]
  | math extent at? f _ ih =>
    exact remakes_operator .math (.argument f.word) _ (ih typed.1 reads) typed.2 (fun _ => rfl)
      fun made bare => by simp [Expr.bare, bare]
  | negation extent at? _ ih =>
    exact remakes_operator .negation .negated _ (ih typed.1 reads) typed.2 (fun _ => rfl)
      fun made bare => by simp [Expr.bare, bare]
  | query extent at? q _ ih =>
    exact remakes_operator .query (.argument q.word) _ (ih typed.1 reads) typed.2 (fun _ => rfl)
      fun made bare => by simp [Expr.bare, bare]
  | sameTeam extent at? _ ih =>
    exact remakes_operator .sameTeam (.argument "sameteam") _ (ih typed.1 reads) typed.2 (fun _ => rfl)
      fun made bare => by simp [Expr.bare, bare]
  | isKind extent at? k _ ih =>
    exact remakes_operator .isKind (.argument k.word) _ (ih typed.1 reads) typed.2 (fun _ => rfl)
      fun made bare => by simp [Expr.bare, bare]
  | search extent at? _ ih =>
    exact remakes_operator .search (.argument "searchobj") _ (ih typed.1 reads) typed.2 (fun _ => rfl)
      fun made bare => by simp [Expr.bare, bare]

def Action.bare : Action → Action
  | turn e => turn e.bare
  | fire e => fire e.bare
  | a => a

theorem Action.unparse_bare (a : Action) : a.bare.unparse = a.unparse := by
  cases a with
  | turn e | fire e => simp only [bare, unparse, Expr.unparse_bare]
  | _ => rfl

namespace Stmt

mutual

/-- A statement without its places in program text and without identities. -/
def bare : Stmt → Stmt
  | sequence _ body => sequence none (bareAll body)
  | assignment _ name e => assignment none name e.bare
  | print _ e => print none e.bare
  | action _ a => action none a.bare
  | branch _ _ c yes no => branch ⟨0⟩ none c.bare yes.bare no.bare
  | loop _ _ c body => loop ⟨0⟩ none c.bare body.bare
  | each _ _ kind name body => each ⟨0⟩ none kind name body.bare
  | placeholder fault => placeholder fault

def bareAll : List Stmt → List Stmt
  | [] => []
  | s :: rest => s.bare :: bareAll rest

end

theorem bareAll_eq_map (body : List Stmt) : bareAll body = body.map bare := by
  induction body with
  | nil => rfl
  | cons s rest ih => rw [bareAll, ih, List.map_cons]

theorem children_bare (s : Stmt) : s.bare.children = s.children.map bare := by
  cases s <;> simp [bare, children, bareAll_eq_map]

theorem walk_bare (s : Stmt) : s.bare.walk = s.walk.map bare := by
  induction s using child_induction with
  | step s ih =>
    rw [walk_eq s.bare, walk_eq s, children_bare, List.flatMap_map, List.map_cons, List.map_flatMap]
    rw [List.flatMap_def, List.flatMap_def, List.map_congr_left ih]

theorem hasAction_bare (s : Stmt) : s.bare.hasAction = s.hasAction := by
  induction s using tree_induction with
  | sequence at? body ih =>
    have same : (body.map bare).map hasAction = body.map hasAction := by
      rw [List.map_map]
      exact List.map_congr_left ih
    rw [bare, hasAction, hasAction, hasActionAny_eq_any, hasActionAny_eq_any, bareAll_eq_map, same]
  | branch id at? c yes no ihYes ihNo => simp only [bare, hasAction, ihYes, ihNo]
  | loop id at? c body ih => simp only [bare, hasAction, ih]
  | each id at? kind name body ih => rfl
  | leaf s isLeaf => cases s <;> first | rfl | cases isLeaf
  | placeholder fault => rfl

theorem unparseAll_congr {body body' : List Stmt} (same : body'.map unparse = body.map unparse) :
    unparseAll body' = unparseAll body := by
  induction body generalizing body' with
  | nil => rw [List.map_eq_nil_iff.mp same]
  | cons s rest ih =>
    obtain ⟨s', rest', rfl, first, others⟩ := List.map_eq_cons_iff.mp same
    rw [unparseAll, unparseAll, first, ih others]

theorem unparse_bare (s : Stmt) : s.bare.unparse = s.unparse := by
  induction s using tree_induction with
  | sequence at? body ih =>
    have same : unparseAll (bareAll body) = unparseAll body := by
      rw [bareAll_eq_map]
      exact unparseAll_congr (by rw [List.map_map]; exact List.map_congr_left ih)
    rw [bare, unparse, same, unparse]
  | branch id at? c yes no ihYes ihNo =>
    simp only [bare, unparse, Expr.unparse_bare, ihYes, ihNo, children_bare, List.isEmpty_map]
  | loop id at? c body ih => simp only [bare, unparse, Expr.unparse_bare, ih]
  | each id at? kind name body ih => simp only [bare, unparse, ih]
  | leaf s isLeaf =>
    cases s with
    | assignment | print => simp only [bare, unparse, Expr.unparse_bare]
    | action => simp only [bare, unparse, Action.unparse_bare]
    | _ => cases isLeaf
  | placeholder fault => rfl

/-- Whether a statement fits the declared variables does not depend on its place. -/
theorem check_bare (table : Table Variable) (s : Stmt) : s.bare.check table = none ↔ s.check table = none := by
  cases s with
  | assignment at? name e =>
    simp only [bare, check, Expr.ty?_bare]
    cases table.get? name with
    | none => simp
    | some v =>
      cases e.ty? with
      | none => simp
      | some t => by_cases same : t = v.ty <;> simp [same]
  | each id at? kind name body =>
    simp only [bare, check]
    cases table.get? name with
    | none => simp
    | some v => by_cases same : v.ty = .entity <;> simp [same]
  | _ => simp [bare, check]

theorem validate_eq_nil {table : Table Variable} {s : Stmt} :
    s.validate table = [] ↔ ∀ t ∈ s.walk, t.check table = none := by
  rw [validate, List.filterMap_eq_nil_iff]

theorem validate_of_bare {table : Table Variable} {s s' : Stmt} (same : s'.bare = s.bare)
    (valid : s.validate table = []) : s'.validate table = [] := by
  rw [validate_eq_nil] at valid ⊢
  have bare : ∀ t ∈ s'.bare.walk, t.check table = none := by
    rw [same, walk_bare]
    intro t member
    obtain ⟨u, inside, rfl⟩ := List.mem_map.mp member
    exact (check_bare table u).mpr (valid u inside)
  intro t inside
  exact (check_bare table t).mp (bare t.bare (by rw [walk_bare]; exact List.mem_map_of_mem inside))

/-- The number literals of a statement and of all statements inside it. -/
def literals (s : Stmt) : List Float := s.walk.flatMap fun t => t.expressions.flatMap Expr.literals

/-- What a statement needs, itself, for its text to read back: it passes its checks, its branches and its body are
blocks, and its numbers read back. -/
structure Sound (globals : Table Variable) (s : Stmt) : Prop where
  fits : s.Fits globals
  checked : s.check globals = none
  blocks : s.HasBlocks
  numbers : ∀ e ∈ s.expressions, ∀ x ∈ e.literals, Number.ReadsBack x

def target? : Stmt → Option String
  | assignment _ name _ | each _ _ _ name _ => some name
  | _ => none

/-- A statement that fits the declared variables assigns to one of them. -/
theorem exists_declared {globals : Table Variable} {s : Stmt} {name : String} (checked : s.check globals = none)
    (target : s.target? = some name) : ∃ v, globals.get? name = some v := by
  cases known : globals.get? name with
  | some v => exact ⟨v, rfl⟩
  | none =>
    cases s with
    | assignment | each =>
      cases target
      simp only [check, known] at checked
      cases checked
    | _ => cases target

end Stmt

namespace Builder

variable {b : Builder}

/-- Building a statement again comes to the same statement, places and identities aside, and collects no fault. -/
structure RemakesStmt (b : Builder) (s : Stmt) (out : Stmt × Builder) : Prop where
  bare : out.1.bare = s.bare
  globals : out.2.globals = b.globals
  faults : out.2.faults = b.faults

theorem remakes_keepStmt {s : Stmt} {s? : Except Fault Stmt} {b' : Builder} (form : Form) (made : Stmt)
    (passed : s? = .ok made) (same : made.bare = s.bare) (globals : b'.globals = b.globals)
    (faults : b'.faults = b.faults) : b.RemakesStmt s ((keepStmt form s?).run b') := by
  rw [passed]
  exact ⟨same, globals, faults⟩

/-- A statement with one expression. -/
theorem remakes_leaf {s : Stmt} {e : Expr} {x : Build Expr} {check : Expr → Except Fault Stmt} (form : Form)
    (make : Expr → Stmt) (inner : b.Remakes e (x.run b))
    (passed : ∀ made : Expr, made.bare = e.bare → check made = .ok (make made))
    (same : ∀ made : Expr, made.bare = e.bare → (make made).bare = s.bare) :
    b.RemakesStmt s ((x >>= fun made => keepStmt form (check made)).run b) := by
  rw [run_bind, inner.2]
  exact remakes_keepStmt form _ (passed _ inner.1) (same _ inner.1) rfl rfl

/-- An action with its operand. -/
theorem remakes_action {e : Expr} {x : Build Expr} {at? at' : Option Position} (form : Form) (place : Place)
    (make : Expr → Action) (inner : b.Remakes e (x.run b)) (known : e.ty? = some .number)
    (checks : ∀ made, Stmt.mkAction at' (make made) = do
      Expr.expect at' place .number made
      return .action at' (make made))
    (same : ∀ made : Expr, made.bare = e.bare → (make made).bare = (make e).bare) :
    b.RemakesStmt (.action at? (make e))
      ((x >>= fun made => keepStmt form (Stmt.mkAction at' (make made))).run b) := by
  refine remakes_leaf form (fun made => .action at' (make made)) inner (fun made bare => ?_)
    fun made bare => by simp only [Stmt.bare, same made bare]
  rw [checks, Expr.expect_ok (Expr.ty?_of_bare bare ▸ known)]
  rfl

end Builder

namespace Stmt

variable {globals : Table Variable}

/-- A tree that matches a sound statement is built as this statement. -/
def IsRebuilt (globals : Table Variable) (s : Stmt) : Prop :=
  ∀ (tree : StmtTree) (file : Option String) (b : Builder), s.Matches tree → b.globals = globals →
    b.RemakesStmt s ((tree.build file).run b)

theorem isRebuilt_assignment (named : ∀ name v, globals.get? name = some v → name ≠ "") {at? : Option Position}
    {name : String} {e : Expr} (sound : (assignment at? name e).Sound globals) :
    (assignment at? name e).IsRebuilt globals := by
  rintro tree file b fits rfl
  cases tree with
  | assignment extent word t =>
    obtain ⟨rfl, inner⟩ := fits
    obtain ⟨v, declared⟩ := exists_declared sound.checked rfl
    have remade := inner.remakes file sound.fits named (sound.numbers e List.mem_cons_self)
    refine remakes_leaf .assignment (assignment (extent.position file) word.text) remade (fun made _ => ?_)
      fun made same => by simp only [bare, same]
    rw [mkAssignment, if_neg (by simp [named _ v declared])]
  | _ => cases fits

theorem isRebuilt_print (named : ∀ name v, globals.get? name = some v → name ≠ "") {at? : Option Position} {e : Expr}
    (sound : (print at? e).Sound globals) : (print at? e).IsRebuilt globals := by
  rintro tree file b fits rfl
  cases tree with
  | print extent t =>
    have inner : t.Matches e := fits
    have remade := inner.remakes file sound.fits named (sound.numbers e List.mem_cons_self)
    rw [StmtTree.build, run_bind, remade.2]
    exact ⟨congrArg (print none) remade.1, rfl, rfl⟩
  | _ => cases fits

theorem isRebuilt_action (named : ∀ name v, globals.get? name = some v → name ≠ "") {at? : Option Position}
    {a : Action} (sound : (action at? a).Sound globals) : (action at? a).IsRebuilt globals := by
  rintro tree file b fits rfl
  cases a with
  | turn angle =>
    cases tree with
    | turn extent t =>
      have inner : t.Matches angle := fits
      have remade := inner.remakes file sound.fits.1 named (sound.numbers angle List.mem_cons_self)
      exact remakes_action .turn .angle .turn remade sound.fits.2 (fun _ => rfl)
        fun made same => by simp only [Action.bare, same]
    | _ => cases fits
  | fire power =>
    cases tree with
    | fire extent t =>
      have inner : t.Matches power := fits
      have remade := inner.remakes file sound.fits.1 named (sound.numbers power List.mem_cons_self)
      exact remakes_action .fire .yield .fire remade sound.fits.2 (fun _ => rfl)
        fun made same => by simp only [Action.bare, same]
    | _ => cases fits
  | move | jump | toggleWeapon | skip =>
    cases tree with
    | simple extent word =>
      cases word <;> first | exact ⟨rfl, rfl, rfl⟩ | cases fits
    | _ => cases fits

theorem isRebuilt_all {body : List Stmt} (each : ∀ s ∈ body, s.IsRebuilt globals) {trees : List StmtTree}
    (fits : MatchesAll body trees) (file : Option String) (b : Builder) (same : b.globals = globals) :
    let out := (StmtTree.buildAll file trees).run b
    out.1.map bare = body.map bare ∧ out.2.globals = b.globals ∧ out.2.faults = b.faults := by
  induction body generalizing trees b with
  | nil =>
    cases trees with
    | nil => exact ⟨rfl, rfl, rfl⟩
    | cons => cases fits
  | cons s rest ih =>
    cases trees with
    | nil => cases fits
    | cons tree trees =>
      obtain ⟨here, others⟩ := fits
      have first := each s List.mem_cons_self tree file b here same
      have second := ih (fun t member => each t (List.mem_cons_of_mem _ member)) others
        ((tree.build file).run b).2 (first.globals.trans same)
      obtain ⟨bare, globals, faults⟩ := second
      rw [StmtTree.buildAll, run_bind, run_bind]
      refine ⟨?_, globals.trans first.globals, faults.trans first.faults⟩
      show (_ :: _ : List Stmt).map Stmt.bare = _
      rw [List.map_cons, List.map_cons, first.bare, bare]

theorem isRebuilt_sequence (at? : Option Position) {body : List Stmt} (each : ∀ s ∈ body, s.IsRebuilt globals) :
    (sequence at? body).IsRebuilt globals := by
  intro tree file b fits same
  cases tree with
  | block extent trees =>
    obtain ⟨bare, globals, faults⟩ := isRebuilt_all each fits file b same
    rw [StmtTree.build, run_bind]
    refine ⟨?_, globals, faults⟩
    show (sequence _ (_ : List Stmt)).bare = _
    rw [Stmt.bare, Stmt.bare, bareAll_eq_map, bareAll_eq_map, bare]
  | _ => cases fits

theorem isRebuilt_loop (named : ∀ name v, globals.get? name = some v → name ≠ "") {id : NodeId}
    {at? : Option Position} {c : Expr} {body : Stmt} (sound : (loop id at? c body).Sound globals)
    (inside : body.IsRebuilt globals) : (loop id at? c body).IsRebuilt globals := by
  rintro tree file b fits rfl
  cases tree with
  | loop extent t inner =>
    obtain ⟨matchCondition, matchBody⟩ := fits
    have condition := matchCondition.remakes file sound.fits.1 named (sound.numbers c List.mem_cons_self)
    have rebuilt := inside inner file b matchBody rfl
    rw [StmtTree.build, run_bind, condition.2, run_bind, Builder.loop, run_bind]
    refine remakes_keepStmt .loop
      (loop ⟨((inner.build file).run b).2.nextId⟩ (extent.position file) ((t.build file).run b).1
        ((inner.build file).run b).1) ?_ ?_ rebuilt.globals rebuilt.faults
    · rw [mkLoop, Expr.expect_ok (Expr.ty?_of_bare condition.1 ▸ sound.fits.2)]
      rfl
    · rw [bare, bare, condition.1, rebuilt.bare]
  | _ => cases fits

theorem isRebuilt_each (named : ∀ name v, globals.get? name = some v → name ≠ "") {id : NodeId}
    {at? : Option Position} {kind : LoopKind} {name : String} {body : Stmt}
    (sound : (each id at? kind name body).Sound globals) (inside : body.IsRebuilt globals) :
    (each id at? kind name body).IsRebuilt globals := by
  rintro tree file b fits rfl
  cases tree with
  | each extent kindExtent k word inner =>
    obtain ⟨rfl, rfl, matchBody⟩ := fits
    obtain ⟨v, declared⟩ := exists_declared sound.checked rfl
    have rebuilt := inside inner file b matchBody rfl
    have quiet : ((inner.build file).run b).1.hasAction = false := by
      have same := congrArg hasAction rebuilt.bare
      rw [hasAction_bare, hasAction_bare] at same
      rw [same]
      exact sound.fits
    rw [StmtTree.build, run_bind, Builder.each, run_bind]
    refine remakes_keepStmt .each
      (each ⟨((inner.build file).run b).2.nextId⟩ (extent.position file) k word.text ((inner.build file).run b).1)
      ?_ ?_ rebuilt.globals rebuilt.faults
    · rw [mkEach, if_neg (by simp [named _ v declared]), if_neg (by simp [quiet])]
      rfl
    · rw [bare, bare, rebuilt.bare]
  | _ => cases fits

theorem isRebuilt_branch (named : ∀ name v, globals.get? name = some v → name ≠ "") {id : NodeId}
    {at? : Option Position} {c : Expr} {yes no : Stmt} (sound : (branch id at? c yes no).Sound globals)
    (insideYes : yes.IsRebuilt globals) (insideNo : no.IsRebuilt globals) :
    (branch id at? c yes no).IsRebuilt globals := by
  rintro tree file b fits rfl
  cases tree with
  | branch extent t first =>
    obtain ⟨matchCondition, matchYes, atNo, rfl⟩ := fits
    have condition := matchCondition.remakes file sound.fits.1 named (sound.numbers c List.mem_cons_self)
    have rebuilt := insideYes first file b matchYes rfl
    rw [StmtTree.build, run_bind, condition.2, run_bind, Builder.branch, run_bind]
    refine remakes_keepStmt .branch
      (branch ⟨((first.build file).run b).2.nextId⟩ (extent.position file) ((t.build file).run b).1
        ((first.build file).run b).1 (sequence (extent.position file) [])) ?_ ?_ rebuilt.globals rebuilt.faults
    · rw [mkBranch, Expr.expect_ok (Expr.ty?_of_bare condition.1 ▸ sound.fits.2)]
      rfl
    · rw [bare, bare, condition.1, rebuilt.bare]
      rfl
  | branchElse extent t first second =>
    obtain ⟨matchCondition, matchYes, matchNo⟩ := fits
    -- the else branch is built first, so the others are built after the identities that it takes
    have rebuiltNo := insideNo second file b matchNo rfl
    obtain ⟨later, built⟩ : ∃ later, later = ((second.build file).run b).2 := ⟨_, rfl⟩
    have globals : later.globals = b.globals := built ▸ rebuiltNo.globals
    have condition : later.Remakes c ((t.build file).run later) :=
      matchCondition.remakes file (globals ▸ sound.fits.1) (globals ▸ named) (sound.numbers c List.mem_cons_self)
    have rebuiltYes := insideYes first file later matchYes globals
    rw [StmtTree.build, run_bind, ← built, run_bind, condition.2, run_bind, Builder.branch, run_bind]
    refine remakes_keepStmt .branch
      (branch ⟨((first.build file).run later).2.nextId⟩ (extent.position file) ((t.build file).run later).1
        ((first.build file).run later).1 ((second.build file).run b).1) ?_ ?_ ?_ ?_
    · rw [mkBranch, Expr.expect_ok (Expr.ty?_of_bare condition.1 ▸ sound.fits.2)]
      rfl
    · rw [bare, bare, condition.1, rebuiltYes.bare, rebuiltNo.bare]
    · exact rebuiltYes.globals.trans globals
    · exact rebuiltYes.faults.trans (built ▸ rebuiltNo.faults)
  | _ => cases fits

/-- A statement that is sound throughout is built again from any tree that matches it. -/
theorem isRebuilt (named : ∀ name v, globals.get? name = some v → name ≠ "") {s : Stmt}
    (sound : ∀ t ∈ s.walk, t.Sound globals) : s.IsRebuilt globals := by
  induction s using child_induction with
  | step s ih =>
    obtain ⟨here, inside⟩ := forall_walk_iff.mp sound
    have rebuilt : ∀ t ∈ s.children, t.IsRebuilt globals := fun t child => ih t child (inside t child)
    cases s with
    | sequence at? body => exact isRebuilt_sequence at? rebuilt
    | assignment at? name e => exact isRebuilt_assignment named here
    | print at? e => exact isRebuilt_print named here
    | action at? a => exact isRebuilt_action named here
    | branch id at? c yes no =>
      exact isRebuilt_branch named here (rebuilt yes (by simp [children])) (rebuilt no (by simp [children]))
    | loop id at? c body => exact isRebuilt_loop named here (rebuilt body (by simp [children]))
    | each id at? kind name body => exact isRebuilt_each named here (rebuilt body (by simp [children]))
    | placeholder fault => cases here.fits

end Stmt

end WormLang
