import WormLang.Proofs.RoundTrip.Source

/-!
Typing rules for program text, and the texts that come to a program. The rules speak about trees and the declarations
of the text only; the checks of a build are spread over the constructors of nodes, the lookup of variables and the
validation of the finished program. A text comes to a program exactly if its tree is well typed: a placeholder, which
every later check lets pass, never hides a second mistake, since its own fault has already refused the program.
-/
namespace WormLang

def UnaryOp.operandTy : UnaryOp → Ty
  | negative | search => .number
  | bang => .boolean
  | query _ | sameTeam | test _ => .entity

def UnaryOp.resultTy : UnaryOp → Ty
  | negative | query _ => .number
  | bang | sameTeam | test _ => .boolean
  | search => .entity

/-- An operator takes two operands of one type to a result of another. -/
inductive BinaryOp.Takes : BinaryOp → Ty → Ty → Prop
  | arithmetic (op : ArithmeticOp) : Takes (.arithmetic op) .number .number
  | order (op : OrderOp) : Takes (.order op) .number .boolean
  | logical (op : LogicalOp) : Takes (.logical op) .boolean .boolean
  | equality (op : EqualityOp) (t : Ty) : Takes (.equality op) t .boolean

/-- The declared type of a name is the one that is listed, if no name is listed twice. -/
theorem lookup_eq_some_iff_mem {declared : List (String × Ty)} (distinct : (declared.map Prod.fst).Nodup)
    {name : String} {t : Ty} : declared.lookup name = some t ↔ (name, t) ∈ declared := by
  rw [List.lookup_eq_some_iff]
  constructor
  · rintro ⟨front, back, rfl, -⟩
    simp
  · intro member
    obtain ⟨front, back, rfl⟩ := List.append_of_mem member
    refine ⟨front, back, rfl, fun p inside => ?_⟩
    rw [List.map_append, List.nodup_append] at distinct
    have differs := distinct.2.2 p.1 (List.mem_map_of_mem inside) name (by simp)
    simpa using differs.symm

/-- The types of expressions, with respect to the declared variables. -/
inductive ExprTree.HasType (declared : List (String × Ty)) : ExprTree → Ty → Prop
  | number (extent : Extent) (text : String) : HasType declared (.number extent text) .number
  | truth (extent : Extent) (b : Bool) : HasType declared (.truth extent b) .boolean
  | null (extent : Extent) : HasType declared (.null extent) .entity
  | self (extent : Extent) : HasType declared (.self extent) .entity
  | name (extent : Extent) {text : String} {t : Ty} (known : (text, t) ∈ declared) :
    HasType declared (.name extent text) t
  | unary (extent : Extent) (op : UnaryOp) {operand : ExprTree} (inner : HasType declared operand op.operandTy) :
    HasType declared (.unary extent op operand) op.resultTy
  | call (extent : Extent) (f : MathFunction) {argument : ExprTree} (inner : HasType declared argument .number) :
    HasType declared (.call extent f argument) .number
  | binary (extent : Extent) {op : BinaryOp} {t u : Ty} {left right : ExprTree} (takes : op.Takes t u)
    (innerLeft : HasType declared left t) (innerRight : HasType declared right t) :
    HasType declared (.binary extent op left right) u

/-- An action statement stands in a tree, at any depth. -/
inductive StmtTree.Acts : StmtTree → Prop
  | turn (extent : Extent) (angle : ExprTree) : Acts (.turn extent angle)
  | fire (extent : Extent) (power : ExprTree) : Acts (.fire extent power)
  | simple (extent : Extent) (action : SimpleAction) : Acts (.simple extent action)
  | block (extent : Extent) {body : List StmtTree} {s : StmtTree} (member : s ∈ body) (inner : Acts s) :
    Acts (.block extent body)
  | branch (extent : Extent) (c : ExprTree) {yes : StmtTree} (inner : Acts yes) : Acts (.branch extent c yes)
  | yes (extent : Extent) (c : ExprTree) {yes : StmtTree} (no : StmtTree) (inner : Acts yes) :
    Acts (.branchElse extent c yes no)
  | no (extent : Extent) (c : ExprTree) (yes : StmtTree) {no : StmtTree} (inner : Acts no) :
    Acts (.branchElse extent c yes no)
  | loop (extent : Extent) (c : ExprTree) {body : StmtTree} (inner : Acts body) : Acts (.loop extent c body)
  | each (extent kindExtent : Extent) (kind : LoopKind) (name : Word) {body : StmtTree} (inner : Acts body) :
    Acts (.each extent kindExtent kind name body)

/-- The statements that are well typed with respect to the declared variables. -/
inductive StmtTree.Typed (declared : List (String × Ty)) : StmtTree → Prop
  | block (extent : Extent) {body : List StmtTree} (inner : ∀ s ∈ body, Typed declared s) :
    Typed declared (.block extent body)
  | assignment (extent : Extent) {name : Word} {t : Ty} {e : ExprTree} (known : (name.text, t) ∈ declared)
    (typed : e.HasType declared t) : Typed declared (.assignment extent name e)
  | print (extent : Extent) {t : Ty} {e : ExprTree} (typed : e.HasType declared t) : Typed declared (.print extent e)
  | turn (extent : Extent) {e : ExprTree} (typed : e.HasType declared .number) : Typed declared (.turn extent e)
  | fire (extent : Extent) {e : ExprTree} (typed : e.HasType declared .number) : Typed declared (.fire extent e)
  | simple (extent : Extent) (action : SimpleAction) : Typed declared (.simple extent action)
  | branch (extent : Extent) {c : ExprTree} {yes : StmtTree} (condition : c.HasType declared .boolean)
    (inner : Typed declared yes) : Typed declared (.branch extent c yes)
  | branchElse (extent : Extent) {c : ExprTree} {yes no : StmtTree} (condition : c.HasType declared .boolean)
    (innerYes : Typed declared yes) (innerNo : Typed declared no) : Typed declared (.branchElse extent c yes no)
  | loop (extent : Extent) {c : ExprTree} {body : StmtTree} (condition : c.HasType declared .boolean)
    (inner : Typed declared body) : Typed declared (.loop extent c body)
  | each (extent kindExtent : Extent) (kind : LoopKind) {name : Word} {body : StmtTree}
    (known : (name.text, .entity) ∈ declared) (inner : Typed declared body) (quiet : ¬ body.Acts) :
    Typed declared (.each extent kindExtent kind name body)

/-- The items that are well typed: a first value has exactly the declared type. -/
inductive ItemTree.Typed (declared : List (String × Ty)) : ItemTree → Prop
  | bare (extent typeExtent : Extent) (t : Ty) (name : Word) :
    Typed declared (.declaration extent typeExtent t name none)
  | initial (extent typeExtent : Extent) {t : Ty} (name : Word) {e : ExprTree} (typed : e.HasType declared t) :
    Typed declared (.declaration extent typeExtent t name (some e))
  | statement {s : StmtTree} (typed : s.Typed declared) : Typed declared (.statement s)

def ItemTree.declared? : ItemTree → Option (String × Ty)
  | declaration _ _ t name _ => some (name.text, t)
  | statement _ => none

/-- The variables that a text declares, wherever it does. -/
def ProgramTree.declarations (p : ProgramTree) : List (String × Ty) := p.items.filterMap ItemTree.declared?

/-- Declared names are different, and every item is well typed with respect to all declarations. -/
structure ProgramTree.WellTyped (p : ProgramTree) : Prop where
  distinct : (p.declarations.map Prod.fst).Nodup
  items : ∀ item ∈ p.items, item.Typed p.declarations

/-- A table holds the declared variables and no others. -/
structure Table.Declares (declared : List (String × Ty)) (table : Table Variable) : Prop where
  known : ∀ name t, (table.get? name).map Variable.ty = some t ↔ (name, t) ∈ declared
  named : ∀ name t, (name, t) ∈ declared → name ≠ ""

theorem Expr.expect_of_known {e : Expr} {t : Ty} (known : e.ty? = some t) (at? : Option Position) (place : Place)
    (expected : Ty) : expect at? place expected e =
      if t = expected then .ok () else .error { cause := .operandType place expected t, position := at? } := by
  simp [expect, known]

namespace Builder

variable {b : Builder}

/-- A fault is never forgotten. -/
theorem Grows.failed {b' : Builder} (grows : b.Grows b') (failed : b.failed = true) : b'.failed = true := by
  cases clean : b'.failed with
  | true => rfl
  | false => rw [grows.faults clean] at failed; cases failed

theorem grows_keepExpr (form : Form) (e? : Except Fault Expr) (b : Builder) : b.Grows ((keepExpr form e?).run b).2 := by
  cases e? with
  | ok e => exact .refl b
  | error f => exact grows_reject form f b

/-- A step of a build makes an expression of a type and does nothing else. -/
structure Yields (b : Builder) (t : Ty) (out : Expr × Builder) : Prop where
  ty : out.1.ty? = some t
  builder : out.2 = b

/-- An operator is kept exactly if its operand has the type it needs. -/
theorem keep_operand {e : Expr} {t u : Ty} (known : e.ty? = some t) (made : Expr) (ty : made.ty? = some u)
    (form : Form) (at? : Option Position) (place : Place) (expected : Ty) :
    let out := (keepExpr form (do Expr.expect at? place expected e; return made)).run b
    (t = expected ∧ b.Yields u out) ∨ (t ≠ expected ∧ out.2.failed = true) := by
  intro out
  by_cases same : t = expected
  · refine .inl ⟨same, ?_⟩
    have passed := Expr.expect_of_known known at? place expected
    rw [if_pos same] at passed
    simp only [out, passed]
    exact ⟨ty, rfl⟩
  · refine .inr ⟨same, ?_⟩
    have refused := Expr.expect_of_known known at? place expected
    rw [if_neg same] at refused
    simp only [out, refused]
    exact failed_reject form _ b

/-- An operator on two operands is kept exactly if both have the type it needs. -/
theorem keep_operands {l r made : Expr} {t t' u : Ty} (left : l.ty? = some t) (right : r.ty? = some t')
    (ty : made.ty? = some u) (form : Form) (at? : Option Position) (place place' : Place) (expected : Ty) :
    let out := (keepExpr form (do
      Expr.expect at? place expected l
      Expr.expect at? place' expected r
      return made)).run b
    ((t = expected ∧ t' = expected) ∧ b.Yields u out) ∨ (¬ (t = expected ∧ t' = expected) ∧ out.2.failed = true) := by
  intro out
  have outcome := Expr.expect_of_known left at? place expected
  by_cases same : t = expected
  · rw [if_pos same] at outcome
    simp only [out, outcome, same, true_and]
    exact keep_operand right made ty form at? place' expected
  · rw [if_neg same] at outcome
    refine .inr ⟨fun both => same both.1, ?_⟩
    simp only [out, outcome]
    exact failed_reject form _ b

end Builder

open Builder

theorem UnaryOp.build_cases {e : Expr} {t : Ty} (known : e.ty? = some t) (op : UnaryOp) (at? : Option Position)
    (b : Builder) :
    (t = op.operandTy ∧ b.Yields op.resultTy ((op.build at? e).run b)) ∨
      (t ≠ op.operandTy ∧ ((op.build at? e).run b).2.failed = true) := by
  cases op with
  | negative => exact keep_operand known _ rfl .arithmetic at? _ .number
  | bang => exact keep_operand known _ rfl .negation at? _ .boolean
  | query q => exact keep_operand known _ rfl .query at? _ .entity
  | sameTeam => exact keep_operand known _ rfl .sameTeam at? _ .entity
  | test kind => exact keep_operand known _ rfl .isKind at? _ .entity
  | search => exact keep_operand known _ rfl .search at? _ .number

/-- Two operands of known types fit an operator exactly if it is kept. -/
theorem BinaryOp.make_cases {l r : Expr} {t t' : Ty} (left : l.ty? = some t) (right : r.ty? = some t')
    (op : BinaryOp) (at? : Option Position) (b : Builder) :
    let out := (keepExpr op.form (op.make at? l r)).run b
    (∃ u, t = t' ∧ op.Takes t u ∧ b.Yields u out) ∨ ((∀ u, t = t' → ¬ op.Takes t u) ∧ out.2.failed = true) := by
  intro out
  -- All operators but equality need one type, whatever the operands are.
  have fixed : ∀ expected u, (∀ t u', op.Takes t u' ↔ t = expected ∧ u' = u) →
      (((t = expected ∧ t' = expected) ∧ b.Yields u out) ∨
        (¬ (t = expected ∧ t' = expected) ∧ out.2.failed = true)) →
      (∃ u, t = t' ∧ op.Takes t u ∧ b.Yields u out) ∨
        ((∀ u, t = t' → ¬ op.Takes t u) ∧ out.2.failed = true) := by
    rintro expected u takes (⟨⟨rfl, rfl⟩, yields⟩ | ⟨wrong, failed⟩)
    · exact .inl ⟨u, rfl, (takes _ _).mpr ⟨rfl, rfl⟩, yields⟩
    · refine .inr ⟨fun u' same fits => wrong ?_, failed⟩
      have known := ((takes _ _).mp fits).1
      exact ⟨known, same ▸ known⟩
  cases op with
  | arithmetic op =>
    refine fixed .number .number (fun t u => ⟨?_, ?_⟩) (keep_operands left right rfl .arithmetic at? _ _ .number)
    · rintro ⟨⟩
      exact ⟨rfl, rfl⟩
    · rintro ⟨rfl, rfl⟩
      exact .arithmetic op
  | order op =>
    refine fixed .number .boolean (fun t u => ⟨?_, ?_⟩) (keep_operands left right rfl .order at? _ _ .number)
    · rintro ⟨⟩
      exact ⟨rfl, rfl⟩
    · rintro ⟨rfl, rfl⟩
      exact .order op
  | logical op =>
    refine fixed .boolean .boolean (fun t u => ⟨?_, ?_⟩) (keep_operands left right rfl .logical at? _ _ .boolean)
    · rintro ⟨⟩
      exact ⟨rfl, rfl⟩
    · rintro ⟨rfl, rfl⟩
      exact .logical op
  | equality op =>
    by_cases same : t = t'
    · refine .inl ⟨.boolean, same, .equality op t, ?_⟩
      simp only [out, BinaryOp.make, Expr.mkEquality, left, right, if_pos same]
      exact ⟨rfl, rfl⟩
    · refine .inr ⟨fun u equal => absurd equal same, ?_⟩
      simp only [out, BinaryOp.make, Expr.mkEquality, left, right, if_neg same]
      exact failed_reject .equality _ b

section Declared

variable {declared : List (String × Ty)}

/-- Reading a variable gives an expression of its declared type, or fails if there is none. -/
theorem Builder.access_cases {b : Builder} (declares : b.globals.Declares declared) (at? : Option Position)
    (name : String) :
    (∃ t, (name, t) ∈ declared ∧ b.Yields t ((access at? name).run b)) ∨
      ((∀ t, (name, t) ∉ declared) ∧ ((access at? name).run b).2.failed = true) := by
  rw [run_access]
  cases found : b.globals.get? name with
  | none =>
    refine .inr ⟨fun t member => ?_, failed_collect _ b⟩
    have known := (declares.known name t).mpr member
    rw [found] at known
    cases known
  | some v =>
    have member : (name, v.ty) ∈ declared := (declares.known name v.ty).mp (by rw [found]; rfl)
    refine .inl ⟨v.ty, member, ?_⟩
    have named : name.isEmpty = false := by simpa using declares.named name v.ty member
    simp only [Expr.mkAccess, named]
    exact ⟨rfl, rfl⟩

theorem Table.Declares.unique {table : Table Variable} (declares : table.Declares declared) {name : String} {t u : Ty}
    (first : (name, t) ∈ declared) (second : (name, u) ∈ declared) : t = u := by
  rw [← declares.known] at first second
  exact Option.some.inj (first.symm.trans second)

/-- An expression has one type. -/
theorem ExprTree.HasType.unique {table : Table Variable} (declares : table.Declares declared) {tree : ExprTree}
    {t u : Ty} (first : tree.HasType declared t) (second : tree.HasType declared u) : t = u := by
  induction first generalizing u with
  | number | truth | null | self | unary | call =>
    cases second
    rfl
  | name _ known =>
    cases second with
    | name _ other => exact declares.unique known other
  | binary _ takes _ _ ihLeft =>
    cases second with
    | binary _ other left _ =>
      cases ihLeft left
      cases takes <;> cases other <;> rfl

/-- Building an expression gives an expression of its type, or fails if it has none. -/
theorem ExprTree.build_cases (file : Option String) (tree : ExprTree) {b : Builder}
    (declares : b.globals.Declares declared) :
    (∃ t, tree.HasType declared t ∧ b.Yields t ((tree.build file).run b)) ∨
      ((∀ t, ¬ tree.HasType declared t) ∧ ((tree.build file).run b).2.failed = true) := by
  induction tree generalizing b with
  | number extent text => exact .inl ⟨.number, .number extent text, rfl, rfl⟩
  | truth extent value => exact .inl ⟨.boolean, .truth extent value, rfl, rfl⟩
  | null extent => exact .inl ⟨.entity, .null extent, rfl, rfl⟩
  | self extent => exact .inl ⟨.entity, .self extent, rfl, rfl⟩
  | name extent text =>
    obtain ⟨t, known, yields⟩ | ⟨unknown, failed⟩ := access_cases declares (extent.position file) text
    · exact .inl ⟨t, .name extent known, yields⟩
    · refine .inr ⟨?_, failed⟩
      intro t typed
      cases typed with
      | name _ known => exact unknown t known
  | unary extent op operand ih =>
    rw [build, run_bind]
    obtain ⟨t, typed, yields⟩ | ⟨untyped, failed⟩ := ih declares
    · rw [yields.builder]
      obtain ⟨rfl, made⟩ | ⟨wrong, failed⟩ := UnaryOp.build_cases yields.ty op (extent.position file) b
      · exact .inl ⟨op.resultTy, .unary extent op typed, made⟩
      · refine .inr ⟨fun u whole => ?_, failed⟩
        cases whole with
        | unary _ _ inner => exact wrong (typed.unique declares inner)
    · refine .inr ⟨fun u whole => ?_, ?_⟩
      · cases whole with
        | unary _ _ inner => exact untyped _ inner
      · cases op <;> exact (grows_keepExpr _ _ _).failed failed
  | call extent f argument ih =>
    rw [build, run_bind]
    obtain ⟨t, typed, yields⟩ | ⟨untyped, failed⟩ := ih declares
    · rw [yields.builder]
      obtain ⟨rfl, made⟩ | ⟨wrong, failed⟩ :=
        keep_operand yields.ty (.math (extent.position file) f _) rfl .math (extent.position file) (.argument f.word)
          .number
      · exact .inl ⟨.number, .call extent f typed, made⟩
      · refine .inr ⟨fun u whole => ?_, failed⟩
        cases whole with
        | call _ _ inner => exact wrong (typed.unique declares inner)
    · refine .inr ⟨fun u whole => ?_, (grows_keepExpr _ _ _).failed failed⟩
      cases whole with
      | call _ _ inner => exact untyped _ inner
  | binary extent op left right ihLeft ihRight =>
    rw [build, run_bind, run_bind]
    obtain ⟨t, typedLeft, yieldsLeft⟩ | ⟨untyped, failed⟩ := ihLeft declares
    · rw [yieldsLeft.builder]
      obtain ⟨t', typedRight, yieldsRight⟩ | ⟨untyped, failed⟩ := ihRight declares
      · rw [yieldsRight.builder]
        obtain ⟨u, rfl, takes, made⟩ | ⟨wrong, failed⟩ :=
          BinaryOp.make_cases yieldsLeft.ty yieldsRight.ty op (extent.position file) b
        · exact .inl ⟨u, .binary extent takes typedLeft typedRight, made⟩
        · refine .inr ⟨fun u whole => ?_, failed⟩
          cases whole with
          | binary _ takes innerLeft innerRight =>
            cases typedLeft.unique declares innerLeft
            exact wrong u (innerRight.unique declares typedRight) takes
      · refine .inr ⟨fun u whole => ?_, (grows_keepExpr _ _ _).failed failed⟩
        cases whole with
        | binary _ _ _ innerRight => exact untyped _ innerRight
    · refine .inr ⟨fun u whole => ?_, (grows_keepExpr _ _ _).failed ?_⟩
      · cases whole with
        | binary _ _ innerLeft _ => exact untyped _ innerLeft
      · exact (right.makes_build file _).grows.failed failed

end Declared

namespace Builder

variable {b b' : Builder}

/-- A statement that was kept without a fault is the one that was made. -/
theorem made_of_keepStmt {form : Form} {s? : Except Fault Stmt} (clean : ((keepStmt form s?).run b).2.failed = false) :
    b.failed = false ∧ s? = .ok ((keepStmt form s?).run b).1 := by
  cases s? with
  | ok s => exact ⟨clean, rfl⟩
  | error f =>
    rw [show ((keepStmt form (.error f)).run b).2 = ((reject form f).run b).2 from rfl, failed_reject] at clean
    cases clean

end Builder

mutual

/-- Without a fault, what is built acts exactly if an action stands in the tree. A loop over entities never acts, and
one with an action inside is a fault. -/
theorem StmtTree.hasAction_build (file : Option String) : (tree : StmtTree) → (b : Builder) →
    ((tree.build file).run b).2.failed = false → (((tree.build file).run b).1.hasAction = true ↔ tree.Acts)
  | .block extent body, b, clean => by
    have inner := StmtTree.hasAction_buildAll file body b
    rw [StmtTree.build, run_bind] at clean ⊢
    refine (inner clean).trans ⟨fun ⟨s, member, acts⟩ => .block extent member acts, fun acts => ?_⟩
    cases acts with
    | block _ member acts => exact ⟨_, member, acts⟩
  | .assignment extent name e, b, clean => by
    rw [StmtTree.build, run_bind] at clean ⊢
    rw [Stmt.eq_of_mkAssignment (made_of_keepStmt clean).2]
    exact ⟨nofun, nofun⟩
  | .print extent e, b, _ => by
    rw [StmtTree.build, run_bind]
    exact ⟨nofun, nofun⟩
  | .turn extent e, b, clean => by
    rw [StmtTree.build, run_bind] at clean ⊢
    rw [Stmt.eq_of_mkAction (made_of_keepStmt clean).2]
    exact ⟨fun _ => .turn extent e, fun _ => rfl⟩
  | .fire extent e, b, clean => by
    rw [StmtTree.build, run_bind] at clean ⊢
    rw [Stmt.eq_of_mkAction (made_of_keepStmt clean).2]
    exact ⟨fun _ => .fire extent e, fun _ => rfl⟩
  | .simple extent a, b, _ => by
    rw [StmtTree.build]
    exact ⟨fun _ => .simple extent a, fun _ => rfl⟩
  | .branch extent c yes, b, clean => by
    have inner := StmtTree.hasAction_build file yes ((c.build file).run b).2
    rw [StmtTree.build, run_bind, run_bind, Builder.branch, run_bind] at clean ⊢
    obtain ⟨before, made⟩ := made_of_keepStmt clean
    rw [(Stmt.eq_of_mkBranch made).2]
    simp only [Stmt.hasAction, Option.getD_none, Stmt.hasActionAny, Bool.or_false]
    refine (inner before).trans ⟨.branch extent c, ?_⟩
    rintro ⟨⟩
    assumption
  | .branchElse extent c yes no, b, clean => by
    have innerNo := StmtTree.hasAction_build file no b
    have innerYes := StmtTree.hasAction_build file yes ((c.build file).run ((no.build file).run b).2).2
    rw [StmtTree.build, run_bind, run_bind, run_bind, Builder.branch, run_bind] at clean ⊢
    obtain ⟨before, made⟩ := made_of_keepStmt clean
    have cleanNo := (c.makes_build file _).grows.faults ((yes.makes_build file _).grows.faults before)
    rw [(Stmt.eq_of_mkBranch made).2]
    show (_ || _) = true ↔ _
    rw [Bool.or_eq_true, innerYes before, Option.getD_some, innerNo cleanNo]
    refine ⟨fun acts => acts.elim (.yes extent c no) (.no extent c yes), fun acts => ?_⟩
    cases acts with
    | yes _ _ _ acts => exact .inl acts
    | no _ _ _ acts => exact .inr acts
  | .loop extent c body, b, clean => by
    have inner := StmtTree.hasAction_build file body ((c.build file).run b).2
    rw [StmtTree.build, run_bind, run_bind, Builder.loop, run_bind] at clean ⊢
    obtain ⟨before, made⟩ := made_of_keepStmt clean
    rw [(Stmt.eq_of_mkLoop made).2]
    refine (inner before).trans ⟨.loop extent c, ?_⟩
    rintro ⟨⟩
    assumption
  | .each extent kindExtent kind name body, b, clean => by
    have inner := StmtTree.hasAction_build file body b
    rw [StmtTree.build, run_bind, Builder.each, run_bind] at clean ⊢
    obtain ⟨before, made⟩ := made_of_keepStmt clean
    obtain ⟨quiet, same⟩ := Stmt.eq_of_mkEach made
    rw [same]
    refine ⟨nofun, fun acts => ?_⟩
    cases acts with
    | each _ _ _ _ acts =>
      rw [(inner before).mpr acts] at quiet
      cases quiet

theorem StmtTree.hasAction_buildAll (file : Option String) : (body : List StmtTree) → (b : Builder) →
    ((StmtTree.buildAll file body).run b).2.failed = false →
      (Stmt.hasActionAny ((StmtTree.buildAll file body).run b).1 = true ↔ ∃ s ∈ body, s.Acts)
  | [], b, _ => by
    rw [StmtTree.buildAll]
    exact ⟨nofun, by simp⟩
  | t :: rest, b, clean => by
    have first := StmtTree.hasAction_build file t b
    have second := StmtTree.hasAction_buildAll file rest ((t.build file).run b).2
    have grows := (StmtTree.makes_buildAll file rest ((t.build file).run b).2).grows
    rw [StmtTree.buildAll, run_bind, run_bind] at clean ⊢
    show (_ || _) = true ↔ _
    rw [Bool.or_eq_true, first (grows.faults clean), second clean]
    simp

end

namespace Stmt

variable {declared : List (String × Ty)} {table : Table Variable}

def Checked (table : Table Variable) (s : Stmt) : Prop := ∀ t ∈ s.walk, t.check table = none

theorem checked_iff {s : Stmt} : s.Checked table ↔ s.check table = none ∧ ∀ t ∈ s.children, t.Checked table :=
  forall_walk_iff

/-- An assignment fits the declared variables exactly if its target has the type of its expression. -/
theorem check_assignment (declares : table.Declares declared) {e : Expr} {t : Ty} (known : e.ty? = some t)
    (at? : Option Position) (name : String) :
    (assignment at? name e).check table = none ↔ (name, t) ∈ declared := by
  rw [← declares.known, check]
  cases table.get? name with
  | none => simp
  | some v => simp [known, eq_comm]

/-- A loop over entities fits the declared variables exactly if its variable is one for entities. -/
theorem check_each (declares : table.Declares declared) (id : NodeId) (at? : Option Position) (kind : LoopKind)
    (name : String) (body : Stmt) :
    (each id at? kind name body).check table = none ↔ (name, .entity) ∈ declared := by
  rw [← declares.known, check]
  cases table.get? name with
  | none => simp
  | some v => simp

end Stmt

namespace Builder

variable {b b' : Builder}

/-- A step of a build makes a statement that passes its checks and fits the declared variables. -/
structure Accepts (b : Builder) (out : Stmt × Builder) : Prop where
  clean : out.2.failed = false
  checked : out.1.Checked b.globals

/-- A step of a build makes statements that pass their checks and fit the declared variables. -/
structure AcceptsAll (b : Builder) (out : List Stmt × Builder) : Prop where
  clean : out.2.failed = false
  checked : ∀ s ∈ out.1, s.Checked b.globals

/-- Whether a statement is accepted depends on the declared variables only. -/
theorem accepts_congr (same : b'.globals = b.globals) {out : Stmt × Builder} : b'.Accepts out ↔ b.Accepts out := by
  constructor
  · exact fun accepts => ⟨accepts.clean, same ▸ accepts.checked⟩
  · exact fun accepts => ⟨accepts.clean, same ▸ accepts.checked⟩

theorem accepts_keepStmt {form : Form} {s? : Except Fault Stmt} :
    b.Accepts ((keepStmt form s?).run b') ↔ b'.failed = false ∧ ∃ s, s? = .ok s ∧ s.Checked b.globals := by
  constructor
  · intro accepts
    obtain ⟨clean, made⟩ := made_of_keepStmt accepts.clean
    exact ⟨clean, _, made, accepts.checked⟩
  · rintro ⟨clean, s, rfl, checked⟩
    exact ⟨clean, checked⟩

variable {declared : List (String × Ty)}

theorem accepts_assignment (declares : b.globals.Declares declared) (clean : b.failed = false) {e : Expr} {t : Ty}
    (known : e.ty? = some t) (at? : Option Position) (name : String) :
    b.Accepts ((keepStmt .assignment (Stmt.mkAssignment at? name e)).run b) ↔ (name, t) ∈ declared := by
  rw [accepts_keepStmt, ← Stmt.check_assignment declares known at? name]
  constructor
  · rintro ⟨-, s, made, checked⟩
    rw [Stmt.eq_of_mkAssignment made] at checked
    exact (Stmt.checked_iff.mp checked).1
  · intro checked
    have named : name.isEmpty = false := by
      simpa using declares.named name t ((Stmt.check_assignment declares known at? name).mp checked)
    refine ⟨clean, .assignment at? name e, by simp [Stmt.mkAssignment, named], ?_⟩
    exact Stmt.checked_iff.mpr ⟨checked, by simp [Stmt.children]⟩

/-- A statement that does nothing but an action fits any declared variables. -/
theorem accepts_action (clean : b.failed = false) {e : Expr} {t : Ty} (known : e.ty? = some t) (form : Form)
    (at? : Option Position) (place : Place) (a : Action) :
    b.Accepts ((keepStmt form (do Expr.expect at? place .number e; return .action at? a)).run b) ↔ t = .number := by
  rw [accepts_keepStmt, Expr.expect_of_known known]
  by_cases same : t = .number
  · refine iff_of_true ⟨clean, .action at? a, by rw [if_pos same]; rfl, ?_⟩ same
    exact Stmt.checked_iff.mpr ⟨rfl, by simp [Stmt.children]⟩
  · refine iff_of_false ?_ same
    rintro ⟨-, s, made, -⟩
    rw [if_neg same] at made
    cases made

/-- A condition passes exactly if it is a truth value. -/
theorem expect_boolean {c : Expr} {t : Ty} (known : c.ty? = some t) (at? : Option Position) (place : Place) :
    Expr.expect at? place .boolean c = .ok () ↔ t = .boolean := by
  rw [Expr.expect_of_known known]
  by_cases same : t = .boolean <;> simp [same]

theorem accepts_branch {c : Expr} {t : Ty} (known : c.ty? = some t) {yes : Stmt} {no? : Option Stmt}
    (at? : Option Position) :
    b.Accepts ((branch at? c yes no?).run b') ↔
      t = .boolean ∧ b.Accepts (yes, b') ∧ ∀ no ∈ no?, no.Checked b.globals := by
  rw [branch, run_bind, accepts_keepStmt, ← expect_boolean known at? (.condition "if")]
  have empty : (Stmt.sequence at? []).Checked b.globals := Stmt.checked_iff.mpr ⟨rfl, by simp [Stmt.children]⟩
  constructor
  · rintro ⟨clean, s, made, checked⟩
    obtain ⟨⟨_, passed⟩, rfl⟩ := Stmt.eq_of_mkBranch made
    have inner := (Stmt.checked_iff.mp checked).2
    refine ⟨passed, ⟨clean, inner yes (by simp [Stmt.children])⟩, ?_⟩
    rintro no ⟨⟩
    exact inner no (by simp [Stmt.children])
  · rintro ⟨passed, accepts, checked⟩
    refine ⟨accepts.clean, _, bind_eq_ok.mpr ⟨(), passed, rfl⟩, Stmt.checked_iff.mpr ⟨rfl, fun s child => ?_⟩⟩
    obtain rfl | rfl := by simpa [Stmt.children] using child
    · exact accepts.checked
    · cases no? with
      | none => exact empty
      | some no => exact checked no rfl

theorem accepts_loop {c : Expr} {t : Ty} (known : c.ty? = some t) {body : Stmt} (at? : Option Position) :
    b.Accepts ((loop at? c body).run b') ↔ t = .boolean ∧ b.Accepts (body, b') := by
  rw [loop, run_bind, accepts_keepStmt, ← expect_boolean known at? (.condition "while")]
  constructor
  · rintro ⟨clean, s, made, checked⟩
    obtain ⟨⟨_, passed⟩, rfl⟩ := Stmt.eq_of_mkLoop made
    exact ⟨passed, clean, (Stmt.checked_iff.mp checked).2 body (by simp [Stmt.children])⟩
  · rintro ⟨passed, accepts⟩
    refine ⟨accepts.clean, _, bind_eq_ok.mpr ⟨(), passed, rfl⟩, Stmt.checked_iff.mpr ⟨rfl, ?_⟩⟩
    simpa [Stmt.children] using accepts.checked

theorem accepts_each (declares : b.globals.Declares declared) {body : Stmt} (at? : Option Position) (kind : LoopKind)
    (name : String) :
    b.Accepts ((each at? kind name body).run b') ↔
      (name, .entity) ∈ declared ∧ body.hasAction = false ∧ b.Accepts (body, b') := by
  rw [each, run_bind, accepts_keepStmt, ← Stmt.check_each declares (freshId.run b').1 at? kind name body]
  constructor
  · rintro ⟨clean, s, made, checked⟩
    obtain ⟨quiet, rfl⟩ := Stmt.eq_of_mkEach made
    obtain ⟨own, inner⟩ := Stmt.checked_iff.mp checked
    exact ⟨own, quiet, clean, inner body (by simp [Stmt.children])⟩
  · rintro ⟨own, quiet, accepts⟩
    have named : name.isEmpty = false := by
      simpa using declares.named name .entity ((Stmt.check_each declares _ at? kind name body).mp own)
    refine ⟨accepts.clean, _, by simp [Stmt.mkEach, named, quiet], Stmt.checked_iff.mpr ⟨own, ?_⟩⟩
    simpa [Stmt.children] using accepts.checked

end Builder

section Declared

variable {declared : List (String × Ty)}

/-- A statement with an expression at its front is accepted only if the expression has a type. -/
theorem ExprTree.accepts_then (file : Option String) (e : ExprTree) {b : Builder}
    (declares : b.globals.Declares declared) (fits : Ty → Prop) {next : Expr → Build Stmt}
    (grows : ∀ made (b' : Builder), b'.Grows ((next made).run b').2)
    (accepts : ∀ made t, made.ty? = some t → (b.Accepts ((next made).run b) ↔ fits t)) :
    b.Accepts ((e.build file >>= next).run b) ↔ ∃ t, e.HasType declared t ∧ fits t := by
  rw [run_bind]
  obtain ⟨t, typed, yields⟩ | ⟨untyped, failed⟩ := e.build_cases file declares
  · rw [yields.builder, accepts _ t yields.ty]
    refine ⟨fun fit => ⟨t, typed, fit⟩, ?_⟩
    rintro ⟨u, other, fit⟩
    rwa [typed.unique declares other]
  · refine iff_of_false (fun accepted => ?_) fun ⟨t, typed, _⟩ => untyped t typed
    have clean := accepted.clean
    rw [(grows _ _).failed failed] at clean
    cases clean

theorem Builder.grows_keepStmt (form : Form) (s? : Except Fault Stmt) (b : Builder) :
    b.Grows ((keepStmt form s?).run b).2 := by
  cases s? with
  | ok s => exact .refl b
  | error f => exact grows_reject form f b

/-- Keeping a conditional statement under a new identity, after a statement inside it was built. -/
theorem StmtTree.grows_conditional (file : Option String) (tree : StmtTree) (form : Form)
    (make : NodeId → Stmt → Except Fault Stmt) (b : Builder) :
    b.Grows ((do
      let inner ← tree.build file
      let id ← freshId
      keepStmt form (make id inner)).run b).2 := by
  have step : ∀ b' : Builder, b'.Grows (freshId.run b').2 := fun b' => ⟨rfl, Nat.le_succ _, id⟩
  exact (tree.makes_build file b).grows.trans ((step _).trans (grows_keepStmt form _ _))

mutual

/-- A statement is accepted exactly if it is well typed. -/
theorem StmtTree.accepts_build_iff (file : Option String) : (tree : StmtTree) → (b : Builder) →
    b.globals.Declares declared → b.failed = false → (b.Accepts ((tree.build file).run b) ↔ tree.Typed declared)
  | .block extent body, b, declares, clean => by
    have inner := StmtTree.acceptsAll_build_iff file body b declares clean
    rw [StmtTree.build, run_bind]
    refine ⟨fun accepts => .block extent (inner.mp ⟨accepts.clean, ?_⟩), fun typed => ?_⟩
    · exact (Stmt.checked_iff.mp accepts.checked).2
    · cases typed with
      | block _ typed =>
        have accepts := inner.mpr typed
        exact ⟨accepts.clean, Stmt.checked_iff.mpr ⟨rfl, accepts.checked⟩⟩
  | .assignment extent name e, b, declares, clean => by
    rw [StmtTree.build]
    refine (e.accepts_then file declares (fun t => (name.text, t) ∈ declared) (fun _ _ => grows_keepStmt _ _ _)
      fun made t known => accepts_assignment declares clean known _ _).trans
        ⟨fun ⟨t, typed, known⟩ => ?_, fun typed => ?_⟩
    · exact .assignment extent known typed
    · cases typed with
      | assignment _ known typed => exact ⟨_, typed, known⟩
  | .print extent e, b, declares, clean => by
    have accepts : ∀ made : Expr, b.Accepts (.print (some (extent.position file)) made, b) := fun made =>
      ⟨clean, Stmt.checked_iff.mpr ⟨rfl, by simp [Stmt.children]⟩⟩
    rw [StmtTree.build]
    refine (e.accepts_then file declares (fun _ => True) (fun _ b' => ?_)
      fun made t known => iff_of_true (accepts made) trivial).trans ⟨fun ⟨t, typed, _⟩ => ?_, fun typed => ?_⟩
    · exact .refl b'
    · exact .print extent typed
    · cases typed with
      | print _ typed => exact ⟨_, typed, trivial⟩
  | .turn extent e, b, declares, clean => by
    rw [StmtTree.build]
    refine (e.accepts_then file declares (· = .number) (fun _ _ => grows_keepStmt _ _ _) fun made t known =>
      accepts_action clean known .turn (extent.position file) .angle (.turn made)).trans
        ⟨fun ⟨t, typed, same⟩ => ?_, fun typed => ?_⟩
    · exact .turn extent (same ▸ typed)
    · cases typed with
      | turn _ typed => exact ⟨_, typed, rfl⟩
  | .fire extent e, b, declares, clean => by
    rw [StmtTree.build]
    refine (e.accepts_then file declares (· = .number) (fun _ _ => grows_keepStmt _ _ _) fun made t known =>
      accepts_action clean known .fire (extent.position file) .yield (.fire made)).trans
        ⟨fun ⟨t, typed, same⟩ => ?_, fun typed => ?_⟩
    · exact .fire extent (same ▸ typed)
    · cases typed with
      | fire _ typed => exact ⟨_, typed, rfl⟩
  | .simple extent a, b, _, clean => by
    rw [StmtTree.build]
    refine iff_of_true ⟨clean, ?_⟩ (.simple extent a)
    exact Stmt.checked_iff.mpr ⟨rfl, by simp [Stmt.children]⟩
  | .branch extent c yes, b, declares, clean => by
    have inner := StmtTree.accepts_build_iff file yes b declares clean
    rw [StmtTree.build]
    refine (c.accepts_then file declares (fun t => t = .boolean ∧ yes.Typed declared) (fun made b' => ?_)
      fun made t known => ?_).trans ⟨fun ⟨t, typed, same, typedYes⟩ => ?_, fun typed => ?_⟩
    · exact yes.grows_conditional file .branch (fun id yes => Stmt.mkBranch id _ made yes none) b'
    · exact (accepts_branch known _).trans (and_congr_right' ((and_iff_left nofun).trans inner))
    · exact .branch extent (same ▸ typed) typedYes
    · cases typed with
      | branch _ condition typedYes => exact ⟨_, condition, rfl, typedYes⟩
  | .branchElse extent c yes no, b, declares, clean => by
    have innerNo := StmtTree.accepts_build_iff file no b declares clean
    have grows := (no.makes_build file b).grows
    rw [StmtTree.build, run_bind]
    obtain ⟨⟨made, b'⟩, built⟩ : ∃ out, out = (no.build file).run b := ⟨_, rfl⟩
    rw [← built] at innerNo grows ⊢
    cases cleanNo : b'.failed with
    | true =>
      refine iff_of_false (fun accepts => ?_) fun typed => ?_
      · have later := (c.makes_build file b').grows.trans (yes.grows_conditional file .branch
          (fun id yes => Stmt.mkBranch id (extent.position file) ((c.build file).run b').1 yes (some made)) _)
        cases (later.failed cleanNo).symm.trans accepts.clean
      · cases typed with
        | branchElse _ _ _ typedNo => cases cleanNo.symm.trans (innerNo.mpr typedNo).clean
    | false =>
      have declares' : b'.globals.Declares declared := grows.globals ▸ declares
      have inner := StmtTree.accepts_build_iff file yes b' declares' cleanNo
      have checkedNo : made.Checked b'.globals ↔ no.Typed declared := by
        rw [grows.globals, ← innerNo]
        exact ⟨fun checked => ⟨cleanNo, checked⟩, fun accepts => accepts.checked⟩
      rw [← accepts_congr grows.globals]
      refine (c.accepts_then file declares' (fun t => t = .boolean ∧ yes.Typed declared ∧ no.Typed declared)
        (fun made b' => ?_) fun condition t known => ?_).trans
          ⟨fun ⟨t, typed, same, typedYes, typedNo⟩ => ?_, fun typed => ?_⟩
      · exact yes.grows_conditional file .branch (fun id yes => Stmt.mkBranch id _ made yes _) b'
      · refine (accepts_branch known _).trans (and_congr_right' (and_congr inner ?_))
        simpa using checkedNo
      · exact .branchElse extent (same ▸ typed) typedYes typedNo
      · cases typed with
        | branchElse _ condition typedYes typedNo => exact ⟨_, condition, rfl, typedYes, typedNo⟩
  | .loop extent c body, b, declares, clean => by
    have inner := StmtTree.accepts_build_iff file body b declares clean
    rw [StmtTree.build]
    refine (c.accepts_then file declares (fun t => t = .boolean ∧ body.Typed declared) (fun made b' => ?_)
      fun made t known => ?_).trans ⟨fun ⟨t, typed, same, typedBody⟩ => ?_, fun typed => ?_⟩
    · exact body.grows_conditional file .loop (fun id body => Stmt.mkLoop id _ made body) b'
    · exact (accepts_loop known _).trans (and_congr_right' inner)
    · exact .loop extent (same ▸ typed) typedBody
    · cases typed with
      | loop _ condition typedBody => exact ⟨_, condition, rfl, typedBody⟩
  | .each extent kindExtent kind name body, b, declares, clean => by
    have inner := StmtTree.accepts_build_iff file body b declares clean
    have acts := StmtTree.hasAction_build file body b
    rw [StmtTree.build, run_bind, accepts_each declares]
    refine ⟨fun ⟨known, quiet, accepts⟩ => ?_, fun typed => ?_⟩
    · refine .each extent kindExtent kind known (inner.mp accepts) fun acting => ?_
      rw [(acts accepts.clean).mpr acting] at quiet
      cases quiet
    · cases typed with
      | each _ _ _ known typed quiet =>
        have accepts := inner.mpr typed
        exact ⟨known, Bool.eq_false_iff.mpr (mt (acts accepts.clean).mp quiet), accepts⟩

theorem StmtTree.acceptsAll_build_iff (file : Option String) : (body : List StmtTree) → (b : Builder) →
    b.globals.Declares declared → b.failed = false →
      (b.AcceptsAll ((StmtTree.buildAll file body).run b) ↔ ∀ tree ∈ body, tree.Typed declared)
  | [], b, _, clean => by
    rw [StmtTree.buildAll]
    exact iff_of_true ⟨clean, nofun⟩ nofun
  | t :: rest, b, declares, clean => by
    have first := StmtTree.accepts_build_iff file t b declares clean
    have grows := (t.makes_build file b).grows
    rw [StmtTree.buildAll, run_bind, run_bind, List.forall_mem_cons, ← first]
    obtain ⟨⟨made, b'⟩, built⟩ : ∃ out, out = (t.build file).run b := ⟨_, rfl⟩
    rw [← built] at grows ⊢
    have later := (StmtTree.makes_buildAll file rest b').grows
    constructor
    · intro accepts
      have cleanFirst := later.faults accepts.clean
      have second := StmtTree.acceptsAll_build_iff file rest b' (grows.globals ▸ declares) cleanFirst
      refine ⟨⟨cleanFirst, accepts.checked made List.mem_cons_self⟩, second.mp ⟨accepts.clean, ?_⟩⟩
      rw [grows.globals]
      exact fun s member => accepts.checked s (List.mem_cons_of_mem _ member)
    · rintro ⟨accepts, typed⟩
      have second := StmtTree.acceptsAll_build_iff file rest b' (grows.globals ▸ declares) accepts.clean
      have acceptsRest := second.mpr typed
      refine ⟨acceptsRest.clean, fun s member => ?_⟩
      obtain rfl | member := List.mem_cons.mp member
      · exact accepts.checked
      · exact grows.globals ▸ acceptsRest.checked s member

end

/-- An item is accepted exactly if it is well typed: a first value is assigned to the variable of its declaration. -/
theorem ItemTree.accepts_build_iff (file : Option String) (item : ItemTree) {b : Builder}
    (declares : b.globals.Declares declared) (clean : b.failed = false)
    (own : ∀ declaration ∈ item.declared?, declaration ∈ declared) :
    b.AcceptsAll (((item.build file).run b).1.toList, ((item.build file).run b).2) ↔ item.Typed declared := by
  have single : ∀ out : Stmt × Builder, b.AcceptsAll ([out.1], out.2) ↔ b.Accepts out := fun out =>
    ⟨fun accepts => ⟨accepts.clean, by simpa using accepts.checked⟩,
      fun accepts => ⟨accepts.clean, by simpa using accepts.checked⟩⟩
  cases item with
  | declaration extent typeExtent t name initial? =>
    cases initial? with
    | none => exact iff_of_true ⟨clean, nofun⟩ (.bare extent typeExtent t name)
    | some initial =>
      have known : (name.text, t) ∈ declared := own _ rfl
      refine (single _).trans ((initial.accepts_then file declares (fun t => (name.text, t) ∈ declared)
        (fun _ _ => grows_keepStmt _ _ _) fun made t known => accepts_assignment declares clean known
          (extent.position file) name.text).trans ⟨fun ⟨u, typed, other⟩ => ?_, fun typed => ?_⟩)
      · exact .initial extent typeExtent name (declares.unique known other ▸ typed)
      · cases typed with
        | initial _ _ _ typed => exact ⟨t, typed, known⟩
  | statement tree =>
    refine ((single _).trans (tree.accepts_build_iff file b declares clean)).trans ⟨.statement, fun typed => ?_⟩
    cases typed with
    | statement typed => exact typed

theorem ItemTree.acceptsAll_build_iff (file : Option String) (items : List ItemTree) {b : Builder}
    (declares : b.globals.Declares declared) (clean : b.failed = false)
    (own : ∀ item ∈ items, ∀ declaration ∈ item.declared?, declaration ∈ declared) :
    b.AcceptsAll (((items.mapM (ItemTree.build file)).run b).1.filterMap id,
      ((items.mapM (ItemTree.build file)).run b).2) ↔ ∀ item ∈ items, item.Typed declared := by
  induction items generalizing b with
  | nil => exact iff_of_true ⟨clean, nofun⟩ nofun
  | cons item rest ih =>
    have first := item.accepts_build_iff file declares clean (own item List.mem_cons_self)
    have ownRest := fun other member => own other (List.mem_cons_of_mem _ member)
    have grows := (item.makes_build file b).grows
    rw [List.mapM_cons, run_bind, run_bind, List.forall_mem_cons, ← first]
    obtain ⟨⟨made, b'⟩, built⟩ : ∃ out, out = (item.build file).run b := ⟨_, rfl⟩
    rw [← built] at grows ⊢
    have later := (ItemTree.makes_buildAll file rest b').grows
    have split : ∀ s, s ∈ (made :: ((rest.mapM (ItemTree.build file)).run b').1).filterMap id ↔
        s ∈ made.toList ∨ s ∈ ((rest.mapM (ItemTree.build file)).run b').1.filterMap id := by
      cases made <;> simp
    constructor
    · intro accepts
      have cleanFirst := later.faults accepts.clean
      refine ⟨⟨cleanFirst, fun s member => accepts.checked s ((split s).mpr (.inl member))⟩, ?_⟩
      refine (ih (grows.globals ▸ declares) cleanFirst ownRest).mp ⟨accepts.clean, fun s member => ?_⟩
      rw [grows.globals]
      exact accepts.checked s ((split s).mpr (.inr member))
    · rintro ⟨accepts, typed⟩
      have acceptsRest := (ih (grows.globals ▸ declares) accepts.clean ownRest).mpr typed
      refine ⟨acceptsRest.clean, fun s member => ?_⟩
      obtain inFirst | inRest := (split s).mp member
      · exact accepts.checked s inFirst
      · exact grows.globals ▸ acceptsRest.checked s inRest

end Declared

def Table.ofDeclarations (declared : List (String × Ty)) : Table Variable :=
  { entries := declared.map fun (name, t) => (name, .ofTy t) }

theorem Table.names_ofDeclarations (declared : List (String × Ty)) :
    (Table.ofDeclarations declared).names = declared.map Prod.fst := by
  simp [Table.ofDeclarations, Table.names]

theorem Table.push_ofDeclarations (declared : List (String × Ty)) (name : String) (t : Ty) :
    (Table.ofDeclarations declared).push name (.ofTy t) = .ofDeclarations (declared ++ [(name, t)]) := by
  simp [Table.ofDeclarations, Table.push]

/-- What is declared once each can be looked up. -/
theorem Table.declares_ofDeclarations {declared : List (String × Ty)} (distinct : (declared.map Prod.fst).Nodup)
    (named : ∀ name t, (name, t) ∈ declared → name ≠ "") : (Table.ofDeclarations declared).Declares declared := by
  refine ⟨fun name t => ?_, named⟩
  clear named
  unfold Table.get? Table.ofDeclarations
  induction declared with
  | nil => simp
  | cons entry rest ih =>
    obtain ⟨key, u⟩ := entry
    obtain ⟨new, distinct⟩ := List.nodup_cons.mp distinct
    by_cases same : name = key
    · subst same
      have absent : (name, t) ∉ rest := fun member => new (List.mem_map.mpr ⟨_, member, rfl⟩)
      simp [Variable.ofTy, absent, eq_comm]
    · have other : (name == key) = false := by simpa using same
      simpa [List.lookup_cons, other, same] using ih distinct

theorem ItemTree.named_of_sane {item : ItemTree} (sane : item.Sane) :
    ∀ declaration ∈ item.declared?, declaration.1 ≠ "" := by
  cases item with
  | statement tree => nofun
  | declaration extent typeExtent t name initial? =>
    rintro _ ⟨⟩ empty
    have valid : (Lexeme.name name.text).Valid := sane
    rw [show name.text = "" from empty] at valid
    exact absurd valid (by decide)

/-- Declaring the variable of an item fails exactly if its name is taken. -/
theorem ItemTree.declare_cases (file : Option String) {item : ItemTree} (sane : item.Sane) {b : Builder}
    (clean : b.failed = false) {declared : List (String × Ty)} (globals : b.globals = .ofDeclarations declared)
    (distinct : (declared.map Prod.fst).Nodup) :
    let out := (item.declare file).run b
    let more := declared ++ item.declared?.toList
    ((more.map Prod.fst).Nodup ∧ out.2.failed = false ∧ out.2.globals = .ofDeclarations more) ∨
      (¬ (more.map Prod.fst).Nodup ∧ out.2.failed = true) := by
  intro out more
  have named := item.named_of_sane sane
  cases item with
  | statement tree =>
    have same : more = declared := List.append_nil declared
    rw [same]
    exact .inl ⟨distinct, clean, globals⟩
  | declaration extent typeExtent t name initial? =>
    have nodup : (more.map Prod.fst).Nodup ↔ name.text ∉ b.globals.names := by
      rw [globals, Table.names_ofDeclarations]
      simp only [more, declared?, Option.toList_some, List.map_append, List.map_cons, List.map_nil, List.nodup_append,
        distinct, true_and, List.mem_singleton, forall_eq]
      exact ⟨fun apart known => apart.2 _ known rfl, fun new => ⟨by simp, fun other known same => new (same ▸ known)⟩⟩
    rw [nodup]
    simp only [out, ItemTree.declare, run_bind, run_declare]
    cases outcome : b.globals.declare name.text (.ofTy t) (name.extent.position file) with
    | ok table =>
      obtain ⟨-, new, rfl⟩ := Table.declare_eq_ok.mp outcome
      refine .inl ⟨new, clean, ?_⟩
      show b.globals.push name.text (.ofTy t) = _
      rw [globals, Table.push_ofDeclarations]
      rfl
    | error f =>
      refine .inr ⟨fun new => ?_, failed_collect f b⟩
      cases outcome.symm.trans (Table.declare_eq_ok.mpr ⟨named _ rfl, new, rfl⟩)

theorem ItemTree.failed_declare (file : Option String) (item : ItemTree) {b : Builder} (failed : b.failed = true) :
    ((item.declare file).run b).2.failed = true := by
  cases item with
  | statement tree => exact failed
  | declaration extent typeExtent t name initial? =>
    rw [ItemTree.declare, run_bind, run_declare]
    cases b.globals.declare name.text (.ofTy t) (name.extent.position file) with
    | ok table => exact failed
    | error f => exact failed_collect f b

theorem ItemTree.failed_declareAll (file : Option String) (items : List ItemTree) {b : Builder}
    (failed : b.failed = true) : ((items.forM (·.declare file)).run b).2.failed = true := by
  induction items generalizing b with
  | nil => exact failed
  | cons item rest ih => exact ih (item.failed_declare file failed)

/-- Declaring all variables of a text fails exactly if two have one name. -/
theorem ItemTree.declareAll_cases (file : Option String) {items : List ItemTree} (sane : ∀ item ∈ items, item.Sane)
    {b : Builder} (clean : b.failed = false) {declared : List (String × Ty)}
    (globals : b.globals = .ofDeclarations declared) (distinct : (declared.map Prod.fst).Nodup) :
    let out := (items.forM (·.declare file)).run b
    let more := declared ++ items.filterMap ItemTree.declared?
    ((more.map Prod.fst).Nodup ∧ out.2.failed = false ∧ out.2.globals = .ofDeclarations more) ∨
      (¬ (more.map Prod.fst).Nodup ∧ out.2.failed = true) := by
  induction items generalizing b declared with
  | nil => exact .inl (by simpa using ⟨distinct, clean, globals⟩)
  | cons item rest ih =>
    intro out more
    have split : more = (declared ++ item.declared?.toList) ++ rest.filterMap ItemTree.declared? := by
      cases known : item.declared? <;> simp [more, known]
    rw [split]
    obtain ⟨distinct, clean, globals⟩ | ⟨taken, failed⟩ :=
      item.declare_cases file (sane item List.mem_cons_self) clean globals distinct
    · exact ih (fun other member => sane other (List.mem_cons_of_mem _ member)) clean globals distinct
    · refine .inr ⟨fun nodup => taken ?_, failed_declareAll file rest failed⟩
      rw [List.map_append] at nodup
      exact (List.nodup_append.mp nodup).1

/-- A program text is built without a fault and fits its declarations exactly if it is well typed. -/
theorem ProgramTree.accepted_iff (file : Option String) (tree : ProgramTree) (sane : ∀ item ∈ tree.items, item.Sane)
    (handler? : Option HandlerId) :
    let out := (tree.build file).run { handler? }
    (out.2.failed = false ∧ out.1.validate out.2.globals = []) ↔ tree.WellTyped := by
  intro out
  have makes := Program.makes_root file tree { handler? }
  have outcome := ItemTree.declareAll_cases file sane (show ({ handler? } : Builder).failed = false from rfl)
    (show _ = Table.ofDeclarations [] from rfl) List.nodup_nil
  dsimp only at outcome
  obtain ⟨first, start⟩ : ∃ b : Builder, b = ((tree.items.forM (·.declare file)).run { handler? }).2 := ⟨_, rfl⟩
  rw [← start] at makes outcome
  obtain ⟨distinct, clean, globals⟩ | ⟨taken, failed⟩ := outcome
  · have declares : first.globals.Declares tree.declarations := by
      rw [globals]
      refine Table.declares_ofDeclarations distinct fun name t member => ?_
      obtain ⟨item, among, known⟩ := List.mem_filterMap.mp member
      exact item.named_of_sane (sane item among) _ known
    have items := ItemTree.acceptsAll_build_iff file tree.items declares clean fun item among declaration known =>
      List.mem_filterMap.mpr ⟨item, among, known⟩
    have built : out =
        (.sequence (tree.position file) (((tree.items.mapM (ItemTree.build file)).run first).1.filterMap id),
        ((tree.items.mapM (ItemTree.build file)).run first).2) := by
      rw [start]
      rfl
    rw [Stmt.validate_eq_nil, show out.2.globals = first.globals from makes.grows.globals, built]
    refine ⟨fun ⟨clean, checked⟩ => ⟨distinct, items.mp ⟨clean, ?_⟩⟩, fun typed => ?_⟩
    · exact (Stmt.checked_iff.mp checked).2
    · have accepts := items.mpr typed.items
      exact ⟨accepts.clean, Stmt.checked_iff.mpr ⟨rfl, accepts.checked⟩⟩
  · refine iff_of_false (fun ⟨clean, _⟩ => ?_) fun typed => taken typed.distinct
    cases (makes.grows.failed failed).symm.trans clean

/-- The expressions of a statement that passes its checks are well typed. -/
theorem Stmt.Fits.expression {globals : Table Variable} {s : Stmt} (fits : s.Fits globals) {e : Expr}
    (directly : e ∈ s.expressions) : e.WellTyped globals := by
  cases s with
  | assignment | print =>
    cases List.mem_singleton.mp directly
    exact fits
  | branch | loop =>
    cases List.mem_singleton.mp directly
    exact fits.1
  | action at? a =>
    cases a with
    | turn | fire =>
      cases List.mem_singleton.mp directly
      exact fits.1
    | _ => cases directly
  | _ => cases directly

namespace Program

variable {source : String} {file : Option String} {handler? : Option HandlerId}

/-- There is no placeholder in a program that comes out of its text, neither among its statements nor inside their
expressions. -/
theorem solid_of_parse {budget : Except Fault Int} {p : Program}
    (parsed : parse source file handler? budget = .ok p) :
    ∀ s ∈ p.root.walk, s.isPlaceholder = false ∧
      ∀ e ∈ s.expressions, ∀ part ∈ e.walk, part.isPlaceholder = false := by
  intro s inside
  have fits := wellTyped_of_parse parsed s inside
  refine ⟨(wellTyped_of_parse parsed).solid s inside, fun e directly => ?_⟩
  exact (fits.expression directly).solid

/-- Exactly the well typed texts come to a program. -/
theorem parse_ok_iff_wellTyped {tree : ProgramTree} (read : ProgramTree.parse source = .ok tree)
    (file : Option String) (handler? : Option HandlerId) (given : Option Int) (limit : ∀ n ∈ given, 0 ≤ n) :
    ((∃ p, parse source file handler? (checkedBudget given) = .ok p) ↔ tree.WellTyped) ∧
      ∀ p, parse source file handler? (checkedBudget given) = .ok p → ∀ s ∈ p.root.walk,
        s.isPlaceholder = false ∧ ∀ e ∈ s.expressions, ∀ part ∈ e.walk, part.isPlaceholder = false := by
  have accepted := ProgramTree.accepted_iff file tree (ProgramTree.sane_of_parse read) handler?
  have budget : checkedBudget given = .ok (given.getD defaultBudget) := by
    have enough : ¬ given.getD defaultBudget < 0 := by
      cases given with
      | none => decide
      | some n => exact not_lt.mpr (limit n rfl)
    exact if_neg enough
  refine ⟨⟨fun ⟨p, parsed⟩ => ?_, fun typed => ?_⟩, fun p parsed => solid_of_parse parsed⟩
  · obtain ⟨other, readOther, clean, root, globals, valid, -⟩ := exists_tree_of_parse parsed
    cases read.symm.trans readOther
    rw [validate, root, globals] at valid
    exact accepted.mp ⟨clean, valid⟩
  · obtain ⟨clean, valid⟩ := accepted.mpr typed
    obtain ⟨p, parsed, -⟩ := exists_parse_of_tree read (given.getD defaultBudget) clean valid
    exact ⟨p, budget ▸ parsed⟩

end Program

namespace Tally

/-- A program with a loop over entities that assigns and does not act. -/
def source : String :=
  "double n := 0.5; entity e; foreach (any, e) do \x7b if isworm e then \x7b n := n + getx e; \x7d \x7d turn n;"

/-- A loop over entities with an action in its body. The action is a mistake of its own, and the placeholder that takes
its place does not act. -/
def decoy : String := "entity e; foreach (worm, e) do \x7b turn true; \x7d"

theorem accepts_source : (Program.parse source none none (checkedBudget (some 9))).toOption.isSome = true := by
  decide +kernel

theorem refuses_decoy : (Program.parse decoy none none (checkedBudget none)).toOption.isSome = false := by
  decide +kernel

end Tally

theorem tally_wellTyped_decoy_not :
    (∃ tree, ProgramTree.parse Tally.source = .ok tree ∧ tree.WellTyped) ∧
      ∃ tree, ProgramTree.parse Tally.decoy = .ok tree ∧ ¬ tree.WellTyped := by
  constructor
  · cases parsed : Program.parse Tally.source none none (checkedBudget (some 9)) with
    | error failure =>
      have accepted := Tally.accepts_source
      rw [parsed] at accepted
      cases accepted
    | ok p =>
      obtain ⟨tree, read, -⟩ := Program.exists_tree_of_parse parsed
      have rules := Program.parse_ok_iff_wellTyped read none none (some 9) (by simp)
      exact ⟨tree, read, rules.1.mp ⟨p, parsed⟩⟩
  · have readable : (ProgramTree.parse Tally.decoy).toOption.isSome = true := by decide +kernel
    cases read : ProgramTree.parse Tally.decoy with
    | error stop =>
      rw [read] at readable
      cases readable
    | ok tree =>
      have rules := Program.parse_ok_iff_wellTyped read none none none (by simp)
      refine ⟨tree, rfl, fun typed => ?_⟩
      obtain ⟨p, parsed⟩ := rules.1.mpr typed
      have refused := Tally.refuses_decoy
      rw [parsed] at refused
      cases refused

end WormLang
