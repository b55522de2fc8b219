import WormLang.Proofs.Build.Mistakes

/-!
What a build reports. A build collects exactly the refused nodes of a text, in the order in which they are made, and what
a statement shows of its actions is what its placeholder or its node shows. If nothing is refused, validation finds
exactly the mismatches.
-/
namespace WormLang

variable {file : Option String} {declared : List (String × Ty)}

/-- A table knows the declared names, each with its first type, and no others. -/
structure Table.Agrees (declared : List (String × Ty)) (table : Table Variable) : Prop where
  known : ∀ name, (table.get? name).map Variable.ty = declared.lookup name
  named : declared.lookup "" = none

def checked {α : Type} (file : Option String) (extent : Extent) (a : α) : Option Cause → Except Fault α
  | none => .ok a
  | some cause => .error (Mistake.fault file { cause, extent })

theorem checked_bind {α β : Type} (extent : Extent) (a : α) (f : α → Except Fault β) (first? : Option Cause)
    {second? : Option Cause} {b : β} (next : f a = checked file extent b second?) :
    (checked file extent a first? >>= f) = checked file extent b (first?.or second?) := by
  cases first? with
  | none => exact next
  | some cause => rfl

theorem Expr.expect_eq (extent : Extent) (place : Place) (needed : Ty) (e : Expr) :
    expect (extent.position file) place needed e = checked file extent () (place.refusal? needed e.ty?) := by
  unfold expect Place.refusal?
  cases e.ty? with
  | none => rfl
  | some got =>
    dsimp only
    split <;> rfl

theorem Expr.expect_bind {α : Type} (file : Option String) (extent : Extent) (place : Place) (needed : Ty) (e : Expr)
    (a : α) :
    (do expect (extent.position file) place needed e; return a) =
      checked file extent a (place.refusal? needed e.ty?) := by
  rw [expect_eq]
  cases place.refusal? needed e.ty? <;> rfl

namespace Builder

/-- A build went on and collected the faults of mistakes. -/
structure Adds (file : Option String) (b b' : Builder) (mistakes : List Mistake) : Prop where
  globals : b'.globals = b.globals
  faults : b'.faults.toList = b.faults.toList ++ mistakes.map (Mistake.fault file)

variable {b b' b'' : Builder} {first second : List Mistake}

theorem Adds.nil (b : Builder) : b.Adds file b [] := ⟨rfl, by simp⟩

theorem Adds.append (adds : b.Adds file b' first) (more : b'.Adds file b'' second) :
    b.Adds file b'' (first ++ second) where
  globals := more.globals.trans adds.globals
  faults := by rw [more.faults, adds.faults, List.map_append, List.append_assoc]

theorem adds_keepExpr (form : Form) (extent : Extent) (e : Expr) (cause? : Option Cause) (b : Builder) :
    b.Adds file ((keepExpr form (checked file extent e cause?)).run b).2 (mistakeOf extent cause?) := by
  cases cause? with
  | none => exact .nil b
  | some cause => exact ⟨rfl, Array.toList_push⟩

theorem ty?_keepExpr {form : Form} {extent : Extent} {e : Expr} {t : Ty} (ty : e.ty? = some t) (cause? : Option Cause)
    (b : Builder) : ((keepExpr form (checked file extent e cause?)).run b).1.ty? = shownUnless cause? t := by
  cases cause? with
  | none => exact ty
  | some cause => rfl

end Builder

open Builder

theorem BinaryOp.make_eq (file : Option String) (op : BinaryOp) (extent : Extent) (l r : Expr) :
    ∃ e, e.ty? = some op.resultTy ∧
      op.make (extent.position file) l r = checked file extent e (op.refusal? l.ty? r.ty?) := by
  have both : ∀ (symbol : String) (needed : Ty) (e : Expr),
      (do
        Expr.expect (extent.position file) (.left symbol) needed l
        Expr.expect (extent.position file) (.right symbol) needed r
        return e) = checked file extent e (refusalOfBoth? symbol needed l.ty? r.ty?) := by
    intro symbol needed e
    rw [Expr.expect_eq]
    exact checked_bind extent () _ _ (Expr.expect_bind file extent _ _ r e)
  cases op with
  | arithmetic op => exact ⟨.arithmetic (extent.position file) op l r, rfl, both _ _ _⟩
  | order op => exact ⟨.order (extent.position file) op l r, rfl, both _ _ _⟩
  | logical op => exact ⟨.logical (extent.position file) op l r, rfl, both _ _ _⟩
  | equality op =>
    refine ⟨.equality (extent.position file) op l r, rfl, ?_⟩
    simp only [make, Expr.mkEquality, refusal?]
    cases l.ty? with
    | none => rfl
    | some t =>
      cases r.ty? with
      | none => rfl
      | some u =>
        dsimp only
        split <;> rfl

theorem UnaryOp.build_eq (file : Option String) (op : UnaryOp) (extent : Extent) (operand : Expr) :
    ∃ form e, e.ty? = some op.resultTy ∧ op.build (extent.position file) operand =
      keepExpr form (checked file extent e (op.refusal? operand.ty?)) := by
  cases op with
  | negative =>
    obtain ⟨e, ty, made⟩ := BinaryOp.make_eq file (.arithmetic .sub) extent (.number (extent.position file) 0.0) operand
    exact ⟨.arithmetic, e, ty, congrArg (keepExpr .arithmetic) made⟩
  | bang =>
    exact ⟨.negation, .negation (extent.position file) operand, rfl,
      congrArg (keepExpr .negation) (Expr.expect_bind file extent _ _ operand _)⟩
  | query q =>
    exact ⟨.query, .query (extent.position file) q operand, rfl,
      congrArg (keepExpr .query) (Expr.expect_bind file extent _ _ operand _)⟩
  | sameTeam =>
    exact ⟨.sameTeam, .sameTeam (extent.position file) operand, rfl,
      congrArg (keepExpr .sameTeam) (Expr.expect_bind file extent _ _ operand _)⟩
  | test k =>
    exact ⟨.isKind, .isKind (extent.position file) k operand, rfl,
      congrArg (keepExpr .isKind) (Expr.expect_bind file extent _ _ operand _)⟩
  | search =>
    exact ⟨.search, .search (extent.position file) operand, rfl,
      congrArg (keepExpr .search) (Expr.expect_bind file extent _ _ operand _)⟩

namespace ExprTree

/-- What comes out of building an expression. -/
structure Reports (file : Option String) (declared : List (String × Ty)) (t : ExprTree) (b : Builder)
    (out : Expr × Builder) : Prop where
  adds : b.Adds file out.2 (t.refusals declared)
  ty : out.1.ty? = t.shown? declared

theorem reports_access {b : Builder} (agrees : b.globals.Agrees declared) (extent : Extent) (text : String) :
    Reports file declared (.name extent text) b ((Builder.access (extent.position file) text).run b) := by
  have known := agrees.known text
  rw [Builder.run_access]
  cases found : b.globals.get? text with
  | none =>
    rw [found] at known
    have unknown : declared.lookup text = none := known.symm
    refine ⟨⟨rfl, ?_⟩, unknown.symm⟩
    simp only [refusals, refusal?, unknown]
    exact Array.toList_push
  | some v =>
    rw [found] at known
    have lookup : declared.lookup text = some v.ty := known.symm
    have named : text.isEmpty = false := by
      refine Bool.eq_false_iff.mpr fun empty => ?_
      rw [String.isEmpty_iff.mp empty, agrees.named] at lookup
      cases lookup
    simp only [Expr.mkAccess, named]
    refine ⟨?_, lookup.symm⟩
    simp only [refusals, refusal?, lookup]
    exact .nil b

/-- A build of an expression collects its refused nodes and nothing else. -/
theorem reports_build (file : Option String) (t : ExprTree) {b : Builder} (agrees : b.globals.Agrees declared) :
    t.Reports file declared b ((t.build file).run b) := by
  induction t generalizing b with
  | number | truth | null | self => exact ⟨.nil b, rfl⟩
  | name extent text => exact reports_access agrees extent text
  | unary extent op operand ih =>
    have inner := ih agrees
    obtain ⟨form, e, ty, built⟩ := op.build_eq file extent ((operand.build file).run b).1
    rw [build, run_bind, built]
    refine ⟨inner.adds.append ?_, ?_⟩
    · rw [inner.ty]
      exact adds_keepExpr form extent e _ _
    · rw [ty?_keepExpr ty, inner.ty]
      rfl
  | call extent f argument ih =>
    have inner := ih agrees
    rw [build, run_bind]
    have made := Expr.expect_bind file extent (.argument f.word) .number ((argument.build file).run b).1
      (Expr.math (extent.position file) f ((argument.build file).run b).1)
    rw [Expr.mkMath, made, inner.ty]
    exact ⟨inner.adds.append (adds_keepExpr .math extent _ _ _), ty?_keepExpr rfl _ _⟩
  | binary extent op left right ihLeft ihRight =>
    have first := ihLeft agrees
    have second := ihRight (first.adds.globals ▸ agrees)
    obtain ⟨e, ty, made⟩ := op.make_eq file extent ((left.build file).run b).1
      ((right.build file).run ((left.build file).run b).2).1
    rw [build, run_bind, run_bind, made, first.ty, second.ty]
    exact ⟨(first.adds.append second.adds).append (adds_keepExpr op.form extent e _ _), ty?_keepExpr ty _ _⟩

end ExprTree

namespace Stmt

theorem mkAssignment_eq (extent : Extent) (name : String) (e : Expr) :
    mkAssignment (extent.position file) name e =
      checked file extent (.assignment (extent.position file) name e) (refusalOfName? name) := by
  unfold mkAssignment refusalOfName?
  split <;> rfl

theorem mkEach_eq (id : NodeId) (extent : Extent) (kind : LoopKind) (name : String) (body : Stmt) :
    mkEach id (extent.position file) kind name body =
      checked file extent (.each id (extent.position file) kind name body)
        ((refusalOfName? name).or (if body.hasAction then some .actionInLoop else none)) := by
  unfold mkEach refusalOfName?
  split
  next => rfl
  next => split <;> rfl

/-- What validation finds in a statement and in the statements inside it. -/
theorem validate_eq (table : Table Variable) (s : Stmt) :
    s.validate table = (s.check table).toList ++ s.children.flatMap (validate table) := by
  have cons : ∀ (t : Stmt) (more : List Stmt), (t :: more).filterMap (check table) =
      (t.check table).toList ++ more.filterMap (check table) := by
    intro t more
    rw [List.filterMap_cons]
    cases t.check table <;> rfl
  cases s <;>
    simp only [validate, walk, children, cons, walkAll_eq_flatMap, List.filterMap_flatMap, List.filterMap_append,
      List.filterMap_nil, List.flatMap_cons, List.flatMap_nil, List.append_nil]
  all_goals rfl

end Stmt

namespace StmtTree

theorem mismatches_eq (s : StmtTree) :
    s.mismatches declared = mistakeOf s.extent (s.mismatch? declared) ++ s.children.flatMap (mismatches declared) := by
  rw [mismatches, walk_eq, List.flatMap_cons, List.flatMap_assoc]
  rfl

end StmtTree

namespace Builder

variable {b b' : Builder}

theorem Adds.freshId {mistakes : List Mistake} (adds : b.Adds file b' mistakes) :
    b.Adds file (Builder.freshId.run b').2 mistakes := ⟨adds.globals, adds.faults⟩

theorem adds_keepStmt (form : Form) (extent : Extent) (s : Stmt) (cause? : Option Cause) (b : Builder) :
    b.Adds file ((keepStmt form (checked file extent s cause?)).run b).2 (mistakeOf extent cause?) := by
  cases cause? with
  | none => exact .nil b
  | some cause => exact ⟨rfl, Array.toList_push⟩

end Builder

namespace StmtTree

/-- What comes out of building a statement. -/
structure Reports (file : Option String) (declared : List (String × Ty)) (t : StmtTree) (b : Builder)
    (out : Stmt × Builder) : Prop where
  adds : b.Adds file out.2 (t.refusals declared)
  acts : out.1.hasAction = t.shows declared
  validates : t.refusals declared = [] →
    out.1.validate b.globals = (t.mismatches declared).map (Mistake.fault file)

/-- A statement is kept once what is inside it is built. -/
theorem Reports.keep {t : StmtTree} {b b' : Builder} {inner : List Mistake} {cause? : Option Cause} {s : Stmt}
    (form : Form) (adds : b.Adds file b' inner)
    (refusals : t.refusals declared = inner ++ mistakeOf t.extent cause?)
    (acts : (cause?.isNone && s.hasAction) = t.shows declared)
    (validates : inner = [] → s.validate b.globals = (t.mismatches declared).map (Mistake.fault file)) :
    t.Reports file declared b ((keepStmt form (checked file t.extent s cause?)).run b') := by
  cases cause? with
  | none =>
    exact ⟨refusals ▸ adds.append (.nil b'), acts,
      fun clean => validates (by simpa [refusals, mistakeOf] using clean)⟩
  | some cause =>
    refine ⟨refusals ▸ adds.append ⟨rfl, Array.toList_push⟩, acts, fun clean => ?_⟩
    simp [refusals, mistakeOf] at clean

/-- What comes out of building statements in order. -/
structure ReportsAll (file : Option String) (declared : List (String × Ty)) (body : List StmtTree) (b : Builder)
    (out : List Stmt × Builder) : Prop where
  adds : b.Adds file out.2 (refusalsAll declared body)
  acts : Stmt.hasActionAny out.1 = showsAny declared body
  validates : refusalsAll declared body = [] →
    out.1.flatMap (Stmt.validate b.globals) = (body.flatMap (mismatches declared)).map (Mistake.fault file)

end StmtTree

namespace Stmt

variable {table : Table Variable}

theorem check_assignment_eq (file : Option String) (agrees : table.Agrees declared) (extent : Extent) (name : String)
    {e : Expr}
    {tree : ExprTree} (ty : e.ty? = tree.shown? declared) :
    ((assignment (extent.position file) name e).check table).toList =
      (mistakeOf extent (mismatch? declared name tree)).map (Mistake.fault file) := by
  have known := agrees.known name
  simp only [check, mismatch?, ← known, ← ty]
  cases table.get? name with
  | none => rfl
  | some v =>
    cases e.ty? with
    | none => rfl
    | some got =>
      dsimp only [Option.map_some]
      split <;> rfl

theorem check_each_eq (agrees : table.Agrees declared) (id : NodeId) (extent kindExtent : Extent) (kind : LoopKind)
    (name : Word) (body : Stmt) (tree : StmtTree) :
    ((each id (extent.position file) kind name.text body).check table).toList =
      (mistakeOf extent ((StmtTree.each extent kindExtent kind name tree).mismatch? declared)).map
        (Mistake.fault file) := by
  have known := agrees.known name.text
  simp only [check, StmtTree.mismatch?, ← known]
  cases table.get? name.text with
  | none => rfl
  | some v =>
    dsimp only [Option.map_some]
    split <;> rfl

end Stmt

mutual

/-- A build of a statement collects its refused nodes and nothing else. -/
theorem StmtTree.reports_build (file : Option String) : (t : StmtTree) → (b : Builder) →
    b.globals.Agrees declared → t.Reports file declared b ((t.build file).run b)
  | .block extent body, b, agrees => by
    have inner := StmtTree.reports_buildAll file body b agrees
    rw [StmtTree.build, run_bind]
    refine ⟨inner.adds, inner.acts, fun clean => ?_⟩
    rw [Stmt.validate_eq, StmtTree.mismatches_eq]
    exact inner.validates clean
  | .assignment extent name e, b, agrees => by
    have inner := e.reports_build file agrees
    rw [StmtTree.build, run_bind, Stmt.mkAssignment_eq]
    refine .keep .assignment inner.adds rfl (Bool.and_false _) fun _ => ?_
    rw [Stmt.validate_eq, StmtTree.mismatches_eq, Stmt.check_assignment_eq file agrees extent name.text inner.ty,
      List.map_append]
    rfl
  | .print extent e, b, agrees => by
    have inner := e.reports_build file agrees
    rw [StmtTree.build, run_bind]
    exact ⟨inner.adds, rfl, fun _ => rfl⟩
  | .turn extent e, b, agrees => by
    have inner := e.reports_build file agrees
    rw [StmtTree.build, run_bind]
    have made : Stmt.mkAction (extent.position file) (.turn ((e.build file).run b).1) = _ :=
      Expr.expect_bind file extent .angle .number _ _
    rw [made, inner.ty]
    exact .keep .turn inner.adds rfl (Bool.and_true _) fun _ => rfl
  | .fire extent e, b, agrees => by
    have inner := e.reports_build file agrees
    rw [StmtTree.build, run_bind]
    have made : Stmt.mkAction (extent.position file) (.fire ((e.build file).run b).1) = _ :=
      Expr.expect_bind file extent .yield .number _ _
    rw [made, inner.ty]
    exact .keep .fire inner.adds rfl (Bool.and_true _) fun _ => rfl
  | .simple extent a, b, _ => ⟨.nil b, rfl, fun _ => rfl⟩
  | .branch extent c yes, b, agrees => by
    have condition := c.reports_build file agrees
    have inner := StmtTree.reports_build file yes _ (condition.adds.globals ▸ agrees)
    rw [StmtTree.build, run_bind, run_bind, Builder.branch, run_bind]
    have made : ∀ id, Stmt.mkBranch id (extent.position file) ((c.build file).run b).1
        ((yes.build file).run ((c.build file).run b).2).1 none = _ :=
      fun id => Expr.expect_bind file extent (.condition "if") .boolean _ _
    rw [made, condition.ty]
    refine .keep .branch (condition.adds.append inner.adds).freshId rfl ?_ fun clean => ?_
    · simp only [Stmt.hasAction, Option.getD_none, Stmt.hasActionAny, Bool.or_false, inner.acts]
      rfl
    · have validates := inner.validates (List.append_eq_nil_iff.mp clean).2
      have nothing : (Stmt.sequence (extent.position file) []).validate b.globals = [] := rfl
      rw [condition.adds.globals] at validates
      rw [Stmt.validate_eq, StmtTree.mismatches_eq]
      simp only [Stmt.children, Option.getD_none, StmtTree.children, List.flatMap_cons, List.flatMap_nil, validates,
        nothing, List.map_append]
      rfl
  | .branchElse extent c yes no, b, agrees => by
    have other := StmtTree.reports_build file no b agrees
    have condition := c.reports_build file (other.adds.globals ▸ agrees)
    have kept := other.adds.append condition.adds
    have inner := StmtTree.reports_build file yes _ (kept.globals ▸ agrees)
    rw [StmtTree.build, run_bind, run_bind, run_bind, Builder.branch, run_bind]
    have made : ∀ id, Stmt.mkBranch id (extent.position file) ((c.build file).run ((no.build file).run b).2).1
        ((yes.build file).run ((c.build file).run ((no.build file).run b).2).2).1 (some ((no.build file).run b).1) = _ :=
      fun id => Expr.expect_bind file extent (.condition "if") .boolean _ _
    rw [made, condition.ty]
    refine .keep .branch (kept.append inner.adds).freshId rfl ?_ fun clean => ?_
    · simp only [Stmt.hasAction, Option.getD_some, inner.acts, other.acts]
      rfl
    · obtain ⟨cleanFront, cleanYes⟩ := List.append_eq_nil_iff.mp clean
      have validates := inner.validates cleanYes
      rw [kept.globals] at validates
      have validatesNo := other.validates (List.append_eq_nil_iff.mp cleanFront).1
      rw [Stmt.validate_eq, StmtTree.mismatches_eq]
      simp only [Stmt.children, Option.getD_some, StmtTree.children, List.flatMap_cons, validates, validatesNo,
        List.map_append]
      rfl
  | .loop extent c body, b, agrees => by
    have condition := c.reports_build file agrees
    have inner := StmtTree.reports_build file body _ (condition.adds.globals ▸ agrees)
    rw [StmtTree.build, run_bind, run_bind, Builder.loop, run_bind]
    have made : ∀ id, Stmt.mkLoop id (extent.position file) ((c.build file).run b).1
        ((body.build file).run ((c.build file).run b).2).1 = _ :=
      fun id => Expr.expect_bind file extent (.condition "while") .boolean _ _
    rw [made, condition.ty]
    refine .keep .loop (condition.adds.append inner.adds).freshId rfl ?_ fun clean => ?_
    · simp only [Stmt.hasAction, inner.acts]
      rfl
    · have validates := inner.validates (List.append_eq_nil_iff.mp clean).2
      rw [condition.adds.globals] at validates
      rw [Stmt.validate_eq, StmtTree.mismatches_eq]
      simp only [Stmt.children, StmtTree.children, List.flatMap_cons, List.flatMap_nil, validates, List.map_append]
      rfl
  | .each extent kindExtent kind name body, b, agrees => by
    have inner := StmtTree.reports_build file body b agrees
    rw [StmtTree.build, run_bind, Builder.each, run_bind, Stmt.mkEach_eq, inner.acts]
    refine .keep .each inner.adds.freshId rfl (Bool.and_false _) fun clean => ?_
    rw [Stmt.validate_eq, StmtTree.mismatches_eq, Stmt.check_each_eq agrees _ extent kindExtent kind name _ body,
      List.map_append]
    simp only [Stmt.children, StmtTree.children, List.flatMap_cons, List.flatMap_nil, List.append_nil,
      inner.validates clean]
    rfl

/-- A build of statements collects their refused nodes and nothing else. -/
theorem StmtTree.reports_buildAll (file : Option String) : (body : List StmtTree) → (b : Builder) →
    b.globals.Agrees declared → StmtTree.ReportsAll file declared body b ((StmtTree.buildAll file body).run b)
  | [], b, _ => ⟨.nil b, rfl, fun _ => rfl⟩
  | s :: rest, b, agrees => by
    have first := StmtTree.reports_build file s b agrees
    have second := StmtTree.reports_buildAll file rest _ (first.adds.globals ▸ agrees)
    rw [StmtTree.buildAll, run_bind, run_bind]
    refine ⟨first.adds.append second.adds, congrArg₂ _ first.acts second.acts, fun clean => ?_⟩
    obtain ⟨cleanFirst, cleanRest⟩ := List.append_eq_nil_iff.mp clean
    have validates := second.validates cleanRest
    rw [first.adds.globals] at validates
    rw [List.flatMap_cons, List.map_append, ← first.validates cleanFirst, ← validates]
    rfl

end

namespace ItemTree

/-- What comes out of building an item. -/
structure Reports (file : Option String) (declared : List (String × Ty)) (item : ItemTree) (b : Builder)
    (out : Option Stmt × Builder) : Prop where
  adds : b.Adds file out.2 (item.refusals declared)
  validates : item.refusals declared = [] →
    out.1.toList.flatMap (Stmt.validate b.globals) = (item.mismatches declared).map (Mistake.fault file)

theorem reports_build (file : Option String) (item : ItemTree) {b : Builder} (agrees : b.globals.Agrees declared) :
    item.Reports file declared b ((item.build file).run b) := by
  cases item with
  | statement s =>
    have inner := s.reports_build file b agrees
    rw [ItemTree.build, run_bind]
    exact ⟨inner.adds, fun clean => (List.append_nil _).trans (inner.validates clean)⟩
  | declaration extent typeExtent t name initial? =>
    cases initial? with
    | none => exact ⟨.nil b, fun _ => rfl⟩
    | some e =>
      have inner := e.reports_build file agrees
      rw [ItemTree.build, run_bind, run_bind, Stmt.mkAssignment_eq]
      refine ⟨inner.adds.append (adds_keepStmt .assignment extent _ _ _), fun clean => ?_⟩
      have unnamed := (List.append_eq_nil_iff.mp clean).2
      cases refused : refusalOfName? name.text with
      | some cause => simp [refused, mistakeOf] at unnamed
      | none =>
        have found := Stmt.check_assignment_eq file agrees extent name.text inner.ty
        exact (List.append_nil _).trans ((Stmt.validate_eq _ _).trans ((List.append_nil _).trans found))

/-- What comes out of building items in order. -/
structure ReportsAll (file : Option String) (declared : List (String × Ty)) (items : List ItemTree) (b : Builder)
    (out : List (Option Stmt) × Builder) : Prop where
  adds : b.Adds file out.2 (items.flatMap (refusals declared))
  validates : items.flatMap (refusals declared) = [] →
    (out.1.filterMap id).flatMap (Stmt.validate b.globals) =
      (items.flatMap (mismatches declared)).map (Mistake.fault file)

theorem reports_buildAll (file : Option String) (items : List ItemTree) {b : Builder}
    (agrees : b.globals.Agrees declared) :
    ReportsAll file declared items b ((items.mapM (ItemTree.build file)).run b) := by
  induction items generalizing b with
  | nil => exact ⟨.nil b, fun _ => rfl⟩
  | cons item rest ih =>
    have first := item.reports_build file agrees
    have second := ih (first.adds.globals ▸ agrees)
    rw [List.mapM_cons, run_bind, run_bind]
    refine ⟨first.adds.append second.adds, fun clean => ?_⟩
    obtain ⟨cleanFirst, cleanRest⟩ := List.append_eq_nil_iff.mp clean
    have validates := second.validates cleanRest
    rw [first.adds.globals] at validates
    rw [List.flatMap_cons, List.map_append, ← first.validates cleanFirst, ← validates]
    have split : ∀ (made : Option Stmt) (more : List (Option Stmt)), ((made :: more).filterMap id).flatMap
        (Stmt.validate b.globals) = made.toList.flatMap (Stmt.validate b.globals) ++
          (more.filterMap id).flatMap (Stmt.validate b.globals) := by
      intro made more
      cases made <;> simp
    exact split _ _

end ItemTree

namespace Table

theorem agrees_empty : ({} : Table Variable).Agrees [] := ⟨fun _ => rfl, rfl⟩

variable {table : Table Variable} {name : String}

theorem lookup_singleton {α : Type} (name other : String) (a : α) :
    [(name, a)].lookup other = if other = name then some a else none := by
  by_cases same : other = name
  · simp [same]
  · have differs : (other == name) = false := by simpa using same
    simp [List.lookup_cons, differs, same]

/-- A name that is declared again keeps its type. -/
theorem Agrees.again (agrees : table.Agrees declared) (known : (declared.lookup name).isSome) (t : Ty) :
    table.Agrees (declared ++ [(name, t)]) := by
  have same : ∀ other, (declared ++ [(name, t)]).lookup other = declared.lookup other := by
    intro other
    rw [List.lookup_append, lookup_singleton]
    split
    next same =>
      subst same
      obtain ⟨u, found⟩ := Option.isSome_iff_exists.mp known
      rw [found]
      rfl
    next => exact Option.or_none
  exact ⟨fun other => (agrees.known other).trans (same other).symm, (same "").trans agrees.named⟩

theorem Agrees.push (agrees : table.Agrees declared) (named : name ≠ "") (t : Ty) :
    (table.push name (.ofTy t)).Agrees (declared ++ [(name, t)]) where
  known := fun other => by
    have known := agrees.known other
    unfold get? at known
    rw [get?, Table.push, List.lookup_append, List.lookup_append, ← known, lookup_singleton, lookup_singleton]
    cases table.entries.lookup other with
    | some v => rfl
    | none => split <;> rfl
  named := by
    rw [List.lookup_append, agrees.named, lookup_singleton, if_neg named.symm]
    rfl

theorem Agrees.declare_eq (agrees : table.Agrees declared) (named : name ≠ "") (t : Ty) (at? : Option Position) :
    table.declare name (.ofTy t) at? =
      if (declared.lookup name).isSome then .error { cause := .alreadyDeclared name, position := at? }
      else .ok (table.push name (.ofTy t)) := by
  have contains : table.contains name = (declared.lookup name).isSome := by
    rw [← agrees.known name, Option.isSome_map, Table.contains]
  rw [declare, if_neg (by simpa using named), contains]

end Table

/-- Declaring the variables of all items collects those that are declared again. -/
theorem ItemTree.reports_declareAll (file : Option String) (items : List ItemTree) (sane : ∀ item ∈ items, item.Sane)
    {b : Builder} (agrees : b.globals.Agrees declared) :
    let out := (items.forM (·.declare file)).run b
    out.2.faults.toList = b.faults.toList ++ (redeclarations declared items).map (Mistake.fault file) ∧
      out.2.globals.Agrees (declared ++ items.filterMap ItemTree.declared?) := by
  induction items generalizing b declared with
  | nil => exact ⟨(List.append_nil _).symm, (List.append_nil declared).symm ▸ agrees⟩
  | cons item rest ih =>
    intro out
    obtain ⟨saneItem, saneRest⟩ := List.forall_mem_cons.mp sane
    cases item with
    | statement s => exact ih saneRest agrees
    | declaration extent typeExtent t name initial? =>
      have named : name.text ≠ "" := ItemTree.named_of_sane saneItem _ rfl
      have declares := agrees.declare_eq named t (name.extent.position file)
      have more : declared ++ (declaration extent typeExtent t name initial? :: rest).filterMap declared? =
          declared ++ [(name.text, t)] ++ rest.filterMap declared? := by simp [declared?]
      rw [more]
      have split : out = (rest.forM (·.declare file)).run
          ((ItemTree.declare file (declaration extent typeExtent t name initial?)).run b).2 := rfl
      rw [ItemTree.declare, run_bind, Builder.run_declare, declares] at split
      by_cases known : (declared.lookup name.text).isSome
      · rw [if_pos known] at split
        obtain ⟨faults, agreesAll⟩ := ih saneRest (agrees.again known t)
          (b := ((Builder.collect { cause := .alreadyDeclared name.text, position := name.extent.position file }).run b).2)
        rw [split]
        refine ⟨faults.trans ?_, agreesAll⟩
        rw [redeclarations, if_pos known, List.map_append, ← List.append_assoc]
        exact congrArg (· ++ _) Array.toList_push
      · rw [if_neg known] at split
        obtain ⟨faults, agreesAll⟩ := ih saneRest (agrees.push named t)
          (b := { b with globals := b.globals.push name.text (.ofTy t) })
        rw [split, redeclarations, if_neg known]
        exact ⟨faults, agreesAll⟩

namespace ProgramTree

/-- What comes out of building a program text. -/
theorem reports_build (file : Option String) (tree : ProgramTree) (sane : ∀ item ∈ tree.items, item.Sane)
    (handler? : Option HandlerId) :
    let out := (tree.build file).run { handler? }
    out.2.faults.toList = tree.refusals.map (Mistake.fault file) ∧
      (tree.refusals = [] → out.1.validate out.2.globals = tree.mismatches.map (Mistake.fault file)) := by
  intro out
  obtain ⟨faults, agrees⟩ := ItemTree.reports_declareAll file tree.items sane
    (b := { handler? }) Table.agrees_empty
  rw [List.nil_append] at agrees
  have items := ItemTree.reports_buildAll file tree.items agrees
  constructor
  · rw [refusals, List.map_append]
    exact items.adds.faults.trans (congrArg (· ++ _) faults)
  · intro clean
    obtain ⟨-, cleanItems⟩ := List.append_eq_nil_iff.mp clean
    have validates := items.validates cleanItems
    rw [← items.adds.globals] at validates
    rw [show out.1 = .sequence (tree.position file) _ from rfl, Stmt.validate_eq]
    exact validates

end ProgramTree

/-- The faults that a program text is refused for: its refused nodes if there are any, its mismatches otherwise. -/
inductive ProgramTree.Outcome (file : Option String) (tree : ProgramTree) : Except Failure Program → Prop
  | refused (refused : tree.refusals ≠ []) (log : Log) :
    Outcome file tree (.error (.rejected (tree.refusals.map (Mistake.fault file)) log))
  | mismatched (made : tree.refusals = []) (mismatched : tree.mismatches ≠ []) (log : Log) :
    Outcome file tree (.error (.rejected (tree.mismatches.map (Mistake.fault file)) log))
  | accepted (made : tree.refusals = []) (matched : tree.mismatches = []) (p : Program) : Outcome file tree (.ok p)

/-- What comes of a text that is read is decided by what is built from its tree. -/
theorem Program.parse_of_read {source : String} {tree : ProgramTree} (read : ProgramTree.parse source = .ok tree)
    {file : Option String} {handler? : Option HandlerId} {out : Stmt × Builder}
    (built : (tree.build file).run { handler? } = out) (budget : Except Fault Int) :
    parse source file handler? budget = (do
      let program ← out.2.program out.1 budget
      match program.validate with
      | [] => return program
      | faults => throw (.rejected faults (out.2.log.push (.rejectedProgram faults.length)))) := by
  rw [parse, read, ← built]
  rfl

theorem Program.outcome_parse {source : String} {tree : ProgramTree} (read : ProgramTree.parse source = .ok tree)
    (file : Option String) (handler? : Option HandlerId) (limit : Int) :
    tree.Outcome file (parse source file handler? (.ok limit)) := by
  obtain ⟨faults, validates⟩ := tree.reports_build file (ProgramTree.sane_of_parse read) handler?
  obtain ⟨out, built⟩ : ∃ out, (tree.build file).run { handler? } = out := ⟨_, rfl⟩
  rw [built] at faults validates
  rw [parse_of_read read built]
  by_cases made : tree.refusals = []
  · obtain ⟨p, same⟩ : ∃ p : Program, p =
        { root := out.1, globals := out.2.globals, handler? := out.2.handler?, maxStatements := limit } := ⟨_, rfl⟩
    have clean : out.2.failed = false := by
      have none : out.2.faults.toList = [] := by rw [faults, made]; rfl
      rw [Builder.failed, Array.toList_eq_nil_iff.mp none]
      rfl
    have program : out.2.program out.1 (.ok limit) = .ok p := by
      rw [Builder.program, clean, same]
      rfl
    have found : p.validate = tree.mismatches.map (Mistake.fault file) := by
      rw [same]
      exact validates made
    rw [program]
    show tree.Outcome file (match p.validate with | [] => _ | faults => _)
    rw [found]
    cases mismatched : tree.mismatches with
    | nil => exact .accepted made mismatched p
    | cons m rest =>
      have outcome : ∀ log, tree.Outcome file (.error (.rejected (tree.mismatches.map (Mistake.fault file)) log)) :=
        .mismatched made (by simp [mismatched])
      rw [mismatched] at outcome
      exact outcome _
  · have failed : out.2.failed = true := by
      rw [Builder.failed, ← Array.isEmpty_toList, faults]
      simpa using made
    rw [Builder.program, failed, if_pos rfl, faults]
    exact .refused made _

end WormLang
