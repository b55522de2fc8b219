import WormLang.Proofs.RoundTrip.Layout
import WormLang.Proofs.RoundTrip.Moving

/-!
Programs without their places. Nothing that is decided while a program is built depends on where its nodes stand, so
trees that differ in their places only are built as programs that do, or as none. So layout does not matter: texts of
the same lexemes, with whatever between them, are the same program or none.
-/
namespace WormLang

def Fault.unplaced (f : Fault) : Fault := { f with position := none }

/-- An expression without its places in program text and in faults. -/
def Expr.unplaced : Expr → Expr
  | number _ x => number none x
  | boolean _ b => boolean none b
  | null _ => null none
  | self _ => self none
  | access _ name ty => access none name ty
  | arithmetic _ op l r => arithmetic none op l.unplaced r.unplaced
  | math _ f e => math none f e.unplaced
  | order _ op l r => order none op l.unplaced r.unplaced
  | equality _ op l r => equality none op l.unplaced r.unplaced
  | logical _ op l r => logical none op l.unplaced r.unplaced
  | negation _ e => negation none e.unplaced
  | query _ q e => query none q e.unplaced
  | sameTeam _ e => sameTeam none e.unplaced
  | isKind _ k e => isKind none k e.unplaced
  | search _ e => search none e.unplaced
  | placeholder fault => placeholder fault.unplaced

def Action.unplaced : Action → Action
  | turn e => turn e.unplaced
  | fire e => fire e.unplaced
  | a => a

namespace Stmt

mutual

/-- A statement without its places in program text and in faults. Identities are kept. -/
def unplaced : Stmt → Stmt
  | sequence _ body => sequence none (unplacedAll body)
  | assignment _ name e => assignment none name e.unplaced
  | print _ e => print none e.unplaced
  | action _ a => action none a.unplaced
  | branch id _ c yes no => branch id none c.unplaced yes.unplaced no.unplaced
  | loop id _ c body => loop id none c.unplaced body.unplaced
  | each id _ kind name body => each id none kind name body.unplaced
  | placeholder fault => placeholder fault.unplaced

def unplacedAll : List Stmt → List Stmt
  | [] => []
  | s :: rest => s.unplaced :: unplacedAll rest

end

theorem unplacedAll_eq_map (body : List Stmt) : unplacedAll body = body.map unplaced := by
  induction body with
  | nil => rfl
  | cons s rest ih => rw [unplacedAll, ih, List.map_cons]

theorem children_unplaced (s : Stmt) : s.unplaced.children = s.children.map unplaced := by
  cases s <;> simp [unplaced, children, unplacedAll_eq_map]

theorem walk_unplaced (s : Stmt) : s.unplaced.walk = s.walk.map unplaced := by
  induction s using child_induction with
  | step s ih =>
    rw [walk_eq s.unplaced, walk_eq s, children_unplaced, List.flatMap_map, List.map_cons, List.map_flatMap]
    rw [List.flatMap_def, List.flatMap_def, List.map_congr_left ih]

end Stmt

/-- A program without its places. -/
def Program.unplaced (p : Program) : Program := { p with root := p.root.unplaced }

theorem Expr.ty?_unplaced (e : Expr) : e.unplaced.ty? = e.ty? := by
  cases e <;> rfl

theorem Expr.ty?_of_unplaced {e e' : Expr} (same : e'.unplaced = e.unplaced) : e'.ty? = e.ty? := by
  rw [← ty?_unplaced e', same, ty?_unplaced]

namespace Stmt

theorem hasAction_unplaced (s : Stmt) : s.unplaced.hasAction = s.hasAction := by
  induction s using tree_induction with
  | sequence at? body ih =>
    have same : (body.map unplaced).map hasAction = body.map hasAction := by
      rw [List.map_map]
      exact List.map_congr_left ih
    rw [unplaced, hasAction, hasAction, hasActionAny_eq_any, hasActionAny_eq_any, unplacedAll_eq_map, same]
  | branch id at? c yes no ihYes ihNo => simp only [unplaced, hasAction, ihYes, ihNo]
  | loop id at? c body ih => simp only [unplaced, hasAction, ih]
  | each id at? kind name body ih => rfl
  | leaf s isLeaf => cases s <;> first | rfl | cases isLeaf
  | placeholder fault => rfl

/-- The fault of a statement with respect to the declared variables does not depend on its place. -/
theorem check_unplaced (table : Table Variable) (s : Stmt) :
    s.unplaced.check table = (s.check table).map Fault.unplaced := by
  cases s with
  | assignment at? name e =>
    simp only [unplaced, check, Expr.ty?_unplaced]
    cases table.get? name with
    | none => rfl
    | some v =>
      cases e.ty? with
      | none => rfl
      | some t =>
        dsimp only
        split <;> rfl
  | each id at? kind name body =>
    simp only [unplaced, check]
    cases table.get? name with
    | none => rfl
    | some v =>
      dsimp only
      split <;> rfl
  | _ => rfl

theorem validate_unplaced (table : Table Variable) (s : Stmt) :
    s.unplaced.validate table = (s.validate table).map Fault.unplaced := by
  rw [validate, validate, walk_unplaced, List.filterMap_map, List.map_filterMap]
  exact List.filterMap_congr fun t _ => check_unplaced table t

end Stmt

section Checks

variable {α β : Type}

/-- What a check comes to, but for places. -/
def placeless (erase : α → α) (r : Except Fault α) : Except Fault α := (r.map erase).mapError Fault.unplaced

theorem placeless_bind {erase : α → α} {x x' : Except Fault Unit} {f f' : Unit → Except Fault α}
    (first : x'.mapError Fault.unplaced = x.mapError Fault.unplaced)
    (next : placeless erase (f' ()) = placeless erase (f ())) :
    placeless erase (x' >>= f') = placeless erase (x >>= f) := by
  cases x with
  | ok =>
    cases x' with
    | ok => exact next
    | error => cases first
  | error =>
    cases x' with
    | ok => cases first
    | error => exact congrArg Except.error (Except.error.inj first)

variable {at? place? : Option Position} {e e' l l' r r' : Expr}

theorem Expr.expect_unplaced (place : Place) (t : Ty) (same : e'.unplaced = e.unplaced) :
    (expect place? place t e').mapError Fault.unplaced = (expect at? place t e).mapError Fault.unplaced := by
  rw [expect, expect, ty?_of_unplaced same]
  cases e.ty? with
  | none => rfl
  | some got =>
    dsimp only
    split <;> rfl

/-- A node over one operand that must have a type. -/
theorem Expr.placeless_operand {erase : α → α} {a a' : α} (place : Place) (t : Ty) (same : e'.unplaced = e.unplaced)
    (made : erase a' = erase a) :
    placeless erase (do expect place? place t e'; return a') = placeless erase (do expect at? place t e; return a) :=
  placeless_bind (expect_unplaced place t same) (congrArg Except.ok made)

theorem BinaryOp.placeless_make (op : BinaryOp) (left : l'.unplaced = l.unplaced) (right : r'.unplaced = r.unplaced) :
    placeless Expr.unplaced (op.make place? l' r') = placeless Expr.unplaced (op.make at? l r) := by
  cases op with
  | arithmetic op | order op | logical op =>
    exact placeless_bind (Expr.expect_unplaced _ _ left)
      (Expr.placeless_operand _ _ right (by simp only [Expr.unplaced, left, right]))
  | equality op =>
    have made : (Expr.equality place? op l' r').unplaced = (Expr.equality at? op l r).unplaced := by
      simp only [Expr.unplaced, left, right]
    simp only [make, Expr.mkEquality, Expr.ty?_of_unplaced left, Expr.ty?_of_unplaced right]
    cases l.ty? with
    | none => exact congrArg Except.ok made
    | some t =>
      cases r.ty? with
      | none => exact congrArg Except.ok made
      | some u =>
        dsimp only
        split
        next => exact congrArg Except.ok made
        next => rfl

end Checks

namespace Builder

/-- Builders are the same but for the places of faults and what they log. -/
structure Like (b b' : Builder) : Prop where
  globals : b'.globals = b.globals
  handler? : b'.handler? = b.handler?
  nextId : b'.nextId = b.nextId
  faults : b'.faults.toList.map Fault.unplaced = b.faults.toList.map Fault.unplaced

/-- Two builds come to the same, places aside, and go on alike. -/
def Agree {α β : Type} (erase : α → β) (x x' : Build α) : Prop :=
  ∀ b b' : Builder, b.Like b' → erase (x'.run b').1 = erase (x.run b).1 ∧ (x.run b).2.Like (x'.run b').2

section Agree

variable {α β γ δ : Type} {erase : α → β}

theorem agree_pure {a a' : α} (same : erase a' = erase a) : Agree erase (pure a) (pure a') :=
  fun _ _ like => ⟨same, like⟩

theorem Agree.bind {erase' : γ → δ} {x x' : Build α} {f f' : α → Build γ} (first : Agree erase x x')
    (next : ∀ a a', erase a' = erase a → Agree erase' (f a) (f' a')) : Agree erase' (x >>= f) (x' >>= f') := by
  intro b b' like
  obtain ⟨same, after⟩ := first b b' like
  exact next _ _ same _ _ after

theorem Like.collect {b b' : Builder} (like : b.Like b') {f f' : Fault} (same : f'.unplaced = f.unplaced)
    (log log' : Log) :
    Like { b with faults := b.faults.push f, log } { b' with faults := b'.faults.push f', log := log' } where
  globals := like.globals
  handler? := like.handler?
  nextId := like.nextId
  faults := by simp [like.faults, same]

theorem agree_keepExpr (form : Form) {e? e?' : Except Fault Expr}
    (same : placeless Expr.unplaced e?' = placeless Expr.unplaced e?) :
    Agree Expr.unplaced (keepExpr form e?) (keepExpr form e?') := by
  intro b b' like
  cases e? with
  | ok e =>
    cases e?' with
    | ok e' => exact ⟨Except.ok.inj same, like⟩
    | error f' => cases same
  | error f =>
    cases e?' with
    | ok e' => cases same
    | error f' =>
      have fault : f'.unplaced = f.unplaced := Except.error.inj same
      exact ⟨congrArg Expr.placeholder fault, like.collect fault _ _⟩

theorem agree_keepStmt (form : Form) {s? s?' : Except Fault Stmt}
    (same : placeless Stmt.unplaced s?' = placeless Stmt.unplaced s?) :
    Agree Stmt.unplaced (keepStmt form s?) (keepStmt form s?') := by
  intro b b' like
  cases s? with
  | ok s =>
    cases s?' with
    | ok s' => exact ⟨Except.ok.inj same, like⟩
    | error f' => cases same
  | error f =>
    cases s?' with
    | ok s' => cases same
    | error f' =>
      have fault : f'.unplaced = f.unplaced := Except.error.inj same
      refine ⟨?_, like.collect fault _ _⟩
      show Stmt.unplaced (.placeholder f') = Stmt.unplaced (.placeholder f)
      rw [Stmt.unplaced, Stmt.unplaced, fault]

theorem agree_freshId : Agree id freshId freshId := by
  intro b b' like
  refine ⟨congrArg NodeId.mk like.nextId, like.globals, like.handler?, ?_, like.faults⟩
  exact congrArg Nat.succ like.nextId

end Agree

theorem agree_access (at? place? : Option Position) (name : String) :
    Agree Expr.unplaced (access at? name) (access place? name) := by
  intro b b' like
  rw [run_access, run_access, like.globals]
  cases b.globals.get? name with
  | none =>
    have fault : ({ cause := .notDeclared name, position := place? } : Fault).unplaced =
        ({ cause := .notDeclared name, position := at? } : Fault).unplaced := rfl
    exact ⟨rfl, like.collect fault b.log b'.log⟩
  | some v =>
    refine agree_keepExpr .access ?_ b b' like
    unfold Expr.mkAccess
    split <;> rfl

theorem agree_declare (at? place? : Option Position) (name : String) (t : Ty) :
    Agree id (declare at? name t) (declare place? name t) := by
  intro b b' like
  have same : (b.globals.declare name (.ofTy t) place?).mapError Fault.unplaced =
      (b.globals.declare name (.ofTy t) at?).mapError Fault.unplaced := by
    unfold Table.declare
    split
    next => rfl
    next => split <;> rfl
  rw [run_declare, run_declare, like.globals]
  cases here : b.globals.declare name (.ofTy t) at? with
  | ok globals =>
    cases there : b.globals.declare name (.ofTy t) place? with
    | ok globals' =>
      rw [here, there] at same
      exact ⟨rfl, Except.ok.inj same, like.handler?, like.nextId, like.faults⟩
    | error f' => rw [here, there] at same; cases same
  | error f =>
    cases there : b.globals.declare name (.ofTy t) place? with
    | ok globals' => rw [here, there] at same; cases same
    | error f' =>
      rw [here, there] at same
      exact ⟨rfl, like.collect (Except.error.inj same) b.log b'.log⟩

end Builder

open Builder

theorem UnaryOp.agree_build (op : UnaryOp) (at? place? : Option Position) {e e' : Expr}
    (same : e'.unplaced = e.unplaced) : Agree Expr.unplaced (op.build at? e) (op.build place? e') := by
  cases op with
  | negative =>
    have zero : (Expr.number place? 0.0).unplaced = (Expr.number at? 0.0).unplaced := rfl
    exact agree_keepExpr .arithmetic (BinaryOp.placeless_make (.arithmetic .sub) zero same)
  | bang | query | sameTeam | test | search =>
    exact agree_keepExpr _ (Expr.placeless_operand _ _ same (by simp only [Expr.unplaced, same]))

/-- An expression is built in the same way wherever it stands. -/
theorem ExprTree.agree_build (file file' : Option String) (t : ExprTree) :
    Agree Expr.unplaced (t.build file) (t.bare.build file') := by
  induction t with
  | number | truth | null | self => exact agree_pure rfl
  | name extent text => exact agree_access _ _ text
  | unary extent op operand ih => exact ih.bind fun e e' same => op.agree_build _ _ same
  | call extent f argument ih =>
    exact ih.bind fun e e' same =>
      agree_keepExpr .math (Expr.placeless_operand _ _ same (by simp only [Expr.unplaced, same]))
  | binary extent op left right ihLeft ihRight =>
    exact ihLeft.bind fun l l' left => ihRight.bind fun r r' right =>
      agree_keepExpr op.form (op.placeless_make left right)

namespace Stmt

variable {at? place? : Option Position} {e e' : Expr}

theorem placeless_mkAssignment (name : String) (same : e'.unplaced = e.unplaced) :
    placeless unplaced (mkAssignment place? name e') = placeless unplaced (mkAssignment at? name e) := by
  have made : (assignment place? name e').unplaced = (assignment at? name e).unplaced := by
    rw [unplaced, unplaced, same]
  unfold mkAssignment
  split
  next => rfl
  next => exact congrArg Except.ok made

theorem placeless_mkEach (id : NodeId) (kind : LoopKind) (name : String) {body body' : Stmt}
    (same : body'.unplaced = body.unplaced) :
    placeless unplaced (mkEach id place? kind name body') = placeless unplaced (mkEach id at? kind name body) := by
  have acts : body'.hasAction = body.hasAction := by rw [← hasAction_unplaced, same, hasAction_unplaced]
  have made : (each id place? kind name body').unplaced = (each id at? kind name body).unplaced := by
    rw [unplaced, unplaced, same]
  unfold mkEach
  rw [acts]
  split
  next => rfl
  next =>
    split
    next => rfl
    next => exact congrArg Except.ok made

theorem agree_branch {yes yes' : Stmt} {no? no?' : Option Stmt} (condition : e'.unplaced = e.unplaced)
    (first : yes'.unplaced = yes.unplaced) (second : no?'.map unplaced = no?.map unplaced) :
    Agree unplaced (Builder.branch at? e yes no?) (Builder.branch place? e' yes' no?') := by
  have other : (no?'.getD (sequence place? [])).unplaced = (no?.getD (sequence at? [])).unplaced := by
    cases no? with
    | none =>
      rw [Option.map_eq_none_iff.mp second]
      rfl
    | some no =>
      obtain ⟨no', rfl, same⟩ := Option.map_eq_some_iff.mp second
      exact same
  refine agree_freshId.bind fun id id' same => agree_keepStmt .branch ?_
  cases same
  exact placeless_bind (Expr.expect_unplaced _ _ condition)
    (congrArg Except.ok (by simp only [unplaced, condition, first, other]))

theorem agree_loop {body body' : Stmt} (condition : e'.unplaced = e.unplaced) (same : body'.unplaced = body.unplaced) :
    Agree unplaced (Builder.loop at? e body) (Builder.loop place? e' body') := by
  refine agree_freshId.bind fun id id' sameId => agree_keepStmt .loop ?_
  cases sameId
  exact placeless_bind (Expr.expect_unplaced _ _ condition)
    (congrArg Except.ok (by simp only [unplaced, condition, same]))

theorem agree_each (kind : LoopKind) (name : String) {body body' : Stmt} (same : body'.unplaced = body.unplaced) :
    Agree unplaced (Builder.each at? kind name body) (Builder.each place? kind name body') := by
  refine agree_freshId.bind fun id id' sameId => agree_keepStmt .each ?_
  cases sameId
  exact placeless_mkEach id kind name same

end Stmt

mutual

/-- A statement is built in the same way wherever it stands. -/
theorem StmtTree.agree_build (file file' : Option String) :
    (t : StmtTree) → Agree Stmt.unplaced (t.build file) (t.bare.build file')
  | .block extent body => by
    refine (StmtTree.agree_buildAll file file' body).bind fun made made' same => agree_pure ?_
    rw [Stmt.unplaced, Stmt.unplaced, Stmt.unplacedAll_eq_map, Stmt.unplacedAll_eq_map, same]
  | .assignment extent name e =>
    (e.agree_build file file').bind fun made made' same =>
      agree_keepStmt .assignment (Stmt.placeless_mkAssignment name.text same)
  | .print extent e => by
    refine (e.agree_build file file').bind fun made made' same => agree_pure ?_
    rw [Stmt.unplaced, Stmt.unplaced, same]
  | .turn extent e | .fire extent e => by
    refine (e.agree_build file file').bind fun made made' same => agree_keepStmt _ ?_
    exact placeless_bind (Expr.expect_unplaced _ _ same)
      (congrArg Except.ok (by simp only [Stmt.unplaced, Action.unplaced, same]))
  | .simple extent a => agree_pure (by rw [Stmt.unplaced, Stmt.unplaced])
  | .branch extent c yes =>
    (c.agree_build file file').bind fun made made' condition =>
      (yes.agree_build file file').bind fun first first' same => Stmt.agree_branch condition same rfl
  | .branchElse extent c yes no =>
    (no.agree_build file file').bind fun other other' second =>
      (c.agree_build file file').bind fun made made' condition =>
        (yes.agree_build file file').bind fun first first' same =>
          Stmt.agree_branch condition same (congrArg some second)
  | .loop extent c body =>
    (c.agree_build file file').bind fun made made' condition =>
      (body.agree_build file file').bind fun inner inner' same => Stmt.agree_loop condition same
  | .each extent kindExtent kind name body =>
    (body.agree_build file file').bind fun inner inner' same => Stmt.agree_each kind name.text same

theorem StmtTree.agree_buildAll (file file' : Option String) : (body : List StmtTree) →
    Agree (List.map Stmt.unplaced) (StmtTree.buildAll file body) (StmtTree.buildAll file' (bareAll body))
  | [] => agree_pure rfl
  | s :: rest =>
    (s.agree_build file file').bind fun _ _ first =>
      (StmtTree.agree_buildAll file file' rest).bind fun _ _ same => agree_pure (congrArg₂ List.cons first same)

end

namespace ItemTree

theorem agree_declare (file file' : Option String) (item : ItemTree) :
    Agree id (item.declare file) (item.bare.declare file') := by
  cases item with
  | statement s => exact agree_pure rfl
  | declaration extent typeExtent t name initial? =>
    exact (Builder.agree_declare _ _ name.text t).bind fun _ _ _ => agree_pure rfl

theorem agree_build (file file' : Option String) (item : ItemTree) :
    Agree (Option.map Stmt.unplaced) (item.build file) (item.bare.build file') := by
  cases item with
  | statement s => exact (s.agree_build file file').bind fun _ _ same => agree_pure (congrArg some same)
  | declaration extent typeExtent t name initial? =>
    cases initial? with
    | none => exact agree_pure rfl
    | some e =>
      exact (e.agree_build file file').bind fun _ _ same =>
        (agree_keepStmt .assignment (Stmt.placeless_mkAssignment name.text same)).bind fun _ _ made =>
          agree_pure (congrArg some made)

theorem agree_declareAll (file file' : Option String) (items : List ItemTree) :
    Agree id (items.forM (declare file)) ((items.map bare).forM (declare file')) := by
  induction items with
  | nil => exact agree_pure rfl
  | cons item rest ih => exact (item.agree_declare file file').bind fun _ _ _ => ih

theorem agree_buildAll (file file' : Option String) (items : List ItemTree) :
    Agree (List.map (Option.map Stmt.unplaced)) (items.mapM (build file)) ((items.map bare).mapM (build file')) := by
  induction items with
  | nil => exact agree_pure rfl
  | cons item rest ih =>
    rw [List.map_cons, List.mapM_cons, List.mapM_cons]
    exact (item.agree_build file file').bind fun _ _ first => ih.bind fun _ _ others =>
      agree_pure (congrArg₂ List.cons first others)

end ItemTree

/-- A program is built in the same way wherever its items stand. -/
theorem ProgramTree.agree_build (file file' : Option String) (tree : ProgramTree) :
    Agree Stmt.unplaced (tree.build file) (tree.bare.build file') := by
  refine (ItemTree.agree_declareAll file file' tree.items).bind fun _ _ _ => ?_
  refine (ItemTree.agree_buildAll file file' tree.items).bind fun made made' same => agree_pure ?_
  have statements : (made'.filterMap id).map Stmt.unplaced = (made.filterMap id).map Stmt.unplaced := by
    have drop : ∀ l : List (Option Stmt), (l.filterMap id).map Stmt.unplaced =
        (l.map (Option.map Stmt.unplaced)).filterMap id := by
      intro l
      rw [List.map_filterMap, List.filterMap_map]
      rfl
    rw [drop, drop, same]
  rw [Stmt.unplaced, Stmt.unplaced, Stmt.unplacedAll_eq_map, Stmt.unplacedAll_eq_map, statements]

namespace Builder

/-- Builds that are the same but for places come to programs that are, or both to none. -/
theorem Like.program {b b' : Builder} (like : b.Like b') {root root' : Stmt} (same : root'.unplaced = root.unplaced)
    (budget : Except Fault Int) :
    (b'.program root' budget).toOption.map Program.unplaced =
      (b.program root budget).toOption.map Program.unplaced := by
  have failed : b'.failed = b.failed := by
    have size : b'.faults.size = b.faults.size := by simpa using congrArg List.length like.faults
    simp only [Builder.failed, Array.isEmpty, size]
  unfold Builder.program
  rw [failed, like.globals, like.handler?]
  split
  next => rfl
  next =>
    cases budget with
    | error f => rfl
    | ok limit =>
      have made (s : Stmt) : Program.make s b.globals b.handler? (.ok limit) =
          .ok { root := s, globals := b.globals, handler? := b.handler?, maxStatements := limit } := rfl
      simp [made, Except.mapError, Except.toOption, Program.unplaced, same]

theorem Like.refl (b : Builder) : b.Like b := ⟨rfl, rfl, rfl, rfl⟩

end Builder

namespace Program

theorem validate_unplaced (p : Program) : p.unplaced.validate = p.validate.map Fault.unplaced :=
  Stmt.validate_unplaced p.globals p.root

/-- What is built from the tree of a text is the program of the text if validation finds no faults. -/
theorem toOption_parse_of_read {source : String} {tree : ProgramTree} (read : ProgramTree.parse source = .ok tree)
    {file : Option String} {handler? : Option HandlerId} {out : Stmt × Builder}
    (built : (tree.build file).run { handler? } = out) (budget : Except Fault Int) :
    (parse source file handler? budget).toOption =
      (out.2.program out.1 budget).toOption.filter fun p => p.validate.isEmpty := by
  rw [parse_of_read read built]
  cases out.2.program out.1 budget with
  | error failure => rfl
  | ok p =>
    rw [show (Except.ok p : Except Failure Program) = pure p from rfl, pure_bind]
    cases found : p.validate with
    | nil => exact (Option.filter_some_pos (by simp [found])).symm
    | cons => exact (Option.filter_some_neg (by simp [found])).symm

/-- A tree is built to programs that are the same but for places, wherever its nodes stand. -/
theorem toOption_parse_of_bare {source other : String} {tree tree' : ProgramTree}
    (here : ProgramTree.parse source = .ok tree) (there : ProgramTree.parse other = .ok tree')
    (same : tree'.bare = tree.bare) (file file' : Option String) (handler? : Option HandlerId)
    (budget : Except Fault Int) :
    (parse other file' handler? budget).toOption.map unplaced =
      (parse source file handler? budget).toOption.map unplaced := by
  have validates : (fun p : Program => p.validate.isEmpty) = (fun p => p.validate.isEmpty) ∘ unplaced := by
    funext p
    simp [validate_unplaced]
  have of_bare {source : String} {tree : ProgramTree} (read : ProgramTree.parse source = .ok tree)
      (file : Option String) : (parse source file handler? budget).toOption.map unplaced =
        ((((tree.bare.build none).run { handler? }).2.program ((tree.bare.build none).run { handler? }).1
          budget).toOption.map unplaced).filter fun p => p.validate.isEmpty := by
    obtain ⟨root, after⟩ := tree.agree_build file none { handler? } { handler? } (.refl _)
    rw [toOption_parse_of_read read rfl, after.program root, Option.filter_map, ← validates]
  rw [of_bare there, of_bare here, same]

end Program

/-- Layout does not matter. Cutting a text gives the tokens that it consists of, whatever white space and comments stand
between them, and texts of the same tokens are the same program but for places, or none of them is a program. -/
theorem LaidOut.parse_eq {lexemes : List Lexeme} {source other : String} (genuine : ∀ l ∈ lexemes, l.Genuine)
    (here : LaidOut lexemes source.toList) (there : LaidOut lexemes other.toList) :
    (Scan.ofText source).Gives lexemes ∧ (Scan.ofText other).Gives lexemes ∧
      ∀ (file file' : Option String) (handler? : Option HandlerId) (budget : Except Fault Int),
        (Program.parse other file' handler? budget).toOption.map Program.unplaced =
          (Program.parse source file handler? budget).toOption.map Program.unplaced := by
  have cut := here.gives genuine
  have cutThere := there.gives genuine
  refine ⟨cut, cutThere, fun file file' handler? budget => ?_⟩
  have same := cutThere.1.trans cut.1.symm
  cases read : ProgramTree.parse source with
  | ok tree =>
    obtain ⟨tree', readThere, bare⟩ := ProgramTree.exists_parse_of_lexemes read same cutThere.2
    exact Program.toOption_parse_of_bare read readThere bare file file' handler? budget
  | error stop =>
    cases readThere : ProgramTree.parse other with
    | ok tree' =>
      obtain ⟨tree, readHere, -⟩ := ProgramTree.exists_parse_of_lexemes readThere same.symm cut.2
      rw [read] at readHere
      cases readHere
    | error stop' => rw [Program.parse, Program.parse, read, readThere]; rfl

namespace Spacing

def lexemes : List Lexeme :=
  [.keyword (.type .number), .name "printed", .symbol .assign, .number "1e+3", .symbol .semicolon]

def line : String := "double printed := 1e+3 ;"

/-- The same on several lines, with comments that look like tokens. -/
def lines : String := "// if\ndouble\n\tprinted // := 2 ;\n := 1e+3\r\n;\n// end\n"

theorem genuine : ∀ l ∈ lexemes, l.Genuine := by
  intro l member
  simp only [lexemes, List.mem_cons, List.not_mem_nil, or_false] at member
  obtain rfl | rfl | rfl | rfl | rfl := member
  · exact ⟨.keyword _, nofun⟩
  · refine ⟨.name (by decide), fun text same k reserved => ?_⟩
    have known := Keyword.ofWord?_word k
    cases same
    rw [reserved] at known
    have free : Keyword.ofWord? "printed" = none := by decide
    rw [free] at known
    cases known
  · exact ⟨.symbol _, nofun⟩
  · have one : Grammar.Digits ['1'] := ⟨nofun, by simp⟩
    have three : Grammar.Digits ['3'] := ⟨nofun, by simp⟩
    have text : Grammar.Terminal.Text .number (['1'] ++ ['e', '+', '3']) :=
      .number (.whole one) (.signed (.inl rfl) (.inl rfl) three)
    exact ⟨text, nofun⟩
  · exact ⟨.symbol _, nofun⟩

theorem space : Scan.Separator [' '] := .space rfl .nil

theorem laidOut_line : LaidOut lexemes line.toList :=
  .lexeme .nil (.lexeme space (.lexeme space (.lexeme space (.lexeme space .nil))))

theorem laidOut_lines : LaidOut lexemes lines.toList := by
  have first : Scan.Gap "// if\n".toList := @Scan.Gap.comment " if".toList _ (by decide) .nil
  have second : Scan.Separator "\n\t".toList := .space rfl (.space rfl .nil)
  have third : Scan.Separator " // := 2 ;\n ".toList :=
    .space rfl (@Scan.Gap.comment " := 2 ;".toList _ (by decide) (.space rfl .nil))
  have fourth : Scan.Separator "\r\n".toList := .space rfl (.space rfl .nil)
  have last : Scan.Separator "\n// end\n".toList :=
    .space rfl (@Scan.Gap.comment " end".toList _ (by decide) .nil)
  exact .lexeme first (.lexeme second (.lexeme third (.lexeme space (.lexeme fourth (.separator last)))))

end Spacing

/-- A declaration is cut into its tokens in one line and on several lines with comments, and parsing gives the same. -/
theorem spacing_parse_eq :
    ((∀ l ∈ Spacing.lexemes, l.Genuine) ∧ LaidOut Spacing.lexemes Spacing.line.toList ∧
      LaidOut Spacing.lexemes Spacing.lines.toList) ∧
    (Scan.ofText Spacing.line).Gives Spacing.lexemes ∧ (Scan.ofText Spacing.lines).Gives Spacing.lexemes ∧
      ∀ (file file' : Option String) (handler? : Option HandlerId) (budget : Except Fault Int),
        (Program.parse Spacing.lines file' handler? budget).toOption.map Program.unplaced =
          (Program.parse Spacing.line file handler? budget).toOption.map Program.unplaced :=
  ⟨⟨Spacing.genuine, Spacing.laidOut_line, Spacing.laidOut_lines⟩,
    LaidOut.parse_eq Spacing.genuine Spacing.laidOut_line Spacing.laidOut_lines⟩

end WormLang
