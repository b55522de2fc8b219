import WormLang.Proofs.Build.Deeds

/-!
What the program text of a statement says of its leaves. A statement that calls of a builder make without a fault has a
program text, and the texts of the leaves inside it stand in that text one behind the other, in the order of the walk. A
leaf that is an else branch by itself is not written: the text is that of the statement with an empty else branch.
-/
namespace WormLang

/-- Pieces stand in a text, each of them behind the one before it. -/
inductive Pieces : List String → String → Prop
  | nil (whole : String) : Pieces [] whole
  | cons (gap piece : String) {more : List String} {rest : String} (behind : Pieces more rest) :
    Pieces (piece :: more) (gap ++ (piece ++ rest))

namespace Pieces

variable {pieces more : List String} {whole rest : String}

theorem prepend (gap : String) (stand : Pieces pieces whole) : Pieces pieces (gap ++ whole) := by
  cases stand with
  | nil => exact .nil _
  | cons first piece behind =>
    rw [← String.append_assoc]
    exact .cons _ piece behind

theorem append (first : Pieces pieces whole) (second : Pieces more rest) : Pieces (pieces ++ more) (whole ++ rest) := by
  induction first with
  | nil whole => exact second.prepend whole
  | cons gap piece behind ih =>
    rw [String.append_assoc, String.append_assoc]
    exact .cons gap piece ih

theorem singleton (piece : String) : Pieces [piece] piece := by
  have alone := Pieces.cons "" piece (.nil "")
  rwa [String.empty_append, String.append_empty] at alone

/-- A piece stands in the text. -/
theorem isInfix {piece : String} (stand : Pieces pieces whole) (member : piece ∈ pieces) :
    piece.toList <:+: whole.toList := by
  induction stand with
  | nil => cases member
  | cons gap first behind ih =>
    rw [String.toList_append, String.toList_append]
    obtain rfl | deeper := List.mem_cons.mp member
    · exact ⟨gap.toList, _, List.append_assoc ..⟩
    · exact (ih deeper).trans ((List.suffix_append _ _).trans (List.suffix_append _ _)).isInfix

end Pieces

namespace Stmt

/-- The leaves of a statement in the order of the walk. -/
def leaves (s : Stmt) : List Stmt := s.walk.filter isLeaf

mutual

/-- A statement with an empty block for every else branch that is a leaf by itself. -/
def trim : Stmt → Stmt
  | sequence at? body => sequence at? (trimAll body)
  | branch id at? c yes no => branch id at? c yes.trim (if no.isLeaf then sequence at? [] else no.trim)
  | loop id at? c body => loop id at? c body.trim
  | each id at? kind name body => each id at? kind name body.trim
  | s => s

def trimAll : List Stmt → List Stmt
  | [] => []
  | s :: rest => s.trim :: trimAll rest

end

/-- No else branch in a statement is a leaf by itself. -/
def Trimmed (s : Stmt) : Prop := ∀ id at? c yes no, branch id at? c yes no ∈ s.walk → no.isLeaf = false

theorem trimAll_eq_map (body : List Stmt) : trimAll body = body.map trim := by
  induction body with
  | nil => rfl
  | cons s rest ih => rw [trimAll, ih, List.map_cons]

theorem Trimmed.child {s t : Stmt} (trimmed : s.Trimmed) (child : t ∈ s.children) : t.Trimmed :=
  fun id at? c yes no inside => trimmed id at? c yes no (mem_walk_of_child child inside)

theorem trim_of_isLeaf {s : Stmt} (isLeaf : s.isLeaf = true) : s.trim = s := by
  cases s <;> first | rfl | cases isLeaf

theorem trim_of_trimmed {s : Stmt} (trimmed : s.Trimmed) : s.trim = s := by
  induction s using tree_induction with
  | sequence at? body ih =>
    rw [trim, trimAll_eq_map, List.map_congr_left fun t member => ih t member (trimmed.child member), List.map_id']
  | branch id at? c yes no ihYes ihNo =>
    have other : no.isLeaf = false := trimmed id at? c yes no (mem_walk_self _)
    rw [trim, other, ihYes (trimmed.child (by simp [children])), ihNo (trimmed.child (by simp [children]))]
    rfl
  | loop id at? c body ih => rw [trim, ih (trimmed.child (by simp [children]))]
  | each id at? kind name body ih => rw [trim, ih (trimmed.child (by simp [children]))]
  | leaf s isLeaf => exact trim_of_isLeaf isLeaf
  | placeholder fault => rfl

theorem isLeaf_trim (s : Stmt) : s.trim.isLeaf = s.isLeaf := by
  cases s <;> rfl

theorem isEmpty_children_trim (s : Stmt) : s.trim.children.isEmpty = s.children.isEmpty := by
  cases s with
  | sequence at? body => cases body <;> rfl
  | _ => rfl

/-- A leaf that is an else branch by itself is not written. -/
theorem unparse_trim (s : Stmt) : s.trim.unparse = s.unparse := by
  induction s using tree_induction with
  | sequence at? body ih =>
    have same : unparseAll (trimAll body) = unparseAll body := by
      induction body with
      | nil => rfl
      | cons s rest ihRest =>
        obtain ⟨first, others⟩ := List.forall_mem_cons.mp ih
        rw [trimAll, unparseAll, unparseAll, first, ihRest others]
    rw [trim, unparse, unparse, same]
  | branch id at? c yes no ihYes ihNo =>
    rw [trim, unparse, unparse, ihYes]
    cases isLeaf : no.isLeaf with
    | true => rw [children_of_isLeaf isLeaf]; rfl
    | false => rw [if_neg Bool.false_ne_true, isEmpty_children_trim, ihNo]
  | loop id at? c body ih => rw [trim, unparse, unparse, ih]
  | each id at? kind name body ih => rw [trim, unparse, unparse, ih]
  | leaf s isLeaf => rw [trim_of_isLeaf isLeaf]
  | placeholder fault => rfl

theorem leaves_eq (s : Stmt) : s.leaves = (if s.isLeaf then [s] else []) ++ s.children.flatMap leaves := by
  rw [leaves, walk_eq, List.filter_cons, List.filter_flatMap]
  split <;> rfl

theorem leaves_trim_sequence (at? : Option Position) (body : List Stmt) :
    (sequence at? body).trim.leaves = body.flatMap fun s => s.trim.leaves := by
  rw [trim, trimAll_eq_map, leaves_eq, children, List.flatMap_map]
  rfl

theorem leaves_trim_branch (id : NodeId) (at? : Option Position) (c : Expr) (yes no : Stmt) :
    (branch id at? c yes no).trim.leaves = yes.trim.leaves ++ (if no.isLeaf then [] else no.trim.leaves) := by
  rw [trim, leaves_eq, children]
  cases no.isLeaf <;> simp [isLeaf, leaves_eq (sequence at? []), children]

theorem leaves_trim_loop (id : NodeId) (at? : Option Position) (c : Expr) (body : Stmt) :
    (loop id at? c body).trim.leaves = body.trim.leaves := by
  simp [trim, leaves_eq, children, isLeaf]

theorem leaves_trim_each (id : NodeId) (at? : Option Position) (kind : LoopKind) (name : String) (body : Stmt) :
    (each id at? kind name body).trim.leaves = body.trim.leaves := by
  simp [trim, leaves_eq, children, isLeaf]

theorem leaves_trim_of_isLeaf {s : Stmt} (isLeaf : s.isLeaf = true) : s.trim.leaves = [s] := by
  rw [trim_of_isLeaf isLeaf, leaves_eq, isLeaf, children_of_isLeaf isLeaf]
  rfl

/-- An else branch that is not written shows no leaf: it has nothing in it, or it is a leaf by itself. -/
theorem leaves_of_unwritten {no : Stmt} (empty : no.children.isEmpty = true) :
    (if no.isLeaf then [] else no.trim.leaves) = [] := by
  split
  · rfl
  · next inner =>
    have childless : no.trim.children = [] := List.isEmpty_iff.mp (isEmpty_children_trim no ▸ empty)
    rw [leaves_eq, childless, isLeaf_trim, if_neg inner]
    rfl

/-- The texts of some leaves stand in a text in order. -/
def Shows (leaves : List Stmt) (text : String) : Prop := ∃ texts, unparseAll leaves = .ok texts ∧ Pieces texts text

theorem unparseAll_append {first second : List Stmt} {texts more : List String} (here : unparseAll first = .ok texts)
    (there : unparseAll second = .ok more) : unparseAll (first ++ second) = .ok (texts ++ more) := by
  induction first generalizing texts with
  | nil => cases here; exact there
  | cons s rest ih =>
    obtain ⟨text, own, here⟩ := bind_eq_ok.mp here
    obtain ⟨others, within, same⟩ := bind_eq_ok.mp here
    cases same
    rw [List.cons_append, unparseAll, own, ih within]
    rfl

namespace Shows

variable {first second : List Stmt} {text rest : String}

theorem nil (text : String) : Shows [] text := ⟨[], rfl, .nil text⟩

theorem append (shows : Shows first text) (more : Shows second rest) : Shows (first ++ second) (text ++ rest) := by
  obtain ⟨texts, written, stand⟩ := shows
  obtain ⟨others, writtenMore, behind⟩ := more
  exact ⟨_, unparseAll_append written writtenMore, stand.append behind⟩

theorem prepend (gap : String) (shows : Shows first text) : Shows first (gap ++ text) := (Shows.nil gap).append shows

theorem extend (shows : Shows first text) (rest : String) : Shows first (text ++ rest) := by
  have both := shows.append (.nil rest)
  rwa [List.append_nil] at both

theorem intercalate {body : List Stmt} {texts : List String} (written : unparseAll body = .ok texts)
    (each : ∀ s ∈ body, ∀ text, s.unparse = .ok text → Shows s.trim.leaves text) (separator : String) :
    Shows (body.flatMap fun s => s.trim.leaves) (separator.intercalate texts) := by
  induction body generalizing texts with
  | nil => exact .nil _
  | cons s rest ih =>
    obtain ⟨text, own, others⟩ := bind_eq_ok.mp written
    obtain ⟨more, behind, same⟩ := bind_eq_ok.mp others
    cases same
    obtain ⟨here, there⟩ := List.forall_mem_cons.mp each
    have first := here text own
    have second := ih behind there
    rw [List.flatMap_cons]
    cases more with
    | nil =>
      rw [String.intercalate_singleton]
      simpa using first.append second
    | cons next more =>
      rw [String.intercalate_cons_cons]
      exact (first.extend separator).append second

end Shows

/-- The texts of the leaves stand in the text of a statement, but for else branches that are leaves by themselves. -/
theorem shows_of_unparse {s : Stmt} {text : String} (written : s.unparse = .ok text) : Shows s.trim.leaves text := by
  induction s using tree_induction generalizing text with
  | sequence at? body ih =>
    obtain ⟨texts, inside, same⟩ := bind_eq_ok.mp written
    cases same
    have shown := Shows.intercalate inside (fun s member text own => ih s member own) " "
    rw [leaves_trim_sequence, braces]
    split
    next empty =>
      rw [String.isEmpty_iff.mp empty] at shown
      exact shown.extend "\x7b \x7d"
    next => exact (shown.prepend "\x7b ").extend " \x7d"
  | branch id at? c yes no ihYes ihNo =>
    obtain ⟨condition, -, written⟩ := bind_eq_ok.mp written
    obtain ⟨first, here, written⟩ := bind_eq_ok.mp written
    have shown := (ihYes here).prepend ("if " ++ condition ++ " then ")
    rw [leaves_trim_branch]
    split at written
    next unwritten =>
      cases written
      rw [leaves_of_unwritten unwritten, List.append_nil]
      exact shown
    next several =>
      obtain ⟨second, there, same⟩ := bind_eq_ok.mp written
      cases same
      have inner : no.isLeaf = false := by
        refine Bool.eq_false_iff.mpr fun isLeaf => several ?_
        rw [children_of_isLeaf isLeaf]
        rfl
      rw [inner]
      exact (shown.extend " else ").append (ihNo there)
  | loop id at? c body ih =>
    obtain ⟨condition, -, written⟩ := bind_eq_ok.mp written
    obtain ⟨inside, here, same⟩ := bind_eq_ok.mp written
    cases same
    rw [leaves_trim_loop]
    exact (ih here).prepend ("while " ++ condition ++ " ")
  | each id at? kind name body ih =>
    obtain ⟨inside, here, same⟩ := bind_eq_ok.mp written
    cases same
    rw [leaves_trim_each]
    exact (ih here).prepend ("foreach (" ++ kind.word ++ ", " ++ name ++ ") do ")
  | leaf s isLeaf =>
    exact ⟨[text], by rw [leaves_trim_of_isLeaf isLeaf, unparseAll, written]; rfl, .singleton text⟩
  | placeholder fault => cases written

end Stmt

/-- A call that makes an expression. -/
inductive ExprCall where
  | number (x : Float)
  | boolean (b : Bool)
  | null
  | self
  | access (name : String) (given? : Option Ty)
  | unary (op : UnaryOp) (operand : Expr)
  | math (f : MathFunction) (operand : Expr)
  | binary (op : BinaryOp) (left right : Expr)

/-- A call that makes a statement. -/
inductive StmtCall where
  | assignment (name : String) (e : Expr)
  | print (e : Expr)
  | action (a : Action)
  | sequence (body : List Stmt)
  | branch (condition : Expr) (yes : Stmt) (no? : Option Stmt)
  | loop (condition : Expr) (body : Stmt)
  | each (kind : LoopKind) (name : String) (body : Stmt)

namespace ExprCall

def operands : ExprCall → List Expr
  | unary _ e | math _ e => [e]
  | binary _ l r => [l, r]
  | _ => []

def run (at? : Option Position) : ExprCall → Build Expr
  | number x => return .number at? x
  | boolean b => return .boolean at? b
  | null => return .null at?
  | self => return .self at?
  | access name none => Builder.access at? name
  | access name (some t) => Builder.keepExpr .access (Expr.mkAccess at? name t)
  | unary op e => op.build at? e
  | math f e => Builder.keepExpr .math (Expr.mkMath at? f e)
  | binary op l r => Builder.keepExpr op.form (op.make at? l r)

end ExprCall

namespace StmtCall

def expressions : StmtCall → List Expr
  | assignment _ e | print e | branch e _ _ | loop e _ | action (.turn e) | action (.fire e) => [e]
  | _ => []

def statements : StmtCall → List Stmt
  | sequence body => body
  | branch _ yes no? => yes :: no?.toList
  | loop _ body | each _ _ body => [body]
  | _ => []

def run (at? : Option Position) : StmtCall → Build Stmt
  | assignment name e => Builder.keepStmt .assignment (Stmt.mkAssignment at? name e)
  | print e => return .print at? e
  | action (.turn e) => Builder.keepStmt .turn (Stmt.mkAction at? (.turn e))
  | action (.fire e) => Builder.keepStmt .fire (Stmt.mkAction at? (.fire e))
  | action a => return .action at? a
  | sequence body => return .sequence at? body
  | branch c yes no? => Builder.branch at? c yes no?
  | loop c body => Builder.loop at? c body
  | each kind name body => Builder.each at? kind name body

end StmtCall

/-- The expressions and the statements that calls of a builder have made, each of what was made before. -/
inductive Builder.Made : Builder → List Expr → List Stmt → Prop
  | start (handler? : Option HandlerId) : Made { handler? } [] []
  | declare {b : Builder} {es : List Expr} {ss : List Stmt} (made : Made b es ss) (at? : Option Position)
      (name : String)
    (t : Ty) : Made ((declare at? name t).run b).2 es ss
  | expression {b : Builder} {es : List Expr} {ss : List Stmt} (made : Made b es ss) (at? : Option Position)
    (call : ExprCall) (known : ∀ e ∈ call.operands, e ∈ es) :
    Made ((call.run at?).run b).2 (((call.run at?).run b).1 :: es) ss
  | statement {b : Builder} {es : List Expr} {ss : List Stmt} (made : Made b es ss) (at? : Option Position)
    (call : StmtCall) (knownExprs : ∀ e ∈ call.expressions, e ∈ es) (known : ∀ s ∈ call.statements, s ∈ ss) :
    Made ((call.run at?).run b).2 es (((call.run at?).run b).1 :: ss)

def Expr.Written (e : Expr) : Prop := ∃ text, e.unparse = .ok text

def Stmt.Written (s : Stmt) : Prop := ∃ text, s.unparse = .ok text

namespace Builder

variable {b : Builder}

/-- An expression that was kept without a fault is the one that was made. -/
theorem made_of_keepExpr {form : Form} {e? : Except Fault Expr} (clean : ((keepExpr form e?).run b).2.failed = false) :
    b.failed = false ∧ e? = .ok ((keepExpr form e?).run b).1 := by
  cases e? with
  | ok e => exact ⟨clean, rfl⟩
  | error f =>
    rw [show ((keepExpr form (.error f)).run b).2 = ((reject form f).run b).2 from rfl, failed_reject] at clean
    cases clean

/-- A call collected no fault, and what it made has a property. -/
structure Delivers {α : Type} (property : α → Prop) (b : Builder) (out : α × Builder) : Prop where
  clean : b.failed = false
  holds : property out.1

variable {form : Form}

theorem delivers_keepExpr {property : Expr → Prop} {e? : Except Fault Expr}
    (clean : ((keepExpr form e?).run b).2.failed = false) (holds : ∀ e, e? = .ok e → property e) :
    b.Delivers property ((keepExpr form e?).run b) := by
  obtain ⟨before, made⟩ := made_of_keepExpr clean
  exact ⟨before, holds _ made⟩

theorem delivers_keepStmt {property : Stmt → Prop} {s? : Except Fault Stmt}
    (clean : ((keepStmt form s?).run b).2.failed = false) (holds : ∀ s, s? = .ok s → property s) :
    b.Delivers property ((keepStmt form s?).run b) := by
  obtain ⟨before, made⟩ := made_of_keepStmt clean
  exact ⟨before, holds _ made⟩

end Builder

namespace Expr

/-- An expression over operands with program texts has one itself, unless it is a placeholder. -/
theorem written_of_operands {e : Expr} (whole : e.isPlaceholder = false)
    (inner : ∀ operand ∈ e.operands, operand.Written) :
    e.Written := by
  have both : ∀ (symbol : String) {l r : Expr}, (∀ operand ∈ [l, r], operand.Written) →
      ∃ text, (do return binaryText (← l.unparse) symbol (← r.unparse) : Except Fault String) = .ok text := by
    intro symbol l r inner
    obtain ⟨first, left⟩ := inner l List.mem_cons_self
    obtain ⟨second, right⟩ := inner r (List.mem_cons_of_mem _ List.mem_cons_self)
    exact ⟨binaryText first symbol second, by rw [left, right]; rfl⟩
  have front : ∀ (word : String) {operand : Expr}, (∀ e ∈ [operand], e.Written) →
      ∃ text, (do return word ++ (← operand.unparse) : Except Fault String) = .ok text := by
    intro word operand inner
    obtain ⟨text, written⟩ := inner operand (List.mem_singleton_self operand)
    exact ⟨word ++ text, by rw [written]; rfl⟩
  cases e with
  | number | boolean | null | self | access => exact ⟨_, rfl⟩
  | arithmetic at? op l r => exact both op.symbol inner
  | order at? op l r => exact both op.symbol inner
  | equality at? op l r => exact both op.symbol inner
  | logical at? op l r => exact both op.symbol inner
  | math at? f e =>
    obtain ⟨text, written⟩ := inner e (List.mem_singleton_self e)
    exact ⟨f.word ++ "(" ++ text ++ ")", by rw [unparse, written]; rfl⟩
  | negation at? e => exact front "!" inner
  | query at? q e => exact front (q.word ++ " ") inner
  | sameTeam at? e => exact front "sameteam " inner
  | isKind at? k e => exact front (k.word ++ " ") inner
  | search at? e => exact front "searchobj " inner
  | placeholder fault => cases whole

end Expr

namespace Stmt

theorem exists_unparseAll {body : List Stmt} (inner : ∀ s ∈ body, s.Written) :
    ∃ texts, unparseAll body = .ok texts := by
  induction body with
  | nil => exact ⟨[], rfl⟩
  | cons s rest ih =>
    obtain ⟨⟨text, here⟩, others⟩ := List.forall_mem_cons.mp inner
    obtain ⟨texts, there⟩ := ih others
    exact ⟨text :: texts, by rw [unparseAll, here, there]; rfl⟩

/-- A statement of parts with program texts has one itself, unless it is a placeholder. -/
theorem written_of_parts {s : Stmt} (whole : s.isPlaceholder = false) (exprs : ∀ e ∈ s.expressions, e.Written)
    (inner : ∀ t ∈ s.children, t.Written) : s.Written := by
  cases s with
  | sequence at? body =>
    obtain ⟨texts, written⟩ : ∃ texts, unparseAll body = .ok texts := exists_unparseAll inner
    exact ⟨braces (" ".intercalate texts), by rw [unparse, written]; rfl⟩
  | assignment at? name e =>
    obtain ⟨text, written⟩ := exprs e (List.mem_singleton_self e)
    exact ⟨name ++ " := " ++ text ++ ";", by rw [unparse, written]; rfl⟩
  | print at? e =>
    obtain ⟨text, written⟩ := exprs e (List.mem_singleton_self e)
    exact ⟨"print " ++ text ++ ";", by rw [unparse, written]; rfl⟩
  | action at? a =>
    cases a with
    | turn e | fire e =>
      obtain ⟨text, written⟩ := exprs e (List.mem_singleton_self e)
      rw [Written, unparse, Action.unparse, written]
      exact ⟨_, rfl⟩
    | move | jump | toggleWeapon | skip => exact ⟨_, rfl⟩
  | branch id at? c yes no =>
    obtain ⟨condition, written⟩ := exprs c (List.mem_singleton_self c)
    obtain ⟨first, here⟩ := inner yes List.mem_cons_self
    obtain ⟨second, there⟩ := inner no (List.mem_cons_of_mem _ List.mem_cons_self)
    rw [Written, unparse, written, here, there]
    cases no.children.isEmpty <;> exact ⟨_, rfl⟩
  | loop id at? c body =>
    obtain ⟨condition, written⟩ := exprs c (List.mem_singleton_self c)
    obtain ⟨text, here⟩ := inner body (List.mem_singleton_self body)
    exact ⟨"while " ++ condition ++ " " ++ text, by rw [unparse, written, here]; rfl⟩
  | each id at? kind name body =>
    obtain ⟨text, here⟩ := inner body (List.mem_singleton_self body)
    exact ⟨"foreach (" ++ kind.word ++ ", " ++ name ++ ") do " ++ text, by rw [unparse, here]; rfl⟩
  | placeholder fault => cases whole

end Stmt

namespace ExprCall

variable {b : Builder} {at? : Option Position} {form : Form}

/-- What a call makes has a program text if what it is given has. -/
def Passes (call : ExprCall) (made : Expr) : Prop := (∀ e ∈ call.operands, e.Written) → made.Written

theorem Passes.of_operands {call : ExprCall} {made : Expr} (whole : made.isPlaceholder = false)
    (same : ∀ e ∈ made.operands, e ∈ call.operands ∨ e.Written) : call.Passes made := fun written =>
  Expr.written_of_operands whole fun e directly => (same e directly).elim (written e) id

/-- An operator that was kept has the operands that it was given. -/
theorem operands_of_make {op : BinaryOp} {l r e : Expr} (made : op.make at? l r = .ok e) :
    e.isPlaceholder = false ∧ e.operands = [l, r] := by
  cases op with
  | arithmetic | order | logical =>
    obtain ⟨-, -, made⟩ := bind_eq_ok.mp made
    obtain ⟨-, -, same⟩ := bind_eq_ok.mp made
    cases same
    exact ⟨rfl, rfl⟩
  | equality op =>
    simp only [BinaryOp.make, Expr.mkEquality] at made
    split at made
    next =>
      split at made
      next => cases made; exact ⟨rfl, rfl⟩
      next => cases made
    next => cases made; exact ⟨rfl, rfl⟩

theorem delivers_operator {call : ExprCall} {place : Place} {needed : Ty} {operand made : Expr}
    (given : call.operands = [operand]) (whole : made.isPlaceholder = false) (same : made.operands = [operand])
    (clean : ((Builder.keepExpr form (do Expr.expect at? place needed operand; return made)).run b).2.failed = false) :
    b.Delivers call.Passes ((Builder.keepExpr form (do Expr.expect at? place needed operand; return made)).run b) := by
  refine Builder.delivers_keepExpr clean fun e passed => ?_
  obtain ⟨-, -, done⟩ := bind_eq_ok.mp passed
  cases done
  exact .of_operands whole fun e directly => .inl (by rwa [given, ← same])

theorem delivers_access {call : ExprCall} {name : String} {t : Ty}
    (clean : ((Builder.keepExpr .access (Expr.mkAccess at? name t)).run b).2.failed = false) :
    b.Delivers call.Passes ((Builder.keepExpr .access (Expr.mkAccess at? name t)).run b) := by
  refine Builder.delivers_keepExpr clean fun e passed => ?_
  unfold Expr.mkAccess at passed
  split at passed
  next => cases passed
  next => cases passed; exact .of_operands rfl nofun

/-- A call without a fault makes an expression that has a program text if what it is given has. -/
theorem delivers_run (call : ExprCall) (clean : ((call.run at?).run b).2.failed = false) :
    b.Delivers call.Passes ((call.run at?).run b) := by
  cases call with
  | number | boolean | null | self => exact ⟨clean, .of_operands rfl nofun⟩
  | access name given? =>
    cases given? with
    | some t => exact delivers_access clean
    | none =>
      rw [run, Builder.run_access] at clean ⊢
      split at clean
      next => exact delivers_access clean
      next => rw [Builder.failed_collect] at clean; cases clean
  | unary op e =>
    cases op with
    | negative =>
      refine Builder.delivers_keepExpr clean fun made passed => ?_
      obtain ⟨whole, same⟩ := operands_of_make (show (BinaryOp.arithmetic .sub).make at? _ e = .ok _ from passed)
      refine .of_operands whole fun operand directly => ?_
      rw [same] at directly
      obtain rfl | inner := List.mem_cons.mp directly
      · exact .inr ⟨_, rfl⟩
      · exact .inl inner
    | bang => exact delivers_operator rfl rfl rfl clean
    | query q => exact delivers_operator rfl rfl rfl clean
    | sameTeam => exact delivers_operator rfl rfl rfl clean
    | test k => exact delivers_operator rfl rfl rfl clean
    | search => exact delivers_operator rfl rfl rfl clean
  | math f e => exact delivers_operator rfl rfl rfl clean
  | binary op l r =>
    refine Builder.delivers_keepExpr clean fun made passed => ?_
    obtain ⟨whole, same⟩ := operands_of_make passed
    exact .of_operands whole fun e directly => .inl (show e ∈ [l, r] from same ▸ directly)

end ExprCall

namespace StmtCall

variable {b : Builder} {at? : Option Position}

/-- What a call makes has a program text if what it is given has. -/
def Passes (call : StmtCall) (made : Stmt) : Prop :=
  (∀ e ∈ call.expressions, e.Written) → (∀ s ∈ call.statements, s.Written) → made.Written

/-- A call without a fault makes a statement that has a program text if what it is given has. -/
theorem delivers_run (call : StmtCall) (clean : ((call.run at?).run b).2.failed = false) :
    b.Delivers call.Passes ((call.run at?).run b) := by
  cases call with
  | assignment name e =>
    refine Builder.delivers_keepStmt clean fun s passed exprs _ => ?_
    rw [Stmt.eq_of_mkAssignment passed]
    exact Stmt.written_of_parts rfl exprs nofun
  | print e => exact ⟨clean, fun exprs _ => Stmt.written_of_parts (s := .print at? e) rfl exprs nofun⟩
  | action a =>
    cases a with
    | turn e | fire e =>
      refine Builder.delivers_keepStmt clean fun s passed exprs _ => ?_
      rw [Stmt.eq_of_mkAction passed]
      exact Stmt.written_of_parts rfl exprs nofun
    | move | jump | toggleWeapon | skip => exact ⟨clean, fun _ _ => ⟨_, rfl⟩⟩
  | sequence body => exact ⟨clean, fun _ => Stmt.written_of_parts (s := .sequence at? body) rfl nofun⟩
  | branch c yes no? =>
    have kept : Builder.Delivers (StmtCall.branch c yes no?).Passes _ _ :=
      Builder.delivers_keepStmt clean fun s passed exprs inner => by
        obtain ⟨-, rfl⟩ := Stmt.eq_of_mkBranch passed
        obtain ⟨here, there⟩ := List.forall_mem_cons.mp inner
        have other : (no?.getD (.sequence at? [])).Written := by
          cases no? with
          | none => exact ⟨_, rfl⟩
          | some no => exact there no (List.mem_singleton_self no)
        exact Stmt.written_of_parts rfl exprs (List.forall_mem_cons.mpr ⟨here, List.forall_mem_singleton.mpr other⟩)
    exact ⟨kept.clean, kept.holds⟩
  | loop c body =>
    have kept : Builder.Delivers (StmtCall.loop c body).Passes _ _ :=
      Builder.delivers_keepStmt clean fun s passed exprs inner => by
        obtain ⟨-, rfl⟩ := Stmt.eq_of_mkLoop passed
        exact Stmt.written_of_parts rfl exprs inner
    exact ⟨kept.clean, kept.holds⟩
  | each kind name body =>
    have kept : Builder.Delivers (StmtCall.each kind name body).Passes _ _ :=
      Builder.delivers_keepStmt clean fun s passed _ inner => by
        obtain ⟨-, rfl⟩ := Stmt.eq_of_mkEach passed
        exact Stmt.written_of_parts rfl nofun inner
    exact ⟨kept.clean, kept.holds⟩

end StmtCall

namespace Builder

variable {b : Builder} {es : List Expr} {ss : List Stmt}

/-- What calls make has a program text, unless one of them collected a fault. -/
theorem Made.written (made : b.Made es ss) (clean : b.failed = false) :
    (∀ e ∈ es, e.Written) ∧ ∀ s ∈ ss, s.Written := by
  induction made with
  | start => exact ⟨nofun, nofun⟩
  | declare made at? name t ih =>
    refine ih ?_
    rw [run_declare] at clean
    split at clean
    next => exact clean
    next => rw [failed_collect] at clean; cases clean
  | expression made at? call known ih =>
    have delivers := call.delivers_run clean
    obtain ⟨exprs, stmts⟩ := ih delivers.clean
    exact ⟨List.forall_mem_cons.mpr ⟨delivers.holds fun e given => exprs e (known e given), exprs⟩, stmts⟩
  | statement made at? call knownExprs known ih =>
    have delivers := call.delivers_run clean
    obtain ⟨exprs, stmts⟩ := ih delivers.clean
    have own := delivers.holds (fun e given => exprs e (knownExprs e given)) fun s given => stmts s (known s given)
    exact ⟨exprs, List.forall_mem_cons.mpr ⟨own, stmts⟩⟩

/-- A statement that calls make without a fault has the program text of the statement with empty blocks for the leaves
that are else branches by themselves, and the texts of all other leaves stand in it in the order of the walk. -/
theorem Made.unparse_shows (made : b.Made es ss) (clean : b.failed = false) {s : Stmt} (member : s ∈ ss) :
    ∃ text, s.unparse = .ok text ∧ s.trim.unparse = .ok text ∧ Stmt.Shows s.trim.leaves text ∧
      (s.Trimmed → Stmt.Shows s.leaves text) := by
  obtain ⟨text, written⟩ := (made.written clean).2 s member
  have shows := Stmt.shows_of_unparse written
  exact ⟨text, written, s.unparse_trim.trans written, shows, fun trimmed => Stmt.trim_of_trimmed trimmed ▸ shows⟩

end Builder

namespace Fork

def condition : Expr := .boolean none true

def skip : Stmt := .action none .skip

def jump : Stmt := .action none .jump

def block : Stmt := .sequence none [jump]

/-- A conditional statement with a leaf as a branch by itself, and another one in a block. -/
def fork : Stmt := .branch ⟨0⟩ none condition skip block

def mirrored : Stmt := .branch ⟨1⟩ none condition block skip

theorem made : Builder.Made { nextId := 2 } [condition] [mirrored, fork, block, jump, skip] := by
  have start : Builder.Made {} [condition] [] := .expression (.start none) none (.boolean true) nofun
  have leaves : Builder.Made {} [condition] [jump, skip] :=
    .statement (.statement start none (.action .skip) nofun nofun) none (.action .jump) nofun nofun
  have block : Builder.Made {} [condition] [block, jump, skip] :=
    .statement leaves none (.sequence [jump]) nofun (by simp [StmtCall.statements])
  have fork : Builder.Made { nextId := 1 } [condition] [fork, Fork.block, jump, skip] :=
    .statement block none (.branch condition skip (some Fork.block)) (by simp [StmtCall.expressions])
      (by simp [StmtCall.statements])
  exact .statement fork none (.branch condition Fork.block (some skip)) (by simp [StmtCall.expressions])
    (by simp [StmtCall.statements])

theorem trimmed : fork.Trimmed := by
  intro id at? c yes no inside
  simp only [fork, jump, block, skip, Stmt.walk, Stmt.walkAll, List.mem_append, List.mem_cons, List.not_mem_nil,
    reduceCtorEq, or_false, or_self] at inside
  cases inside
  rfl

end Fork

/-- Both leaves of the conditional statement stand in its text. -/
theorem fork_unparse_shows :
    Builder.Made { nextId := 2 } [Fork.condition] [Fork.mirrored, Fork.fork, Fork.block, Fork.jump, Fork.skip] ∧
      Builder.failed { nextId := 2 } = false ∧ Fork.fork.Trimmed ∧
      ∃ text, Fork.fork.unparse = .ok text ∧ Stmt.Shows [Fork.skip, Fork.jump] text := by
  obtain ⟨text, written, -, -, shows⟩ := Fork.made.unparse_shows rfl (s := Fork.fork) (by simp)
  exact ⟨Fork.made, rfl, Fork.trimmed, text, written, shows Fork.trimmed⟩

/-- The skip that is the else branch by itself does not stand in the text. -/
theorem mirrored_drops_leaf :
    Builder.Made { nextId := 2 } [Fork.condition] [Fork.mirrored, Fork.fork, Fork.block, Fork.jump, Fork.skip] ∧
      Builder.failed { nextId := 2 } = false ∧ Fork.mirrored.leaves = [Fork.jump, Fork.skip] ∧
      Fork.mirrored.unparse = .ok "if true then \x7b jump; \x7d" ∧
      ¬ Stmt.Shows Fork.mirrored.leaves "if true then \x7b jump; \x7d" := by
  refine ⟨Fork.made, rfl, rfl, rfl, ?_⟩
  rintro ⟨texts, written, stand⟩
  cases written
  have inside : "skip;".toList <:+: _ := stand.isInfix (by decide)
  exact absurd inside (by decide)

end WormLang
