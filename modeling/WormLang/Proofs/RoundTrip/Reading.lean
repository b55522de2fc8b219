import WormLang.Proofs.RoundTrip.Printing

/-!
Reading what was printed. Between the operands of a printed expression stand parentheses, so the levels of the
operators never decide anything; operators in front of an operand wait until it is complete. Statements end with a
semicolon or a brace, except for an if without else, which the reader completes when the next token is no else.
-/
namespace WormLang

namespace Reader

/-- Read tokens one by one; none if one is refused. -/
def feed? (r : Reader) : List Token → Option Reader
  | [] => some r
  | t :: rest => (r.step? t).bind (feed? · rest)

theorem feed?_append (r : Reader) (first second : List Token) :
    r.feed? (first ++ second) = (r.feed? first).bind (feed? · second) := by
  induction first generalizing r with
  | nil => rfl
  | cons t rest ih =>
    rw [List.cons_append, feed?, feed?]
    cases r.step? t with
    | none => rfl
    | some next => exact ih next

/-- Tokens with given lexemes are accepted, wherever they stand, and lead to a state with a property. -/
def Reads (r : Reader) (lexemes : List Lexeme) (after : Reader → Prop) : Prop :=
  ∀ tokens : List Token, tokens.map Token.lexeme = lexemes → ∃ r', r.feed? tokens = some r' ∧ after r'

variable {r : Reader} {l : Lexeme} {first second : List Lexeme} {middle after : Reader → Prop}

theorem Reads.nil (here : after r) : r.Reads [] after := by
  intro tokens none
  rw [List.map_eq_nil_iff.mp none]
  exact ⟨r, rfl, here⟩

theorem Reads.cons (step : ∀ t : Token, t.lexeme = l → ∃ r', r.step? t = some r' ∧ r'.Reads second after) :
    r.Reads (l :: second) after := by
  intro tokens lexemes
  obtain ⟨t, rest, rfl, here, others⟩ := List.map_eq_cons_iff.mp lexemes
  obtain ⟨next, taken, reads⟩ := step t here
  obtain ⟨last, fed, done⟩ := reads rest others
  exact ⟨last, by rw [feed?, taken]; exact fed, done⟩

theorem Reads.append (reads : r.Reads first middle) (others : ∀ r', middle r' → r'.Reads second after) :
    r.Reads (first ++ second) after := by
  intro tokens lexemes
  obtain ⟨front, back, rfl, left, right⟩ := List.map_eq_append_iff.mp lexemes
  obtain ⟨next, fed, between⟩ := reads front left
  obtain ⟨last, fedRest, done⟩ := others next between back right
  exact ⟨last, by rw [feed?_append, fed]; exact fedRest, done⟩

theorem Reads.mono (reads : r.Reads first middle) (implies : ∀ r', middle r' → after r') : r.Reads first after := by
  intro tokens lexemes
  obtain ⟨last, fed, holds⟩ := reads tokens lexemes
  exact ⟨last, fed, implies last holds⟩

theorem step?_of_continue? {t : Token} {r' : Reader} (goes : r.continue? t = some r') : r.step? t = some r' := by
  rw [step?, goes]

/-- A token that goes on with what the reader is in the middle of. -/
theorem Reads.continue (next : Token → Reader) (goes : ∀ t : Token, t.lexeme = l → r.continue? t = some (next t))
    (others : ∀ t : Token, t.lexeme = l → (next t).Reads second after) : r.Reads (l :: second) after :=
  .cons fun t here => ⟨next t, step?_of_continue? (goes t here), others t here⟩

end Reader

/-- A tree is what the text of an expression reads as: it has the same operators, names and numbers, wherever its
parts stand. -/
inductive ExprTree.Matches : ExprTree → Expr → Prop
  | number (extent : Extent) (at? : Option Position) (x : Float) :
    Matches (.number extent (Number.displayText x)) (.number at? x)
  | truth (extent : Extent) (at? : Option Position) (b : Bool) : Matches (.truth extent b) (.boolean at? b)
  | null (extent : Extent) (at? : Option Position) : Matches (.null extent) (.null at?)
  | self (extent : Extent) (at? : Option Position) : Matches (.self extent) (.self at?)
  | name (extent : Extent) (at? : Option Position) (text : String) (ty : Ty) :
    Matches (.name extent text) (.access at? text ty)
  | arithmetic (extent : Extent) (at? : Option Position) (op : ArithmeticOp) {left right : ExprTree} {l r : Expr}
    (matchLeft : left.Matches l) (matchRight : right.Matches r) :
    Matches (.binary extent (.arithmetic op) left right) (.arithmetic at? op l r)
  | order (extent : Extent) (at? : Option Position) (op : OrderOp) {left right : ExprTree} {l r : Expr}
    (matchLeft : left.Matches l) (matchRight : right.Matches r) :
    Matches (.binary extent (.order op) left right) (.order at? op l r)
  | equality (extent : Extent) (at? : Option Position) (op : EqualityOp) {left right : ExprTree} {l r : Expr}
    (matchLeft : left.Matches l) (matchRight : right.Matches r) :
    Matches (.binary extent (.equality op) left right) (.equality at? op l r)
  | logical (extent : Extent) (at? : Option Position) (op : LogicalOp) {left right : ExprTree} {l r : Expr}
    (matchLeft : left.Matches l) (matchRight : right.Matches r) :
    Matches (.binary extent (.logical op) left right) (.logical at? op l r)
  | math (extent : Extent) (at? : Option Position) (f : MathFunction) {argument : ExprTree} {e : Expr}
    (inner : argument.Matches e) : Matches (.call extent f argument) (.math at? f e)
  | negation (extent : Extent) (at? : Option Position) {operand : ExprTree} {e : Expr} (inner : operand.Matches e) :
    Matches (.unary extent .bang operand) (.negation at? e)
  | query (extent : Extent) (at? : Option Position) (q : Query) {operand : ExprTree} {e : Expr}
    (inner : operand.Matches e) : Matches (.unary extent (.query q) operand) (.query at? q e)
  | sameTeam (extent : Extent) (at? : Option Position) {operand : ExprTree} {e : Expr} (inner : operand.Matches e) :
    Matches (.unary extent .sameTeam operand) (.sameTeam at? e)
  | isKind (extent : Extent) (at? : Option Position) (k : TestKind) {operand : ExprTree} {e : Expr}
    (inner : operand.Matches e) : Matches (.unary extent (.test k) operand) (.isKind at? k e)
  | search (extent : Extent) (at? : Option Position) {operand : ExprTree} {e : Expr} (inner : operand.Matches e) :
    Matches (.unary extent .search operand) (.search at? e)

namespace Reader

/-- An expression was read for what waited for it: nothing but operators in front of it may still wait, and what
they come to is an operand that matches the expression. -/
def Holds (purpose : Purpose) (pending : List Pending) (e : Expr) (r r' : Reader) : Prop :=
  ∃ waiting operand whole, r' = { r with phase := .operator purpose waiting operand } ∧
    (∀ level, settle level waiting operand = settle level pending whole) ∧ whole.tree.Matches e

variable {purpose : Purpose} {pending : List Pending} {e : Expr} {r : Reader}

/-- A token that is an operand by itself. -/
theorem Reads.atom {l : Lexeme} (tree : Token → ExprTree)
    (taken : ∀ t : Token, t.lexeme = l → ExprTree.ofToken? t = some (tree t)) (same : ∀ t, (tree t).Matches e) :
    ({ r with phase := .operand purpose pending } : Reader).Reads [l] (Holds purpose pending e r) := by
  refine .continue (fun t => { r with phase := .operator purpose pending (.ofTree (tree t)) }) (fun t here => ?_)
    fun t here => .nil ⟨pending, .ofTree (tree t), .ofTree (tree t), rfl, fun _ => rfl, same t⟩
  simp only [continue?, takeOperand?, taken t here]

theorem ofToken?_of_unary {t : Token} {op : UnaryOp} (known : UnaryOp.ofLexeme? t.lexeme = some op) :
    ExprTree.ofToken? t = none := by
  unfold UnaryOp.ofLexeme? at known
  unfold ExprTree.ofToken?
  split at known <;> simp_all

/-- An operator in front of an operand. -/
theorem Reads.unary {l : Lexeme} {lexemes : List Lexeme} {operand : Expr} (op : UnaryOp)
    (known : UnaryOp.ofLexeme? l = some op)
    (same : ∀ extent tree, ExprTree.Matches tree operand → (ExprTree.unary extent op tree).Matches e)
    (inner : ∀ pending, ({ r with phase := .operand purpose pending } : Reader).Reads lexemes
      (Holds purpose pending operand r)) :
    ({ r with phase := .operand purpose pending } : Reader).Reads (l :: lexemes) (Holds purpose pending e r) := by
  refine .continue (fun t => { r with phase := .operand purpose (.unary op t.start :: pending) }) (fun t here => ?_)
    fun t here => ?_
  · have front : UnaryOp.ofLexeme? t.lexeme = some op := here ▸ known
    simp only [continue?, takeOperand?, ofToken?_of_unary front, front]
  · have reads := inner (.unary op t.start :: pending)
    refine reads.mono fun r' holds => ?_
    obtain ⟨waiting, operand, whole, rfl, settled, fits⟩ := holds
    exact ⟨waiting, operand, whole.applyUnary op t.start, rfl, fun level => by rw [settled level, settle],
      same _ _ fits⟩

/-- An operation on two operands, in parentheses. -/
theorem Reads.binary {y : Symbol} {op : BinaryOp} {left right : Expr} (known : BinaryOp.ofLexeme? (.symbol y) = some op)
    (same : ∀ extent l r, ExprTree.Matches l left → ExprTree.Matches r right →
      (ExprTree.binary extent op l r).Matches e)
    (readsLeft : ∀ pending, ({ r with phase := .operand purpose pending } : Reader).Reads left.lexemes
      (Holds purpose pending left r))
    (readsRight : ∀ pending, ({ r with phase := .operand purpose pending } : Reader).Reads right.lexemes
      (Holds purpose pending right r)) :
    ({ r with phase := .operand purpose pending } : Reader).Reads (binaryLexemes left.lexemes y right.lexemes)
      (Holds purpose pending e r) := by
  refine .continue (fun t => { r with phase := .operand purpose (.paren t.start :: pending) }) (fun t here => ?_)
    fun opening _ => ?_
  · simp [continue?, takeOperand?, ExprTree.ofToken?, UnaryOp.ofLexeme?, here]
  refine (readsLeft (.paren opening.start :: pending)).append fun r' holds => ?_
  obtain ⟨waiting, operand, first, rfl, settled, fitsLeft⟩ := holds
  have pushed : pushOperator? op waiting operand = some (.left op first :: .paren opening.start :: pending) := by
    unfold pushOperator?
    simp only [settled, settle, comparisonWaits]
    split <;> rfl
  refine .continue (fun t => { r with phase := .operand purpose (.left op first :: .paren opening.start :: pending) })
    (fun t here => ?_) fun _ _ => ?_
  · simp [continue?, takeOperator?, here, known, pushed]
  refine (readsRight (.left op first :: .paren opening.start :: pending)).append fun r' holds => ?_
  obtain ⟨waiting', operand', second, rfl, settled', fitsRight⟩ := holds
  have closed : ∀ stop, closeParen? stop waiting' operand' = some (pending,
      { tree := (Operand.applyBinary op first second).tree, extent := { start := opening.start, stop } }) := by
    intro stop
    unfold closeParen?
    simp [settled', settle]
  refine .continue
    (fun t => { r with
      phase := .operator purpose pending
        { tree := (Operand.applyBinary op first second).tree, extent := { start := opening.start, stop := t.stop } } })
    (fun t here => ?_) fun t _ => .nil ?_
  · simp [continue?, takeOperator?, here, BinaryOp.ofLexeme?, closed]
  · exact ⟨pending, _, _, rfl, fun _ => rfl, same _ _ _ fitsLeft fitsRight⟩

/-- A function with its argument in parentheses. -/
theorem Reads.call {operand : Expr} (at? : Option Position) (f : MathFunction)
    (inner : ∀ pending, ({ r with phase := .operand purpose pending } : Reader).Reads operand.lexemes
      (Holds purpose pending operand r)) :
    ({ r with phase := .operand purpose pending } : Reader).Reads (Expr.math at? f operand).lexemes
      (Holds purpose pending (.math at? f operand) r) := by
  refine .continue (fun t => { r with phase := .argument purpose pending f t.start }) (fun t here => ?_)
    fun name _ => ?_
  · simp [continue?, takeOperand?, ExprTree.ofToken?, UnaryOp.ofLexeme?, here]
  refine .continue (fun t => { r with phase := .operand purpose (.call f name.start :: pending) }) (fun t here => ?_)
    fun _ _ => ?_
  · simp [continue?, here]
  refine (inner (.call f name.start :: pending)).append fun r' holds => ?_
  obtain ⟨waiting, argument, whole, rfl, settled, fits⟩ := holds
  have closed : ∀ stop, closeParen? stop waiting argument = some (pending,
      .ofTree (.call { start := name.start, stop } f whole.tree)) := by
    intro stop
    unfold closeParen?
    simp [settled, settle]
  refine .continue
    (fun t => { r with
      phase := .operator purpose pending (.ofTree (.call { start := name.start, stop := t.stop } f whole.tree)) })
    (fun t here => ?_) fun t _ => .nil ?_
  · simp [continue?, takeOperator?, here, BinaryOp.ofLexeme?, closed]
  · exact ⟨pending, _, _, rfl, fun _ => rfl, .math _ at? f fits⟩

end Reader

/-- A printed expression is read as a tree that matches it. -/
theorem Expr.reads {globals : Table Variable} {e : Expr} (typed : e.WellTyped globals) (r : Reader)
    (purpose : Purpose) (pending : List Pending) :
    ({ r with phase := .operand purpose pending } : Reader).Reads e.lexemes (Reader.Holds purpose pending e r) := by
  induction e generalizing pending with
  | number at? x =>
    exact .atom (fun t => .number t.extent (Number.displayText x)) (fun t here => by simp [ExprTree.ofToken?, here])
      fun t => .number _ at? x
  | boolean at? b =>
    exact .atom (fun t => .truth t.extent b) (fun t here => by simp [ExprTree.ofToken?, here]) fun t => .truth _ at? b
  | null at? =>
    exact .atom (fun t => .null t.extent) (fun t here => by simp [ExprTree.ofToken?, here]) fun t => .null _ at?
  | self at? =>
    exact .atom (fun t => .self t.extent) (fun t here => by simp [ExprTree.ofToken?, here]) fun t => .self _ at?
  | access at? name ty =>
    exact .atom (fun t => .name t.extent name) (fun t here => by simp [ExprTree.ofToken?, here])
      fun t => .name _ at? name ty
  | arithmetic at? op l r ihLeft ihRight =>
    exact .binary rfl (fun extent _ _ left right => .arithmetic extent at? op left right) (ihLeft typed.1.1)
      (ihRight typed.2.1)
  | order at? op l r ihLeft ihRight =>
    exact .binary rfl (fun extent _ _ left right => .order extent at? op left right) (ihLeft typed.1.1)
      (ihRight typed.2.1)
  | equality at? op l r ihLeft ihRight =>
    exact .binary rfl (fun extent _ _ left right => .equality extent at? op left right) (ihLeft typed.1)
      (ihRight typed.2.1)
  | logical at? op l r ihLeft ihRight =>
    exact .binary rfl (fun extent _ _ left right => .logical extent at? op left right) (ihLeft typed.1.1)
      (ihRight typed.2.1)
  | math at? f e ih => exact .call at? f (ih typed.1)
  | negation at? e ih =>
    exact .unary .bang rfl (fun extent _ inner => .negation extent at? inner) (ih typed.1)
  | query at? q e ih =>
    exact .unary (.query q) rfl (fun extent _ inner => .query extent at? q inner) (ih typed.1)
  | sameTeam at? e ih =>
    exact .unary .sameTeam rfl (fun extent _ inner => .sameTeam extent at? inner) (ih typed.1)
  | isKind at? k e ih =>
    exact .unary (.test k) rfl (fun extent _ inner => .isKind extent at? k inner) (ih typed.1)
  | search at? e ih =>
    exact .unary .search rfl (fun extent _ inner => .search extent at? inner) (ih typed.1)
  | placeholder fault => cases typed

/-- A tree is what the text of an action reads as. -/
def Action.Matches : Action → StmtTree → Prop
  | turn e, .turn _ t | fire e, .fire _ t => t.Matches e
  | move, .simple _ .move | jump, .simple _ .jump | toggleWeapon, .simple _ .toggleweap | skip, .simple _ .skip => True
  | _, _ => False

namespace Stmt

mutual

/-- A tree is what the text of a statement reads as. An if without else stands for an empty else branch. -/
def Matches : Stmt → StmtTree → Prop
  | sequence _ body, .block _ trees => MatchesAll body trees
  | assignment _ name e, .assignment _ word t => word.text = name ∧ t.Matches e
  | print _ e, .print _ t => t.Matches e
  | action _ a, tree => a.Matches tree
  | branch _ _ c yes no, .branch _ t y => t.Matches c ∧ yes.Matches y ∧ ∃ at?, no = .sequence at? []
  | branch _ _ c yes no, .branchElse _ t y n => t.Matches c ∧ yes.Matches y ∧ no.Matches n
  | loop _ _ c body, .loop _ t b => t.Matches c ∧ body.Matches b
  | each _ _ kind name body, .each _ _ k word b => k = kind ∧ word.text = name ∧ body.Matches b
  | _, _ => False

/-- Trees are what the texts of statements read as, in order. -/
def MatchesAll : List Stmt → List StmtTree → Prop
  | [], [] => True
  | s :: rest, tree :: trees => s.Matches tree ∧ MatchesAll rest trees
  | _, _ => False

end

def isBlock : Stmt → Bool
  | sequence .. => true
  | _ => false

/-- The branches of an if and the body of a loop are blocks. -/
def HasBlocks : Stmt → Prop
  | branch _ _ _ yes no => yes.isBlock = true ∧ no.isBlock = true
  | loop _ _ _ body | each _ _ _ _ body => body.isBlock = true
  | _ => True

/-- All branches and bodies inside a statement are blocks. -/
def Blocked (s : Stmt) : Prop := ∀ t ∈ s.walk, t.HasBlocks

theorem blocked_iff {s : Stmt} : s.Blocked ↔ s.HasBlocks ∧ ∀ t ∈ s.children, t.Blocked := forall_walk_iff

theorem exists_of_isBlock {s : Stmt} (block : s.isBlock = true) : ∃ at? body, s = .sequence at? body := by
  cases s with
  | sequence at? body => exact ⟨at?, body, rfl⟩
  | _ => cases block

end Stmt

namespace Reader

/-- The reader is between two statements, once it has completed what could end here. Only an else could go on with
what it has read. -/
structure Rests (r ready : Reader) : Prop where
  rest : r.rest? = some ready
  isReady : ready.phase = .ready
  ends : ∀ t : Token, t.lexeme ≠ .keyword .elseWord → r.continue? t = none

variable {r ready : Reader} {l : Lexeme} {lexemes : List Lexeme} {after : Reader → Prop}

theorem rests_of_ready (isReady : r.phase = .ready) : r.Rests r where
  rest := by rw [rest?, isReady]
  isReady := isReady
  ends := fun t _ => by rw [continue?, isReady]

theorem add_phase (r : Reader) (s : StmtTree) : (r.add s).phase = .ready := by
  unfold add
  split <;> rfl

theorem rests_add (r : Reader) (s : StmtTree) : (r.add s).Rests (r.add s) := rests_of_ready (add_phase r s)

/-- A token that starts a statement or ends a block. -/
theorem Reads.begin (rests : r.Rests ready) (next : Token → Reader) (other : l ≠ .keyword .elseWord)
    (goes : ∀ t : Token, t.lexeme = l → ready.begin? t = some (next t))
    (others : ∀ t : Token, t.lexeme = l → (next t).Reads lexemes after) : r.Reads (l :: lexemes) after := by
  refine .cons fun t here => ⟨next t, ?_, others t here⟩
  rw [step?, rests.ends t (here ▸ other), rests.rest]
  exact goes t here

/-- A whole expression, and what may end it. -/
theorem Reads.whole {globals : Table Variable} {e : Expr} (typed : e.WellTyped globals) (purpose : Purpose)
    (others : ∀ waiting operand whole, whole? waiting operand = some whole → whole.tree.Matches e →
      ({ r with phase := .operator purpose waiting operand } : Reader).Reads lexemes after) :
    ({ r with phase := .operand purpose [] } : Reader).Reads (e.lexemes ++ lexemes) after := by
  refine (e.reads typed r purpose []).append fun r' holds => ?_
  obtain ⟨waiting, operand, whole, rfl, settled, fits⟩ := holds
  exact others waiting operand whole (by simp [whole?, settled, settle]) fits

/-- An expression with its semicolon. -/
theorem Reads.command {globals : Table Variable} {e : Expr} {purpose : Purpose} (typed : e.WellTyped globals)
    (make : Mark → ExprTree → StmtTree) (states : ∀ stop t, purpose.statement? stop t = some (make stop t)) :
    ({ r with phase := .operand purpose [] } : Reader).Reads (e.lexemes ++ [.symbol .semicolon]) fun r' =>
      ∃ t stop, t.Matches e ∧ r' = r.add (make stop t) := by
  refine .whole typed purpose fun waiting operand whole complete fits => ?_
  refine .continue (fun t => r.add (make t.stop whole.tree)) (fun t here => ?_) fun t _ => .nil ⟨_, _, fits, rfl⟩
  have ended : endExpression? { r with phase := .operator purpose waiting operand } purpose whole t =
      some (r.add (make t.stop whole.tree)) := by
    unfold endExpression?
    rw [here]
    cases purpose with
    | initial => cases states t.stop whole.tree
    | _ => simp only [states]; rfl
  simp [continue?, takeOperator?, here, BinaryOp.ofLexeme?, complete, ended]

end Reader

/-- Reading a statement gives a tree that matches it, wherever a statement can stand. -/
def Stmt.IsRead (s : Stmt) : Prop :=
  ∀ r ready : Reader, r.Rests ready → r.Reads s.lexemes fun r' => ∃ tree, s.Matches tree ∧ r'.Rests (ready.add tree)

namespace Reader

variable {r ready : Reader} {lexemes : List Lexeme} {after : Reader → Prop}

theorem foldl_add (r : Reader) (level : Level) (trees : List StmtTree) :
    trees.foldl add { r with levels := level :: r.levels, phase := .ready } =
      { r with levels := { level with done := trees.reverse ++ level.done } :: r.levels, phase := .ready } := by
  induction trees generalizing level with
  | nil => rfl
  | cons tree rest ih =>
    rw [List.foldl_cons]
    have added : add { r with levels := level :: r.levels, phase := .ready } tree =
        { r with levels := { level with done := tree :: level.done } :: r.levels, phase := .ready } := rfl
    rw [added, ih]
    simp

/-- Statements are read one after the other, each as a tree that matches it. -/
theorem Reads.all {body : List Stmt} (each : ∀ s ∈ body, s.IsRead) (rests : r.Rests ready) :
    r.Reads (Stmt.lexemesAll body) fun r' =>
      ∃ trees, Stmt.MatchesAll body trees ∧ r'.Rests (trees.foldl add ready) := by
  induction body generalizing r ready with
  | nil => exact .nil ⟨[], trivial, rests⟩
  | cons s rest ih =>
    rw [Stmt.lexemesAll]
    refine (each s List.mem_cons_self r ready rests).append fun r' read => ?_
    obtain ⟨tree, first, rests'⟩ := read
    refine (ih (fun t member => each t (List.mem_cons_of_mem _ member)) rests').mono fun r'' read => ?_
    obtain ⟨trees, others, rests''⟩ := read
    exact ⟨tree :: trees, ⟨first, others⟩, rests''⟩

/-- What a complete block is to what it belongs to. -/
def take (r : Reader) (stop : Mark) (block : StmtTree) : Role → Reader
  | .plain => r.add block
  | .yes start condition => { r with phase := .chosen start condition block }
  | .no start condition yes => r.add (.branchElse { start, stop } condition yes block)
  | .loop start condition => r.add (.loop { start, stop } condition block)
  | .each start kindExtent kind name => r.add (.each { start, stop } kindExtent kind name block)

theorem closeBlock?_eq (r : Reader) (role : Role) (start stop : Mark) (done : List StmtTree) :
    ({ r with levels := { role, start, done } :: r.levels, phase := .ready } : Reader).closeBlock? stop =
      some (r.take stop (.block { start, stop } done.reverse) role) := by
  cases role <;> rfl

/-- The statements of a block, and the brace that closes it. -/
theorem Reads.block {role : Role} {start : Mark} {body : List Stmt}
    (each : ∀ s ∈ body, s.IsRead) (others : ∀ (extent : Extent) (trees : List StmtTree), Stmt.MatchesAll body trees →
      (r.take extent.stop (.block extent trees) role).Reads lexemes after) :
    (r.openBlock role start).Reads (Stmt.lexemesAll body ++ .symbol .closeBrace :: lexemes) after := by
  refine (Reads.all each (rests_of_ready rfl)).append fun r' read => ?_
  obtain ⟨trees, fits, rests⟩ := read
  refine .begin rests (fun t => r.take t.stop (.block { start, stop := t.stop } trees) role) (by simp)
    (fun t here => ?_) fun t _ => others { start, stop := t.stop } trees fits
  rw [openBlock, foldl_add]
  simp [begin?, here, closeBlock?_eq]

theorem begin?_simple {t : Token} {k : Keyword} {a : SimpleAction} (here : t.lexeme = .keyword k)
    (known : SimpleAction.ofKeyword? k = some a) : r.begin? t = some { r with phase := .acted t.extent a } := by
  unfold begin?
  rw [here]
  cases k <;> first | cases known; done | (dsimp only; rw [known]; rfl)

/-- A word and the semicolon behind it. -/
theorem Reads.simple (rests : r.Rests ready) {k : Keyword} {a : SimpleAction}
    (known : SimpleAction.ofKeyword? k = some a) :
    r.Reads [.keyword k, .symbol .semicolon] fun r' => ∃ extent, r' = ready.add (.simple extent a) := by
  refine .begin rests (fun t => { ready with phase := .acted t.extent a }) (fun other => ?_)
    (fun t here => begin?_simple here known) fun word _ => ?_
  · cases other
    cases known
  · refine .continue (fun t => ready.add (.simple { start := word.extent.start, stop := t.stop } a))
      (fun t here => ?_) fun t _ => .nil ⟨_, rfl⟩
    simp only [continue?, here]
    rfl

end Reader

namespace Stmt

open Reader

variable {globals : Table Variable}

/-- A word, an expression and a semicolon. -/
theorem isRead_command {s : Stmt} {e : Expr} {k : Keyword}
    (lexemes : s.lexemes = .keyword k :: (e.lexemes ++ [.symbol .semicolon])) (other : k ≠ .elseWord)
    (purpose : Mark → Purpose) (make : Mark → Mark → ExprTree → StmtTree)
    (typed : e.WellTyped globals)
    (begins : ∀ (r : Reader) (t : Token), t.lexeme = .keyword k →
      r.begin? t = some { r with phase := .operand (purpose t.start) [] })
    (states : ∀ start stop t, (purpose start).statement? stop t = some (make start stop t))
    (same : ∀ start stop t, ExprTree.Matches t e → s.Matches (make start stop t)) : s.IsRead := by
  intro r ready rests
  rw [lexemes]
  refine .begin rests (fun t => { ready with phase := .operand (purpose t.start) [] }) (by simpa using other)
    (fun t here => begins ready t here) fun word _ => ?_
  refine (Reads.command typed (make word.start) (states word.start)).mono fun r' read => ?_
  obtain ⟨t, stop, fits, rfl⟩ := read
  exact ⟨_, same _ _ _ fits, rests_add _ _⟩

theorem isRead_action {a : Action} (at? : Option Position) (typed : a.WellTyped globals) :
    (action at? a).IsRead := by
  have simple : ∀ (k : Keyword) (word : SimpleAction), SimpleAction.ofKeyword? k = some word →
      a.lexemes = [.keyword k, .symbol .semicolon] → (∀ extent, a.Matches (.simple extent word)) →
      (action at? a).IsRead := by
    intro k word known lexemes same r ready rests
    rw [Stmt.lexemes, lexemes]
    refine (Reads.simple rests known).mono fun r' read => ?_
    obtain ⟨extent, rfl⟩ := read
    exact ⟨_, same extent, rests_add _ _⟩
  cases a with
  | turn angle =>
    exact isRead_command rfl (by simp) .turn (fun start stop => .turn { start, stop }) typed.1
      (fun r t here => by simp [begin?, here]) (fun _ _ _ => rfl) fun _ _ _ fits => fits
  | fire power =>
    exact isRead_command rfl (by simp) .fire (fun start stop => .fire { start, stop }) typed.1
      (fun r t here => by simp [begin?, here]) (fun _ _ _ => rfl) fun _ _ _ fits => fits
  | move => exact simple .move .move rfl rfl fun _ => trivial
  | jump => exact simple .jump .jump rfl rfl fun _ => trivial
  | toggleWeapon => exact simple .toggleweap .toggleweap rfl rfl fun _ => trivial
  | skip => exact simple .skip .skip rfl rfl fun _ => trivial

theorem isRead_assignment (at? : Option Position) (name : String) {e : Expr} (typed : e.WellTyped globals) :
    (assignment at? name e).IsRead := by
  intro r ready rests
  refine .begin rests (fun t => { ready with phase := .assigned { extent := t.extent, text := name } }) (by simp)
    (fun t here => by simp [begin?, here]) fun word _ => ?_
  refine .continue
    (fun _ => { ready with phase := .operand (.assignment { extent := word.extent, text := name }) [] })
    (fun t here => by simp [continue?, here]) fun _ _ => ?_
  refine (Reads.command typed _ fun stop t => rfl).mono fun r' read => ?_
  obtain ⟨t, stop, fits, rfl⟩ := read
  refine ⟨_, ?_, rests_add _ _⟩
  exact And.intro rfl fits

theorem isRead_sequence (at? : Option Position) {body : List Stmt} (each : ∀ s ∈ body, s.IsRead) :
    (sequence at? body).IsRead := by
  intro r ready rests
  refine .begin rests (fun t => ready.openBlock .plain t.start) (by simp) (fun t here => by simp [begin?, here])
    fun brace _ => ?_
  refine .block each fun extent trees inside => .nil ?_
  exact ⟨.block extent trees, inside, rests_add _ _⟩

theorem isRead_loop (id : NodeId) (at? : Option Position) {c : Expr} (typed : c.WellTyped globals)
    (at' : Option Position) {body : List Stmt} (each : ∀ s ∈ body, s.IsRead) :
    (loop id at? c (sequence at' body)).IsRead := by
  intro r ready rests
  refine .begin rests (fun t => { ready with phase := .operand (.loop t.start) [] }) (by simp)
    (fun t here => by simp [begin?, here]) fun word _ => ?_
  refine .whole typed _ fun waiting operand whole complete fits => ?_
  refine .continue (fun t => ready.openBlock (.loop word.start whole.tree) t.start) (fun t here => ?_) fun brace _ => ?_
  · simp [continue?, takeOperator?, here, BinaryOp.ofLexeme?, complete, endExpression?, openBlock]
  refine .block each fun extent trees inside => .nil ?_
  refine ⟨_, ?_, rests_add ready (.loop _ whole.tree (.block extent trees))⟩
  exact And.intro fits inside

theorem isRead_each (id : NodeId) (at? : Option Position) (kind : LoopKind) (name : String)
    (at' : Option Position) {body : List Stmt} (each : ∀ s ∈ body, s.IsRead) :
    (Stmt.each id at? kind name (sequence at' body)).IsRead := by
  intro r ready rests
  refine .begin rests (fun t => { ready with phase := .eachParen t.start }) (by simp)
    (fun t here => by simp [begin?, here]) fun word _ => ?_
  refine .continue (fun _ => { ready with phase := .eachKind word.start })
    (fun t here => by simp [continue?, here]) fun _ _ => ?_
  refine .continue (fun t => { ready with phase := .eachComma word.start t.extent kind })
    (fun t here => by simp [continue?, here]) fun sort _ => ?_
  refine .continue (fun _ => { ready with phase := .eachName word.start sort.extent kind })
    (fun t here => by simp [continue?, here]) fun _ _ => ?_
  refine .continue
    (fun t => { ready with phase := .eachClose word.start sort.extent kind { extent := t.extent, text := name } })
    (fun t here => by simp [continue?, here]) fun named _ => ?_
  refine .continue
    (fun _ => { ready with
      phase := .opening (.each word.start sort.extent kind { extent := named.extent, text := name }) (some .doWord) })
    (fun t here => by simp [continue?, here]) fun _ _ => ?_
  refine .continue
    (fun _ => { ready with
      phase := .opening (.each word.start sort.extent kind { extent := named.extent, text := name }) none })
    (fun t here => by simp [continue?, here]) fun _ _ => ?_
  refine .continue
    (fun t => ready.openBlock (.each word.start sort.extent kind { extent := named.extent, text := name }) t.start)
    (fun t here => by simp [continue?, here, openBlock]) fun brace _ => ?_
  refine .block each fun extent trees inside => .nil ?_
  refine ⟨_, ?_,
    rests_add ready (.each _ sort.extent kind { extent := named.extent, text := name } (.block extent trees))⟩
  exact And.intro rfl (And.intro rfl inside)

/-- A branch: the else is there iff a statement is inside it. -/
theorem isRead_branch (id : NodeId) (at? : Option Position) {c : Expr} (typed : c.WellTyped globals)
    (atYes atNo : Option Position) {yes no : List Stmt} (eachYes : ∀ s ∈ yes, s.IsRead)
    (eachNo : ∀ s ∈ no, s.IsRead) : (branch id at? c (sequence atYes yes) (sequence atNo no)).IsRead := by
  intro r ready rests
  refine .begin rests (fun t => { ready with phase := .operand (.branch t.start) [] }) (by simp)
    (fun t here => by simp [begin?, here]) fun word _ => ?_
  refine .whole typed _ fun waiting operand whole complete fits => ?_
  refine .continue (fun _ => { ready with phase := .opening (.yes word.start whole.tree) none }) (fun t here => ?_)
    fun _ _ => ?_
  · simp [continue?, takeOperator?, here, BinaryOp.ofLexeme?, complete, endExpression?]
  rw [lexemes, List.cons_append]
  refine .continue (fun t => ready.openBlock (.yes word.start whole.tree) t.start)
    (fun t here => by simp [continue?, here, openBlock]) fun _ _ => ?_
  rw [List.append_assoc, List.singleton_append]
  refine .block eachYes fun extent trees insideYes => ?_
  cases no with
  | nil =>
    refine .nil ⟨.branch { start := word.start, stop := extent.stop } whole.tree (.block extent trees), ?_, ?_⟩
    · exact And.intro fits (And.intro insideYes ⟨atNo, rfl⟩)
    · refine ⟨rfl, add_phase _ _, fun t other => ?_⟩
      cases here : t.lexeme with
      | keyword k =>
        cases k with
        | elseWord => exact absurd here other
        | _ => simp [take, continue?, here]
      | _ => simp [take, continue?, here]
  | cons s rest =>
    refine .continue
      (fun _ => { ready with phase := .opening (.no word.start whole.tree (.block extent trees)) none })
      (fun t here => by simp [take, continue?, here]) fun _ _ => ?_
    refine .continue (fun t => ready.openBlock (.no word.start whole.tree (.block extent trees)) t.start)
      (fun t here => by simp [continue?, here, openBlock]) fun _ _ => ?_
    refine .block eachNo fun extent' trees' insideNo => .nil ?_
    refine ⟨_, ?_, rests_add ready (.branchElse _ whole.tree (.block extent trees) (.block extent' trees'))⟩
    exact And.intro fits (And.intro insideYes insideNo)

/-- A printed statement is read as a tree that matches it, and so is everything inside it. -/
theorem isRead {s : Stmt} (typed : s.WellTyped globals) (blocked : s.Blocked) : ∀ t ∈ s.walk, t.IsRead := by
  induction s using child_induction with
  | step s ih =>
    obtain ⟨fits, typedChildren⟩ := wellTyped_iff.mp typed
    obtain ⟨blocks, blockedChildren⟩ := blocked_iff.mp blocked
    have inside : ∀ t ∈ s.children, ∀ u ∈ t.walk, u.IsRead :=
      fun t child => ih t child (typedChildren t child) (blockedChildren t child)
    refine forall_walk_iff.mpr ⟨?_, inside⟩
    -- the statements of a branch or a body are two levels down, below the block that holds them
    have ofBlock : ∀ at? body, Stmt.sequence at? body ∈ s.children → ∀ t ∈ body, t.IsRead :=
      fun at? body child t member =>
        inside _ child t (mem_walk_of_child (s := .sequence at? body) member t.mem_walk_self)
    cases s with
    | sequence at? body => exact isRead_sequence at? fun t member => inside t member t (mem_walk_self t)
    | assignment at? name e => exact isRead_assignment at? name fits
    | print at? e =>
      exact isRead_command rfl (by simp) .print (fun start stop => .print { start, stop }) fits
        (fun r t here => by simp [begin?, here]) (fun _ _ _ => rfl) fun _ _ _ fits => fits
    | action at? a => exact isRead_action at? fits
    | branch id at? c yes no =>
      obtain ⟨atYes, bodyYes, rfl⟩ := exists_of_isBlock blocks.1
      obtain ⟨atNo, bodyNo, rfl⟩ := exists_of_isBlock blocks.2
      exact isRead_branch id at? fits.1 atYes atNo (ofBlock atYes bodyYes (by simp [children]))
        (ofBlock atNo bodyNo (by simp [children]))
    | loop id at? c body =>
      obtain ⟨at', inner, rfl⟩ := exists_of_isBlock blocks
      exact isRead_loop id at? fits.1 at' (ofBlock at' inner (by simp [children]))
    | each id at? kind name body =>
      obtain ⟨at', inner, rfl⟩ := exists_of_isBlock blocks
      exact isRead_each id at? kind name at' (ofBlock at' inner (by simp [children]))
    | placeholder fault => cases fits

end Stmt

/-- The variable that an item declares without a first value. -/
def ItemTree.plain? : ItemTree → Option (String × Ty)
  | declaration _ _ ty name none => some (name.text, ty)
  | _ => none

namespace Reader

variable {r : Reader}

/-- The declarations at the head of a program. -/
theorem Reads.declarations (done : List ItemTree) (entries : List (String × Variable)) :
    ({ items := done } : Reader).Reads (entries.flatMap declarationLexemes) fun r' =>
      ∃ items : List ItemTree, items.map ItemTree.plain? = entries.map (fun entry => some (entry.1, entry.2.ty)) ∧
        r' = { items := items.reverse ++ done } := by
  induction entries generalizing done with
  | nil => exact .nil ⟨[], rfl, rfl⟩
  | cons entry rest ih =>
    rw [List.flatMap_cons]
    refine .begin (rests_of_ready rfl) (fun t => { items := done, phase := .declared t.extent entry.2.ty }) (by simp)
      (fun t here => by simp [begin?, here]) fun ty _ => ?_
    refine .continue
      (fun t => { items := done, phase := .named ty.extent entry.2.ty { extent := t.extent, text := entry.1 } })
      (fun t here => by simp [continue?, here]) fun name _ => ?_
    let item (stop : Mark) : ItemTree :=
      .declaration { start := ty.extent.start, stop } ty.extent entry.2.ty
        { extent := name.extent, text := entry.1 } none
    refine .continue (fun t => { items := item t.stop :: done })
      (fun t here => by simp [continue?, here, item]) fun last _ => ?_
    refine (ih (item last.stop :: done)).mono fun r' read => ?_
    obtain ⟨items, plain, rfl⟩ := read
    exact ⟨item last.stop :: items, by simp [plain, ItemTree.plain?, item], by simp⟩

theorem foldl_add_outermost (done : List ItemTree) (trees : List StmtTree) :
    trees.foldl add { items := done } = { items := (trees.map .statement).reverse ++ done } := by
  induction trees generalizing done with
  | nil => rfl
  | cons tree rest ih =>
    have added : ({ items := done } : Reader).add tree = { items := .statement tree :: done } := rfl
    rw [List.foldl_cons, added, ih]
    simp

theorem readAll_of_feed? {r' : Reader} {tokens : List Token} {tree : ProgramTree} (fed : r.feed? tokens = some r')
    (finished : r'.finish? = some tree) (last : Mark) : r.readAll last none tokens = .ok tree := by
  induction tokens generalizing r last with
  | nil =>
    cases fed
    simp only [readAll, finished]
  | cons t rest ih =>
    obtain ⟨next, taken, fed⟩ := Option.bind_eq_some_iff.mp fed
    simp only [readAll, taken]
    exact ih fed t.start

end Reader

/-- A text that spells declarations and statements is read as items that match them. -/
theorem ProgramTree.parse_of_spells {globals : Table Variable} {entries : List (String × Variable)} {body : List Stmt}
    {text : String} (spelled : Spells (entries.flatMap declarationLexemes ++ Stmt.lexemesAll body) text.toList)
    (typed : ∀ s ∈ body, s.WellTyped globals) (blocked : ∀ s ∈ body, s.Blocked) :
    ∃ items trees, ProgramTree.parse text = .ok { items := items ++ trees.map .statement } ∧
      items.map ItemTree.plain? = entries.map (fun entry => some (entry.1, entry.2.ty)) ∧
      Stmt.MatchesAll body trees := by
  have reads : Reader.Reads {} (entries.flatMap declarationLexemes ++ Stmt.lexemesAll body) fun r' =>
      ∃ items trees, r'.finish? = some { items := items ++ trees.map .statement } ∧
        items.map ItemTree.plain? = entries.map (fun entry => some (entry.1, entry.2.ty)) ∧
        Stmt.MatchesAll body trees := by
    refine (Reader.Reads.declarations [] entries).append fun r' read => ?_
    obtain ⟨items, plain, rfl⟩ := read
    have each : ∀ s ∈ body, s.IsRead :=
      fun s member => Stmt.isRead (typed s member) (blocked s member) s s.mem_walk_self
    refine (Reader.Reads.all each (Reader.rests_of_ready rfl)).mono fun r' read => ?_
    obtain ⟨trees, fits, rests⟩ := read
    refine ⟨items, trees, ?_, plain, fits⟩
    rw [Reader.foldl_add_outermost] at rests
    rw [Reader.finish?, rests.rest]
    simp
  obtain ⟨lexemes, whole⟩ := spelled.run { line := 1, column := 1 }
  obtain ⟨last, fed, items, trees, finished, plain, fits⟩ := reads _ lexemes
  refine ⟨items, trees, ?_, plain, fits⟩
  rw [ProgramTree.parse, Scan.ofText, whole]
  exact Reader.readAll_of_feed? fed finished _

end WormLang
