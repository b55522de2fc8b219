import WormLang.Builder
import WormLang.Tree.Reader

/-!
Programs built from trees and from text. All declarations come first, so that every variable is known with
its type before a statement refers to it; then the statements follow in the order of the text, the first
value of a declaration being an assignment at its place. Operands are built before their operator; of an if
statement the else branch is built first, then the condition, then the other branch.
-/
namespace WormLang

def BinaryOp.make (at? : Option Position) (l r : Expr) : BinaryOp → Except Fault Expr
  | arithmetic op => Expr.mkArithmetic at? op l r
  | order op => Expr.mkOrder at? op l r
  | equality op => Expr.mkEquality at? op l r
  | logical op => Expr.mkLogical at? op l r

def BinaryOp.form : BinaryOp → Form
  | arithmetic _ => .arithmetic
  | order _ => .order
  | equality _ => .equality
  | logical _ => .logical

def UnaryOp.build (at? : Option Position) (e : Expr) : UnaryOp → Build Expr
  | negative => Builder.negative at? e
  | bang => Builder.keepExpr .negation (Expr.mkNegation at? e)
  | query q => Builder.keepExpr .query (Expr.mkQuery at? q e)
  | sameTeam => Builder.keepExpr .sameTeam (Expr.mkSameTeam at? e)
  | test k => Builder.keepExpr .isKind (Expr.mkIsKind at? k e)
  | search => Builder.keepExpr .search (Expr.mkSearch at? e)

def SimpleAction.action : SimpleAction → Action
  | move => .move
  | jump => .jump
  | toggleweap => .toggleWeapon
  | skip => .skip

/-- The number that the text of a number token stands for. -/
def literalValue (text : String) : Float := (Number.readDecimal? text.toList).getD undefinedNumber

def ExprTree.build (file : Option String) : ExprTree → Build Expr
  | number extent text => return .number (extent.position file) (literalValue text)
  | truth extent b => return .boolean (extent.position file) b
  | null extent => return .null (extent.position file)
  | self extent => return .self (extent.position file)
  | name extent text => Builder.access (extent.position file) text
  | unary extent op operand => do
    let e ← operand.build file
    op.build (extent.position file) e
  | call extent f argument => do
    let e ← argument.build file
    Builder.keepExpr .math (Expr.mkMath (extent.position file) f e)
  | binary extent op left right => do
    let l ← left.build file
    let r ← right.build file
    Builder.keepExpr op.form (op.make (extent.position file) l r)

mutual

def StmtTree.build (file : Option String) : StmtTree → Build Stmt
  | .block extent body => do
    let body ← StmtTree.buildAll file body
    return .sequence (extent.position file) body
  | .assignment extent name e => do
    let e ← e.build file
    Builder.keepStmt .assignment (Stmt.mkAssignment (extent.position file) name.text e)
  | .print extent e => do
    let e ← e.build file
    return .print (extent.position file) e
  | .turn extent e => do
    let e ← e.build file
    Builder.keepStmt .turn (Stmt.mkAction (extent.position file) (.turn e))
  | .fire extent e => do
    let e ← e.build file
    Builder.keepStmt .fire (Stmt.mkAction (extent.position file) (.fire e))
  | .simple extent a => return .action (extent.position file) a.action
  | .branch extent c yes => do
    let c ← c.build file
    let yes ← yes.build file
    Builder.branch (extent.position file) c yes none
  | .branchElse extent c yes no => do
    let no ← no.build file
    let c ← c.build file
    let yes ← yes.build file
    Builder.branch (extent.position file) c yes (some no)
  | .loop extent c body => do
    let c ← c.build file
    let body ← body.build file
    Builder.loop (extent.position file) c body
  | .each extent _ kind name body => do
    let body ← body.build file
    Builder.each (extent.position file) kind name.text body

def StmtTree.buildAll (file : Option String) : List StmtTree → Build (List Stmt)
  | [] => return []
  | s :: rest => do
    let s ← s.build file
    let rest ← StmtTree.buildAll file rest
    return s :: rest

end

def ItemTree.declare (file : Option String) : ItemTree → Build Unit
  | declaration _ _ t name _ => do
    let _ ← Builder.declare (name.extent.position file) name.text t
  | statement _ => return

/-- The statement of an item; none for a declaration without a first value. -/
def ItemTree.build (file : Option String) : ItemTree → Build (Option Stmt)
  | declaration extent _ _ name (some initial) => do
    let e ← initial.build file
    return some (← Builder.keepStmt .assignment (Stmt.mkAssignment (extent.position file) name.text e))
  | declaration _ _ _ _ none => return none
  | statement s => return some (← s.build file)

/-- The position of a program; that of an empty one knows nothing but the file. -/
def ProgramTree.position (file : Option String) (p : ProgramTree) : Position :=
  match p.extent? with
  | some extent => extent.position file
  | none => { file }

def ProgramTree.build (file : Option String) (p : ProgramTree) : Build Stmt := do
  p.items.forM (·.declare file)
  let statements ← p.items.mapM (·.build file)
  return .sequence (p.position file) (statements.filterMap id)

/-- A program from its text. A text with faults gives no program: a fault of the grammar is reported alone,
construction faults all together, then a budget that is refused, and the faults of `Program.validate` if there are
no others. -/
def Program.parse (source : String) (file : Option String) (handler? : Option HandlerId)
    (budget : Except Fault Int) : Except Failure Program := do
  let tree ← (ProgramTree.parse source).mapError fun stop => .rejected [stop.fault file] #[]
  let (root, builder) := (tree.build file).run { handler? }
  let program ← builder.program root budget
  match program.validate with
  | [] => return program
  | faults => throw (.rejected faults (builder.log.push (.rejectedProgram faults.length)))

end WormLang
