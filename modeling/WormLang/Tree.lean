import WormLang.Token

/-!
Trees of program text, as the grammar gives them. A tree covers its extent from the first to the last of
its tokens, optional semicolons and brackets included. Parentheses around an expression leave no tree of
their own: they belong to the extent of what encloses the expression.

    program     = item*
    item        = declaration | statement
    declaration = type NAME [":=" expr] ";"
    statement   = NAME ":=" expr ";"? | "print" expr ";"? | "turn" expr ";"? | "fire" expr ";"?
                | ("move" | "jump" | "toggleweap" | "skip") ";"? | block
                | "if" expr "then"? block ["else" block] | "while" expr "do"? block
                | "foreach" "(" kind "," NAME ")" "do"? block
    expr        = "||" over "&&" over one comparison over "+" "-" over "*" "/" over unary
    unary       = atom | ("-" | "!" | query | "sameteam" | "isworm" | "isfood" | "searchobj") unary
    atom        = NUMBER | "true" | "false" | "null" | "self" | NAME | function "(" expr ")" | "(" expr ")"
-/
namespace WormLang

inductive UnaryOp where
  | negative
  | bang
  | query (q : Query)
  | sameTeam
  | test (k : TestKind)
  | search
  deriving DecidableEq, Repr

inductive BinaryOp where
  | logical (op : LogicalOp)
  | order (op : OrderOp)
  | equality (op : EqualityOp)
  | arithmetic (op : ArithmeticOp)
  deriving DecidableEq, Repr

namespace BinaryOp

def level : BinaryOp → Nat
  | logical .or => 1
  | logical .and => 2
  | order _ | equality _ => 3
  | arithmetic .add | arithmetic .sub => 4
  | arithmetic .mul | arithmetic .div => 5

/-- Comparisons do not chain. -/
def isComparison : BinaryOp → Bool
  | order _ | equality _ => true
  | _ => false

end BinaryOp

/-- Actions without an operand. -/
inductive SimpleAction where
  | move
  | jump
  | toggleweap
  | skip
  deriving DecidableEq, Repr

/-- A word with its extent. -/
structure Word where
  extent : Extent
  text : String
  deriving DecidableEq, Repr

inductive ExprTree where
  | number (extent : Extent) (text : String)
  | truth (extent : Extent) (b : Bool)
  | null (extent : Extent)
  | self (extent : Extent)
  | name (extent : Extent) (text : String)
  | unary (extent : Extent) (op : UnaryOp) (operand : ExprTree)
  | call (extent : Extent) (function : MathFunction) (argument : ExprTree)
  | binary (extent : Extent) (op : BinaryOp) (left right : ExprTree)
  deriving DecidableEq, Repr

inductive StmtTree where
  | block (extent : Extent) (body : List StmtTree)
  | assignment (extent : Extent) (name : Word) (expression : ExprTree)
  | print (extent : Extent) (expression : ExprTree)
  | turn (extent : Extent) (angle : ExprTree)
  | fire (extent : Extent) (power : ExprTree)
  | simple (extent : Extent) (action : SimpleAction)
  | branch (extent : Extent) (condition : ExprTree) (yes : StmtTree)
  | branchElse (extent : Extent) (condition : ExprTree) (yes no : StmtTree)
  | loop (extent : Extent) (condition : ExprTree) (body : StmtTree)
  | each (extent : Extent) (kindExtent : Extent) (kind : LoopKind) (name : Word) (body : StmtTree)

inductive ItemTree where
  | declaration (extent : Extent) (typeExtent : Extent) (ty : Ty) (name : Word) (initial : Option ExprTree)
  | statement (tree : StmtTree)

structure ProgramTree where
  items : List ItemTree

def ExprTree.extent : ExprTree → Extent
  | number extent _ | truth extent _ | null extent | self extent | name extent _ | unary extent _ _
  | call extent _ _ | binary extent _ _ _ => extent

def StmtTree.extent : StmtTree → Extent
  | block extent _ | assignment extent _ _ | print extent _ | turn extent _ | fire extent _
  | simple extent _ | branch extent _ _ | branchElse extent _ _ _ | loop extent _ _
  | each extent _ _ _ _ => extent

def ItemTree.extent : ItemTree → Extent
  | declaration extent .. => extent
  | statement tree => tree.extent

/-- The extent from the first to the last item; a program without items has none. -/
def ProgramTree.extent? (p : ProgramTree) : Option Extent :=
  match p.items.head?, p.items.getLast? with
  | some first, some last => some { start := first.extent.start, stop := last.extent.stop }
  | _, _ => none

end WormLang
