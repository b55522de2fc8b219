import WormLang.Stmt

/-!
Sorts of nodes, by the names that messages and hosts use for them.
-/
namespace WormLang

inductive Form where
  | number
  | boolean
  | null
  | self
  | access
  | arithmetic
  | math
  | order
  | equality
  | logical
  | negation
  | query
  | sameTeam
  | isKind
  | search
  | sequence
  | assignment
  | print
  | turn
  | move
  | jump
  | toggleWeapon
  | fire
  | skip
  | branch
  | loop
  | each
  | placeholder
  deriving DecidableEq, Repr

namespace Form

def name : Form → String
  | number => "Number"
  | boolean => "Boolean"
  | null => "Null"
  | self => "Self"
  | access => "VariableAccess"
  | arithmetic => "ArithmeticOp"
  | math => "MathFunction"
  | order => "ComparisonOp"
  | equality => "EqualityOp"
  | logical => "LogicalOp"
  | negation => "NotOp"
  | query => "EntityQuery"
  | sameTeam => "SameTeam"
  | isKind => "IsKind"
  | search => "SearchObject"
  | sequence => "Sequence"
  | assignment => "Assignment"
  | print => "Print"
  | turn => "Turn"
  | move => "Move"
  | jump => "Jump"
  | toggleWeapon => "ToggleWeapon"
  | fire => "Fire"
  | skip => "Skip"
  | branch => "If"
  | loop => "While"
  | each => "ForEach"
  | placeholder => "Invalid"

/-- The family that messages name before the sort. -/
def family : Form → String
  | number | boolean | null => "literal"
  | self | query | sameTeam | isKind | search => "entity"
  | access => "ident"
  | arithmetic | math | order | equality | logical | negation => "op"
  | sequence | assignment | print => "stmt"
  | turn | move | jump | toggleWeapon | fire | skip => "action"
  | branch | loop | each => "flow"
  | placeholder => "base"

def path (f : Form) : String := "wormscript.ast._" ++ f.family ++ "." ++ f.name

def all : List Form :=
  [number, boolean, null, self, access, arithmetic, math, order, equality, logical, negation, query,
    sameTeam, isKind, search, sequence, assignment, print, turn, move, jump, toggleWeapon, fire, skip,
    branch, loop, each, placeholder]

def ofName? (s : String) : Option Form := all.find? (·.name == s)

/-- Whether nodes of the sort have a value. -/
def isExpression (f : Form) : Bool :=
  match f.family with
  | "literal" | "entity" | "ident" | "op" | "base" => true
  | _ => false

def isStatement (f : Form) : Bool := !f.isExpression || f == placeholder

def isAction (f : Form) : Bool := f.family == "action"

/-- The type that every node of the sort has. -/
def ty? : Form → Option Ty
  | number | arithmetic | math | query => some .number
  | boolean | order | equality | logical | negation | sameTeam | isKind => some .boolean
  | null | self | search => some .entity
  | _ => none

def word? : Form → Option String
  | turn => some "turn"
  | move => some "move"
  | jump => some "jump"
  | toggleWeapon => some "toggleweap"
  | fire => some "fire"
  | skip => some "skip"
  | _ => none

/-- What a node of the sort is made of, in order. -/
def operands : Form → List String
  | number | boolean => ["value"]
  | access => ["name", "type", "table"]
  | arithmetic | order | equality | logical => ["op", "left", "right"]
  | math => ["name", "operand"]
  | negation | sameTeam => ["operand"]
  | query => ["query", "operand"]
  | isKind => ["kind", "operand"]
  | search => ["offset"]
  | sequence => ["statements"]
  | assignment => ["name", "expression", "table"]
  | print => ["expression"]
  | turn => ["angle"]
  | fire => ["yield_"]
  | branch => ["condition", "then", "otherwise"]
  | loop => ["condition", "body"]
  | each => ["kind", "name", "body", "table"]
  | placeholder => ["error"]
  | null | self | move | jump | toggleWeapon | skip => []

end Form

def Expr.form : Expr → Form
  | number .. => .number
  | boolean .. => .boolean
  | null _ => .null
  | self _ => .self
  | access .. => .access
  | arithmetic .. => .arithmetic
  | math .. => .math
  | order .. => .order
  | equality .. => .equality
  | logical .. => .logical
  | negation .. => .negation
  | query .. => .query
  | sameTeam .. => .sameTeam
  | isKind .. => .isKind
  | search .. => .search
  | placeholder _ => .placeholder

def Action.form : Action → Form
  | turn _ => .turn
  | move => .move
  | jump => .jump
  | toggleWeapon => .toggleWeapon
  | fire _ => .fire
  | skip => .skip

def Stmt.form : Stmt → Form
  | sequence .. => .sequence
  | assignment .. => .assignment
  | print .. => .print
  | action _ a => a.form
  | branch .. => .branch
  | loop .. => .loop
  | each .. => .each
  | placeholder _ => .placeholder

end WormLang
