import WormLang.Fault
import WormLang.Value

/-!
Expressions. A node knows its place in program text; its static type is read off its form. A placeholder
stands for a node that could not be built; its type is unknown and every check lets it pass, so that one
mistake is reported once.

The checked constructors are the only way to a node whose operands have the types it needs.
-/
namespace WormLang

inductive Expr where
  | number (at? : Option Position) (x : Float)
  | boolean (at? : Option Position) (b : Bool)
  | null (at? : Option Position)
  | self (at? : Option Position)
  | access (at? : Option Position) (name : String) (ty : Ty)
  | arithmetic (at? : Option Position) (op : ArithmeticOp) (left right : Expr)
  | math (at? : Option Position) (function : MathFunction) (operand : Expr)
  | order (at? : Option Position) (op : OrderOp) (left right : Expr)
  | equality (at? : Option Position) (op : EqualityOp) (left right : Expr)
  | logical (at? : Option Position) (op : LogicalOp) (left right : Expr)
  | negation (at? : Option Position) (operand : Expr)
  | query (at? : Option Position) (query : Query) (operand : Expr)
  | sameTeam (at? : Option Position) (operand : Expr)
  | isKind (at? : Option Position) (kind : TestKind) (operand : Expr)
  | search (at? : Option Position) (offset : Expr)
  | placeholder (fault : Fault)
  deriving Inhabited

namespace Expr

def position? : Expr → Option Position
  | number at? _ | boolean at? _ | null at? | self at? | access at? _ _ | arithmetic at? _ _ _
  | math at? _ _ | order at? _ _ _ | equality at? _ _ _ | logical at? _ _ _ | negation at? _
  | query at? _ _ | sameTeam at? _ | isKind at? _ _ | search at? _ => at?
  | placeholder fault => fault.position

/-- The static type of an expression; unknown for a placeholder. -/
def ty? : Expr → Option Ty
  | number .. | arithmetic .. | math .. | query .. => some .number
  | boolean .. | order .. | equality .. | logical .. | negation .. | sameTeam .. | isKind .. => some .boolean
  | null _ | self _ | search .. => some .entity
  | access _ _ t => some t
  | placeholder _ => none

/-- Require a type of an operand; an unknown type passes. -/
def expect (at? : Option Position) (place : Place) (expected : Ty) (operand : Expr) :
    Except Fault Unit :=
  match operand.ty? with
  | none => .ok ()
  | some got =>
    if got = expected then .ok ()
    else .error { cause := .operandType place expected got, position := at? }

def mkArithmetic (at? : Option Position) (op : ArithmeticOp) (left right : Expr) : Except Fault Expr := do
  expect at? (.left op.symbol) .number left
  expect at? (.right op.symbol) .number right
  return arithmetic at? op left right

def mkMath (at? : Option Position) (function : MathFunction) (operand : Expr) : Except Fault Expr := do
  expect at? (.argument function.word) .number operand
  return math at? function operand

def mkOrder (at? : Option Position) (op : OrderOp) (left right : Expr) : Except Fault Expr := do
  expect at? (.left op.symbol) .number left
  expect at? (.right op.symbol) .number right
  return order at? op left right

/-- A checked equality: both operands have one type. -/
def mkEquality (at? : Option Position) (op : EqualityOp) (left right : Expr) : Except Fault Expr :=
  match left.ty?, right.ty? with
  | some l, some r =>
    if l = r then .ok (equality at? op left right)
    else .error { cause := .mixedEquality op l r, position := at? }
  | _, _ => .ok (equality at? op left right)

def mkLogical (at? : Option Position) (op : LogicalOp) (left right : Expr) : Except Fault Expr := do
  expect at? (.left op.symbol) .boolean left
  expect at? (.right op.symbol) .boolean right
  return logical at? op left right

def mkNegation (at? : Option Position) (operand : Expr) : Except Fault Expr := do
  expect at? .negated .boolean operand
  return negation at? operand

def mkQuery (at? : Option Position) (q : Query) (operand : Expr) : Except Fault Expr := do
  expect at? (.argument q.word) .entity operand
  return query at? q operand

def mkSameTeam (at? : Option Position) (operand : Expr) : Except Fault Expr := do
  expect at? (.argument "sameteam") .entity operand
  return sameTeam at? operand

def mkIsKind (at? : Option Position) (kind : TestKind) (operand : Expr) : Except Fault Expr := do
  expect at? (.argument kind.word) .entity operand
  return isKind at? kind operand

def mkSearch (at? : Option Position) (offset : Expr) : Except Fault Expr := do
  expect at? (.argument "searchobj") .number offset
  return search at? offset

/-- A variable access by a name that is not empty. -/
def mkAccess (at? : Option Position) (name : String) (t : Ty) : Except Fault Expr :=
  if name.isEmpty then .error { cause := .invalidName (Text.quoted name), position := at? }
  else .ok (access at? name t)

def describe : Expr → String
  | number _ x => "Number(" ++ Number.text x ++ ")"
  | boolean _ b => "Boolean(" ++ boolName b ++ ")"
  | null _ => "Null()"
  | self _ => "Self()"
  | access _ name t => "VariableAccess(" ++ Text.quoted name ++ ", " ++ t.keyword ++ ")"
  | arithmetic _ op l r =>
    "ArithmeticOp(" ++ l.describe ++ ", " ++ Text.quoted op.symbol ++ ", " ++ r.describe ++ ")"
  | math _ f e => "MathFunction(" ++ Text.quoted f.word ++ ", " ++ e.describe ++ ")"
  | order _ op l r =>
    "ComparisonOp(" ++ l.describe ++ ", " ++ Text.quoted op.symbol ++ ", " ++ r.describe ++ ")"
  | equality _ op l r =>
    "EqualityOp(" ++ l.describe ++ ", " ++ Text.quoted op.symbol ++ ", " ++ r.describe ++ ")"
  | logical _ op l r =>
    "LogicalOp(" ++ l.describe ++ ", " ++ Text.quoted op.symbol ++ ", " ++ r.describe ++ ")"
  | negation _ e => "NotOp(" ++ e.describe ++ ")"
  | query _ q e => "EntityQuery(" ++ Text.quoted q.word ++ ", " ++ e.describe ++ ")"
  | sameTeam _ e => "SameTeam(" ++ e.describe ++ ")"
  | isKind _ k e => "IsKind(" ++ k.kind.name ++ ", " ++ e.describe ++ ")"
  | search _ e => "SearchObject(" ++ e.describe ++ ")"
  | placeholder fault => "Invalid(" ++ Text.quoted fault.message ++ ")"

def binaryText (left symbol right : String) : String :=
  "(" ++ left ++ " " ++ symbol ++ " " ++ right ++ ")"

/-- An expression as program text. Operations on two operands stand in full parentheses, so that the text
reads back as the same expression. A placeholder has no program text. -/
def unparse : Expr → Except Fault String
  | number _ x => .ok (Number.displayText x)
  | boolean _ b => .ok (boolWord b)
  | null _ => .ok "null"
  | self _ => .ok "self"
  | access _ name _ => .ok name
  | arithmetic _ op l r => do return binaryText (← l.unparse) op.symbol (← r.unparse)
  | math _ f e => do return f.word ++ "(" ++ (← e.unparse) ++ ")"
  | order _ op l r => do return binaryText (← l.unparse) op.symbol (← r.unparse)
  | equality _ op l r => do return binaryText (← l.unparse) op.symbol (← r.unparse)
  | logical _ op l r => do return binaryText (← l.unparse) op.symbol (← r.unparse)
  | negation _ e => do return "!" ++ (← e.unparse)
  | query _ q e => do return q.word ++ " " ++ (← e.unparse)
  | sameTeam _ e => do return "sameteam " ++ (← e.unparse)
  | isKind _ k e => do return k.word ++ " " ++ (← e.unparse)
  | search _ e => do return "searchobj " ++ (← e.unparse)
  | placeholder _ => .error { cause := .notImplemented "Invalid" "unparse" }

end Expr

end WormLang
