import WormLang.Expr
import WormLang.Datum
import WormLang.Variable

/-!
Statements. Conditional statements (if, while, foreach) can be remembered as the place where a suspended
run goes on; each has an identity of its own, which tells it from other statements that look alike.

The checked constructors require the types of operands and refuse actions in the body of a loop over
entities.
-/
namespace WormLang

structure NodeId where
  index : Nat
  deriving DecidableEq, Repr, Inhabited

inductive Action where
  | turn (angle : Expr)
  | move
  | jump
  | toggleWeapon
  | fire (power : Expr)
  | skip
  deriving Inhabited

inductive Stmt where
  | sequence (at? : Option Position) (body : List Stmt)
  | assignment (at? : Option Position) (name : String) (expression : Expr)
  | print (at? : Option Position) (expression : Expr)
  | action (at? : Option Position) (action : Action)
  | branch (id : NodeId) (at? : Option Position) (condition : Expr) (yes no : Stmt)
  | loop (id : NodeId) (at? : Option Position) (condition : Expr) (body : Stmt)
  | each (id : NodeId) (at? : Option Position) (kind : LoopKind) (name : String) (body : Stmt)
  | placeholder (fault : Fault)
  deriving Inhabited

namespace Action

def word : Action → String
  | turn _ => "turn"
  | move => "move"
  | jump => "jump"
  | toggleWeapon => "toggleweap"
  | fire _ => "fire"
  | skip => "skip"

def describe : Action → String
  | turn angle => "Turn(" ++ angle.describe ++ ")"
  | move => "Move()"
  | jump => "Jump()"
  | toggleWeapon => "ToggleWeapon()"
  | fire power => "Fire(" ++ power.describe ++ ")"
  | skip => "Skip()"

def unparse : Action → Except Fault String
  | turn angle => do return "turn " ++ (← angle.unparse) ++ ";"
  | fire power => do return "fire " ++ (← power.unparse) ++ ";"
  | action => .ok (action.word ++ ";")

end Action

namespace Stmt

def position? : Stmt → Option Position
  | sequence at? _ | assignment at? _ _ | print at? _ | action at? _ | branch _ at? _ _ _
  | loop _ at? _ _ | each _ at? _ _ _ => at?
  | placeholder fault => fault.position

def id? : Stmt → Option NodeId
  | branch id .. | loop id .. | each id .. => some id
  | _ => none

/-- The statements directly inside a statement. -/
def children : Stmt → List Stmt
  | sequence _ body => body
  | branch _ _ _ yes no => [yes, no]
  | loop _ _ _ body | each _ _ _ _ body => [body]
  | _ => []

mutual

/-- A statement and all statements inside it, depth first. -/
def walk : Stmt → List Stmt
  | sequence at? body => sequence at? body :: walkAll body
  | branch id at? c yes no => branch id at? c yes no :: (yes.walk ++ no.walk)
  | loop id at? c body => loop id at? c body :: body.walk
  | each id at? k name body => each id at? k name body :: body.walk
  | s => [s]

/-- Statements in order, each with all statements inside it. -/
def walkAll : List Stmt → List Stmt
  | [] => []
  | s :: rest => s.walk ++ walkAll rest

end

mutual

/-- Whether an action could be performed by executing the statement. A loop over entities never acts. -/
def hasAction : Stmt → Bool
  | sequence _ body => hasActionAny body
  | action .. => true
  | branch _ _ _ yes no => yes.hasAction || no.hasAction
  | loop _ _ _ body => body.hasAction
  | _ => false

def hasActionAny : List Stmt → Bool
  | [] => false
  | s :: rest => s.hasAction || hasActionAny rest

end

def mkAction (at? : Option Position) (a : Action) : Except Fault Stmt := do
  match a with
  | .turn angle => Expr.expect at? .angle .number angle
  | .fire power => Expr.expect at? .yield .number power
  | _ => pure ()
  return action at? a

def mkAssignment (at? : Option Position) (name : String) (e : Expr) : Except Fault Stmt :=
  if name.isEmpty then .error { cause := .invalidName (Text.quoted name), position := at? }
  else .ok (assignment at? name e)

/-- A checked branch. Without an else branch, the other branch is empty and stands where the whole
statement stands. -/
def mkBranch (id : NodeId) (at? : Option Position) (condition : Expr) (yes : Stmt) (no? : Option Stmt) :
    Except Fault Stmt := do
  Expr.expect at? (.condition "if") .boolean condition
  return branch id at? condition yes (no?.getD (sequence at? []))

def mkLoop (id : NodeId) (at? : Option Position) (condition : Expr) (body : Stmt) : Except Fault Stmt := do
  Expr.expect at? (.condition "while") .boolean condition
  return loop id at? condition body

/-- A checked loop over entities: the name is not empty and the body does not act. -/
def mkEach (id : NodeId) (at? : Option Position) (kind : LoopKind) (name : String) (body : Stmt) :
    Except Fault Stmt :=
  if name.isEmpty then .error { cause := .invalidName (Text.quoted name), position := at? }
  else if body.hasAction then .error { cause := .actionInLoop, position := at? }
  else .ok (each id at? kind name body)

/-- Whether no loop over entities has an action in its body. -/
def isWellFormed (s : Stmt) : Bool :=
  s.walk.all fun
    | each _ _ _ _ body => !body.hasAction
    | _ => true

/-- The fault of an assignment or of a loop over entities with respect to the declared variables. -/
def check (table : Table Variable) : Stmt → Option Fault
  | assignment at? name e =>
    match table.get? name with
    | none => some { cause := .assignmentUndeclared name, position := at? }
    | some v =>
      match e.ty? with
      | none => none
      | some got =>
        if got = v.ty then none
        else some { cause := .assignmentType name v.ty got, position := at? }
  | each _ at? _ name _ =>
    match table.get? name with
    | none => some { cause := .loopUndeclared name, position := at? }
    | some v =>
      if v.ty = .entity then none
      else some { cause := .loopType name v.ty, position := at? }
  | _ => none

/-- All faults with respect to the declared variables, in walk order. -/
def validate (table : Table Variable) (s : Stmt) : List Fault := s.walk.filterMap (check table)

def describe : Stmt → String
  | sequence _ body => "Sequence(" ++ toString body.length ++ ")"
  | assignment _ name e => "Assignment(" ++ Text.quoted name ++ ", " ++ e.describe ++ ")"
  | print _ e => "Print(" ++ e.describe ++ ")"
  | action _ a => a.describe
  | branch _ _ c _ _ => "If(" ++ c.describe ++ ")"
  | loop _ _ c _ => "While(" ++ c.describe ++ ")"
  | each _ _ kind name _ => "ForEach(" ++ kind.name ++ ", " ++ Text.quoted name ++ ")"
  | placeholder fault => "Invalid(" ++ Text.quoted fault.message ++ ")"

/-- Texts of statements between braces. -/
def braces (body : String) : String := if body.isEmpty then "\x7b \x7d" else "\x7b " ++ body ++ " \x7d"

mutual

/-- A statement as program text. An else branch is written only if a statement is inside it. -/
def unparse : Stmt → Except Fault String
  | sequence _ body => do return braces (" ".intercalate (← unparseAll body))
  | assignment _ name e => do return name ++ " := " ++ (← e.unparse) ++ ";"
  | print _ e => do return "print " ++ (← e.unparse) ++ ";"
  | action _ a => a.unparse
  | branch _ _ c yes no => do
    let text := "if " ++ (← c.unparse) ++ " then " ++ (← yes.unparse)
    if no.children.isEmpty then return text
    else return text ++ " else " ++ (← no.unparse)
  | loop _ _ c body => do return "while " ++ (← c.unparse) ++ " " ++ (← body.unparse)
  | each _ _ kind name body => do
    return "foreach (" ++ kind.word ++ ", " ++ name ++ ") do " ++ (← body.unparse)
  | placeholder _ => .error { cause := .notImplemented "Invalid" "unparse" }

def unparseAll : List Stmt → Except Fault (List String)
  | [] => .ok []
  | s :: rest => do
    let text ← s.unparse
    return text :: (← unparseAll rest)

end

end Stmt

end WormLang
