import WormLang.Expr
import WormLang.Host
import WormLang.Variable

/-!
Values of expressions. An expression reads the variables, the bound entity and the world; all it can
change is the debug log, which notes every search. A fault ends the evaluation and keeps the log.
-/
namespace WormLang

/-- What an expression can read. -/
structure Env (σ : Type) where
  world : World σ
  host : σ
  table : Table Variable
  context : Context

/-- A computation that reads, notes and may fail. -/
abbrev Evaluation := EStateM Fault Log

namespace Evaluation

variable {α : Type}

def ofExcept : Except Fault α → Evaluation α
  | .ok a => pure a
  | .error f => throw f

def fail (cause : Cause) (at? : Option Position) : Evaluation α := throw { cause, position := at? }

def note (n : Note) : Evaluation Unit := modify fun log => log.push n

end Evaluation

def ArithmeticOp.apply : ArithmeticOp → Float → Float → Float
  | add, x, y => x + y
  | sub, x, y => x - y
  | mul, x, y => x * y
  | div, x, y => x / y

/-- Strict comparisons are exact, inclusive ones tolerate a small difference. -/
def OrderOp.holds : OrderOp → Float → Float → Bool
  | lt, x, y => x < y
  | gt, x, y => x > y
  | le, x, y => fuzzyLe x y tolerance
  | ge, x, y => fuzzyGe x y tolerance

def EqualityOp.holds : EqualityOp → Value → Value → Bool
  | eq, v, w => v.same w
  | ne, v, w => !v.same w

/-- Not a number, the result of a function outside its domain. -/
def undefinedNumber : Float := 0.0 / 0.0

/-- Roots of negative numbers and angles of infinite size have no value. -/
def MathFunction.apply : MathFunction → Float → Float
  | sqrt, x => if x ≥ 0.0 then x.sqrt else undefinedNumber
  | sin, x => if x.isInf then undefinedNumber else x.sin
  | cos, x => if x.isInf then undefinedNumber else x.cos

namespace Env

variable {σ α : Type} (env : Env σ)

/-- Read a capability off what a handle refers to. -/
def ask (at? : Option Position) (capability : String) (read : EntityId → Except Lack α) :
    Handle → Evaluation α
  | .null => .fail (.queryOfNull capability) at?
  | .being id =>
    match read id with
    | .ok a => pure a
    | .error .capability => .fail (.unsupported (env.world.owner env.host id) capability) at?
    | .error (.fault f) => throw f
  | .thing t => .fail (.unsupported t.owner capability) at?

def askNumber (at? : Option Position) (q : Query) (h : Handle) : Evaluation Float :=
  env.ask at? q.capability (fun id => env.world.number env.host id q) h

def askTeam (at? : Option Position) (h : Handle) : Evaluation (Option Team) :=
  env.ask at? teamCapability (fun id => env.world.team env.host id) h

/-- The value of a variable, which must still have the type that the program was built with. -/
def readVariable (at? : Option Position) (name : String) (t : Ty) : Evaluation Value := do
  let v ← .ofExcept (env.table.lookup name at?)
  if v.value.ty = t then return v.value
  else .fail (.variableRetyped name t) at?

def hasKind (k : EntityKind) : Handle → Bool
  | .being id => env.world.kind env.host id == some k
  | _ => false

/-- Ask whether there is a place to look around from. -/
def askPlace (at? : Option Position) (h : Handle) : Evaluation Unit :=
  env.ask at? Query.x.capability (fun id => if env.world.hasPlace env.host id then .ok () else .error .capability) h

def askHeading (at? : Option Position) (h : Handle) : Evaluation (Except Fault Float) :=
  env.ask at? Query.direction.capability (fun id => env.world.heading env.host id) h

/-- The nearest entity in a direction relative to the bound entity. Both capabilities are asked for before either
of them is used. -/
def lookAround (at? : Option Position) (offset : Float) : Evaluation Handle := do
  let me ← .ofExcept env.context.entity
  env.askPlace at? (.being me)
  let heading ← env.askHeading at? (.being me)
  let _ ← .ofExcept (env.context.resident env.world env.host)
  let angle := (← .ofExcept heading) + offset
  let seen ← .ofExcept (env.world.search env.host me angle)
  match seen.found with
  | some id =>
    .note (.searched seen.origin angle (env.world.written env.host id))
    return .being id
  | none =>
    .note (.searched seen.origin angle "None")
    return .null

def eval : Expr → Evaluation Value
  | .number _ x => return .number x
  | .boolean _ b => return .boolean b
  | .null _ => return .entity .null
  | .self _ => do return .entity (.being (← .ofExcept env.context.entity))
  | .access at? name t => env.readVariable at? name t
  | .arithmetic _ op l r => do
    let x := (← eval l).toNumber
    let y := (← eval r).toNumber
    return .number (op.apply x y)
  | .math _ f e => do return .number (f.apply (← eval e).toNumber)
  | .order _ op l r => do
    let x := (← eval l).toNumber
    let y := (← eval r).toNumber
    return .boolean (op.holds x y)
  | .equality _ op l r => do
    let v ← eval l
    let w ← eval r
    return .boolean (op.holds v w)
  | .logical _ op l r => do
    let a := (← eval l).toBool
    match op, a with
    | .and, false => return .boolean false
    | .or, true => return .boolean true
    | _, _ => return .boolean (← eval r).toBool
  | .negation _ e => do return .boolean (!(← eval e).toBool)
  | .query at? q e => do return .number (← env.askNumber at? q (← eval e).toHandle)
  | .sameTeam at? e => do
    let other ← env.askTeam at? (← eval e).toHandle
    let me ← .ofExcept env.context.entity
    let own ← env.askTeam at? (.being me)
    return .boolean (own.isSome && own == other)
  | .isKind _ k e => do return .boolean (env.hasKind k.kind (← eval e).toHandle)
  | .search at? e => do return .entity (← env.lookAround at? (← eval e).toNumber)
  | .placeholder fault => .fail .placeholderEvaluated fault.position

end Env

end WormLang
