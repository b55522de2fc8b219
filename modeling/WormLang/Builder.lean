import WormLang.Form
import WormLang.Program

/-!
Building programs with collected faults. A builder declares variables and keeps nodes. A node that fails its
checks does not stop the build: its fault is collected and a placeholder takes its place, so one pass finds
every construction fault of a program. Checks that need all declarations are left to `Program.validate`.
-/
namespace WormLang

/-- The state of a build. -/
structure Builder where
  globals : Table Variable := {}
  /-- Construction faults, in build order. -/
  faults : Array Fault := #[]
  handler? : Option HandlerId := none
  /-- The identity for the next conditional statement. -/
  nextId : Nat := 0
  log : Log := #[]
  deriving Inhabited

/-- A computation that builds. -/
abbrev Build := StateM Builder

/-- Why no program came out of a build or of program text. -/
inductive Failure where
  /-- Every fault that was found, and what the debug log says about them. -/
  | rejected (faults : List Fault) (log : Log)
  | fault (f : Fault)

namespace Builder

def failed (b : Builder) : Bool := !b.faults.isEmpty

def collect (f : Fault) : Build Unit := modify fun b => { b with faults := b.faults.push f }

/-- An identity that no other conditional statement of this build has. -/
def freshId : Build NodeId := modifyGet fun b => (⟨b.nextId⟩, { b with nextId := b.nextId + 1 })

/-- Collect the fault of a node that failed its checks, and note it. -/
def reject (form : Form) (f : Fault) : Build Unit :=
  modify fun b => { b with faults := b.faults.push f, log := b.log.push (.rejected form.name f) }

def keepExpr (form : Form) : Except Fault Expr → Build Expr
  | .ok e => return e
  | .error f => do
    reject form f
    return .placeholder f

def keepStmt (form : Form) : Except Fault Stmt → Build Stmt
  | .ok s => return s
  | .error f => do
    reject form f
    return .placeholder f

/-- Declare a variable; none if the declaration failed. -/
def declare (at? : Option Position) (name : String) (t : Ty) : Build (Option Variable) := do
  match (← get).globals.declare name (.ofTy t) at? with
  | .ok globals =>
    modify fun b => { b with globals }
    return some (.ofTy t)
  | .error f =>
    collect f
    return none

def access (at? : Option Position) (name : String) : Build Expr := do
  match (← get).globals.get? name with
  | some v => keepExpr .access (Expr.mkAccess at? name v.ty)
  | none =>
    let f : Fault := { cause := .notDeclared name, position := at? }
    collect f
    return .placeholder f

/-- The negative of a number: zero minus the operand. -/
def negative (at? : Option Position) (operand : Expr) : Build Expr :=
  keepExpr .arithmetic (Expr.mkArithmetic at? .sub (.number at? 0.0) operand)

def branch (at? : Option Position) (condition : Expr) (yes : Stmt) (no? : Option Stmt) : Build Stmt := do
  keepStmt .branch (Stmt.mkBranch (← freshId) at? condition yes no?)

def loop (at? : Option Position) (condition : Expr) (body : Stmt) : Build Stmt := do
  keepStmt .loop (Stmt.mkLoop (← freshId) at? condition body)

def each (at? : Option Position) (kind : LoopKind) (name : String) (body : Stmt) : Build Stmt := do
  keepStmt .each (Stmt.mkEach (← freshId) at? kind name body)

/-- The program with a root statement, unless a fault was collected. -/
def program (b : Builder) (root : Stmt) (budget : Except Fault Int) : Except Failure Program :=
  if b.failed then .error (.rejected b.faults.toList b.log)
  else (Program.make root b.globals b.handler? budget).mapError .fault

end Builder

end WormLang
