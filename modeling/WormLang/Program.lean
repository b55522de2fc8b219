import WormLang.Execution

/-!
Programs: a root statement with its global variables, bound once to an entity and run once per turn. A
run gets a fresh budget. A run that cannot end leaves a cursor behind, where the next run goes on; a run
that fails ends the program for good.
-/
namespace WormLang

/-- The budget of a run unless another one is given. -/
def defaultBudget : Int := 1000

/-- The budget of a new program, which cannot be negative. -/
def checkedBudget (given : Option Int) : Except Fault Int :=
  let budget := given.getD defaultBudget
  if budget < 0 then .error { cause := .negativeBudget } else .ok budget

structure Program where
  root : Stmt
  globals : Table Variable
  /-- The handler that the program was built with, or bound with later. -/
  handler? : Option HandlerId := none
  maxStatements : Int := defaultBudget
  context : Context := {}
  state : RunState Stmt := { budget := maxStatements }
  terminated : Bool := false
  deriving Inhabited

/-- A program in its game: what a run can change. -/
structure Stage (σ : Type) where
  program : Program
  host : σ
  log : Log := #[]

namespace Program

/-- A new program, unbound, unless its budget is refused. -/
def make (root : Stmt) (globals : Table Variable) (handler? : Option HandlerId) (budget : Except Fault Int) :
    Except Fault Program := do
  return { root, globals, handler?, maxStatements := ← budget }

/-- Bind an entity, with the handler that the program was built with unless one is given. -/
def bind (p : Program) (entity : Option EntityId) (given? : Option HandlerId) : Except Fault Program := do
  let handler? := given?.or p.handler?
  let context ← p.context.bind entity handler?.isSome
  return { p with context, handler? }

def terminate (p : Program) : Program := { p with terminated := true }

/-- Whether the last run completed the whole program. -/
def isFinished (p : Program) : Bool := p.state.finished

def remainingBudget (p : Program) : Int := p.state.remaining

/-- The faults that need the complete set of declarations, in source order. -/
def validate (p : Program) : List Fault := p.root.validate p.globals

def isWellFormed (p : Program) : Bool := p.root.isWellFormed

/-- The program as text: declarations first, then the statements of the root, one a line. First values are not
repeated in the declarations, since they are assignments among the statements. -/
def unparse (p : Program) : Except Fault String := do
  let declarations := p.globals.entries.map fun (name, v) => v.ty.keyword ++ " " ++ name ++ ";"
  let statements ←
    match p.root with
    | .sequence _ body => Stmt.unparseAll body
    | root => root.unparse.map ([·])
  return "\n".intercalate (declarations ++ statements)

def describe (p : Program) : String := "Program<" ++ toString p.globals.size ++ " globals>"

/-- Why a program cannot be run at present. -/
def refusal? {σ : Type} (world : World σ) (host : σ) (p : Program) : Option Cause :=
  if p.terminated then some .terminated
  else
    match p.context.entity? with
    | none => some .unbound
    | some id => if world.isPlaced host id then none else some .noWorld

end Program

namespace Exec

variable {σ : Type}

/-- One run of a root statement: seek the cursor if there is one; if the walk ends without reaching it, start
over from the beginning with the cursor forgotten. -/
def runRoot (setting : Setting σ) (root : Stmt) : Exec σ Bool := do
  note (.started (← state).cursorText)
  if ← exec setting root then
    let s ← state
    if s.seeking then
      note (.notFound s.cursorText)
      update RunState.complete
      exec setting root
    else return true
  else return false

/-- One run with its outcome written down. -/
def runToEnd (setting : Setting σ) (root : Stmt) : Exec σ Unit := do
  if ← runRoot setting root then
    update RunState.complete
    note (.finished (← state).budget)
  else
    update fun s => { s with finished := false }
    note (.suspended (← state).cursorText)

end Exec

namespace Stage

variable {σ : Type}

def machine (s : Stage σ) : Machine σ :=
  { table := s.program.globals, run := s.program.state, host := s.host, log := s.log }

/-- Take over what a machine did. -/
def absorb (s : Stage σ) (m : Machine σ) : Stage σ :=
  { s with program := { s.program with globals := m.table, state := m.run }, host := m.host, log := m.log }

def setting (game : Game σ) (s : Stage σ) : Setting σ := { game, context := s.program.context }

/-- Run the program once. A run that fails terminates the program. -/
def run (game : Game σ) (s : Stage σ) : Except Fault Unit × Stage σ :=
  match s.program.refusal? game.world s.host with
  | some cause => (.error { cause }, s)
  | none =>
    let started := { s.machine with run := s.program.state.start s.program.maxStatements }
    match Exec.runToEnd (s.setting game) s.program.root started with
    | .ok () m => (.ok (), s.absorb m)
    | .error f m =>
      let after := s.absorb m
      (.error f, { after with program := after.program.terminate })

/-- Execute one statement in the present state of the program, outside of any run. -/
def execute (game : Game σ) (s : Stage σ) (stmt : Stmt) : Except Fault Bool × Stage σ :=
  match Exec.exec (s.setting game) stmt s.machine with
  | .ok done m => (.ok done, s.absorb m)
  | .error f m => (.error f, s.absorb m)

end Stage

end WormLang
