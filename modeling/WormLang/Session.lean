import WormLang.Builder.OfTree
import WormLang.RunState.Loose
import WormLang.Sandbox.Records

/-!
Sessions: a program on the sandbox, driven step by step by its host. A step runs the program, binds it, edits
its variables, or changes the world; every step answers with a reply or with a fault, and a fault leaves the
session usable.

A program runs on whole budgets. A host can give any other data as one: the session lets the program run on the
statements that it pays for, and shows what is left of it.
-/
namespace WormLang

namespace Arena

/-- The worm with an identity; other beings lack the field that is asked for. -/
def worm (a : Arena) (id : EntityId) (field : String) : Except Fault Worm :=
  match a.being id with
  | .worm w => .ok w
  | b => .error { cause := .noAttribute b.owner field }

/-- Give a worm its action points back. -/
def startTurn (a : Arena) (id : EntityId) : Except Fault Arena := do
  let w ← a.worm id "start_turn"
  match a.loose? id "max_action_points" with
  | some d => return a.keep id "action_points" d
  | none => return a.setKept id "action_points" (.worm w.startTurn)

end Arena

/-- Changes of the world that a host can make. -/
inductive WorldStep where
  | add (id : EntityId)
  | remove (id : EntityId)
  | startTurn (id : EntityId)
  | write (id : EntityId) (field : String) (content : Datum)

def Arena.change (a : Arena) : WorldStep → Except Fault Arena
  | .add id => a.add id
  | .remove id => a.remove id
  | .startTurn id => a.startTurn id
  | .write id field content => a.write id field content

inductive Step where
  | run
  | bind (entity : Option EntityId) (givenHandler : Bool)
  | clear
  | world (step : WorldStep)
  | assign (name : String) (value : Datum)
  | undeclare (name : String)
  | declare (name : String) (t : Ty)
  | maxStatements (budget : Datum)
  | terminate
  | validate
  | isWellFormed
  | unparse
  | describe

inductive Reply where
  | done
  | flag (b : Bool)
  | text (s : String)
  | texts (list : List String)
  | faults (list : List Fault)

/-- What a report shows for the value of a variable. -/
inductive Shown where
  | text (s : String)
  | entity (id : EntityId)
  /-- Some other object of the host. -/
  | other

/-- What a host can see of a program and its entity. -/
structure Snapshot where
  finished : Bool
  /-- What is left of the budget, or why that cannot be told. -/
  left : Except Fault Datum
  budget : Datum
  /-- The text and the place of the statement where the next run goes on. -/
  cursor : Option (String × Option Position)
  terminated : Bool
  globals : List (String × Shown)
  /-- The place, the direction and the action points of a bound worm, or why they cannot be told. -/
  me : Except Fault (Option (List Datum))

def Value.report : Value → Shown
  | .number x => .text (Number.displayText x)
  | .boolean b => .text (boolWord b)
  | .entity .null => .text "null"
  | .entity (.being id) => .entity id
  | .entity (.thing _) => .other

/-- What a report shows of a worm: its place, its direction and its action points. -/
def Arena.reportWorm (a : Arena) (id : EntityId) : Except Fault (Option (List Datum)) := do
  match a.being id with
  | .worm _ =>
    let owner : Datum → String := fun d => d.owner a.names
    let place ← a.read id "position"
    let x ← place.part owner 0
    let y ← place.part owner 1
    return some [x, y, ← a.read id "direction", ← a.read id "action_points"]
  | _ => return none

/-- Whether executing a statement does nothing at all, not even look at the budget. -/
def Stmt.isIdle : Stmt → Bool
  | .sequence _ body => areIdle body
  | _ => false
where
  /-- Whether executing statements in order does nothing at all. -/
  areIdle : List Stmt → Bool
    | [] => true
    | s :: rest => s.isIdle && areIdle rest

structure Session extends Stage Sandbox where
  /-- The budget of later runs, if it is no whole number. -/
  loose? : Option Datum := none
  /-- The loose budget that the present state started with, and the statements that it paid for. -/
  granted? : Option (Datum × Int) := none

namespace Session

def owner (s : Session) (d : Datum) : String := d.owner s.host.arena.names

/-- A session with a program from its text. Nothing stands for the usual budget. -/
def parse (source : String) (file : Option String) (hasHandler : Bool) (budget : Datum) (host : Sandbox) :
    Except Failure Session := do
  let owner : Datum → String := fun d => d.owner host.arena.names
  let units : Except Fault Int := do (← budget.checkBudget owner defaultBudget).units owner
  let program ← Program.parse source file (Sandbox.handler? hasHandler) units
  return { program, host, loose? := budget.looseBudget?,
           granted? := budget.looseBudget?.map fun d => (d, program.maxStatements) }

def budget (s : Session) : Datum :=
  match s.granted? with
  | some (d, units) => d.afterSpending (units - s.program.state.budget).toNat
  | none => .int s.program.state.budget

def withProgram (s : Session) (p : Program) : Session := { s with program := p }

def withArena (s : Session) (a : Arena) : Session := { s with host := { s.host with arena := a } }

def edit (s : Session) (f : Table Variable → Except Fault (Table Variable)) : Except Fault (Reply × Session) := do
  let globals ← f s.program.globals
  return (.done, s.withProgram { s.program with globals })

/-- What the host sees at present. -/
def snapshot (s : Session) : Snapshot where
  finished := s.program.isFinished
  left := s.budget.leftOver s.owner
  budget := s.budget
  cursor := s.program.state.cursor.map fun node => (node.describe, node.position?)
  terminated := s.program.terminated
  globals := s.program.globals.entries.map fun (name, v) => (name, v.value.report)
  me := (s.program.context.entity?.mapM s.host.arena.reportWorm).map Option.join

/-- A step that either succeeds or changes nothing. -/
def tryStep (s : Session) : Step → Except Fault (Reply × Session)
  | .run => .ok (.done, s)
  | .bind entity givenHandler => do
    return (.done, s.withProgram (← s.program.bind entity (Sandbox.handler? givenHandler)))
  | .clear => do return (.done, { s with host := { s.host with keeper := ← s.host.keeper.clear } })
  | .world step => do return (.done, s.withArena (← s.host.arena.change step))
  | .assign name value => s.edit fun t => do
    let v ← t.fetch name
    return t.set name (← v.store s.host.arena.names value)
  | .undeclare name => s.edit (·.remove name)
  | .declare name t => s.edit (·.declare name (.ofTy t) none)
  | .maxStatements (.int n) =>
    .ok (.done, { s.withProgram { s.program with maxStatements := n } with loose? := none })
  | .maxStatements d => .ok (.done, { s with loose? := some d })
  | .terminate => .ok (.done, s.withProgram s.program.terminate)
  | .validate => .ok (.faults s.program.validate, s)
  | .isWellFormed => .ok (.flag s.program.isWellFormed, s)
  | .unparse => do return (.text (← s.program.unparse), s)
  | .describe => do
    let budget ← s.budget.shown s.host.arena.names
    .ok (.texts [s.program.describe, s.program.state.describe budget s.program.state.cursorText,
      s.program.context.describe s.host.arena.names.written, s.program.globals.describe], s)

/-- A run with a budget that cannot be compared: it fails at the first statement. -/
def runToFault (s : Session) (budget : Datum) (f : Fault) : Except Fault Unit × Session :=
  let state := s.program.state.start 0
  let log := s.log.push (.started state.cursorText)
  let s := { s.withProgram { s.program with state } with log, granted? := some (budget, 0) }
  if s.program.root.isIdle then (.ok (), s) else (.error f, s.withProgram s.program.terminate)

/-- A line of the log with what is left of a loose budget, without its fraction. -/
def noteLeft (budget : Datum) : Note → Note
  | .finished left => .finished ((budget.truncated fun _ => "").toOption.getD left)
  | n => n

def run (s : Session) : Except Fault Unit × Session :=
  match s.program.refusal? Sandbox.game.world s.host, s.loose? with
  | some cause, _ => (.error { cause }, s)
  | none, none =>
    let (r, stage) := Stage.run Sandbox.game s.toStage
    (r, { s with toStage := stage, granted? := none })
  | none, some d =>
    match d.units s.owner with
    | .error f => s.runToFault d f
    | .ok units =>
      let program := { s.program with maxStatements := units }
      let (r, stage) := Stage.run Sandbox.game { s.toStage with program, log := #[] }
      let after := { s with toStage := stage, granted? := some (d, units) }
      (r, { after with log := s.log ++ stage.log.map (noteLeft after.budget) })

/-- Make a step. Only a run can fail half way. -/
def step (s : Session) : Step → Except Fault Reply × Session
  | .run =>
    let (r, s) := s.run
    (r.map fun _ => .done, s)
  | other =>
    match s.tryStep other with
    | .ok (reply, s) => (.ok reply, s)
    | .error f => (.error f, s)

end Session

end WormLang
