import WormLang.Session
import WormLang.Workbench.Execution

/-!
Programs on the workbench. They are made of loose statements, share the variables of the workbench, and are
driven by the same steps as a program from text. A run that fails for any reason ends the program for good.
-/
namespace WormLang

namespace Act

def isStatement (d : Datum) : Act Bool := do
  match d with
  | .object (.node i) => return (← node i).form.isStatement
  | _ => return false

def makeProgram (root : Datum) (hasTable : Bool) (budget : Datum) : Act Datum := do
  if !(← isStatement root) then fail (.programNeedsStatement ((← get).sortText root))
  if !hasTable then fail (.programNeedsTable "<class 'dict'>")
  let maxStatements ← .ofExcept (budget.checkBudget (← get).owner defaultBudget)
  modifyGet fun w =>
    let s : Script := { statement := root, maxStatements, hasHandler := w.sandbox.keeper.isPresent }
    (.object (.program w.scripts.size), { w with scripts := w.scripts.push s })

/-- Visit a statement and the statements inside it, each before those inside it, until a visit says stop; down
to a depth. -/
def walkTo {α : Type} (visit : α → Datum → Act (α × Bool)) : Nat → α → Datum → Act (α × Bool)
  | 0, _, _ => fail .tooDeep
  | depth + 1, a, d => do
    let _ ← callee d "walk" Form.isStatement
    let (a, goOn) ← visit a d
    if !goOn then return (a, false)
    (← children d).foldlM (fun (a, goOn) child => if goOn then walkTo visit depth a child else return (a, false))
      (a, true)

def walk {α : Type} (visit : α → Datum → Act (α × Bool)) (start : α) (d : Datum) : Act α := do
  return (← walkTo visit deepest start d).1

/-- The semantic fault of one statement. A slot can take the place of the check. -/
def check (d : Datum) : Act (Option Fault) := do
  match d with
  | .object (.node i) =>
    let n ← node i
    match n.slot? "check", n.form with
    | some .null, _ => return none
    | some hidden, _ => fail (.notCallable ((← get).owner hidden))
    | none, .assignment => checkAssignment d
    | none, .each => checkEach d
    | none, _ => return none
  | _ => return none

/-- The faults that need the complete set of declarations, in source order. -/
def validate (root : Datum) : Act (List Fault) :=
  walk (fun found d => do return (found ++ (← check d).toList, true)) [] root

/-- Whether a statement is a foreach whose body contains an action. -/
def isActingLoop (d : Datum) : Act Bool := do
  match d with
  | .object (.node i) => if (← node i).form == .each then do acts (← field d "body") else return false
  | _ => return false

def isWellFormed (root : Datum) : Act Bool :=
  walk (fun _ d => do
    let good := !(← isActingLoop d)
    return (good, good)) true root

/-- Why a program cannot be run at present. -/
def refusal? (s : Script) : Act (Option Cause) := do
  if s.terminated then return some .terminated
  match s.context.entity? with
  | none => return some .unbound
  | some id => return if (← get).sandbox.arena.isPlaced id then none else some .noWorld

/-- One run of the root statement: seek the cursor if there is one; if the walk ends without reaching it, start
over with the cursor forgotten. -/
def runRoot (i : Nat) : Act Unit := do
  let done ← execute (some i) (← script i).statement
  let done ←
    if done && (← script i).state.seeking then do
      update (some i) RunState.complete
      execute (some i) (← script i).statement
    else pure done
  update (some i) fun s => if done then s.complete else { s with finished := false }

def run (i : Nat) : Act Unit := do
  let s ← script i
  if let some cause ← refusal? s then fail cause
  setScript i { s with state := s.state.start s.maxStatements }
  match runRoot i (← get) with
  | .ok () w => set w
  | .error failure w =>
    set w
    setScript i { ← script i with terminated := true }
    throw failure

def cursorText (s : Script) : Act String :=
  match s.state.cursor with
  | some i => written (.object (.node i))
  | none => return "None"

def changeWorld (step : WorldStep) : Act Unit := do
  let w ← get
  let arena ← .ofExcept (w.sandbox.arena.change step)
  set { w with sandbox := { w.sandbox with arena } }

def step (i : Nat) (step : Step) : Act Reply := do
  let s ← script i
  match step with
  | .run => run i
  | .bind entity givenHandler =>
    let hasHandler := givenHandler || s.hasHandler
    setScript i { s with context := ← .ofExcept (s.context.bind entity hasHandler), hasHandler }
  | .clear =>
    let w ← get
    let keeper ← .ofExcept w.sandbox.keeper.clear
    set { w with sandbox := { w.sandbox with keeper } }
  | .world step => changeWorld step
  | .assign name value => do store (← fetch (.text name)) value
  | .undeclare name => drop (.text name)
  | .declare name t => let _ ← declare (.text name) (.ty t) .null
  | .maxStatements n => setScript i { s with maxStatements := n }
  | .terminate => setScript i { s with terminated := true }
  | .validate => return .faults (← validate s.statement)
  | .isWellFormed => return .flag (← isWellFormed s.statement)
  | .unparse => return .text (← shown (← source (.object (.program i))))
  | .describe =>
    let state := s.state.describe (← shown s.state.budget) (← cursorText s)
    let names := (← get).names
    return .texts [← written (.object (.program i)), state, s.context.describe names.written,
      ← written (.object .table)]
  return .done

def report (i : Nat) : Act Shown := do
  match (← cell i).content with
  | .value _ .entity (.being id) => return .entity id
  | .value _ .entity .null => return .text "null"
  | .value _ .entity _ => return .other
  | d => return .text (← display d)

def snapshot (i : Nat) : Act Snapshot := do
  let s ← script i
  let w ← get
  let cursor ← s.state.cursor.mapM fun n => do
    return (← written (.object (.node n)), ← toPlace (← field (.object (.node n)) "position"))
  let globals ← w.table.entries.mapM fun (name, index) => do return (name, ← report index)
  return { finished := s.state.finished, left := s.state.budget.leftOver w.owner, budget := s.state.budget, cursor,
           terminated := s.terminated, globals, me := (s.context.entity?.mapM w.sandbox.arena.reportWorm).map Option.join }

end Act

end WormLang
