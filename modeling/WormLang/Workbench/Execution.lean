import WormLang.Workbench.Evaluation

/-!
Execution of loose statements, in a program of the workbench or without any. A statement answers whether it ran
to its end, under the same rules of budget and cursor as in a program from text; the cursor is a node by its
number. A sequence needs no program, every other statement asks it for its state first.
-/
namespace WormLang

namespace Act

/-- The bookkeeping of a program, which must be there. -/
def stateOf (program? : Option Nat) : Act (RunState Nat Datum) := do
  match program? with
  | some i => return (← script i).state
  | none => lacks .null "state"

def update (program? : Option Nat) (f : RunState Nat Datum → RunState Nat Datum) : Act Unit := do
  match program? with
  | some i =>
    let s ← script i
    setScript i { s with state := f s.state }
  | none => return

def isExhausted (s : RunState Nat Datum) : Act Bool := do .ofExcept (s.isExhausted (← get).owner)

def charge (program? : Option Nat) : Act Unit := do
  let s ← .ofExcept ((← stateOf program?).spend (← get).owner)
  update program? fun _ => s

/-- The entity that a program is bound to. -/
def contextOf (program? : Option Nat) : Act Context := do
  match program? with
  | some i => return (← script i).context
  | none => lacks .null "context"

def ask (record : Record) : Act Datum := do
  let w ← get
  let (answer, sandbox) := Sandbox.handle record w.sandbox
  set { w with sandbox }
  .ofExcept answer

/-- Ask the handler for a deed: whether it is done. -/
def perform (record : Record) : Act Bool := return (← ask record).isTruthy

def print (d : Datum) : Act Unit := do
  let w ← get
  let (done, sandbox) := Sandbox.print d w.sandbox
  set { w with sandbox }
  .ofExcept done

/-- Ask the handler for a turn by an angle, which the handler that records looks at first. The record shows the
angle as it was given. -/
def performTurn (me : EntityId) (angle : Datum) : Act Bool := do
  let owner := (← get).owner
  let measure ← written angle
  match angle.toQuantity owner, (← get).sandbox.keeper with
  | .error f, .recording _ => throw (.fault f)
  | .error _, _ => perform { deed := .turn 0.0, entity := me, measure? := some measure }
  | .ok x, _ => do perform { deed := .turn (← .ofExcept x.toDouble), entity := me, measure? := some measure }

/-- A statement without statements inside: it stops if the budget is used up, is skipped while seeking, and
otherwise spends a unit and takes effect. -/
def leaf (program? : Option Nat) (effect : Act Bool) : Act Bool := do
  let s ← stateOf program?
  if ← isExhausted s then return false
  else if s.seeking then return true
  else
    charge program?
    effect

def conditional (program? : Option Nat) (i : Nat) (body : Act Bool) : Act Bool := do
  let s ← stateOf program?
  if ← isExhausted s then
    update program? (·.suspendAt i)
    return false
  else
    if s.seeking then
      if s.cursor == some i then
        update program? RunState.resume
        charge program?
    else charge program?
    if ← body then return true
    else
      update program? (·.suspendAt i)
      return false

/-- The turns of a while loop, at most `turns` of them: each spends a unit before its test. -/
def whileLoop (program? : Option Nat) (test body : Act Bool) : (turns : Nat) → Act Bool
  | 0 => return false
  | turns + 1 => do
    if ← isExhausted (← stateOf program?) then return false
    else
      charge program?
      if ← test then
        if ← body then whileLoop program? test body turns else return false
      else return true

/-- The turns of a foreach loop: each live turn spends a unit. A seeking turn that does not find the cursor is
the last one. -/
def eachLoop (program? : Option Nat) (assign : EntityId → Act Unit) (body : Act Bool) : List EntityId → Act Bool
  | [] => return true
  | entity :: rest => do
    let s ← stateOf program?
    if ← isExhausted s then return false
    else
      if !s.seeking then charge program?
      assign entity
      if ← body then
        if s.seeking && (← stateOf program?).seeking then return true else eachLoop program? assign body rest
      else return false

/-- The semantic fault of an assignment: its variable is missing or of another type. -/
def checkAssignment (d : Datum) : Act (Option Fault) := do
  let position ← field d "position"
  let name ← field d "name"
  match ← lookupIn? (← field d "table") "get" name with
  | none => return some { cause := .assignmentUndeclared (← shown name), position := ← toPlace position }
  | some i =>
    let declared := (← cell i).ty
    let got ← field (← field d "expression") "type"
    if got.isSame .null || got.isSame declared then return none
    let declared ← toTy declared
    let got ← toTy got
    return some { cause := .assignmentType (← shown name) declared got, position := ← toPlace position }

/-- The semantic fault of a loop over entities: its variable is missing or holds no entities. -/
def checkEach (d : Datum) : Act (Option Fault) := do
  let position ← field d "position"
  let name ← field d "name"
  match ← lookupIn? (← field d "table") "get" name with
  | none => return some { cause := .loopUndeclared (← shown name), position := ← toPlace position }
  | some i =>
    let declared := (← cell i).ty
    if declared.isSame (.ty .entity) then return none
    let declared ← toTy declared
    return some { cause := .loopType (← shown name) declared, position := ← toPlace position }

def assign (c : Context) (d : Datum) : Act Bool := do
  let name ← field d "name"
  match ← lookupIn? (← field d "table") "get" name with
  | none => failAt (.assignmentVanished (← shown name)) (← field d "position")
  | some i =>
    let value ← evaluate c (← field d "expression")
    if ← cellAccepts i value then
      store i value
      return true
    let got ← toTy (← field value "type")
    let declared ← toTy (← cell i).ty
    failAt (.assignmentMismatch got declared (← shown name)) (← field d "position")

def printValue (c : Context) (d : Datum) : Act Bool := do
  let value ← evaluate c (← field d "expression")
  let _ ← .ofExcept c.actor
  print (.text (← display value))
  return true

def attempt (c : Context) (form : Form) (d : Datum) : Act Bool := do
  let me ← .ofExcept c.actor
  let _ ← callee d "perform" Form.isAction
  let data (name : String) : Act Datum := do field (← evaluate c (← field d name)) "data"
  match form with
  | .turn => do performTurn me (← data "angle")
  | .move => perform { deed := .move, entity := me }
  | .jump => perform { deed := .jump, entity := me }
  | .toggleWeapon => perform { deed := .toggleWeapon, entity := me }
  | .fire =>
    let power ← data "yield_"
    perform { deed := .fire (← .ofExcept (power.truncated (← get).owner)), entity := me }
  | _ => return true

/-- The cause of a failing loop for what a check of the loop found. -/
def loopCause : Cause → Cause
  | .loopUndeclared name => .loopVanished name
  | .loopType name declared => .loopMismatch name declared
  | cause => cause

/-- The variable and the entities of a foreach loop, fetched when the loop starts. -/
def loopMembers (c : Context) (d : Datum) : Act (Nat × List EntityId) := do
  if let some f ← checkEach d then failAt (loopCause f.cause) (← field d "position")
  let i ← fetch (← field d "name")
  let arena := (← get).sandbox.arena
  let _ ← .ofExcept (c.resident Arena.world arena)
  match ← field d "kind" with
  | .loopKind kind => return (i, ← .ofExcept (arena.collection kind))
  | kind => fail (.unknownLoopKind (← written kind))

/-- Execute a node, given how other data is executed. -/
def executeNode (program? : Option Nat) (execute : Datum → Act Bool) (i : Nat) (form : Form) (d : Datum) :
    Act Bool := do
  let inner (name : String) : Act Bool := do execute (← field d name)
  let seeking : Act Bool := do return (← stateOf program?).seeking
  let holds : Act Bool := do
    let value ← evaluate (← contextOf program?) (← field d "condition")
    return (← field value "data").isTruthy
  match form with
  | .sequence => do (← .ofExcept ((← field d "statements").parts (← get).owner)).allM execute
  | .assignment => leaf program? do assign (← contextOf program?) d
  | .print => leaf program? do printValue (← contextOf program?) d
  | .branch => conditional program? i do
    let _ ← callee d "perform" Form.isStatement
    if ← seeking then
      if ← inner "then" then
        if ← seeking then inner "otherwise" else return true
      else return false
    else if ← holds then inner "then"
    else inner "otherwise"
  | .loop => conditional program? i do
    let _ ← callee d "perform" Form.isStatement
    let turns : Act Bool := do
      let units ← .ofExcept ((← stateOf program?).budget.units (← get).owner)
      whileLoop program? holds (inner "body") units.toNat
    if ← seeking then
      if ← inner "body" then
        if ← seeking then return true else turns
      else return false
    else turns
  | .each => conditional program? i do
    let _ ← callee d "perform" Form.isStatement
    let (target, members) ← loopMembers (← contextOf program?) d
    eachLoop program? (fun id => do store target (← ofEntity (.being id))) (inner "body") members
  | .placeholder => do failAt .placeholderExecuted (← field d "position")
  | form => leaf program? do attempt (← contextOf program?) form d

/-- Execute data, down to a depth. -/
def executeTo (program? : Option Nat) : Nat → Datum → Act Bool
  | 0, _ => fail .tooDeep
  | depth + 1, d => do
    let (i, n) ← callee d "execute" Form.isStatement
    executeNode program? (executeTo program? depth) i n.form d

def execute (program? : Option Nat) (d : Datum) : Act Bool := executeTo program? deepest d

end Act

end WormLang
