import WormLang.RunState
import WormLang.Expr.Eval
import WormLang.Number.Arithmetic

/-!
Execution of statements. A statement answers `true` if it ran to its end and `false` if the run must stop:
the budget is used up, or the handler refused an action. The failure passes up unchanged; the first
conditional statement that it passes, the innermost one, becomes the cursor.

A run that starts with a cursor seeks it first: it walks the tree without spending budget, performing
actions or assigning, until it reaches the cursor, and goes on live from the beginning of that statement.
While seeking, conditions do not count: an if tries both branches, a while its body once, and a foreach
its body for the first entity.

Execution is recursion on the tree. A while statement repeats its body at most as often as there is budget,
since every turn of the loop spends a unit.
-/
namespace WormLang

/-- Everything that execution can change. -/
structure Machine (σ : Type) where
  table : Table Variable
  run : RunState Stmt
  host : σ
  log : Log

/-- A computation on the machine that may fail; a failure keeps what was changed before it. -/
abbrev Exec (σ : Type) := EStateM Fault (Machine σ)

/-- The game and the bound entity, which execution cannot change. -/
structure Setting (σ : Type) where
  game : Game σ
  context : Context

namespace Exec

variable {σ α : Type}

def ofExcept : Except Fault α → Exec σ α
  | .ok a => pure a
  | .error f => throw f

def fail (cause : Cause) (at? : Option Position) : Exec σ α := throw { cause, position := at? }

def state : Exec σ (RunState Stmt) := return (← get).run

def update (f : RunState Stmt → RunState Stmt) : Exec σ Unit := modify fun m => { m with run := f m.run }

def charge : Exec σ Unit := update RunState.charge

def note (n : Note) : Exec σ Unit := modify fun m => { m with log := m.log.push n }

def eval (setting : Setting σ) (e : Expr) : Exec σ Value := fun m =>
  let env : Env σ :=
    { world := setting.game.world, host := m.host, table := m.table, context := setting.context }
  match env.eval e m.log with
  | .ok v log => .ok v { m with log }
  | .error f log => .error f { m with log }

def setVariable (name : String) (v : Variable) : Exec σ Unit :=
  modify fun m => { m with table := m.table.set name v }

def perform (setting : Setting σ) (me : EntityId) (deed : Deed) : Exec σ Bool := fun m =>
  match setting.game.handler.perform me deed m.host with
  | (.ok done, host) => .ok done { m with host }
  | (.error f, host) => .error f { m with host }

def printText (setting : Setting σ) (text : String) : Exec σ Unit := fun m =>
  match setting.game.handler.print text m.host with
  | (.ok (), host) => .ok () { m with host }
  | (.error f, host) => .error f { m with host }

/-- A statement without statements inside: it stops if the budget is used up, is skipped while seeking, and
otherwise spends a unit and takes effect. -/
def leaf (effect : Exec σ Bool) : Exec σ Bool := do
  let s ← state
  if s.exhausted then return false
  else if s.seeking then return true
  else
    charge
    effect

/-- The bookkeeping around a conditional statement. -/
def conditional (node : Stmt) (id : NodeId) (body : Exec σ Bool) : Exec σ Bool := do
  let s ← state
  if s.exhausted then
    update (·.suspendAt node)
    return false
  else
    if s.seeking then
      if s.isAt id then
        update RunState.resume
        charge
    else charge
    if ← body then return true
    else
      update (·.suspendAt node)
      return false

/-- The turns of a while loop, at most `turns` of them: each spends a unit before its test. -/
def whileLoop (test body : Exec σ Bool) : (turns : Nat) → Exec σ Bool
  | 0 => return false
  | turns + 1 => do
    if (← state).exhausted then return false
    else
      charge
      if ← test then
        if ← body then whileLoop test body turns else return false
      else return true

/-- The turns of a foreach loop: each live turn spends a unit. A seeking turn that does not find the cursor is
the last one. -/
def eachLoop (assign : EntityId → Exec σ Unit) (body : Exec σ Bool) : List EntityId → Exec σ Bool
  | [] => return true
  | entity :: rest => do
    let s ← state
    if s.exhausted then return false
    else
      if !s.seeking then charge
      assign entity
      if ← body then
        if s.seeking && (← state).seeking then return true else eachLoop assign body rest
      else return false

def assign (setting : Setting σ) (at? : Option Position) (name : String) (e : Expr) : Exec σ Bool := do
  match (← get).table.get? name with
  | none => fail (.assignmentVanished name) at?
  | some v =>
    let value ← eval setting e
    if v.accepts value then
      setVariable name { v with value }
      return true
    else fail (.assignmentMismatch value.ty v.ty name) at?

def printValue (setting : Setting σ) (e : Expr) : Exec σ Bool := do
  let value ← eval setting e
  let _ ← ofExcept setting.context.actor
  let host := (← get).host
  printText setting (← ofExcept (value.display (setting.game.world.written host) (setting.game.world.shown host)))
  return true

def wholePart (x : Float) : Except Fault Int :=
  match Number.truncate x with
  | .ok n => .ok n
  | .error .infinite => .error { cause := .infinityToInteger }
  | .error .nan => .error { cause := .nanToInteger }

def attempt (setting : Setting σ) (me : EntityId) : Action → Exec σ Bool
  | .turn angle => do perform setting me (.turn (← eval setting angle).toNumber)
  | .move => perform setting me .move
  | .jump => perform setting me .jump
  | .toggleWeapon => perform setting me .toggleWeapon
  | .fire power => do perform setting me (.fire (← ofExcept (wholePart (← eval setting power).toNumber)))
  | .skip => return true

/-- The effect of an action statement; a refusal is noted. -/
def act (setting : Setting σ) (a : Action) : Exec σ Bool := do
  let me ← ofExcept setting.context.actor
  if ← attempt setting me a then return true
  else
    note (.refused a.word)
    return false

/-- The entities of a foreach loop, fetched when the loop starts; the loop variable must be declared for
entities. -/
def loopMembers (setting : Setting σ) (at? : Option Position) (kind : LoopKind) (name : String) :
    Exec σ (List EntityId) := do
  match (← get).table.get? name with
  | none => fail (.loopVanished name) at?
  | some v =>
    if v.ty = .entity then
      let host := (← get).host
      let _ ← ofExcept (setting.context.resident setting.game.world host)
      ofExcept (setting.game.world.members host kind)
    else fail (.loopMismatch name v.ty) at?

def bindEntity (name : String) (entity : EntityId) : Exec σ Unit :=
  setVariable name { ty := .entity, value := .entity (.being entity) }

mutual

def exec (setting : Setting σ) : Stmt → Exec σ Bool
  | .sequence _ body => execAll setting body
  | .assignment at? name e => leaf (assign setting at? name e)
  | .print _ e => leaf (printValue setting e)
  | .action _ a => leaf (act setting a)
  | .branch id at? c yes no => conditional (.branch id at? c yes no) id do
    if (← state).seeking then
      if ← exec setting yes then
        if (← state).seeking then exec setting no else return true
      else return false
    else if (← eval setting c).toBool then exec setting yes
    else exec setting no
  | .loop id at? c body => conditional (.loop id at? c body) id do
    let turns : Exec σ Bool := do
      whileLoop (return (← eval setting c).toBool) (exec setting body) (← state).budget.toNat
    if (← state).seeking then
      if ← exec setting body then
        if (← state).seeking then return true else turns
      else return false
    else turns
  | .each id at? kind name body => conditional (.each id at? kind name body) id do
    eachLoop (bindEntity name) (exec setting body) (← loopMembers setting at? kind name)
  | .placeholder fault => fail .placeholderExecuted fault.position

/-- Execute statements in order, up to the first one that stops the run. -/
def execAll (setting : Setting σ) : List Stmt → Exec σ Bool
  | [] => return true
  | s :: rest => do
    if ← exec setting s then execAll setting rest else return false

end

end Exec

end WormLang
