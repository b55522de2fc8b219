import WormLang.Builder
import WormLang.RunState.Loose
import WormLang.Sandbox.Records

/-!
The store of a workbench. On a workbench a host assembles programs by hand out of loose data: every node is a
record of slots that the host can change at any time, variables and programs are known by reference, and what
a slot holds is only looked at when it is used.

Nodes, variables and programs are numbered in the order in which they were made, and never given up.
-/
namespace WormLang

/-- A node: its sort, and what its slots hold. The newest content of a slot comes first. -/
structure Node where
  form : Form
  slots : List (String × Datum)

namespace Node

def slot? (n : Node) (name : String) : Option Datum := n.slots.lookup name

def setSlot (n : Node) (name : String) (d : Datum) : Node := { n with slots := (name, d) :: n.slots }

end Node

structure Cell where
  ty : Datum
  content : Datum

/-- A program on the workbench. Its cursor is the number of a node, and its budget is whatever the host gave. -/
structure Script where
  statement : Datum
  maxStatements : Datum
  hasHandler : Bool
  context : Context := {}
  state : RunState Nat Datum := { budget := maxStatements }
  terminated : Bool := false

/-- The workbench. All its programs share one table of variables. -/
structure Workbench where
  sandbox : Sandbox := {}
  /-- The entity for which loose expressions are evaluated. -/
  context : Context := {}
  nodes : Array Node := #[]
  cells : Array Cell := #[]
  table : Table Nat := {}
  scripts : Array Script := #[]
  /-- Construction faults, in build order. -/
  faults : Array Fault := #[]
  /-- What the host made so far, by name. -/
  made : List (String × Datum) := []
  nextStamp : Nat := 0

/-- A computation on a workbench. What it did before it failed stays done. -/
abbrev Act := EStateM Failure Workbench

/-- How deep data and programs may be nested. -/
def deepest : Nat := 2000

namespace Workbench

def names (w : Workbench) : Names := w.sandbox.arena.names

/-- A workbench on a sandbox. Loose expressions are evaluated for the first entity, if there is one and a
handler. -/
def ofSandbox (sandbox : Sandbox) : Workbench :=
  let entity? := if sandbox.keeper.isPresent && !sandbox.arena.beings.isEmpty then some ⟨0⟩ else none
  { sandbox, context := { entity? } }

/-- Whether any construction fault was collected. -/
def failed (w : Workbench) : Bool := !w.faults.isEmpty

def owner (w : Workbench) (d : Datum) : String :=
  match d with
  | .object (.node i) => ((w.nodes[i]?).map (·.form.name)).getD (d.owner w.names)
  | d => d.owner w.names

def sort (w : Workbench) (d : Datum) : String :=
  match d with
  | .ty _ | .value .. => "wormscript._value." ++ w.owner d
  | .entityKind _ | .loopKind _ => "wormscript._world." ++ w.owner d
  | .being _ | .object (.team _) => "wormscript._sandbox." ++ w.owner d
  | .object (.node i) => ((w.nodes[i]?).map (·.form.path)).getD (w.owner d)
  | .object (.cell _) | .object .table => "wormscript._variable." ++ w.owner d
  | .object (.program _) => "wormscript._program." ++ w.owner d
  | .object (.place _) => "wormscript.ast._base." ++ w.owner d
  | .object (.fault _) => "wormscript._error." ++ w.owner d
  | d => w.owner d

def sortText (w : Workbench) (d : Datum) : String := "<class " ++ Text.quoted (w.sort d) ++ ">"

end Workbench

namespace Act

variable {α : Type}

def fail (cause : Cause) : Act α := throw (.fault { cause })

def ofExcept : Except Fault α → Act α
  | .ok a => pure a
  | .error f => throw (.fault f)

/-- The fault of data without a field that its place needs. -/
def lacks (d : Datum) (field : String) : Act α := do fail (.noAttribute ((← get).owner d) field)

/-- Data as the place that a fault is about. -/
def toPlace (d : Datum) : Act (Option Position) :=
  match d with
  | .null => pure none
  | .object (.place p) => pure (some p)
  | d => lacks d "line"

/-- Fail at the place that data gives. -/
def failAt (cause : Cause) (position : Datum) : Act α := do
  throw (.fault { cause, position := ← toPlace position })

/-- Data as a type that a message names. -/
def toTy (d : Datum) : Act Ty :=
  match d with
  | .ty t => pure t
  | d => lacks d "keyword"

/-- A stamp that no other object has. -/
def freshStamp : Act Nat := modifyGet fun w => (w.nextStamp, { w with nextStamp := w.nextStamp + 1 })

def makeList (items : List Datum) : Act Datum := return .list (← freshStamp) items

def addNode (form : Form) (slots : List (String × Datum)) : Act Datum :=
  modifyGet fun w => (.object (.node w.nodes.size), { w with nodes := w.nodes.push { form, slots } })

def node (i : Nat) : Act Node := do
  match (← get).nodes[i]? with
  | some n => pure n
  | none => fail (.missingKey (toString i))

def cell (i : Nat) : Act Cell := do
  match (← get).cells[i]? with
  | some c => pure c
  | none => fail (.missingKey (toString i))

def setCell (i : Nat) (c : Cell) : Act Unit := modify fun w => { w with cells := w.cells.setIfInBounds i c }

def script (i : Nat) : Act Script := do
  match (← get).scripts[i]? with
  | some s => pure s
  | none => fail (.missingKey (toString i))

def setScript (i : Nat) (s : Script) : Act Unit :=
  modify fun w => { w with scripts := w.scripts.setIfInBounds i s }

def find (name : String) : Act Datum := do
  match (← get).made.lookup name with
  | some d => pure d
  | none => fail (.missingKey (Text.quoted name))

def keep (name : String) (d : Datum) : Act Unit := modify fun w => { w with made := (name, d) :: w.made }

/-- The node whose operation is asked for: data of another sort lacks the operation, and a slot of the same name
hides it. -/
def callee (d : Datum) (operation : String) (has : Form → Bool) : Act (Nat × Node) := do
  match d with
  | .object (.node i) =>
    let n ← node i
    match n.slot? operation with
    | some hidden => fail (.notCallable ((← get).owner hidden))
    | none => if has n.form then return (i, n) else lacks d operation
  | d => lacks d operation

end Act

end WormLang
