import WormLang.Workbench.Store

/-!
Fields of data on the workbench, by name. What a node does not have in a slot of its own comes from its sort:
no place, the type of an expression, whether a statement acts, the word of an action. Reading a field that is
not there is a fault, and so is writing one that is fixed.
-/
namespace WormLang

/-- A number that may be missing, as data. -/
def Datum.ofInt? : Option Int → Datum
  | some n => .int n
  | none => .null

/-- A type that may be unknown, as data. -/
def Datum.ofTy? : Option Ty → Datum
  | some t => .ty t
  | none => .null

/-- A place that may be unknown, as data. -/
def Datum.ofPosition? : Option Position → Datum
  | some p => .object (.place p)
  | none => .null

/-- A text that may be missing, as data. -/
def Datum.ofText? : Option String → Datum
  | some s => .text s
  | none => .null

/-- What every node of a sort has, unless its own slots say otherwise. -/
def Form.common? (f : Form) (field : String) : Option Datum :=
  match field with
  | "position" => some .null
  | "type" => if f.isExpression then some (.ofTy? f.ty?) else none
  | "has_action" => if f.isStatement then some (.truth f.isAction) else none
  | "keyword" => if f.isAction then some (.ofText? f.word?) else none
  | _ => none

/-- The content of a variable that was never assigned. -/
def Ty.firstContent : Ty → Datum
  | .number => .float 0.0
  | .boolean => .truth false
  | .entity => .null

def Position.field? (p : Position) : String → Option Datum
  | "line" => some (.ofInt? p.line)
  | "column" => some (.ofInt? p.column)
  | "end_line" => some (.ofInt? p.endLine)
  | "end_column" => some (.ofInt? p.endColumn)
  | "filename" => some (.ofText? p.file)
  | _ => none

def Fault.field? (f : Fault) : String → Option Datum
  | "message" => some (.text f.message)
  | "position" => some (.ofPosition? f.position)
  | "line" => some (.ofInt? f.line)
  | "column" => some (.ofInt? f.column)
  | _ => none

def Ty.field? (t : Ty) : String → Option Datum
  | "name" => some (.text t.name)
  | "keyword" => some (.text t.keyword)
  | "default" => some t.firstContent
  | "value" => some (.tuple [.text t.keyword, t.firstContent])
  | _ => none

def Cell.field? (c : Cell) : String → Option Datum
  | "type" => some c.ty
  | "value" | "_value" => some c.content
  | _ => none

def Script.field? (s : Script) : String → Option Datum
  | "statement" => some s.statement
  | "globals" => some (.object .table)
  | "max_statements" => some s.maxStatements
  | "terminated" => some (.truth s.terminated)
  | "cursor" => some ((s.state.cursor.map fun i => Datum.object (.node i)).getD .null)
  | _ => none

namespace Act

def field (d : Datum) (name : String) : Act Datum := do
  let found? : Option Datum ←
    match d with
    | .object (.node i) => do
      let n ← node i
      pure ((n.slot? name).or (n.form.common? name))
    | .object (.cell i) => do pure ((← cell i).field? name)
    | .object (.program i) => do pure ((← script i).field? name)
    | .object (.place p) => pure (p.field? name)
    | .object (.fault f) => pure (f.field? name)
    | .object (.team team) => pure (if name == "name" then some (.text team) else none)
    | .ty t => pure (t.field? name)
    | .entityKind k => pure ([("name", Datum.text k.name), ("value", .text k.word)].lookup name)
    | .loopKind k => pure ([("name", Datum.text k.name), ("value", .text k.word)].lookup name)
    | .value _ t data =>
      let isNull := t == .entity && data.isSame .null
      pure ([("type", Datum.ty t), ("data", data), ("is_null", .truth isNull)].lookup name)
    | .being id => do pure (some (← .ofExcept ((← get).sandbox.arena.read id name)))
    | _ => pure none
  match found? with
  | some content => return content
  | none => lacks d name

/-- Read a field that may be missing. -/
def field? (d : Datum) (name : String) : Act (Option Datum) := do
  match field d name (← get) with
  | .ok content _ => return some content
  | .error (.fault f) _ => if f.kind = .property then return none else throw (.fault f)
  | .error failure _ => throw failure

/-- Whether the statement in data acts. -/
def acts (d : Datum) : Act Bool := do return (← field d "has_action").isTruthy

/-- Write a field. Slots of nodes are free; values never change; everything else has the fields that it has. -/
def setField (d : Datum) (name : String) (content : Datum) : Act Unit := do
  let fixed {α : Type} : Act α := do fail (.noSetter ((← get).owner d) name)
  match d, name with
  | .object (.node i), name =>
    let n ← node i
    modify fun w => { w with nodes := w.nodes.setIfInBounds i (n.setSlot name content) }
  | .object (.cell i), "type" => setCell i { ← cell i with ty := content }
  | .object (.cell i), "_value" => setCell i { ← cell i with content }
  | .object (.cell _), "value" => fixed
  | .object (.program i), "statement" => setScript i { ← script i with statement := content }
  | .object (.program i), "terminated" => setScript i { ← script i with terminated := content.isTruthy }
  | .object (.program i), "max_statements" => setScript i { ← script i with maxStatements := content }
  | .object (.program i), "handler" => setScript i { ← script i with hasHandler := !content.isSame .null }
  | .object (.program _), "cursor" => fixed
  | .object (.program _), _ => return
  | .value .., _ => fail .immutableValue
  | .being id, name =>
    let w ← get
    let arena ← .ofExcept (w.sandbox.arena.write id name content)
    set { w with sandbox := { w.sandbox with arena } }
  | d, name => lacks d name

end Act

end WormLang
