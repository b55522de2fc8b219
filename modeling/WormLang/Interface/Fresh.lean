import WormLang.Interface

/-!
Objects that a host makes without saying anything about them, and what they answer: nodes without operands, the
parts of the sandbox, the bookkeeping of a run, an unbound context, an empty table, a builder, and the bare
interfaces. A sort that has to be told something cannot be made like this.

An operation is called with the arguments that it has parameters for; a field is just read.
-/
namespace WormLang

/-- The operation of a node without operands. Actions share all but what they perform. -/
def Form.operation? (f : Form) (name : String) : Option Signature :=
  let common := if f.isAction then Interface.action.name else f.name
  match name with
  | "unparse" | "__repr__" => some { operation := common ++ "." ++ name, required := [] }
  | "evaluate" =>
    if f.isExpression then some { operation := f.name ++ ".evaluate", required := ["context"] } else none
  | "perform" =>
    if f.isAction then some { operation := f.name ++ ".perform", required := ["handler", "entity", "context"] }
    else none
  | name => if f.isAction then Interface.action.operation? name else none

/-- The operations of a sort, each with its parameters. -/
def signature? (sort : String) (operations : List (String × List String)) (name : String) : Option Signature :=
  (operations.lookup name).map fun required => { operation := sort ++ "." ++ name, required }

/-- What has to be said about an object of a sort when it is made, and by which operation. -/
def makingSignature? (sort : String) : Option Signature :=
  let made (owner : String) (required : List String) : Option Signature :=
    some { operation := owner ++ ".__init__", required }
  match sort with
  | "Program" => made sort ["statement", "globals"]
  | "Value" => made sort ["type", "data"]
  | "Variable" => made sort ["type"]
  | "Team" => made sort ["name"]
  | "SandboxEntity" => made sort ["x", "y", "radius"]
  | "ProgramParseError" => made sort ["errors"]
  | "ProgramError" | "TypeCheckError" | "ArgumentError" | "SemanticError" | "ParseError" | "IllegalStateError"
  | "CapabilityError" | "VariableReferenceError" | "ValueTypeError" => made "ProgramError" ["message"]
  | _ => none

namespace RunState

def sort : String := "RunState"

def operations : List (String × List String) :=
  [("charge", []), ("start", ["budget"]), ("resume_at", ["statement"]), ("suspend_at", ["statement"]),
    ("complete", []), ("__repr__", [])]

/-- The name of a sequence with a number of statements. -/
def cursorName (s : RunState Int Datum) : String :=
  (s.cursor.map fun n => "Sequence(" ++ intText n ++ ")").getD "None"

end RunState

namespace Act

/-- The arguments of an operation in the order of its parameters, or none if the name is that of a field. -/
def arguments? (signature? : Option Signature) (args : List Datum) : Act (Option (List Datum)) := do
  match signature? with
  | some signature => return some ((← .ofExcept (signature.bind args [])).map Prod.snd)
  | none => return none

def useNode (form : Form) (name : String) (args : List Datum) : Act Datum := do
  let d ← make form [] []
  match ← arguments? (form.operation? name) args with
  | none => if name == "__str__" then return .text (← written d) else field d name
  | some args =>
    let first := args.headD .null
    match name, form with
    | "unparse", _ => source d
    | "children", _ => return .tuple (← children d)
    | "evaluate", .self => field first "entity"
    | "evaluate", _ => evaluate {} d
    | "execute", _ => field first "state"
    | "perform", .skip => return .truth true
    | "perform", .toggleWeapon => field first "toggle_weapon"
    | "perform", form => field first (form.word?.getD "")
    | _, _ => return .text (← written d)

def useBeing (b : Being) (name : String) (args : List Datum) : Act Datum := do
  let w ← get
  let id : EntityId := ⟨w.sandbox.arena.beings.size⟩
  let arena := { w.sandbox.arena with beings := w.sandbox.arena.beings.push b }
  set { w with sandbox := { w.sandbox with arena } }
  let operations := [("__repr__", []), ("__str__", [])] ++ if b matches .worm _ then [("start_turn", [])] else []
  let _ ← arguments? (signature? b.owner operations name) args
  match name with
  | "__repr__" => return .text b.written
  | "__str__" => return .text b.shown
  | "world" => return .null
  | "start_turn" =>
    changeWorld (.startTurn id)
    return .null
  | name => field (.being id) name

def useWorld (name : String) (args : List Datum) : Act Datum := do
  let sort := Arena.owner {}
  let own := signature? sort [("worms", []), ("food", []), ("entities", []), ("search_object", ["position", "angle"]),
    ("add", ["entity"]), ("remove", ["entity"]), ("__repr__", [])] name
  let args := (← arguments? (own.or (Interface.world.operation? name)) args).getD args
  let first := args.headD .null
  match name with
  | "worms" | "food" | "entities" => return .tuple []
  | "collection" =>
    match first with
    | .loopKind _ => return .tuple []
    | d => fail (.unknownLoopKind (← written d))
  | "search_object" =>
    let _ ← .ofExcept (first.pair (← get).owner)
    return .null
  | "remove" => fail .notInWorld
  | "add" => lacks first "_world"
  | "__repr__" | "__str__" => return .text (Arena.describe {})
  | name => fail (.noAttribute sort name)

def useHandler (name : String) (args : List Datum) : Act Datum := do
  let sort := Keeper.owner (.recording {})
  let own :=
    match name with
    | "turn_cost" => some { operation := sort ++ ".turn_cost", required := ["angle"], hasReceiver := false }
    | name => signature? sort (Interface.handler.ownOperations ++ [("names", []), ("clear", [])]) name
  let args := (← arguments? own args).getD args
  let first := args.headD .null
  let cost (angle : Datum) : Act Datum := do
    let owner := (← get).owner
    let x ← .ofExcept (do (← angle.toQuantity owner).toDouble)
    match ← .ofExcept (Angle.turnCost x) with
    | some n => return .int n
    | none => return .float (Number.infinity false)
  match name with
  | "names" | "actions" | "refused" | "printed" => return .tuple []
  | "clear" | "print" => return .null
  | "MOVE_COST" => return .int 1
  | "FIRE_COST" => return .int 10
  | "TOGGLE_COST" => return .int 0
  | "turn_cost" => cost first
  | "turn" =>
    let _ ← cost ((args[1]?).getD .null)
    field first Query.actionPoints.field
  | "move" | "jump" | "fire" | "toggle_weapon" => field first Query.actionPoints.field
  | name => fail (.noAttribute sort name)

/-- Make the bookkeeping of a run with a budget, which is zero if it is left out. Statements are known by number. -/
def makeRunState (args : List Datum) : Act (RunState Int Datum) := do
  let signature : Signature := { operation := RunState.sort ++ ".__init__", required := [], optional := ["budget"] }
  let _ ← .ofExcept (signature.bind args [])
  return { budget := args.headD (.int 0) }

def runStateText (s : RunState Int Datum) : Act String := return s.describe (← shown s.budget) s.cursorName

/-- What a field of the bookkeeping holds. -/
def runStateField? (s : RunState Int Datum) (name : String) : Act (Option Datum) := do
  match name with
  | "exhausted" => return some (.truth (← isExhaustedState s))
  | "seeking" => return some (.truth s.seeking)
  | "finished" => return some (.truth s.finished)
  | "budget" => return some s.budget
  | _ => return none
where
  /-- Whether the budget is used up. -/
  isExhaustedState (s : RunState Int Datum) : Act Bool := do .ofExcept (s.isExhausted (← get).owner)

def callRunState (s : RunState Int Datum) (name : String) (args : List Datum) : Act (RunState Int Datum) := do
  match ← arguments? (signature? RunState.sort RunState.operations name) args with
  | some args =>
    let first := args.headD .null
    let statement : Int := match first with | .int n => n | _ => 0
    match name with
    | "charge" => .ofExcept (s.spend (← get).owner)
    | "start" => return s.start first
    | "resume_at" => return s.resume
    | "suspend_at" => return s.suspendAt statement
    | "complete" => return s.complete
    | _ => return s
  | none =>
    match ← runStateField? s name, name with
    | some content, _ => fail (.notCallable ((← get).owner content))
    | none, "cursor" => fail (.notCallable (if s.cursor.isSome then "Sequence" else "NoneType"))
    | none, name => fail (.noAttribute RunState.sort name)

/-- What a host sees of the bookkeeping: its text, whether the budget is used up, and whether it seeks. -/
def viewRunState (s : RunState Int Datum) : Act (List Datum) := do
  let text ← runStateText s
  return [.text text, ((← runStateField? s "exhausted").getD .null), .truth s.seeking]

def useRunState (name : String) (args : List Datum) : Act Datum := do
  let s ← makeRunState []
  match ← runStateField? s name, name with
  | some content, _ => return content
  | none, "cursor" => return .null
  | none, "__str__" => return .text (← runStateText s)
  | none, name =>
    let _ ← callRunState s name args
    if name == "__repr__" then return .text (← runStateText s) else return .null

def useContext (name : String) (args : List Datum) : Act Datum := do
  let sort := "ExecutionContext"
  let args := (← arguments? (signature? sort [("bind", ["entity", "handler"]), ("__repr__", [])] name) args).getD args
  let c : Context := {}
  match name with
  | "bind" => if args.any (·.isSame .null) then fail .bindingIncomplete else return .null
  | "is_bound" => return .truth c.isBound
  | "entity" | "world" => do return .being (← .ofExcept c.entity)
  | "handler" => do return .being (← .ofExcept c.actor)
  | "__repr__" | "__str__" => return .text (c.describe fun _ => "")
  | name => fail (.noAttribute sort name)

def useTable (name : String) (args : List Datum) : Act Datum := do
  let sort := "VariableTable"
  let own :=
    match name with
    | "declare" => some { operation := "VariableTable.declare", required := ["name", "type"], optional := ["position"] }
    | "lookup" => some { operation := "VariableTable.lookup", required := ["name"], optional := ["position"] }
    | name => signature? sort [("get", ["name"]), ("remove", ["name"]), ("__contains__", ["name"]),
        ("__getitem__", ["name"]), ("__len__", []), ("__repr__", [])] name
  let args := (← arguments? own args).getD args
  let arg (i : Nat) : Datum := (args[i]?).getD .null
  match name with
  | "declare" => declare (arg 0) (arg 1) (arg 2)
  | "lookup" => return .object (.cell (← lookup (.object .table) (arg 0) (arg 1)))
  | "get" =>
    let _ ← lookup? (arg 0)
    return .null
  | "remove" =>
    drop (arg 0)
    return .null
  | "__contains__" => return .truth (← lookup? (arg 0)).isSome
  | "__getitem__" => return .object (.cell (← fetch (arg 0)))
  | "__len__" => return .int 0
  | "__repr__" | "__str__" => return .text (← written (.object .table))
  | name => fail (.noAttribute sort name)

def useBuilder (name : String) (args : List Datum) : Act Datum := do
  match name with
  | "failed" => return .truth false
  | "errors" => return .tuple []
  | "globals" => return .object .table
  | "handler" => return .null
  | name => call name args []

def usePlace (name : String) : Act Datum := do
  let d : Datum := .object (.place {})
  match name with
  | "__str__" => return .text (← shown d)
  | "__repr__" => return .text (← written d)
  | name => field d name

/-- Use a sort by its name, made without arguments, by the name of an operation or a field. -/
def useSort (sort name : String) (args : List Datum) : Act Datum := do
  if let some signature := makingSignature? sort then let _ ← .ofExcept (signature.bind [] [])
  match Interface.ofName? sort, Form.ofName? sort with
  | some i, _ => i.use name args
  | none, some form => useNode form name args
  | none, none =>
    match sort with
    | "SandboxWorm" => do
      useBeing (.worm (← .ofExcept (Worm.make 0.0 0.0 0.0 0.5 100.0 100.0 none "worm"))) name args
    | "SandboxFood" => useBeing (.food { x := 0.0, y := 0.0, radius := 0.2 }) name args
    | "SandboxWorld" => useWorld name args
    | "RecordingHandler" => useHandler name args
    | "RunState" => useRunState name args
    | "ExecutionContext" => useContext name args
    | "VariableTable" => useTable name args
    | "Builder" => useBuilder name args
    | "SourcePosition" => usePlace name
    | sort => fail (.unknownSort sort)

end Act

end WormLang
