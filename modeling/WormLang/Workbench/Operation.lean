import WormLang.Workbench.Assembly
import WormLang.Workbench.Script

/-!
Operations of the workbench by name. Nodes made through an operation are collected with their faults: a fault
of type or argument is noted, a placeholder takes the place of the node, and the work goes on. Nodes made
directly report their fault.
-/
namespace WormLang

/-- A sort of node with the parameters of the operation that makes it, and what the operation adds before and
after them. -/
structure Recipe where
  form : Form
  required : List String
  optional : List String := []
  leading : List Datum := []
  trailing : List Datum := []

namespace Recipe

/-- A recipe with the operands of its sort. -/
def direct (form : Form) : Recipe := { form, required := form.operands }

/-- A recipe whose first operand is fixed. -/
def led (form : Form) (first : Datum) : Recipe := { form, required := form.operands.drop 1, leading := [first] }

/-- A recipe whose first operand is a word. -/
def worded (form : Form) (word : String) : Recipe := led form (.text word)

/-- A recipe whose last operand is the table. -/
def tabled (form : Form) : Recipe :=
  { form, required := form.operands.dropLast, trailing := [.object .table] }

/-- The recipe behind an operation. -/
def ofOperation? : String → Option Recipe
  | "create_double_literal" => some (direct .number)
  | "create_boolean_literal" => some (direct .boolean)
  | "create_null" => some (direct .null)
  | "create_self" => some (direct .self)
  | "create_add" => some (worded .arithmetic ArithmeticOp.add.symbol)
  | "create_subtraction" => some (worded .arithmetic ArithmeticOp.sub.symbol)
  | "create_mul" => some (worded .arithmetic ArithmeticOp.mul.symbol)
  | "create_division" => some (worded .arithmetic ArithmeticOp.div.symbol)
  | "create_sqrt" => some (worded .math MathFunction.sqrt.word)
  | "create_sin" => some (worded .math MathFunction.sin.word)
  | "create_cos" => some (worded .math MathFunction.cos.word)
  | "create_less_than" => some (worded .order OrderOp.lt.symbol)
  | "create_greater_than" => some (worded .order OrderOp.gt.symbol)
  | "create_less_than_or_equal_to" => some (worded .order OrderOp.le.symbol)
  | "create_greater_than_or_equal_to" => some (worded .order OrderOp.ge.symbol)
  | "create_equality" => some (worded .equality EqualityOp.eq.symbol)
  | "create_inequality" => some (worded .equality EqualityOp.ne.symbol)
  | "create_and" => some (worded .logical LogicalOp.and.symbol)
  | "create_or" => some (worded .logical LogicalOp.or.symbol)
  | "create_not" => some (direct .negation)
  | "create_entity_query" => some (direct .query)
  | "create_get_x" => some (worded .query Query.x.word)
  | "create_get_y" => some (worded .query Query.y.word)
  | "create_get_radius" => some (worded .query Query.radius.word)
  | "create_get_dir" => some (worded .query Query.direction.word)
  | "create_get_ap" => some (worded .query Query.actionPoints.word)
  | "create_get_max_ap" => some (worded .query Query.maxActionPoints.word)
  | "create_get_hp" => some (worded .query Query.hitPoints.word)
  | "create_get_max_hp" => some (worded .query Query.maxHitPoints.word)
  | "create_same_team" => some (direct .sameTeam)
  | "create_is_worm" => some (led .isKind (.entityKind .worm))
  | "create_is_food" => some (led .isKind (.entityKind .food))
  | "create_search_obj" => some (direct .search)
  | "create_assignment" => some (tabled .assignment)
  | "create_print" => some (direct .print)
  | "create_sequence" => some (direct .sequence)
  | "create_if" => some { form := .branch, required := ["condition", "then"], optional := ["otherwise"] }
  | "create_while" => some (direct .loop)
  | "create_foreach" => some (tabled .each)
  | "create_turn" => some (direct .turn)
  | "create_move" => some (direct .move)
  | "create_jump" => some (direct .jump)
  | "create_toggle_weap" => some (direct .toggleWeapon)
  | "create_fire" => some (direct .fire)
  | "create_skip" => some (direct .skip)
  | _ => none

end Recipe

/-- The parameters of the operations that are no recipes. -/
def otherParameters? : String → Option (List String × List String)
  | "declare" => some (["position", "name", "type"], [])
  | "create_double_type" | "create_boolean_type" | "create_entity_type" => some ([], [])
  | "create_negation" => some (["position", "operand"], [])
  | "create_variable_access" => some (["position", "name"], ["type"])
  | "create_program" => some (["statement"], ["max_statements"])
  | _ => none

namespace Act

def collect (f : Fault) : Act Unit := modify fun w => { w with faults := w.faults.push f }

/-- A placeholder for a node with a fault. -/
def placeholder (f : Fault) : Act Datum :=
  addNode .placeholder [("error", .object (.fault f)), ("position", .ofPosition? f.position)]

/-- Make a node; a fault of type or argument is collected and leaves a placeholder. -/
def construct (form : Form) (args : List Datum) (position : Datum) : Act Datum := do
  match make form args [("position", position)] (← get) with
  | .ok d w =>
    set w
    return d
  | .error (.fault f) w =>
    set w
    if f.kind = .typeCheck ∨ f.kind = .argument then
      collect f
      placeholder f
    else throw (.fault f)
  | .error failure w =>
    set w
    throw failure

def declareCollected (name t position : Datum) : Act Datum := do
  match declare name t position (← get) with
  | .ok d w =>
    set w
    return d
  | .error failure w =>
    set w
    match failure with
    | .fault f =>
      if f.kind = .argument then
        collect f
        return .null
      else throw failure
    | failure => throw failure

/-- Read a variable, with its declared type unless one is given; a name that is not declared is collected. -/
def accessCollected (name t position : Datum) : Act Datum := do
  let make (t : Datum) : Act Datum := construct .access [name, t, .object .table] position
  if !t.isSame .null then make t
  else
    match ← lookup? name with
    | some i => make (← cell i).ty
    | none =>
      let f : Fault := { cause := .notDeclared (← shown name), position := ← toPlace position }
      collect f
      placeholder f

/-- A program, unless a fault was collected. -/
def programCollected (root budget : Datum) : Act Datum := do
  let w ← get
  if w.failed then throw (.rejected w.faults.toList #[])
  makeProgram root true budget

/-- What a field of the builder that is no operation holds. -/
def builderField? (name : String) : Act (Option String) := do
  let w ← get
  return [("failed", "bool"), ("errors", "list"), ("globals", "VariableTable"),
    ("handler", w.sandbox.keeper.owner)].lookup name

def call (operation : String) (args : List Datum) (named : List (String × Datum)) : Act Datum := do
  let bind (required optional : List String) : Act (String → Datum) := do
    let signature : Signature := { operation := "Builder." ++ operation, required, optional }
    let bound ← .ofExcept (signature.bind args named)
    return fun name => (bound.lookup name).getD .null
  if let some recipe := Recipe.ofOperation? operation then
    let arg ← bind ("position" :: recipe.required) recipe.optional
    let operands := (recipe.required ++ recipe.optional).map arg
    construct recipe.form (recipe.leading ++ operands ++ recipe.trailing) (arg "position")
  else if let some (required, optional) := otherParameters? operation then
    let arg ← bind required optional
    match operation with
    | "declare" => declareCollected (arg "name") (arg "type") (arg "position")
    | "create_double_type" => return .ty .number
    | "create_boolean_type" => return .ty .boolean
    | "create_entity_type" => return .ty .entity
    | "create_negation" =>
      let zero ← construct .number [.float 0.0] (arg "position")
      construct .arithmetic [.text ArithmeticOp.sub.symbol, zero, arg "operand"] (arg "position")
    | "create_variable_access" => accessCollected (arg "name") (arg "type") (arg "position")
    | _ => programCollected (arg "statement") (arg "max_statements")
  else
    match ← builderField? operation with
    | some owner => fail (.notCallable owner)
    | none => fail (.noAttribute "Builder" operation)

end Act

/-- What a host sees of a node. -/
structure NodeView where
  text : String
  position : Option Position
  /-- Its program text, or why it has none. -/
  source : Except Fault Datum
  /-- The word of its type, for an expression. -/
  ty? : Option Datum
  /-- Whether it acts, for a statement. -/
  acts? : Option Datum

def Act.view (i : Nat) : Act NodeView := do
  let d : Datum := .object (.node i)
  let form := (← node i).form
  let text ← written d
  let position ← toPlace (← field d "position")
  let source ←
    match source d (← get) with
    | .ok text _ => pure (.ok text)
    | .error (.fault f) _ => pure (.error f)
    | .error failure _ => throw failure
  let ty? ←
    if form.isExpression then do
      match ← field d "type" with
      | .null => pure (some .null)
      | t => pure (some (← field t "keyword"))
    else pure none
  let acts? ← if form.isStatement then pure (some (← field d "has_action")) else pure none
  return { text, position, source, ty?, acts? }

end WormLang
