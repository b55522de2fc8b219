import WormLang.Workbench.Values

/-!
Values of loose expressions. An expression is what its slots say at the time: operands are evaluated from left
to right, words are looked up after that, and what comes out must fit the type of the expression.
-/
namespace WormLang

namespace Act

/-- Read a capability off an entity; every way of not having it is one fault. -/
def query (d : Datum) (capability : String) (read : Datum → Act Datum) (position : Datum) : Act Datum := do
  if d.isSame .null then failAt (.queryOfNull capability) position
  match read d (← get) with
  | .ok content _ => return content
  | .error (.fault f) _ =>
    match f.kind with
    | .capability => failAt f.cause position
    | .property => failAt (.unsupported ((← get).owner d) capability) position
    | _ => throw (.fault f)
  | .error failure _ => throw failure

def readQuery (q : Query) (d : Datum) : Act Datum := do
  let content ← field d q.field
  match q with
  | .x => .ofExcept (content.part (← get).owner 0)
  | .y => .ofExcept (content.part (← get).owner 1)
  | _ => return content

/-- One of a closed set of words that data stands for. -/
def wordOf {α : Type} (read : String → Option α) (d : Datum) : Act α := do
  .ofExcept d.checkKey
  let known? :=
    match d with
    | .text s => read s
    | _ => none
  match known? with
  | some a => return a
  | none => fail (.missingKey (← written d))

def calculate (op : ArithmeticOp) (a b : Datum) : Act Datum := do
  let owner := (← get).owner
  let stamp ← freshStamp
  .ofExcept <|
    match op with
    | .add => a.add owner stamp b
    | .sub => a.sub owner b
    | .mul => a.mul owner stamp b
    | .div => a.div owner b

def compare (op : OrderOp) (a b : Datum) : Act Bool := do
  let owner := (← get).owner
  .ofExcept <|
    match op with
    | .lt => a.holdsOrder owner "<" Quantity.lt b
    | .gt => a.holdsOrder owner ">" Quantity.gt b
    | .le => a.fuzzyLe owner b (.float tolerance)
    | .ge => a.fuzzyGe owner b (.float tolerance)

/-- Apply a function to data. An infinite number has no sine or cosine, whatever the name of the function is,
unless it is that of the root. -/
def applyFunction (name d : Datum) : Act Datum := do
  let owner := (← get).owner
  let x ← .ofExcept (do (← d.toQuantity owner).toDouble)
  if x.isInf && !name.isEqual (.text MathFunction.sqrt.word) then return .float undefinedNumber
  return .float ((← wordOf MathFunction.ofWord? name).apply x)

/-- The nearest entity in a direction relative to the bound entity. -/
def lookAround (c : Context) (offset position : Datum) : Act Datum := do
  let me ← .ofExcept c.entity
  let origin ← query (.being me) "position" (field · "position") position
  let direction ← query (.being me) "direction" (field · "direction") position
  let arena := (← get).sandbox.arena
  let _ ← .ofExcept (c.resident Arena.world arena)
  let owner := (← get).owner
  let angle ← calculate .add direction offset
  if arena.isBare then throw (.fault (Arena.bareFault "search_object"))
  let point ← .ofExcept (origin.toPoint owner)
  let angle ← .ofExcept (do (← angle.toQuantity owner).toDouble)
  match ← .ofExcept (arena.search point angle) with
  | some id => return .being id
  | none => return .null

/-- The value of a node, given those of other data. -/
def nodeValue (c : Context) (evaluate : Datum → Act Datum) (form : Form) (d : Datum) : Act Datum := do
  let slot (name : String) : Act Datum := field d name
  let value (name : String) : Act Datum := do evaluate (← slot name)
  let data (name : String) : Act Datum := do field (← value name) "data"
  match form with
  | .number | .boolean => slot "value"
  | .null => ofEntity .null
  | .self => do ofEntity (.being (← .ofExcept c.entity))
  | .access =>
    let i ← lookup (← slot "table") (← slot "name") (← slot "position")
    let content := (← cell i).content
    let expected ← slot "type"
    if (← field content "type").isSame expected then return content
    failAt (.variableRetyped (← shown (← slot "name")) (← toTy expected)) (← slot "position")
  | .arithmetic =>
    let left ← data "left"
    let right ← data "right"
    ofNumber (← calculate (← wordOf ArithmeticOp.ofSymbol? (← slot "op")) left right)
  | .math =>
    let operand ← data "operand"
    ofNumber (← applyFunction (← slot "name") operand)
  | .order =>
    let left ← data "left"
    let right ← data "right"
    ofBool (← compare (← wordOf OrderOp.ofSymbol? (← slot "op")) left right)
  | .equality =>
    let left ← value "left"
    let equal := left.isEqual (← value "right")
    ofBool (if (← slot "op").isEqual (.text EqualityOp.ne.symbol) then !equal else equal)
  | .logical =>
    let left := (← data "left").isTruthy
    let op ← slot "op"
    if op.isEqual (.text LogicalOp.and.symbol) && !left then ofBool false
    else if op.isEqual (.text LogicalOp.or.symbol) && left then ofBool true
    else makeValue (.ty .boolean) (← data "right")
  | .negation => do ofBool (!(← data "operand").isTruthy)
  | .query =>
    let entity ← data "operand"
    let q ← wordOf Query.ofWord? (← slot "query")
    ofNumber (← query entity q.capability (readQuery q) (← slot "position"))
  | .sameTeam =>
    let position ← slot "position"
    let entity ← data "operand"
    let other ← query entity teamCapability (field · "team") position
    let me := Datum.being (← .ofExcept c.entity)
    let own ← query me teamCapability (field · "team") position
    ofBool (!own.isSame .null && (entity.isSame me || own.isSame other))
  | .isKind =>
    let entity ← data "operand"
    let kind := (← field? entity "kind").getD .null
    ofBool (!entity.isSame .null && kind.isSame (← slot "kind"))
  | .search =>
    let offset ← data "offset"
    ofEntity (← lookAround c offset (← slot "position"))
  | .placeholder => do failAt .placeholderEvaluated (← slot "position")
  | form => fail (.noAttribute form.name "evaluate")

/-- The value of data, down to a depth. -/
def evaluateTo (c : Context) : Nat → Datum → Act Datum
  | 0, _ => fail .tooDeep
  | depth + 1, d => do
    let (_, n) ← callee d "evaluate" Form.isExpression
    nodeValue c (evaluateTo c depth) n.form d

def evaluate (c : Context) (d : Datum) : Act Datum := evaluateTo c deepest d

end Act

end WormLang
