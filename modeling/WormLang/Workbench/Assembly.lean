import WormLang.Workbench.Values

/-!
Nodes from loose data. Every sort of node checks what it is made of in a fixed order: words first, then the
types of operands. What is not checked is kept as it is, and a statement fixes at this time whether it acts.

Operations have parameters by name and position; a call with other arguments is a fault of its own.
-/
namespace WormLang

/-- An operation and its parameters, in order. The last ones may be left out. -/
structure Signature where
  operation : String
  required : List String
  optional : List String := []
  /-- Whether an object has the operation, which then counts as an argument in messages. -/
  hasReceiver : Bool := true

namespace Signature

def parameters (s : Signature) : List String := s.required ++ s.optional

/-- Whether an argument was given twice, by position and by name, or has a name that there is no parameter for. -/
def checkNamed (s : Signature) (given : Nat) (name : String) : Except Fault Unit :=
  if !s.parameters.contains name then .error { cause := .unknownArgument s.operation name }
  else if (s.parameters.take given).contains name then .error { cause := .repeatedArgument s.operation name }
  else .ok ()

/-- The arguments of a call by the names of the parameters. -/
def bind (s : Signature) (args : List Datum) (named : List (String × Datum)) :
    Except Fault (List (String × Datum)) := do
  named.forM fun (name, _) => s.checkNamed args.length name
  let most := s.parameters.length
  let receiver := if s.hasReceiver then 1 else 0
  if most < args.length then
    let least := s.required.length
    throw { cause :=
      .tooManyArguments s.operation (least + receiver) (most + receiver) (args.length + receiver) }
  let given := s.parameters.zip args ++ named
  let missing := s.required.filter fun name => (given.lookup name).isNone
  if !missing.isEmpty then throw { cause := .missingArguments s.operation missing }
  return s.parameters.map fun name => (name, (given.lookup name).getD .null)

end Signature

def Form.signature (f : Form) : Signature :=
  let operation := f.name ++ ".__init__"
  match f with
  | .branch => { operation, required := ["condition", "then"], optional := ["otherwise", "position"] }
  | .placeholder => { operation, required := f.operands }
  | f => { operation, required := f.operands, optional := ["position"] }

namespace Act

/-- Require a type of an operand; an unknown type passes. -/
def expect (position : Datum) (place : Place) (expected : Ty) (operand : Datum) : Act Unit := do
  match ← field operand "type" with
  | .null => return
  | t =>
    if t.isSame (.ty expected) then return
    failAt (.operandType place expected (← toTy t)) position

/-- The word in data, which must be one that is known. -/
def expectWord (known : String → Bool) (refuse : String → Cause) (d : Datum) : Act String := do
  match d with
  | .text s => if known s then return s
  | _ => pure ()
  fail (refuse (← written d))

/-- The word in data that is looked up in a table of words. -/
def expectKey (known : String → Bool) (refuse : String → Cause) (d : Datum) : Act String := do
  .ofExcept d.checkKey
  expectWord known refuse d

/-- Two operands of one type. -/
def expectAll (position : Datum) (word : String) (t : Ty) (left right : Datum) : Act Unit := do
  expect position (.left word) t left
  expect position (.right word) t right

/-- Both operands of an equality have one type; with an unknown type on the left the right is not looked at. -/
def expectEqual (position : Datum) (op : EqualityOp) (left right : Datum) : Act Unit := do
  let l ← field left "type"
  if l.isSame .null then return
  let r ← field right "type"
  if r.isSame .null || l.isSame r then return
  failAt (.mixedEquality op (← toTy l) (← toTy r)) position

/-- A sequence; each of its members must be a statement. -/
def makeSequence (statements : List Datum) (position : Datum) : Act Datum := do
  statements.forM fun d => do
    let isStatement ←
      match d with
      | .object (.node i) => do pure (← node i).form.isStatement
      | _ => pure false
    if !isStatement then fail (.sequenceNeeds ((← get).sortText d))
  let action ← statements.anyM acts
  addNode .sequence [("statements", .tuple statements), ("position", position), ("has_action", .truth action)]

/-- A branch; without a second part it has an empty one. -/
def makeBranch (args : List (String × Datum)) (condition yes no position : Datum) : Act Datum := do
  expect position (.condition "if") .boolean condition
  let no ← if no.isSame .null then makeSequence [] position else pure no
  let first ← field yes "has_action"
  let action ← if first.isTruthy then pure first else field no "has_action"
  addNode .branch ([("otherwise", no), ("has_action", action)] ++ args)

def makeEach (args : List (String × Datum)) (kind name body position : Datum) : Act Datum := do
  match kind with
  | .loopKind _ => pure ()
  | d => failAt (.invalidLoopKind (← written d)) position
  checkName name position
  if ← acts body then failAt .actionInLoop position
  addNode .each args

def assemble (form : Form) (args : List (String × Datum)) : Act Datum := do
  let arg (name : String) : Datum := (args.lookup name).getD .null
  let position := arg "position"
  let expectOperand := fun (place : Place) (t : Ty) (name : String) => expect position place t (arg name)
  match form with
  | .number =>
    match arg "value" with
    | .int _ | .float _ => addNode form (("value", ← ofNumber (arg "value")) :: args)
    | d => fail (.numberNeeds ((← get).sortText d))
  | .boolean =>
    match arg "value" with
    | .truth b => addNode form (("value", ← ofBool b) :: args)
    | d => fail (.booleanNeeds ((← get).sortText d))
  | .null | .self | .move | .jump | .toggleWeapon | .skip | .print => addNode form args
  | .access =>
    checkName (arg "name") position
    match arg "type" with
    | .ty _ => addNode form args
    | d => fail (.accessNeedsType (← written d))
  | .arithmetic =>
    let word ← expectKey (ArithmeticOp.ofSymbol? · |>.isSome) .badArithmetic (arg "op")
    expectAll position word .number (arg "left") (arg "right")
    addNode form args
  | .math =>
    let word ← expectKey (MathFunction.ofWord? · |>.isSome) .unknownFunction (arg "name")
    expectOperand (.argument word) .number "operand"
    addNode form args
  | .order =>
    let word ← expectKey (OrderOp.ofSymbol? · |>.isSome) .badOrder (arg "op")
    expectAll position word .number (arg "left") (arg "right")
    addNode form args
  | .equality =>
    let word ← expectWord (EqualityOp.ofSymbol? · |>.isSome) .badEquality (arg "op")
    expectEqual position (if word == EqualityOp.ne.symbol then .ne else .eq) (arg "left") (arg "right")
    addNode form args
  | .logical =>
    let word ← expectWord (LogicalOp.ofSymbol? · |>.isSome) .badLogic (arg "op")
    expectAll position word .boolean (arg "left") (arg "right")
    addNode form args
  | .negation =>
    expectOperand .negated .boolean "operand"
    addNode form args
  | .query =>
    let word ← expectKey (Query.ofWord? · |>.isSome) .unknownQuery (arg "query")
    expectOperand (.argument word) .entity "operand"
    addNode form args
  | .sameTeam =>
    expectOperand (.argument "sameteam") .entity "operand"
    addNode form args
  | .isKind =>
    .ofExcept (arg "kind").checkKey
    match arg "kind" with
    | .entityKind .worm => expectOperand (.argument TestKind.worm.word) .entity "operand"
    | .entityKind .food => expectOperand (.argument TestKind.food.word) .entity "operand"
    | d => fail (.untestableKind (← written d))
    addNode form args
  | .search =>
    expectOperand (.argument "searchobj") .number "offset"
    addNode form args
  | .sequence => do makeSequence (← .ofExcept ((arg "statements").parts (← get).owner)) position
  | .assignment =>
    checkName (arg "name") position
    addNode form args
  | .turn =>
    expectOperand .angle .number "angle"
    addNode form args
  | .fire =>
    expectOperand .yield .number "yield_"
    addNode form args
  | .branch => makeBranch args (arg "condition") (arg "then") (arg "otherwise") position
  | .loop =>
    expectOperand (.condition "while") .boolean "condition"
    let action ← field (arg "body") "has_action"
    addNode form (("has_action", action) :: args)
  | .each => makeEach args (arg "kind") (arg "name") (arg "body") position
  | .placeholder =>
    let position ← field (arg "error") "position"
    addNode form (("position", position) :: args)

def make (form : Form) (args : List Datum) (named : List (String × Datum)) : Act Datum := do
  assemble form (← .ofExcept (form.signature.bind args named))

def sortOf (name : String) : Act Form :=
  match Form.ofName? name with
  | some form => return form
  | none => fail (.unknownSort name)

end Act

end WormLang
