import WormLang.Position
import WormLang.Ty
import WormLang.Operator
import WormLang.Text.Quoted

/-!
Everything that can go wrong, as causes. A cause belongs to a kind; the wording of every cause stands in
`Cause.message` alone. A fault is a cause with the place in program text it is about, if there is one.

Faults of a program (types, names, states, capabilities, values) know places and say them. Faults of the
host's data (conversions, missing keys, missing implementations) have no place.
-/
namespace WormLang

/-- The kinds of fault, by the name that reports give them. -/
inductive FaultKind where
  | program
  | typeCheck
  | argument
  | semantic
  | parse
  | illegalState
  | capability
  | variableReference
  | valueType
  | overflow
  | value
  | key
  | notImplemented
  | property
  | type
  | index
  | recursion
  | system
  | markup
  deriving DecidableEq, Repr

namespace FaultKind

def name : FaultKind → String
  | program => "ProgramError"
  | typeCheck => "TypeCheckError"
  | argument => "ArgumentError"
  | semantic => "SemanticError"
  | parse => "ParseError"
  | illegalState => "IllegalStateError"
  | capability => "CapabilityError"
  | variableReference => "VariableReferenceError"
  | valueType => "ValueTypeError"
  | overflow => "OverflowError"
  | value => "ValueError"
  | key => "KeyError"
  | notImplemented => "NotImplementedError"
  | property => "AttributeError"
  | type => "TypeError"
  | index => "IndexError"
  | recursion => "RecursionError"
  | system => "OSError"
  | markup => "MarkupError"

/-- Kinds of fault that are about a program and know a place in it. -/
def isLocated : FaultKind → Bool
  | overflow | value | key | notImplemented | property | type | index | recursion | system | markup =>
    false
  | _ => true

def located : List FaultKind :=
  [program, typeCheck, argument, semantic, parse, illegalState, capability, variableReference, valueType]

def ofName? (s : String) : Option FaultKind := located.find? (·.name == s)

end FaultKind

/-- The part of a construct that an operand stands in. -/
inductive Place where
  | left (symbol : String)
  | right (symbol : String)
  | argument (word : String)
  | negated
  | condition (word : String)
  | angle
  | yield
  deriving DecidableEq, Repr

def Place.describe : Place → String
  | left symbol => "Left operand of " ++ symbol
  | right symbol => "Right operand of " ++ symbol
  | argument word => "Argument of " ++ word
  | negated => "Operand of !"
  | condition word => "Condition of " ++ word
  | angle => "Angle of turn"
  | yield => "Yield of fire"

/-- Why something failed. Host data inside a cause is already in its written form. -/
inductive Cause where
  -- construction
  | operandType (place : Place) (expected got : Ty)
  | mixedEquality (op : EqualityOp) (left right : Ty)
  | invalidName (written : String)
  | alreadyDeclared (name : String)
  | notDeclared (name : String)
  | invalidLoopKind (written : String)
  | actionInLoop
  -- declarations
  | assignmentUndeclared (name : String)
  | assignmentType (name : String) (declared got : Ty)
  | loopUndeclared (name : String)
  | loopType (name : String) (declared : Ty)
  -- program text
  | unexpectedEnd
  | unexpectedToken (lexeme : String)
  | unexpectedCharacter (c : Char)
  -- state of a program
  | placeholderEvaluated
  | placeholderExecuted
  | assignmentVanished (name : String)
  | assignmentMismatch (got declared : Ty) (name : String)
  | loopVanished (name : String)
  | loopMismatch (name : String) (declared : Ty)
  | alreadyBound
  | bindingIncomplete
  | noEntity
  | noHandler
  | noWorld
  | terminated
  | unbound
  -- capabilities, variables, values
  | unsupported (owner capability : String)
  | queryOfNull (capability : String)
  | variableMissing (name : String)
  | variableRetyped (name : String) (expected : Ty)
  | cannotStore (written : String) (declared : Ty)
  | cannotAssign (got declared : Ty)
  -- host data
  | infinityToInteger
  | nanToInteger
  | integerTooLarge
  | mathDomain
  | notInWorld
  | alreadyInWorld (written : String)
  | unknownLoopKind (written : String)
  | negativeBudget
  | badArithmetic (written : String)
  | badOrder (written : String)
  | badEquality (written : String)
  | badLogic (written : String)
  | unknownFunction (written : String)
  | unknownQuery (written : String)
  | untestableKind (written : String)
  | missingKey (written : String)
  | notImplemented (owner method : String)
  | immutableValue
  | noAttribute (owner field : String)
  | noSetter (owner field : String)
  | unknownSort (name : String)
  | valueNeedsType (written : String)
  | variableNeedsType (written : String)
  | accessNeedsType (written : String)
  | numberNeeds (owner : String)
  | booleanNeeds (owner : String)
  | sequenceNeeds (owner : String)
  | programNeedsStatement (owner : String)
  | programNeedsTable (owner : String)
  -- loose host data
  | unreadableNumber (text : String)
  | notFloat (owner : String)
  | notInteger (owner : String)
  | notReal (owner : String)
  | notIterable (owner : String)
  | notSubscriptable (owner : String)
  | notCallable (owner : String)
  | noLength (owner : String)
  | unhashable (owner : String)
  | indexTooLarge (owner : String)
  | notUnpackable (owner : String)
  | tooFewToUnpack (got : Nat)
  | tooManyToUnpack
  | notText (index : Nat) (owner : String)
  | notShowable (owner : String)
  | notFieldName (owner : String)
  | operandSorts (symbol left right : String)
  | orderSorts (symbol left right : String)
  | notConcatenable (owner other : String)
  | notRepeatable (other : String)
  | notEntityKind (written : String)
  | notLoopKind (written : String)
  | missingArguments (operation : String) (names : List String)
  | tooManyArguments (operation : String) (least most given : Nat)
  | unknownArgument (operation name : String)
  | repeatedArgument (operation name : String)
  | tooDeep
  -- the console and its files
  | nameTooLong (path : String)
  | unmatchedTag (content : String) (position : Nat)
  | nothingToClose (position : Nat)
  -- reported by a host in its own words
  | reported (kind : FaultKind) (message : String)
  deriving DecidableEq, Repr

/-- Texts in a row, with a word before the last of them. -/
def listText : List String → String
  | [] => ""
  | [a] => a
  | [a, b] => a ++ " and " ++ b
  | many => ", ".intercalate many.dropLast ++ ", and " ++ many.getLast?.getD ""

def argumentWord (count : Nat) : String := if count = 1 then "argument" else "arguments"

namespace Cause

def kind : Cause → FaultKind
  | operandType .. | mixedEquality .. => .typeCheck
  | invalidName _ | alreadyDeclared _ | notDeclared _ | invalidLoopKind _ | actionInLoop
  | bindingIncomplete => .argument
  | assignmentUndeclared _ | assignmentType .. | loopUndeclared _ | loopType .. => .semantic
  | unexpectedEnd | unexpectedToken _ | unexpectedCharacter _ => .parse
  | placeholderEvaluated | placeholderExecuted | assignmentVanished _ | assignmentMismatch ..
  | loopVanished _ | loopMismatch .. | alreadyBound | noEntity | noHandler | noWorld | terminated
  | unbound => .illegalState
  | unsupported .. | queryOfNull _ => .capability
  | variableMissing _ | variableRetyped .. => .variableReference
  | cannotStore .. | cannotAssign .. => .valueType
  | infinityToInteger | integerTooLarge => .overflow
  | nanToInteger | mathDomain | notInWorld | alreadyInWorld _ | unknownLoopKind _ | negativeBudget
  | badArithmetic _ | badOrder _ | badEquality _ | badLogic _ | unknownFunction _ | unknownQuery _
  | untestableKind _ => .value
  | missingKey _ => .key
  | notImplemented .. => .notImplemented
  | immutableValue | noAttribute .. | noSetter .. | unknownSort _ => .property
  | valueNeedsType _ | variableNeedsType _ | accessNeedsType _ | numberNeeds _ | booleanNeeds _
  | sequenceNeeds _ | programNeedsStatement _ | programNeedsTable _ => .type
  | unreadableNumber _ | tooFewToUnpack _ | tooManyToUnpack | notEntityKind _ | notLoopKind _ => .value
  | notFloat _ | notInteger _ | notReal _ | notIterable _ | notSubscriptable _ | notCallable _ | noLength _
  | unhashable _ | notUnpackable _ | notText .. | notShowable _ | notFieldName _ | operandSorts ..
  | orderSorts .. | notConcatenable .. | notRepeatable _ | missingArguments .. | tooManyArguments .. | unknownArgument ..
  | repeatedArgument .. => .type
  | indexTooLarge _ => .index
  | tooDeep => .recursion
  | nameTooLong _ => .system
  | unmatchedTag .. | nothingToClose _ => .markup
  | reported kind _ => kind

def message : Cause → String
  | operandType place expected got =>
    place.describe ++ " must be " ++ expected.keyword ++ ", got " ++ got.keyword
  | mixedEquality op left right =>
    "Operands of " ++ op.symbol ++ " must have the same type, got " ++ left.keyword ++ " and " ++
      right.keyword
  | invalidName written => "Invalid variable name " ++ written
  | alreadyDeclared name => "Variable " ++ name ++ " is already declared"
  | notDeclared name => "Variable " ++ name ++ " is not declared"
  | invalidLoopKind written => "Invalid foreach kind " ++ written
  | actionInLoop => "The body of a foreach may not contain action statements"
  | assignmentUndeclared name => "Assignment to undeclared variable " ++ name
  | assignmentType name declared got =>
    "Variable " ++ name ++ " is " ++ declared.keyword ++ " but is assigned " ++ got.keyword
  | loopUndeclared name | loopVanished name => "Foreach variable " ++ name ++ " is not declared"
  | loopType name declared | loopMismatch name declared =>
    "Foreach variable " ++ name ++ " must be entity, not " ++ declared.keyword
  | unexpectedEnd => "Unexpected end of program"
  | unexpectedToken lexeme => "Unexpected " ++ Text.quoted lexeme
  | unexpectedCharacter c => "Unexpected character " ++ Text.quoted (String.singleton c)
  | placeholderEvaluated => "Invalid node evaluated"
  | placeholderExecuted => "Invalid node executed"
  | assignmentVanished name => "The variable " ++ name ++ " does not exist anymore"
  | assignmentMismatch got declared name =>
    "Cannot assign " ++ got.keyword ++ " to " ++ declared.keyword ++ " variable " ++ name
  | alreadyBound => "Program is already bound to an entity"
  | bindingIncomplete => "Binding requires an entity and a handler"
  | noEntity => "Program has no bound entity"
  | noHandler => "Program has no bound action handler"
  | noWorld => "Bound entity is not part of a world"
  | terminated => "Program has been terminated"
  | unbound => "Program must be bound to an entity before running"
  | unsupported owner capability => owner ++ " does not support " ++ capability
  | queryOfNull capability => "Cannot query " ++ capability ++ " of null"
  | variableMissing name => name ++ " does not exist"
  | variableRetyped name expected => name ++ " is no longer a " ++ expected.keyword
  | cannotStore written declared => "Cannot store " ++ written ++ " as " ++ declared.keyword
  | cannotAssign got declared =>
    "Cannot assign " ++ got.keyword ++ " to " ++ declared.keyword ++ " variable"
  | infinityToInteger => "cannot convert float infinity to integer"
  | nanToInteger => "cannot convert float NaN to integer"
  | integerTooLarge => "int too large to convert to float"
  | mathDomain => "math domain error"
  | notInWorld => "list.remove(x): x not in list"
  | alreadyInWorld written => written ++ " is already in this world"
  | unknownLoopKind written => "Unknown foreach kind " ++ written
  | negativeBudget => "max_statements cannot be negative"
  | badArithmetic written => "ArithmeticOp requires +, -, *, or /, got " ++ written
  | badOrder written => "ComparisonOp requires <, <=, >, or >=, got " ++ written
  | badEquality written => "EqualityOp requires == or !=, got " ++ written
  | badLogic written => "LogicalOp requires && or ||, got " ++ written
  | unknownFunction written => "Unknown math function " ++ written
  | unknownQuery written => "Unknown entity query " ++ written
  | untestableKind written => "Cannot test for entity kind " ++ written
  | missingKey written => written
  | notImplemented owner method => owner ++ "." ++ method ++ "() not implemented"
  | immutableValue => "Value is immutable"
  | noAttribute owner field =>
    Text.quoted owner ++ " object has no attribute " ++ Text.quoted field
  | noSetter owner field =>
    "property " ++ Text.quoted field ++ " of " ++ Text.quoted owner ++ " object has no setter"
  | unknownSort name => "module 'wormscript.ast' has no attribute " ++ Text.quoted name
  | valueNeedsType written => "Value type must be Type, got " ++ written
  | variableNeedsType written => "Variable type must be Type, got " ++ written
  | accessNeedsType written => "VariableAccess type must be Type, got " ++ written
  | numberNeeds owner => "Number literal requires int or float, got " ++ owner
  | booleanNeeds owner => "Boolean literal requires bool, got " ++ owner
  | sequenceNeeds owner => "Sequence requires Statements, got " ++ owner
  | programNeedsStatement owner => "Program requires a Statement, got " ++ owner
  | programNeedsTable owner => "Program requires a VariableTable, got " ++ owner
  | unreadableNumber text => "could not convert string to float: " ++ Text.quoted text
  | notFloat owner =>
    "float() argument must be a string or a real number, not " ++ Text.quoted owner
  | notInteger owner =>
    "int() argument must be a string, a bytes-like object or a real number, not " ++ Text.quoted owner
  | notReal owner => "must be real number, not " ++ owner
  | notIterable owner => Text.quoted owner ++ " object is not iterable"
  | notSubscriptable owner => Text.quoted owner ++ " object is not subscriptable"
  | notCallable owner => Text.quoted owner ++ " object is not callable"
  | noLength owner => "object of type " ++ Text.quoted owner ++ " has no len()"
  | unhashable owner => "unhashable type: " ++ Text.quoted owner
  | indexTooLarge owner => owner ++ " index out of range"
  | notUnpackable owner => "cannot unpack non-iterable " ++ owner ++ " object"
  | tooFewToUnpack got => "not enough values to unpack (expected 2, got " ++ toString got ++ ")"
  | tooManyToUnpack => "too many values to unpack (expected 2)"
  | notText index owner =>
    "sequence item " ++ toString index ++ ": expected str instance, " ++ owner ++ " found"
  | notShowable owner => "__str__ returned non-string (type " ++ owner ++ ")"
  | notFieldName owner => "attribute name must be string, not " ++ Text.quoted owner
  | operandSorts symbol left right =>
    "unsupported operand type(s) for " ++ symbol ++ ": " ++ Text.quoted left ++ " and " ++ Text.quoted right
  | orderSorts symbol left right =>
    Text.quoted symbol ++ " not supported between instances of " ++ Text.quoted left ++ " and " ++
      Text.quoted right
  | notConcatenable owner other =>
    "can only concatenate " ++ owner ++ " (not \"" ++ other ++ "\") to " ++ owner
  | notRepeatable other => "can't multiply sequence by non-int of type " ++ Text.quoted other
  | notEntityKind written => written ++ " is not a valid EntityKind"
  | notLoopKind written => written ++ " is not a valid ForeachKind"
  | missingArguments operation names =>
    operation ++ "() missing " ++ toString names.length ++ " required positional " ++
      argumentWord names.length ++ ": " ++ listText (names.map Text.quoted)
  | tooManyArguments operation least most given =>
    let range := if least = most then toString most else "from " ++ toString least ++ " to " ++ toString most
    operation ++ "() takes " ++ range ++ " positional " ++ argumentWord most ++ " but " ++ toString given ++
      (if given = 1 then " was given" else " were given")
  | unknownArgument operation name =>
    operation ++ "() got an unexpected keyword argument " ++ Text.quoted name
  | repeatedArgument operation name =>
    operation ++ "() got multiple values for argument " ++ Text.quoted name
  | tooDeep => "maximum recursion depth exceeded"
  | nameTooLong path => "[Errno 36] File name too long: " ++ Text.quoted path
  | unmatchedTag content position =>
    "closing tag '[" ++ content ++ "]' at position " ++ toString position ++ " doesn't match any open tag"
  | nothingToClose position =>
    "closing tag '[/]' at position " ++ toString position ++ " has nothing to close"
  | reported _ message => message

end Cause

/-- A cause and the place in program text that it is about. -/
structure Fault where
  cause : Cause
  position : Option Position := none
  deriving DecidableEq, Repr

namespace Fault

def kind (f : Fault) : FaultKind := f.cause.kind

def message (f : Fault) : String := f.cause.message

/-- The wording, after line and column if the line is known. -/
def text (f : Fault) : String :=
  match f.position.bind Position.location? with
  | some location => location ++ ": " ++ f.message
  | none => f.message

def line (f : Fault) : Option Int := f.position.bind Position.line

def column (f : Fault) : Option Int := f.position.bind Position.column

end Fault

/-- The one line that sums up the faults of a rejected program. -/
def rejectionMessage (faults : List Fault) : String :=
  let count := faults.length
  let summary := toString count ++ (if count = 1 then " error" else " errors") ++ " in program"
  match faults with
  | [] => summary
  | first :: _ => summary ++ "; first: " ++ first.text

end WormLang
