/-!
Operators, functions, queries and kinds: the closed vocabularies of expressions and loops, with the
words and symbols that program text uses for them.
-/
namespace WormLang

/-- Operators on two numbers with a number as result. -/
inductive ArithmeticOp where
  | add
  | sub
  | mul
  | div
  deriving DecidableEq, Repr

/-- Comparisons of two numbers by size. -/
inductive OrderOp where
  | lt
  | le
  | gt
  | ge
  deriving DecidableEq, Repr

inductive EqualityOp where
  | eq
  | ne
  deriving DecidableEq, Repr

inductive LogicalOp where
  | and
  | or
  deriving DecidableEq, Repr

inductive MathFunction where
  | sqrt
  | sin
  | cos
  deriving DecidableEq, Repr

/-- Numbers that an entity can be asked for. -/
inductive Query where
  | x
  | y
  | radius
  | direction
  | actionPoints
  | maxActionPoints
  | hitPoints
  | maxHitPoints
  deriving DecidableEq, Repr

inductive EntityKind where
  | worm
  | food
  | other
  deriving DecidableEq, Repr

inductive TestKind where
  | worm
  | food
  deriving DecidableEq, Repr

inductive LoopKind where
  | worm
  | food
  | any
  deriving DecidableEq, Repr

def ArithmeticOp.symbol : ArithmeticOp → String
  | add => "+"
  | sub => "-"
  | mul => "*"
  | div => "/"

def OrderOp.symbol : OrderOp → String
  | lt => "<"
  | le => "<="
  | gt => ">"
  | ge => ">="

def EqualityOp.symbol : EqualityOp → String
  | eq => "=="
  | ne => "!="

def LogicalOp.symbol : LogicalOp → String
  | and => "&&"
  | or => "||"

def MathFunction.word : MathFunction → String
  | sqrt => "sqrt"
  | sin => "sin"
  | cos => "cos"

namespace Query

def word : Query → String
  | x => "getx"
  | y => "gety"
  | radius => "getradius"
  | direction => "getdir"
  | actionPoints => "getap"
  | maxActionPoints => "getmaxap"
  | hitPoints => "gethp"
  | maxHitPoints => "getmaxhp"

def capability : Query → String
  | x => "position"
  | y => "position"
  | radius => "radius"
  | direction => "direction"
  | actionPoints => "action points"
  | maxActionPoints => "maximum action points"
  | hitPoints => "hit points"
  | maxHitPoints => "maximum hit points"

def all : List Query :=
  [x, y, radius, direction, actionPoints, maxActionPoints, hitPoints, maxHitPoints]

end Query

def teamCapability : String := "teams"

namespace EntityKind

def word : EntityKind → String
  | worm => "worm"
  | food => "food"
  | other => "other"

def name : EntityKind → String
  | worm => "WORM"
  | food => "FOOD"
  | other => "OTHER"

end EntityKind

namespace TestKind

def word : TestKind → String
  | worm => "isworm"
  | food => "isfood"

def kind : TestKind → EntityKind
  | worm => .worm
  | food => .food

end TestKind

namespace LoopKind

def word : LoopKind → String
  | worm => "worm"
  | food => "food"
  | any => "any"

def name : LoopKind → String
  | worm => "WORM"
  | food => "FOOD"
  | any => "ANY"

end LoopKind

def ArithmeticOp.ofSymbol? (s : String) : Option ArithmeticOp :=
  [ArithmeticOp.add, .sub, .mul, .div].find? (·.symbol == s)

def OrderOp.ofSymbol? (s : String) : Option OrderOp :=
  [OrderOp.lt, .le, .gt, .ge].find? (·.symbol == s)

def EqualityOp.ofSymbol? (s : String) : Option EqualityOp :=
  [EqualityOp.eq, .ne].find? (·.symbol == s)

def LogicalOp.ofSymbol? (s : String) : Option LogicalOp :=
  [LogicalOp.and, .or].find? (·.symbol == s)

def MathFunction.ofWord? (s : String) : Option MathFunction :=
  [MathFunction.sqrt, .sin, .cos].find? (·.word == s)

def Query.ofWord? (s : String) : Option Query := Query.all.find? (·.word == s)

def EntityKind.ofWord? (s : String) : Option EntityKind :=
  [EntityKind.worm, .food, .other].find? (·.word == s)

def LoopKind.ofWord? (s : String) : Option LoopKind :=
  [LoopKind.worm, .food, .any].find? (·.word == s)

end WormLang
