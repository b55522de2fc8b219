import WormLang.Position
import WormLang.Ty
import WormLang.Operator

/-!
Tokens of program text. Keywords are reserved: a word is a keyword or a name, never both.
-/
namespace WormLang

/-- A point in program text, counted from one. -/
structure Mark where
  line : Nat
  column : Nat
  deriving DecidableEq, Repr, Inhabited

/-- A stretch of program text; the stop is exclusive. -/
structure Extent where
  start : Mark
  stop : Mark
  deriving DecidableEq, Repr, Inhabited

def Extent.position (e : Extent) (file : Option String) : Position :=
  { line := some e.start.line, column := some e.start.column, endLine := some e.stop.line,
    endColumn := some e.stop.column, file }

/-- The position of a point of a file, with no end. -/
def Mark.position (m : Mark) (file : Option String) : Position :=
  { line := some m.line, column := some m.column, file }

inductive Keyword where
  | type (t : Ty)
  | kind (k : LoopKind)
  | query (q : Query)
  | function (f : MathFunction)
  | test (k : TestKind)
  | truth (b : Bool)
  | sameteam
  | searchobj
  | null
  | self
  | print
  | ifWord
  | thenWord
  | elseWord
  | whileWord
  | doWord
  | foreach
  | turn
  | move
  | jump
  | toggleweap
  | fire
  | skip
  deriving DecidableEq, Repr

inductive Symbol where
  | arithmetic (op : ArithmeticOp)
  | order (op : OrderOp)
  | equality (op : EqualityOp)
  | logical (op : LogicalOp)
  | bang
  | assign
  | semicolon
  | comma
  | openParen
  | closeParen
  | openBrace
  | closeBrace
  deriving DecidableEq, Repr

/-- A token without its place. -/
inductive Lexeme where
  | keyword (k : Keyword)
  | symbol (s : Symbol)
  | name (text : String)
  | number (text : String)
  deriving DecidableEq, Repr

namespace Keyword

def word : Keyword → String
  | type t => t.keyword
  | kind k => k.word
  | query q => q.word
  | function f => f.word
  | test k => k.word
  | truth b => if b then "true" else "false"
  | sameteam => "sameteam"
  | searchobj => "searchobj"
  | null => "null"
  | self => "self"
  | print => "print"
  | ifWord => "if"
  | thenWord => "then"
  | elseWord => "else"
  | whileWord => "while"
  | doWord => "do"
  | foreach => "foreach"
  | turn => "turn"
  | move => "move"
  | jump => "jump"
  | toggleweap => "toggleweap"
  | fire => "fire"
  | skip => "skip"

def all : List Keyword :=
  [Ty.number, .boolean, .entity].map type ++ [LoopKind.worm, .food, .any].map kind ++
    Query.all.map query ++ [MathFunction.sqrt, .sin, .cos].map function ++
    [TestKind.worm, .food].map test ++ [true, false].map truth ++
    [sameteam, searchobj, null, self, print, ifWord, thenWord, elseWord, whileWord, doWord, foreach,
      turn, move, jump, toggleweap, fire, skip]

def ofWord? (s : String) : Option Keyword := all.find? (·.word == s)

end Keyword

def Symbol.text : Symbol → String
  | arithmetic op => op.symbol
  | order op => op.symbol
  | equality op => op.symbol
  | logical op => op.symbol
  | bang => "!"
  | assign => ":="
  | semicolon => ";"
  | comma => ","
  | openParen => "("
  | closeParen => ")"
  | openBrace => "\x7b"
  | closeBrace => "\x7d"

def Lexeme.text : Lexeme → String
  | keyword k => k.word
  | symbol s => s.text
  | name text => text
  | number text => text

/-- A word as a lexeme: a keyword if it is reserved, a name otherwise. -/
def Lexeme.ofWord (s : String) : Lexeme :=
  match Keyword.ofWord? s with
  | some k => keyword k
  | none => name s

/-- A token with its place. -/
structure Token where
  lexeme : Lexeme
  extent : Extent
  deriving DecidableEq, Repr

namespace Token

def start (t : Token) : Mark := t.extent.start

def stop (t : Token) : Mark := t.extent.stop

end Token

end WormLang
