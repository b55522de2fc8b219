import WormLang.Tree
import WormLang.Token.Lexer
import WormLang.Fault

/-!
Trees read off tokens. The reader takes one token at a time and keeps what is still open: the blocks around
the present place, the construct being read, and the operators that wait for their right operand. It
accepts a token iff the tokens so far can still become a program, so the first token that it refuses is
the offending one.
-/
namespace WormLang

/-- A complete operand. Its extent counts the parentheses around it, which its tree does not. -/
structure Operand where
  tree : ExprTree
  extent : Extent

/-- What waits for an operand, innermost first. -/
inductive Pending where
  | unary (op : UnaryOp) (start : Mark)
  | left (op : BinaryOp) (operand : Operand)
  | paren (start : Mark)
  | call (function : MathFunction) (start : Mark)

/-- The construct that an expression is read for. -/
inductive Purpose where
  | initial (start : Mark) (typeExtent : Extent) (ty : Ty) (name : Word)
  | assignment (name : Word)
  | print (start : Mark)
  | turn (start : Mark)
  | fire (start : Mark)
  | branch (start : Mark)
  | loop (start : Mark)

/-- The construct that a block belongs to. -/
inductive Role where
  | plain
  | yes (start : Mark) (condition : ExprTree)
  | no (start : Mark) (condition : ExprTree) (yes : StmtTree)
  | loop (start : Mark) (condition : ExprTree)
  | each (start : Mark) (kindExtent : Extent) (kind : LoopKind) (name : Word)

/-- An open block: what it belongs to, its brace, and its statements so far, last first. -/
structure Level where
  role : Role
  start : Mark
  done : List StmtTree

/-- What the reader is in the middle of. -/
inductive Phase where
  /-- Between two items or statements. -/
  | ready
  /-- An operand must follow. -/
  | operand (purpose : Purpose) (pending : List Pending)
  /-- An operand is complete; an operator may follow. -/
  | operator (purpose : Purpose) (pending : List Pending) (operand : Operand)
  /-- A function's parenthesis must follow. -/
  | argument (purpose : Purpose) (pending : List Pending) (function : MathFunction) (start : Mark)
  | declared (typeToken : Extent) (ty : Ty)
  | named (typeToken : Extent) (ty : Ty) (name : Word)
  | assigned (name : Word)
  /-- An action without operand is complete; a semicolon may follow. -/
  | acted (extent : Extent) (action : SimpleAction)
  /-- A block must follow, perhaps after a keyword. -/
  | opening (role : Role) (keyword? : Option Keyword)
  /-- The block of an if is complete; an else may follow. -/
  | chosen (start : Mark) (condition : ExprTree) (yes : StmtTree)
  | eachParen (start : Mark)
  | eachKind (start : Mark)
  | eachComma (start : Mark) (kindExtent : Extent) (kind : LoopKind)
  | eachName (start : Mark) (kindExtent : Extent) (kind : LoopKind)
  | eachClose (start : Mark) (kindExtent : Extent) (kind : LoopKind) (name : Word)

/-- The state of reading: items so far, last first, open blocks, innermost first, and the phase. -/
structure Reader where
  items : List ItemTree := []
  levels : List Level := []
  phase : Phase := .ready

/-- The operator that a keyword or symbol is in front of an operand. -/
def UnaryOp.ofLexeme? : Lexeme → Option UnaryOp
  | .symbol (.arithmetic .sub) => some .negative
  | .symbol .bang => some .bang
  | .keyword (.query q) => some (.query q)
  | .keyword .sameteam => some .sameTeam
  | .keyword (.test k) => some (.test k)
  | .keyword .searchobj => some .search
  | _ => none

/-- The operator that a symbol is between two operands. -/
def BinaryOp.ofLexeme? : Lexeme → Option BinaryOp
  | .symbol (.logical op) => some (.logical op)
  | .symbol (.order op) => some (.order op)
  | .symbol (.equality op) => some (.equality op)
  | .symbol (.arithmetic op) => some (.arithmetic op)
  | _ => none

def ExprTree.ofToken? (t : Token) : Option ExprTree :=
  match t.lexeme with
  | .number text => some (.number t.extent text)
  | .name text => some (.name t.extent text)
  | .keyword (.truth b) => some (.truth t.extent b)
  | .keyword .null => some (.null t.extent)
  | .keyword .self => some (.self t.extent)
  | _ => none

def SimpleAction.ofKeyword? : Keyword → Option SimpleAction
  | .move => some .move
  | .jump => some .jump
  | .toggleweap => some .toggleweap
  | .skip => some .skip
  | _ => none

namespace Operand

def ofTree (tree : ExprTree) : Operand := { tree, extent := tree.extent }

def applyUnary (op : UnaryOp) (start : Mark) (e : Operand) : Operand :=
  ofTree (.unary { start, stop := e.extent.stop } op e.tree)

def applyBinary (op : BinaryOp) (l r : Operand) : Operand :=
  ofTree (.binary { start := l.extent.start, stop := r.extent.stop } op l.tree r.tree)

end Operand

/-- Give an operand to the operators that wait for it and bind at least as tightly as `level`. -/
def settle (level : Nat) : List Pending → Operand → List Pending × Operand
  | .unary op start :: rest, e => settle level rest (e.applyUnary op start)
  | .left op l :: rest, e =>
    if level ≤ op.level then settle level rest (.applyBinary op l e) else (.left op l :: rest, e)
  | pending, e => (pending, e)

/-- Whether a comparison waits for its right operand. -/
def comparisonWaits : List Pending → Bool
  | .left op _ :: _ => op.isComparison
  | _ => false

/-- Let an operator follow an operand. A comparison cannot follow a comparison. -/
def pushOperator? (op : BinaryOp) (pending : List Pending) (e : Operand) : Option (List Pending) :=
  if op.isComparison then
    let (pending, e) := settle (op.level + 1) pending e
    if comparisonWaits pending then none else some (.left op e :: pending)
  else
    let (pending, e) := settle op.level pending e
    some (.left op e :: pending)

def closeParen? (stop : Mark) (pending : List Pending) (e : Operand) : Option (List Pending × Operand) :=
  match settle 0 pending e with
  | (.paren start :: rest, e) => some (rest, { tree := e.tree, extent := { start, stop } })
  | (.call function start :: rest, e) => some (rest, .ofTree (.call { start, stop } function e.tree))
  | _ => none

/-- The whole expression, if no parenthesis is open. -/
def whole? (pending : List Pending) (e : Operand) : Option Operand :=
  match settle 0 pending e with
  | ([], e) => some e
  | _ => none

/-- The statement that an expression completes, up to a given mark; a condition completes none, and neither does
the first value of a declaration. -/
def Purpose.statement? (stop : Mark) (e : ExprTree) : Purpose → Option StmtTree
  | assignment name => some (.assignment { start := name.extent.start, stop } name e)
  | print start => some (.print { start, stop } e)
  | turn start => some (.turn { start, stop } e)
  | fire start => some (.fire { start, stop } e)
  | _ => none

namespace Reader

def add (r : Reader) (s : StmtTree) : Reader :=
  match r.levels with
  | [] => { r with items := .statement s :: r.items, phase := .ready }
  | level :: rest => { r with levels := { level with done := s :: level.done } :: rest, phase := .ready }

def openBlock (r : Reader) (role : Role) (start : Mark) : Reader :=
  { r with levels := { role, start, done := [] } :: r.levels, phase := .ready }

def closeBlock? (r : Reader) (stop : Mark) : Option Reader :=
  match r.levels with
  | [] => none
  | level :: rest =>
    let block := StmtTree.block { start := level.start, stop } level.done.reverse
    let r := { r with levels := rest }
    match level.role with
    | .plain => some (r.add block)
    | .yes start condition => some { r with phase := .chosen start condition block }
    | .no start condition yes => some (r.add (.branchElse { start, stop } condition yes block))
    | .loop start condition => some (r.add (.loop { start, stop } condition block))
    | .each start kindExtent kind name => some (r.add (.each { start, stop } kindExtent kind name block))

/-- Let a token start an item, a statement, or the end of a block. -/
def begin? (r : Reader) (t : Token) : Option Reader :=
  match t.lexeme with
  | .keyword (.type ty) => if r.levels.isEmpty then some { r with phase := .declared t.extent ty } else none
  | .name text => some { r with phase := .assigned { extent := t.extent, text } }
  | .keyword .print => some { r with phase := .operand (.print t.start) [] }
  | .keyword .turn => some { r with phase := .operand (.turn t.start) [] }
  | .keyword .fire => some { r with phase := .operand (.fire t.start) [] }
  | .keyword .ifWord => some { r with phase := .operand (.branch t.start) [] }
  | .keyword .whileWord => some { r with phase := .operand (.loop t.start) [] }
  | .keyword .foreach => some { r with phase := .eachParen t.start }
  | .keyword k => (SimpleAction.ofKeyword? k).map fun action => { r with phase := .acted t.extent action }
  | .symbol .openBrace => some (r.openBlock .plain t.start)
  | .symbol .closeBrace => r.closeBlock? t.stop
  | _ => none

/-- Let a token be an operand or start one. -/
def takeOperand? (r : Reader) (purpose : Purpose) (pending : List Pending) (t : Token) : Option Reader :=
  match ExprTree.ofToken? t with
  | some tree => some { r with phase := .operator purpose pending (.ofTree tree) }
  | none =>
    match UnaryOp.ofLexeme? t.lexeme, t.lexeme with
    | some op, _ => some { r with phase := .operand purpose (.unary op t.start :: pending) }
    | none, .keyword (.function f) => some { r with phase := .argument purpose pending f t.start }
    | none, .symbol .openParen => some { r with phase := .operand purpose (.paren t.start :: pending) }
    | none, _ => none

/-- Let a token end a whole expression, other than by starting the next statement. -/
def endExpression? (r : Reader) (purpose : Purpose) (e : Operand) (t : Token) : Option Reader :=
  match t.lexeme, purpose with
  | .symbol .semicolon, .initial start typeExtent ty name =>
    some { r with
      items := .declaration { start, stop := t.stop } typeExtent ty name (some e.tree) :: r.items
      phase := .ready }
  | .symbol .semicolon, purpose => (purpose.statement? t.stop e.tree).map r.add
  | .symbol .openBrace, .branch start => some (r.openBlock (.yes start e.tree) t.start)
  | .symbol .openBrace, .loop start => some (r.openBlock (.loop start e.tree) t.start)
  | .keyword .thenWord, .branch start => some { r with phase := .opening (.yes start e.tree) none }
  | .keyword .doWord, .loop start => some { r with phase := .opening (.loop start e.tree) none }
  | _, _ => none

/-- Let a token follow a complete operand. -/
def takeOperator? (r : Reader) (purpose : Purpose) (pending : List Pending) (e : Operand) (t : Token) :
    Option Reader :=
  match BinaryOp.ofLexeme? t.lexeme with
  | some op => (pushOperator? op pending e).map fun pending => { r with phase := .operand purpose pending }
  | none =>
    if t.lexeme = .symbol .closeParen then
      (closeParen? t.stop pending e).map fun (pending, e) => { r with phase := .operator purpose pending e }
    else (whole? pending e).bind fun e => r.endExpression? purpose e t

/-- Let a token go on with what the reader is in the middle of. -/
def continue? (r : Reader) (t : Token) : Option Reader :=
  match r.phase, t.lexeme with
  | .ready, _ => none
  | .operand purpose pending, _ => r.takeOperand? purpose pending t
  | .operator purpose pending e, _ => r.takeOperator? purpose pending e t
  | .argument purpose pending f start, .symbol .openParen =>
    some { r with phase := .operand purpose (.call f start :: pending) }
  | .declared typeExtent ty, .name text =>
    some { r with phase := .named typeExtent ty { extent := t.extent, text } }
  | .named typeExtent ty name, .symbol .assign =>
    some { r with phase := .operand (.initial typeExtent.start typeExtent ty name) [] }
  | .named typeExtent ty name, .symbol .semicolon =>
    some { r with
      items := .declaration { start := typeExtent.start, stop := t.stop } typeExtent ty name none :: r.items
      phase := .ready }
  | .assigned name, .symbol .assign => some { r with phase := .operand (.assignment name) [] }
  | .acted extent action, .symbol .semicolon =>
    some (r.add (.simple { start := extent.start, stop := t.stop } action))
  | .opening role _, .symbol .openBrace => some (r.openBlock role t.start)
  | .opening role (some keyword), .keyword k =>
    if k = keyword then some { r with phase := .opening role none } else none
  | .chosen start condition yes, .keyword .elseWord =>
    some { r with phase := .opening (.no start condition yes) none }
  | .eachParen start, .symbol .openParen => some { r with phase := .eachKind start }
  | .eachKind start, .keyword (.kind kind) => some { r with phase := .eachComma start t.extent kind }
  | .eachComma start kindExtent kind, .symbol .comma =>
    some { r with phase := .eachName start kindExtent kind }
  | .eachName start kindExtent kind, .name text =>
    some { r with phase := .eachClose start kindExtent kind { extent := t.extent, text } }
  | .eachClose start kindExtent kind name, .symbol .closeParen =>
    some { r with phase := .opening (.each start kindExtent kind name) (some .doWord) }
  | _, _ => none

/-- Complete the statement that could end here, so that the reader is ready for the next one. -/
def rest? (r : Reader) : Option Reader :=
  match r.phase with
  | .ready => some r
  | .operator purpose pending e =>
    (whole? pending e).bind fun e => (purpose.statement? e.extent.stop e.tree).map r.add
  | .acted extent action => some (r.add (.simple extent action))
  | .chosen start condition yes =>
    some (r.add (.branch { start, stop := yes.extent.stop } condition yes))
  | _ => none

/-- Read one token; none if it is refused. -/
def step? (r : Reader) (t : Token) : Option Reader :=
  match r.continue? t with
  | some r => some r
  | none => r.rest?.bind fun r => r.begin? t

/-- The program that is complete here. -/
def finish? (r : Reader) : Option ProgramTree :=
  r.rest?.bind fun r => if r.levels.isEmpty then some { items := r.items.reverse } else none

/-- What stops reading. -/
inductive Stop where
  | token (t : Token)
  | character (c : Char) (mark : Mark)
  /-- The text ends too early; the mark is the start of the last token. -/
  | ended (mark : Mark)

/-- Read the tokens of a scan, given the last token before them. -/
def readAll (r : Reader) (last : Mark) (stray? : Option (Char × Mark)) : List Token → Except Stop ProgramTree
  | [] =>
    match stray? with
    | some (c, mark) => .error (.character c mark)
    | none =>
      match r.finish? with
      | some tree => .ok tree
      | none => .error (.ended last)
  | t :: rest =>
    match r.step? t with
    | some r => readAll r t.start stray? rest
    | none => .error (.token t)

end Reader

def Reader.Stop.fault (file : Option String) : Reader.Stop → Fault
  | token t => { cause := .unexpectedToken t.lexeme.text, position := some (t.start.position file) }
  | character c mark => { cause := .unexpectedCharacter c, position := some (mark.position file) }
  | ended mark => { cause := .unexpectedEnd, position := some (mark.position file) }

def ProgramTree.parse (source : String) : Except Reader.Stop ProgramTree :=
  let scan := Scan.ofText source
  Reader.readAll {} { line := 1, column := 1 } scan.stray? scan.tokens

end WormLang
