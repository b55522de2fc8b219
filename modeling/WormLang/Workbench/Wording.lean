import WormLang.Workbench.Field

/-!
Texts of data on the workbench: as messages show it, as text, and as program text. Since a slot may hold
anything, a text can fail for want of a field. Program text of a variable access is whatever its name is.
-/
namespace WormLang

/-- Texts in a row with commas between them. -/
def listed (texts : List String) : String := ", ".intercalate texts

namespace Act

/-- Data as text, given how it is written: texts and entities stand for themselves. -/
def shownBy (written : Datum → Act String) (d : Datum) : Act String := do
  match d with
  | .text s => return s
  | .list .. | .tuple _ | .value .. | .object (.node _) | .object (.cell _) | .object (.program _) | .object .table =>
    written d
  | d => .ofExcept (d.shown (← get).names)

/-- A node as messages show it: its sort and the slots that matter. -/
def nodeText (written : Datum → Act String) (i : Nat) : Act String := do
  let n ← node i
  let slot (name : String) : Act Datum := field (.object (.node i)) name
  let quoted (name : String) : Act String := do written (← slot name)
  let plain (name : String) : Act String := do shownBy written (← slot name)
  let within (name inner : String) : Act Datum := do field (← slot name) inner
  let parts : List String ←
    match n.form with
    | .number | .boolean => do pure [← written (← within "value" "data")]
    | .access => do pure [← quoted "name", ← shownBy written (← within "type" "keyword")]
    | .arithmetic | .order | .equality | .logical => do pure [← plain "left", ← quoted "op", ← plain "right"]
    | .math => do pure [← quoted "name", ← plain "operand"]
    | .negation | .sameTeam => do pure [← plain "operand"]
    | .query => do pure [← quoted "query", ← plain "operand"]
    | .isKind => do pure [← shownBy written (← within "kind" "name"), ← plain "operand"]
    | .search => do pure [← plain "offset"]
    | .sequence => do pure [toString (← .ofExcept ((← slot "statements").size (← get).owner))]
    | .assignment => do pure [← quoted "name", ← plain "expression"]
    | .print => do pure [← plain "expression"]
    | .turn => do pure [← plain "angle"]
    | .fire => do pure [← plain "yield_"]
    | .branch | .loop => do pure [← plain "condition"]
    | .each => do pure [← shownBy written (← within "kind" "name"), ← quoted "name"]
    | .placeholder => do pure [← written (← within "error" "message")]
    | .null | .self | .move | .jump | .toggleWeapon | .skip => pure []
  return n.form.name ++ "(" ++ listed parts ++ ")"

/-- Data as messages show it, down to a depth. -/
def writtenTo : Nat → Datum → Act String
  | 0, _ => fail .tooDeep
  | depth + 1, d => do
    match d with
    | .list _ items => return "[" ++ listed (← items.mapM (writtenTo depth)) ++ "]"
    | .tuple [item] => return "(" ++ (← writtenTo depth item) ++ ",)"
    | .tuple items => return "(" ++ listed (← items.mapM (writtenTo depth)) ++ ")"
    | .value _ t data => return "Value(" ++ t.keyword ++ ", " ++ (← writtenTo depth data) ++ ")"
    | .object (.node i) => nodeText (writtenTo depth) i
    | .object (.cell i) =>
      let c ← cell i
      let keyword ← shownBy (writtenTo depth) (← field c.ty "keyword")
      return "Variable(" ++ keyword ++ ", " ++ (← writtenTo depth (← field c.content "data")) ++ ")"
    | .object (.program _) => return "Program<" ++ toString (← get).table.size ++ " globals>"
    | .object .table => return (← get).table.describe
    | d => return d.written (← get).names

def written (d : Datum) : Act String := writtenTo deepest d

def shown (d : Datum) : Act String := shownBy written d

/-- The text that a print statement shows for a value. A text is its own. -/
def display (d : Datum) : Act String := do
  match d with
  | .value _ .boolean data => return boolWord data.isTruthy
  | .value _ .number (.float x) => return Number.displayText x
  | .value _ _ .null => return "null"
  | .value _ _ data => shown data
  | .text s => return s
  | d => lacks d "format"

/-- The word of a test for a kind. -/
def testWord (kind : Datum) : Act String := do
  .ofExcept kind.checkKey
  match kind with
  | .entityKind .worm => return TestKind.worm.word
  | .entityKind .food => return TestKind.food.word
  | d => fail (.missingKey (← written d))

/-- Several texts with a text between them; everything must be a text. -/
def joined (separator : String) (parts : List Datum) : Act String := do
  let texts ← parts.zipIdx.mapM fun (d, i) => do
    match d with
    | .text s => return s
    | d => fail (.notText i ((← get).owner d))
  return separator.intercalate texts

def children (d : Datum) : Act (List Datum) := do
  let (_, n) ← callee d "children" Form.isStatement
  match n.form with
  | .sequence => .ofExcept ((← field d "statements").parts (← get).owner)
  | .branch => return [← field d "then", ← field d "otherwise"]
  | .loop | .each => return [← field d "body"]
  | _ => return []

def hasChildren (d : Datum) : Act Bool := do
  let (_, n) ← callee d "children" Form.isStatement
  match n.form with
  | .sequence => return (← field d "statements").isTruthy
  | .branch | .loop | .each => return true
  | _ => return false

/-- The program text of a node, given that of other data. -/
def nodeSource (source : Datum → Act Datum) (form : Form) (d : Datum) : Act Datum := do
  let slot (name : String) : Act String := do shown (← field d name)
  let inner (name : String) : Act String := do shown (← source (← field d name))
  let within (name part : String) : Act String := do shown (← field (← field d name) part)
  match form with
  | .number | .boolean => return .text (← display (← field d "value"))
  | .null => return .text "null"
  | .self => return .text "self"
  | .access => field d "name"
  | .arithmetic | .order | .equality | .logical =>
    let left ← inner "left"
    let op ← slot "op"
    return .text (Expr.binaryText left op (← inner "right"))
  | .math => return .text ((← slot "name") ++ "(" ++ (← inner "operand") ++ ")")
  | .negation => return .text ("!" ++ (← inner "operand"))
  | .query => return .text ((← slot "query") ++ " " ++ (← inner "operand"))
  | .sameTeam => return .text ("sameteam " ++ (← inner "operand"))
  | .isKind =>
    let word ← testWord (← field d "kind")
    return .text (word ++ " " ++ (← inner "operand"))
  | .search => return .text ("searchobj " ++ (← inner "offset"))
  | .sequence =>
    let statements ← .ofExcept ((← field d "statements").parts (← get).owner)
    let body ← joined " " (← statements.mapM source)
    return .text (if body.isEmpty then "\x7b \x7d" else "\x7b " ++ body ++ " \x7d")
  | .assignment => return .text ((← slot "name") ++ " := " ++ (← inner "expression") ++ ";")
  | .print => return .text ("print " ++ (← inner "expression") ++ ";")
  | .turn => return .text ("turn " ++ (← inner "angle") ++ ";")
  | .fire => return .text ("fire " ++ (← inner "yield_") ++ ";")
  | .move | .jump | .toggleWeapon | .skip => return .text ((← slot "keyword") ++ ";")
  | .branch =>
    let condition ← inner "condition"
    let text := "if " ++ condition ++ " then " ++ (← inner "then")
    if ← hasChildren (← field d "otherwise") then return .text (text ++ " else " ++ (← inner "otherwise"))
    else return .text text
  | .loop =>
    let condition ← inner "condition"
    return .text ("while " ++ condition ++ " " ++ (← inner "body"))
  | .each =>
    let kind ← within "kind" "value"
    let name ← slot "name"
    return .text ("foreach (" ++ kind ++ ", " ++ name ++ ") do " ++ (← inner "body"))
  | .placeholder => fail (.notImplemented form.name "unparse")

/-- The program text of a program, given that of other data: declarations first, then the statements of the
root, one a line. -/
def scriptSource (source : Datum → Act Datum) (i : Nat) : Act Datum := do
  let declarations ← (← get).table.entries.mapM fun (name, index) => do
    return Datum.text ((← shown (← field (← cell index).ty "keyword")) ++ " " ++ name ++ ";")
  let root := (← script i).statement
  let isSequence ←
    match root with
    | .object (.node index) => do pure ((← node index).form == .sequence)
    | _ => pure false
  let statements ←
    if isSequence then do
      let statements ← .ofExcept ((← field root "statements").parts (← get).owner)
      statements.mapM source
    else do pure [← source root]
  return .text (← joined "\n" (declarations ++ statements))

/-- The program text of data, down to a depth. -/
def sourceTo : Nat → Datum → Act Datum
  | 0, _ => fail .tooDeep
  | depth + 1, d => do
    match d with
    | .object (.program i) => scriptSource (sourceTo depth) i
    | d =>
      let (_, n) ← callee d "unparse" fun _ => true
      nodeSource (sourceTo depth) n.form d

def source (d : Datum) : Act Datum := sourceTo deepest d

end Act

end WormLang
