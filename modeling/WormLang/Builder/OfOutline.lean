import WormLang.Builder.OfTree
import WormLang.Tree.Outline

/-!
Outlines handed to a builder. A rule is looked up by its name, and the parts that it needs are taken by their place;
nothing checks an outline beforehand, so that one of an unknown shape is noticed only where its conversion gets stuck.
Everything is made by the operations of a builder, which may be any.
-/
namespace WormLang

/-- Why an outline cannot be converted. -/
inductive Misfit where
  /-- No statement or expression is known by the name. -/
  | unhandled (rule : String)
  /-- A table has nothing for the word. -/
  | unknownWord (word : String)
  | missingPart (index : Nat)
  /-- A declaration has three parts, not so many. -/
  | unpacked (count : Nat)
  /-- A token or nothing at all stands where a rule is needed. -/
  | notRule
  /-- A rule or nothing at all stands where a token is needed. -/
  | notToken
  /-- The text of a token is no number. -/
  | notNumber (text : String)
  deriving DecidableEq, Repr

/-- The operations of a builder that makes expressions and statements. -/
structure Maker (m : Type → Type) (E S : Type) where
  declare : Position → String → Ty → m Unit
  number : Position → Float → m E
  truth : Position → Bool → m E
  null : Position → m E
  self : Position → m E
  access : Position → String → m E
  prefixed : UnaryOp ⊕ MathFunction → Position → E → m E
  binary : BinaryOp → Position → E → E → m E
  sequence : Position → List S → m S
  assignment : Position → String → E → m S
  print : Position → E → m S
  turn : Position → E → m S
  fire : Position → E → m S
  simple : SimpleAction → Position → m S
  branch : Position → E → S → Option S → m S
  loop : Position → E → S → m S
  each : Position → LoopKind → String → S → m S

/-- The builder of programs. -/
def Builder.maker : Maker Build Expr Stmt where
  declare at' name t := do let _ ← Builder.declare at' name t
  number at' v := return .number at' v
  truth at' b := return .boolean at' b
  null at' := return .null at'
  self at' := return .self at'
  access at' name := Builder.access at' name
  prefixed
    | .inl op, at', e => op.build at' e
    | .inr f, at', e => Builder.keepExpr .math (Expr.mkMath at' f e)
  binary op at' l r := Builder.keepExpr op.form (op.make at' l r)
  sequence at' body := return .sequence at' body
  assignment at' name e := Builder.keepStmt .assignment (Stmt.mkAssignment at' name e)
  print at' e := return .print at' e
  turn at' e := Builder.keepStmt .turn (Stmt.mkAction at' (.turn e))
  fire at' e := Builder.keepStmt .fire (Stmt.mkAction at' (.fire e))
  simple a at' := return .action at' a.action
  branch at' c yes no? := Builder.branch at' c yes no?
  loop at' c body := Builder.loop at' c body
  each at' kind name body := Builder.each at' kind name body

namespace Outline

def types : List (String × Ty) := [("double", .number), ("bool", .boolean), ("entity", .entity)]

def loopKinds : List (String × LoopKind) := [("worm", .worm), ("food", .food), ("any", .any)]

/-- The operators between two operands by their rules. -/
def binaryRules : List (String × BinaryOp) :=
  [("or_op", .logical .or), ("and_op", .logical .and), ("lt", .order .lt), ("le", .order .le), ("gt", .order .gt),
    ("ge", .order .ge), ("eq", .equality .eq), ("ne", .equality .ne), ("add", .arithmetic .add),
    ("sub", .arithmetic .sub), ("mul", .arithmetic .mul), ("div", .arithmetic .div)]

/-- The operators and functions with one operand by their rules. -/
def prefixRules : List (String × (UnaryOp ⊕ MathFunction)) :=
  [("neg", .inl .negative), ("not_op", .inl .bang), ("sameteam", .inl .sameTeam), ("isworm", .inl (.test .worm)),
    ("isfood", .inl (.test .food)), ("searchobj", .inl .search), ("sqrt", .inr .sqrt), ("sin", .inr .sin),
    ("cos", .inr .cos), ("getx", .inl (.query .x)), ("gety", .inl (.query .y)), ("getradius", .inl (.query .radius)),
    ("getdir", .inl (.query .direction)), ("getap", .inl (.query .actionPoints)),
    ("getmaxap", .inl (.query .maxActionPoints)), ("gethp", .inl (.query .hitPoints)),
    ("getmaxhp", .inl (.query .maxHitPoints))]

/-- The position of a rule; that of an empty program knows nothing but the file. -/
def position (file : Option String) (extent? : Option Extent) : Position :=
  match extent? with
  | some extent => extent.position file
  | none => { file }

/-- What stands at an optional place, unless nothing does. -/
def present? : Outline → Option Outline
  | absent => none
  | o => some o

section

variable {m : Type → Type} [Monad m] {E S α : Type}

/-- The part at a place. -/
def part (parts : List α) (index : Nat) : ExceptT Misfit m α :=
  match parts[index]? with
  | some p => return p
  | none => throw (.missingPart index)

/-- What a table has for a word. -/
def find (table : List (String × α)) (word : String) : ExceptT Misfit m α :=
  match table.lookup word with
  | some a => return a
  | none => throw (.unknownWord word)

def value : Outline → ExceptT Misfit m String
  | token _ text _ => return text
  | _ => throw .notToken

def parts : Outline → ExceptT Misfit m (List Outline)
  | rule _ _ parts => return parts
  | _ => throw .notRule

def word (o : Outline) : ExceptT Misfit m String := do value (← part (← o.parts) 0)

/-- The number that a text is read as. -/
def number (text : String) : ExceptT Misfit m Float :=
  match Number.readDecimal? text.toList with
  | some v => return v
  | none => throw (.notNumber text)

mutual

def convertExpr (maker : Maker m E S) (file : Option String) : Outline → ExceptT Misfit m E
  | .rule name extent? parts => do
    -- what the parts come to, each only where it is asked for
    let kids := convertExprs maker file parts
    match binaryRules.lookup name, prefixRules.lookup name with
    | some op, _ =>
      let left ← (← part kids 0)
      let right ← (← part kids 1)
      maker.binary op (position file extent?) left right
    | none, some op =>
      let operand ← (← part kids 0)
      maker.prefixed op (position file extent?) operand
    | none, none =>
      match name with
      | "number" => maker.number (position file extent?) (← number (← value (← part parts 0)))
      | "true" => maker.truth (position file extent?) true
      | "false" => maker.truth (position file extent?) false
      | "null" => maker.null (position file extent?)
      | "self" => maker.self (position file extent?)
      | "variable" => maker.access (position file extent?) (← value (← part parts 0))
      | _ => throw (.unhandled name)
  | _ => throw .notRule

/-- What expressions come to, in order. -/
def convertExprs (maker : Maker m E S) (file : Option String) : List Outline → List (ExceptT Misfit m E)
  | [] => []
  | o :: rest => convertExpr maker file o :: convertExprs maker file rest

end

def convertPart (maker : Maker m E S) (file : Option String) (parts : List Outline) (index : Nat) :
    ExceptT Misfit m E := do
  convertExpr maker file (← part parts index)

mutual

/-- Convert a statement. An else branch comes before the condition. -/
def convertStmt (maker : Maker m E S) (file : Option String) : Outline → ExceptT Misfit m S
  | .rule name extent? parts => do
    let kids := convertStmts maker file parts
    match name with
    | "block" => maker.sequence (position file extent?) (← kids.mapM id)
    | "assignment" =>
      let target ← value (← part parts 0)
      maker.assignment (position file extent?) target (← convertPart maker file parts 1)
    | "print_stmt" => maker.print (position file extent?) (← convertPart maker file parts 0)
    | "if_stmt" =>
      let no? ← match (← part parts 2).present? with
        | none => pure none
        | some _ => some <$> (← part kids 2)
      let condition ← convertPart maker file parts 0
      let yes ← (← part kids 1)
      maker.branch (position file extent?) condition yes no?
    | "while_stmt" =>
      let condition ← convertPart maker file parts 0
      let body ← (← part kids 1)
      maker.loop (position file extent?) condition body
    | "foreach_stmt" =>
      let kind ← find loopKinds (← word (← part parts 0))
      let target ← value (← part parts 1)
      let body ← (← part kids 2)
      maker.each (position file extent?) kind target body
    | "turn" => maker.turn (position file extent?) (← convertPart maker file parts 0)
    | "fire" => maker.fire (position file extent?) (← convertPart maker file parts 0)
    | "move" => maker.simple .move (position file extent?)
    | "jump" => maker.simple .jump (position file extent?)
    | "toggleweap" => maker.simple .toggleweap (position file extent?)
    | "skip" => maker.simple .skip (position file extent?)
    | _ => throw (.unhandled name)
  | _ => throw .notRule

/-- What statements come to, in order. -/
def convertStmts (maker : Maker m E S) (file : Option String) : List Outline → List (ExceptT Misfit m S)
  | [] => []
  | o :: rest => convertStmt maker file o :: convertStmts maker file rest

end

/-- The parts of a declaration: its type, its name and its first value, if it has one. -/
def declaration (parts : List Outline) : ExceptT Misfit m (Outline × Outline × Outline) :=
  match parts with
  | [type, name, initial] => return (type, name, initial)
  | _ => throw (.unpacked parts.length)

def declareItem (maker : Maker m E S) (file : Option String) : Outline → ExceptT Misfit m Unit
  | .rule "declaration" _ parts => do
    let (type, name, _) ← declaration parts
    let t ← find types (← word type)
    match name with
    | .token _ text extent => maker.declare (extent.position file) text t
    | _ => throw .notToken
  | _ => return

/-- Convert the statement of an item; none for a declaration without a first value. -/
def convertItem (maker : Maker m E S) (file : Option String) : Outline → ExceptT Misfit m (Option S)
  | .rule "declaration" extent? parts => do
    let (_, name, initial) ← declaration parts
    match initial.present? with
    | none => return none
    | some initial =>
      let e ← convertExpr maker file initial
      some <$> maker.assignment (position file extent?) (← value name) e
  | o => some <$> convertStmt maker file o

/-- Convert a program, the declarations first. -/
def convertProgram (maker : Maker m E S) (file : Option String) : Outline → ExceptT Misfit m S
  | .rule _ extent? items => do
    items.forM (declareItem maker file)
    let statements ← items.mapM (convertItem maker file)
    maker.sequence (position file extent?) (statements.filterMap id)
  | _ => throw .notRule

end

end Outline

end WormLang
