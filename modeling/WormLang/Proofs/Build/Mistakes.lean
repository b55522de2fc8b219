import WormLang.Proofs.Build.Typing

/-!
The mistakes of program text. They are read off trees and declarations only. Some are refused while nodes are made: an
operand of a wrong type, a name that is not declared or declared again, an action in a loop over entities. Others take
all declarations: what is assigned to a variable and what a loop over entities binds. A node that is refused stands for
no type and for no action, so it hides what the node around it would be refused for.
-/
namespace WormLang

/-- What is wrong with a stretch of program text. -/
structure Mistake where
  cause : Cause
  extent : Extent
  deriving DecidableEq

def Mistake.fault (file : Option String) (m : Mistake) : Fault :=
  { cause := m.cause, position := some (m.extent.position file) }

/-- Why an operand is refused; one that shows no type is not. -/
def Place.refusal? (place : Place) (needed : Ty) : Option Ty → Option Cause
  | none => none
  | some got => if got = needed then none else some (.operandType place needed got)

/-- Why two operands that need one type are refused; the left one comes first. -/
def refusalOfBoth? (symbol : String) (needed : Ty) (left? right? : Option Ty) : Option Cause :=
  ((Place.left symbol).refusal? needed left?).or ((Place.right symbol).refusal? needed right?)

namespace UnaryOp

/-- The place of the operand. A negative is a difference from zero. -/
def place : UnaryOp → Place
  | negative => .right ArithmeticOp.sub.symbol
  | bang => .negated
  | query q => .argument q.word
  | sameTeam => .argument "sameteam"
  | test k => .argument k.word
  | search => .argument "searchobj"

def refusal? (op : UnaryOp) (operand? : Option Ty) : Option Cause := op.place.refusal? op.operandTy operand?

end UnaryOp

namespace BinaryOp

def resultTy : BinaryOp → Ty
  | arithmetic _ => .number
  | order _ | equality _ | logical _ => .boolean

def refusal? (left? right? : Option Ty) : BinaryOp → Option Cause
  | arithmetic op => refusalOfBoth? op.symbol .number left? right?
  | order op => refusalOfBoth? op.symbol .number left? right?
  | logical op => refusalOfBoth? op.symbol .boolean left? right?
  | equality op =>
    match left?, right? with
    | some l, some r => if l = r then none else some (.mixedEquality op l r)
    | _, _ => none

end BinaryOp

/-- The type of a node that is refused for a cause or has a type of its own. -/
def shownUnless (cause? : Option Cause) (t : Ty) : Option Ty := if cause?.isSome then none else some t

/-- The mistake of a node that is refused for a cause. -/
def mistakeOf (extent : Extent) (cause? : Option Cause) : List Mistake := (cause?.map ({ cause := ·, extent })).toList

/-- Why an empty name is refused. -/
def refusalOfName? (name : String) : Option Cause :=
  if name.isEmpty then some (.invalidName (Text.quoted name)) else none

namespace ExprTree

variable (declared : List (String × Ty))

/-- The type that an expression shows to what is around it. -/
def shown? : ExprTree → Option Ty
  | number .. => some .number
  | truth .. => some .boolean
  | null _ | self _ => some .entity
  | name _ text => declared.lookup text
  | unary _ op operand => shownUnless (op.refusal? operand.shown?) op.resultTy
  | call _ f argument => shownUnless ((Place.argument f.word).refusal? .number argument.shown?) .number
  | binary _ op left right => shownUnless (op.refusal? left.shown? right.shown?) op.resultTy

/-- Why an expression is refused, apart from what is inside it. -/
def refusal? : ExprTree → Option Cause
  | name _ text => if (declared.lookup text).isSome then none else some (.notDeclared text)
  | unary _ op operand => op.refusal? (operand.shown? declared)
  | call _ f argument => (Place.argument f.word).refusal? .number (argument.shown? declared)
  | binary _ op left right => op.refusal? (left.shown? declared) (right.shown? declared)
  | _ => none

/-- The refused nodes of an expression, operands before operators. -/
def refusals : ExprTree → List Mistake
  | unary extent op operand => operand.refusals ++ mistakeOf extent ((unary extent op operand).refusal? declared)
  | call extent f argument => argument.refusals ++ mistakeOf extent ((call extent f argument).refusal? declared)
  | binary extent op left right =>
    left.refusals ++ right.refusals ++ mistakeOf extent ((binary extent op left right).refusal? declared)
  | e => mistakeOf e.extent (e.refusal? declared)

end ExprTree

/-- What is wrong with giving a value to a variable. -/
def mismatch? (declared : List (String × Ty)) (name : String) (e : ExprTree) : Option Cause :=
  match declared.lookup name, e.shown? declared with
  | none, _ => some (.assignmentUndeclared name)
  | some _, none => none
  | some t, some got => if got = t then none else some (.assignmentType name t got)

namespace StmtTree

variable (declared : List (String × Ty))

def children : StmtTree → List StmtTree
  | block _ body => body
  | branch _ _ yes => [yes]
  | branchElse _ _ yes no => [yes, no]
  | loop _ _ body | each _ _ _ _ body => [body]
  | _ => []

mutual

def walk : StmtTree → List StmtTree
  | block extent body => block extent body :: walkAll body
  | branch extent c yes => branch extent c yes :: yes.walk
  | branchElse extent c yes no => branchElse extent c yes no :: (yes.walk ++ no.walk)
  | loop extent c body => loop extent c body :: body.walk
  | each extent kindExtent kind name body => each extent kindExtent kind name body :: body.walk
  | s => [s]

def walkAll : List StmtTree → List StmtTree
  | [] => []
  | s :: rest => s.walk ++ walkAll rest

end

theorem walkAll_eq_flatMap (body : List StmtTree) : walkAll body = body.flatMap walk := by
  induction body with
  | nil => rfl
  | cons s rest ih => rw [walkAll, ih, List.flatMap_cons]

theorem walk_eq (s : StmtTree) : s.walk = s :: s.children.flatMap walk := by
  cases s <;> simp [walk, children, walkAll_eq_flatMap]

theorem mem_walk_self (s : StmtTree) : s ∈ s.walk := by
  rw [walk_eq]
  exact List.mem_cons_self

theorem mem_walk_of_child {s t u : StmtTree} (child : t ∈ s.children) (inside : u ∈ t.walk) : u ∈ s.walk := by
  rw [walk_eq]
  exact List.mem_cons_of_mem _ (List.mem_flatMap.mpr ⟨t, child, inside⟩)

/-- Induction over a tree by the statements directly inside. -/
theorem child_induction {motive : StmtTree → Prop} (step : ∀ s, (∀ t ∈ s.children, motive t) → motive s) :
    (s : StmtTree) → motive s
  | .block _ body => step _ fun t (_ : t ∈ body) => child_induction step t
  | .branch _ _ yes => step _ fun _ child => List.mem_singleton.mp child ▸ child_induction step yes
  | .branchElse _ _ yes no =>
    step _ (List.forall_mem_cons.mpr ⟨child_induction step yes,
      fun _ child => List.mem_singleton.mp child ▸ child_induction step no⟩)
  | .loop _ _ body | .each _ _ _ _ body =>
    step _ fun _ child => List.mem_singleton.mp child ▸ child_induction step body
  | .assignment .. | .print .. | .turn .. | .fire .. | .simple .. => step _ nofun

/-- Why the condition of a statement or the operand of an action is refused by it. -/
def operandRefusal? : StmtTree → Option Cause
  | turn _ e => Place.angle.refusal? .number (e.shown? declared)
  | fire _ e => Place.yield.refusal? .number (e.shown? declared)
  | branch _ c _ | branchElse _ c _ _ => (Place.condition "if").refusal? .boolean (c.shown? declared)
  | loop _ c _ => (Place.condition "while").refusal? .boolean (c.shown? declared)
  | _ => none

mutual

/-- Whether a statement shows an action to the loop over entities around it. -/
def shows : StmtTree → Bool
  | block _ body => showsAny body
  | turn extent e => ((turn extent e).operandRefusal? declared).isNone
  | fire extent e => ((fire extent e).operandRefusal? declared).isNone
  | simple .. => true
  | branch extent c yes => ((branch extent c yes).operandRefusal? declared).isNone && yes.shows
  | branchElse extent c yes no =>
    ((branchElse extent c yes no).operandRefusal? declared).isNone && (yes.shows || no.shows)
  | loop extent c body => ((loop extent c body).operandRefusal? declared).isNone && body.shows
  | _ => false

def showsAny : List StmtTree → Bool
  | [] => false
  | s :: rest => s.shows || showsAny rest

end

/-- Why a statement is refused, apart from what is inside it. -/
def refusal? : StmtTree → Option Cause
  | assignment _ name _ => refusalOfName? name.text
  | each _ _ _ name body =>
    (refusalOfName? name.text).or (if body.shows declared then some .actionInLoop else none)
  | s => s.operandRefusal? declared

mutual

/-- The refused nodes of a statement, in the order in which they are made. -/
def refusals : StmtTree → List Mistake
  | block _ body => refusalsAll body
  | assignment extent name e =>
    e.refusals declared ++ mistakeOf extent ((assignment extent name e).refusal? declared)
  | print _ e => e.refusals declared
  | turn extent e => e.refusals declared ++ mistakeOf extent ((turn extent e).refusal? declared)
  | fire extent e => e.refusals declared ++ mistakeOf extent ((fire extent e).refusal? declared)
  | simple .. => []
  | branch extent c yes =>
    c.refusals declared ++ yes.refusals ++ mistakeOf extent ((branch extent c yes).refusal? declared)
  | branchElse extent c yes no =>
    no.refusals ++ c.refusals declared ++ yes.refusals ++
      mistakeOf extent ((branchElse extent c yes no).refusal? declared)
  | loop extent c body =>
    c.refusals declared ++ body.refusals ++ mistakeOf extent ((loop extent c body).refusal? declared)
  | each extent kindExtent kind name body =>
    body.refusals ++ mistakeOf extent ((each extent kindExtent kind name body).refusal? declared)

def refusalsAll : List StmtTree → List Mistake
  | [] => []
  | s :: rest => s.refusals ++ refusalsAll rest

end

/-- What is wrong with a statement with respect to the declared variables. -/
def mismatch? : StmtTree → Option Cause
  | assignment _ name e => WormLang.mismatch? declared name.text e
  | each _ _ _ name _ =>
    match declared.lookup name.text with
    | none => some (.loopUndeclared name.text)
    | some t => if t = .entity then none else some (.loopType name.text t)
  | _ => none

/-- What is wrong with a statement and all statements inside it with respect to the declared variables. -/
def mismatches (s : StmtTree) : List Mistake := s.walk.flatMap fun t => mistakeOf t.extent (t.mismatch? declared)

end StmtTree

namespace ItemTree

/-- The declarations that declare a name again, given what is declared before them. -/
def redeclarations (before : List (String × Ty)) : List ItemTree → List Mistake
  | [] => []
  | statement _ :: rest => redeclarations before rest
  | declaration _ _ t name _ :: rest =>
    mistakeOf name.extent (if (before.lookup name.text).isSome then some (.alreadyDeclared name.text) else none) ++
      redeclarations (before ++ [(name.text, t)]) rest

variable (declared : List (String × Ty))

def refusals : ItemTree → List Mistake
  | declaration extent _ _ name (some e) => e.refusals declared ++ mistakeOf extent (refusalOfName? name.text)
  | declaration _ _ _ _ none => []
  | statement s => s.refusals declared

def mismatches : ItemTree → List Mistake
  | declaration extent _ _ name (some e) => mistakeOf extent (mismatch? declared name.text e)
  | declaration _ _ _ _ none => []
  | statement s => s.mismatches declared

def walk : ItemTree → List StmtTree
  | declaration .. => []
  | statement s => s.walk

end ItemTree

namespace ProgramTree

/-- The mistakes that a program text is refused for while its nodes are made. -/
def refusals (p : ProgramTree) : List Mistake :=
  ItemTree.redeclarations [] p.items ++ p.items.flatMap (ItemTree.refusals p.declarations)

/-- The mistakes that a program text is refused for when all of its nodes are made. -/
def mismatches (p : ProgramTree) : List Mistake := p.items.flatMap (ItemTree.mismatches p.declarations)

def walk (p : ProgramTree) : List StmtTree := p.items.flatMap ItemTree.walk

end ProgramTree

end WormLang
