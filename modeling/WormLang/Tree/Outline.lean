import WormLang.Tree

/-!
Outlines of trees: every tree as a rule of the grammar with its parts, for tools that show or compare the
structure of program text. Only words that carry content are kept as tokens; an optional part that is not
there is marked as absent.
-/
namespace WormLang

/-- A labelled tree. -/
inductive Outline where
  /-- A rule of the grammar; an empty program has no extent. -/
  | rule (name : String) (extent? : Option Extent) (parts : List Outline)
  | token (kind text : String) (extent : Extent)
  | absent
  deriving Inhabited

namespace Outline

/-- A word that is a keyword; its kind is the word in capitals. -/
def keyword (word : String) (extent : Extent) : Outline := token (word.map Char.toUpper) word extent

def name (extent : Extent) (text : String) : Outline := token "NAME" text extent

end Outline

def UnaryOp.rule : UnaryOp → String
  | negative => "neg"
  | bang => "not_op"
  | query q => q.word
  | sameTeam => "sameteam"
  | test k => k.word
  | search => "searchobj"

def BinaryOp.rule : BinaryOp → String
  | logical .or => "or_op"
  | logical .and => "and_op"
  | order .lt => "lt"
  | order .le => "le"
  | order .gt => "gt"
  | order .ge => "ge"
  | equality .eq => "eq"
  | equality .ne => "ne"
  | arithmetic .add => "add"
  | arithmetic .sub => "sub"
  | arithmetic .mul => "mul"
  | arithmetic .div => "div"

def SimpleAction.rule : SimpleAction → String
  | move => "move"
  | jump => "jump"
  | toggleweap => "toggleweap"
  | skip => "skip"

def ExprTree.outline : ExprTree → Outline
  | number extent text => .rule "number" extent [.token "NUMBER" text extent]
  | truth extent b => .rule (if b then "true" else "false") extent []
  | null extent => .rule "null" extent []
  | self extent => .rule "self" extent []
  | name extent text => .rule "variable" extent [.name extent text]
  | unary extent op operand => .rule op.rule extent [operand.outline]
  | call extent f argument => .rule f.word extent [argument.outline]
  | binary extent op left right => .rule op.rule extent [left.outline, right.outline]

mutual

def StmtTree.outline : StmtTree → Outline
  | .block extent body => .rule "block" extent (StmtTree.outlines body)
  | .assignment extent name e => .rule "assignment" extent [.name name.extent name.text, e.outline]
  | .print extent e => .rule "print_stmt" extent [e.outline]
  | .turn extent e => .rule "turn" extent [e.outline]
  | .fire extent e => .rule "fire" extent [e.outline]
  | .simple extent a => .rule a.rule extent []
  | .branch extent c yes => .rule "if_stmt" extent [c.outline, yes.outline, .absent]
  | .branchElse extent c yes no => .rule "if_stmt" extent [c.outline, yes.outline, no.outline]
  | .loop extent c body => .rule "while_stmt" extent [c.outline, body.outline]
  | .each extent kindExtent kind name body =>
    .rule "foreach_stmt" extent
      [.rule "foreach_kind" kindExtent [.keyword kind.word kindExtent], .name name.extent name.text,
        body.outline]

def StmtTree.outlines : List StmtTree → List Outline
  | [] => []
  | s :: rest => s.outline :: StmtTree.outlines rest

end

def ItemTree.outline : ItemTree → Outline
  | declaration extent typeExtent t name initial =>
    .rule "declaration" extent
      [.rule "type" typeExtent [.keyword t.keyword typeExtent], .name name.extent name.text,
        (initial.map ExprTree.outline).getD .absent]
  | statement tree => tree.outline

def ProgramTree.outline (p : ProgramTree) : Outline :=
  .rule "start" p.extent? (p.items.map ItemTree.outline)

end WormLang
