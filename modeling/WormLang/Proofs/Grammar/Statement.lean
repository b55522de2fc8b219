import Mathlib.Data.List.Basic
import WormLang.Proofs.Grammar.Expression

/-!
Statements with all their tokens. Phrases are what is derived from the rules for statements, once it is known that the
branches of an if and the bodies of loops are blocks.
-/
namespace WormLang

/-- A word in front of one expression that makes a statement. -/
inductive Command where
  | print
  | turn
  | fire

namespace Command

def keyword : Command → Keyword
  | print => .print
  | turn => .turn
  | fire => .fire

def tree (extent : Extent) (e : ExprTree) : Command → StmtTree
  | print => .print extent e
  | turn => .turn extent e
  | fire => .fire extent e

/-- The rule that a command is derived from. -/
def rule : Command → Grammar.Rule
  | print => .printStmt
  | turn | fire => .action

def alternative : Command → Grammar.Alternative
  | print => .plain [.word .print, .rule .expr, .terminator]
  | turn => .named "turn" [.word .turn, .rule .expr, .terminator]
  | fire => .named "fire" [.word .fire, .rule .expr, .terminator]

end Command

namespace SimpleAction

def keyword : SimpleAction → Keyword
  | move => .move
  | jump => .jump
  | toggleweap => .toggleweap
  | skip => .skip

def alternative (a : SimpleAction) : Grammar.Alternative := .named a.rule [.word a.keyword, .terminator]

end SimpleAction

section

variable {c c' : Command} {a a' : SimpleAction}

theorem Command.keyword_inj : c.keyword = c'.keyword ↔ c = c' := by
  cases c <;> cases c' <;> simp [keyword]

theorem SimpleAction.keyword_inj : a.keyword = a'.keyword ↔ a = a' := by
  cases a <;> cases a' <;> simp [keyword]

@[simp] theorem Command.keyword_ne_simple : c.keyword ≠ a.keyword := by
  cases c <;> cases a <;> simp [keyword, SimpleAction.keyword]

/-- The words of commands start no other statement. -/
@[simp] theorem Command.keyword_ne (c : Command) :
    c.keyword ≠ .ifWord ∧ c.keyword ≠ .whileWord ∧ c.keyword ≠ .foreach ∧ c.keyword ≠ .elseWord := by
  cases c <;> simp [keyword]

@[simp] theorem Command.keyword_ne_type {ty : Ty} : c.keyword ≠ .type ty := by
  cases c <;> simp [keyword]

@[simp] theorem SimpleAction.keyword_ne (a : SimpleAction) :
    a.keyword ≠ .ifWord ∧ a.keyword ≠ .whileWord ∧ a.keyword ≠ .foreach ∧ a.keyword ≠ .elseWord := by
  cases a <;> simp [keyword]

@[simp] theorem SimpleAction.keyword_ne_type {ty : Ty} : a.keyword ≠ .type ty := by
  cases a <;> simp [keyword]

end

/-- A statement as its tokens say it. -/
inductive StmtPhrase where
  | block (opening : Extent) (body : List StmtPhrase) (closing : Extent)
  | assignment (name : Word) (sign : Extent) (e : ExprPhrase) (last? : Option Extent)
  | command (c : Command) (word : Extent) (e : ExprPhrase) (last? : Option Extent)
  | simple (a : SimpleAction) (word : Extent) (last? : Option Extent)
  | branch (word : Extent) (c : ExprPhrase) (then? : Option Extent) (yes : StmtPhrase)
  | branchElse (word : Extent) (c : ExprPhrase) (then? : Option Extent) (yes : StmtPhrase) (other : Extent)
    (no : StmtPhrase)
  | loop (word : Extent) (c : ExprPhrase) (do? : Option Extent) (body : StmtPhrase)
  | each (word opening : Extent) (kind : LoopKind) (kindExtent comma : Extent) (name : Word) (closing : Extent)
    (do? : Option Extent) (body : StmtPhrase)

namespace StmtPhrase

def isBlock : StmtPhrase → Bool
  | block .. => true
  | _ => false

/-- Where something ends that an optional token may follow. -/
def stop (inner : Mark) (last? : Option Extent) : Mark := (last?.map Extent.stop).getD inner

mutual

def tokens : StmtPhrase → List Token
  | block opening body closing =>
    Symbol.openBrace.token opening :: (tokensAll body ++ [Symbol.closeBrace.token closing])
  | assignment name sign e last? =>
    name.token :: Symbol.assign.token sign :: (e.tokens ++ Lexeme.optional (.symbol .semicolon) last?)
  | command c word e last? => c.keyword.token word :: (e.tokens ++ Lexeme.optional (.symbol .semicolon) last?)
  | simple a word last? => a.keyword.token word :: Lexeme.optional (.symbol .semicolon) last?
  | branch word c then? yes =>
    Keyword.ifWord.token word :: (c.tokens ++ (Lexeme.optional (.keyword .thenWord) then? ++ yes.tokens))
  | branchElse word c then? yes other no =>
    Keyword.ifWord.token word :: (c.tokens ++ (Lexeme.optional (.keyword .thenWord) then? ++
      (yes.tokens ++ Keyword.elseWord.token other :: no.tokens)))
  | loop word c do? body =>
    Keyword.whileWord.token word :: (c.tokens ++ (Lexeme.optional (.keyword .doWord) do? ++ body.tokens))
  | each word opening kind kindExtent comma name closing do? body =>
    Keyword.foreach.token word :: Symbol.openParen.token opening :: (Keyword.kind kind).token kindExtent ::
      Symbol.comma.token comma :: name.token :: Symbol.closeParen.token closing ::
      (Lexeme.optional (.keyword .doWord) do? ++ body.tokens)

def tokensAll : List StmtPhrase → List Token
  | [] => []
  | s :: rest => s.tokens ++ tokensAll rest

end

mutual

def tree : StmtPhrase → StmtTree
  | block opening body closing => .block { start := opening.start, stop := closing.stop } (trees body)
  | assignment name _ e last? =>
    .assignment { start := name.extent.start, stop := stop e.operand.extent.stop last? } name e.operand.tree
  | command c word e last? => c.tree { start := word.start, stop := stop e.operand.extent.stop last? } e.operand.tree
  | simple a word last? => .simple { start := word.start, stop := stop word.stop last? } a
  | branch word c _ yes => .branch { start := word.start, stop := yes.tree.extent.stop } c.operand.tree yes.tree
  | branchElse word c _ yes _ no =>
    .branchElse { start := word.start, stop := no.tree.extent.stop } c.operand.tree yes.tree no.tree
  | loop word c _ body => .loop { start := word.start, stop := body.tree.extent.stop } c.operand.tree body.tree
  | each word _ kind kindExtent _ name _ _ body =>
    .each { start := word.start, stop := body.tree.extent.stop } kindExtent kind name body.tree

def trees : List StmtPhrase → List StmtTree
  | [] => []
  | s :: rest => s.tree :: trees rest

end

mutual

/-- The expressions of a statement are grouped, and its branches and bodies are blocks. -/
def Formed : StmtPhrase → Prop
  | block _ body _ => FormedAll body
  | assignment _ _ e _ | command _ _ e _ => e.Grouped
  | simple .. => True
  | branch _ c _ yes => c.Grouped ∧ yes.isBlock = true ∧ yes.Formed
  | branchElse _ c _ yes _ no => c.Grouped ∧ (yes.isBlock = true ∧ yes.Formed) ∧ no.isBlock = true ∧ no.Formed
  | loop _ c _ body => c.Grouped ∧ body.isBlock = true ∧ body.Formed
  | each _ _ _ _ _ _ _ _ body => body.isBlock = true ∧ body.Formed

def FormedAll : List StmtPhrase → Prop
  | [] => True
  | s :: rest => s.Formed ∧ FormedAll rest

end

def rule : StmtPhrase → Grammar.Rule
  | block .. => .block
  | assignment .. => .assignment
  | command c .. => c.rule
  | simple .. => .action
  | branch .. | branchElse .. => .ifStmt
  | loop .. => .whileStmt
  | each .. => .foreachStmt

end StmtPhrase

namespace Grammar

/-- How a rule passes on another one. -/
def Alternative.one (r : Rule) : Alternative := .plain [.rule r]

def Alternative.ifStmt : Alternative :=
  .plain [.word .ifWord, .rule .expr, .optional (.keyword .thenWord), .rule .block,
    .bracket (.keyword .elseWord) .block]

def Alternative.whileStmt : Alternative :=
  .plain [.word .whileWord, .rule .expr, .optional (.keyword .doWord), .rule .block]

def Alternative.foreachStmt : Alternative :=
  .plain [.word .foreach, .sign .openParen, .rule .foreachKind, .sign .comma, .token .name, .sign .closeParen,
    .optional (.keyword .doWord), .rule .block]

def Alternative.assignment : Alternative := .plain [.token .name, .sign .assign, .rule .expr, .terminator]

def Alternative.block : Alternative := .plain [.sign .openBrace, .many .statement, .sign .closeBrace]

end Grammar

theorem StmtTree.outlines_eq_map (body : List StmtTree) : outlines body = body.map outline := by
  induction body with
  | nil => rfl
  | cons s rest ih => rw [outlines, ih, List.map_cons]

namespace StmtPhrase

open Grammar Grammar.Derivation

mutual

def own : StmtPhrase → Derivation
  | block opening body closing =>
    .node .block .block
      [.token (Symbol.openBrace.token opening), .many (derivations body), .token (Symbol.closeBrace.token closing)]
  | assignment name sign e last? =>
    .node .assignment .assignment
      [.token name.token, .token (Symbol.assign.token sign), e.derivation 0, .optional (.symbol .semicolon) last?]
  | command c word e last? =>
    .node c.rule c.alternative
      [.token (c.keyword.token word), e.derivation 0, .optional (.symbol .semicolon) last?]
  | simple a word last? =>
    .node .action a.alternative [.token (a.keyword.token word), .optional (.symbol .semicolon) last?]
  | branch word c then? yes =>
    .node .ifStmt .ifStmt
      [.token (Keyword.ifWord.token word), c.derivation 0, .optional (.keyword .thenWord) then?, yes.own, .absent]
  | branchElse word c then? yes other no =>
    .node .ifStmt .ifStmt
      [.token (Keyword.ifWord.token word), c.derivation 0, .optional (.keyword .thenWord) then?, yes.own,
        .given (Keyword.elseWord.token other) no.own]
  | loop word c do? body =>
    .node .whileStmt .whileStmt
      [.token (Keyword.whileWord.token word), c.derivation 0, .optional (.keyword .doWord) do?, body.own]
  | each word opening kind kindExtent comma name closing do? body =>
    .node .foreachStmt .foreachStmt
      [.token (Keyword.foreach.token word), .token (Symbol.openParen.token opening),
        .node .foreachKind (.plain [.word (.kind kind)]) [.token ((Keyword.kind kind).token kindExtent)],
        .token (Symbol.comma.token comma), .token name.token, .token (Symbol.closeParen.token closing),
        .optional (.keyword .doWord) do?, body.own]

/-- The derivations of statements, each passed on by the rule for all of them. -/
def derivations : List StmtPhrase → List Derivation
  | [] => []
  | s :: rest => .node .statement (.one s.rule) [s.own] :: derivations rest

end

/-- The derivation of a statement from the rule for all of them. -/
def derivation (s : StmtPhrase) : Derivation := .node .statement (.one s.rule) [s.own]

/-- Induction over a statement and the statements inside it. -/
theorem phrase_induction {motive : StmtPhrase → Prop}
    (block : ∀ opening body closing, (∀ s ∈ body, motive s) → motive (.block opening body closing))
    (assignment : ∀ name sign e last?, motive (.assignment name sign e last?))
    (command : ∀ c word e last?, motive (.command c word e last?))
    (simple : ∀ a word last?, motive (.simple a word last?))
    (branch : ∀ word c then? yes, motive yes → motive (.branch word c then? yes))
    (branchElse : ∀ word c then? yes other no, motive yes → motive no →
      motive (.branchElse word c then? yes other no))
    (loop : ∀ word c do? body, motive body → motive (.loop word c do? body))
    (each : ∀ word opening kind kindExtent comma name closing do? body, motive body →
      motive (.each word opening kind kindExtent comma name closing do? body)) (s : StmtPhrase) : motive s :=
  match s with
  | .block opening body closing => block opening body closing fun s _ =>
    phrase_induction block assignment command simple branch branchElse loop each s
  | .assignment name sign e last? => assignment name sign e last?
  | .command c word e last? => command c word e last?
  | .simple a word last? => simple a word last?
  | .branch word c then? yes =>
    branch word c then? yes (phrase_induction block assignment command simple branch branchElse loop each yes)
  | .branchElse word c then? yes other no =>
    branchElse word c then? yes other no
      (phrase_induction block assignment command simple branch branchElse loop each yes)
      (phrase_induction block assignment command simple branch branchElse loop each no)
  | .loop word c do? body =>
    loop word c do? body (phrase_induction block assignment command simple branch branchElse loop each body)
  | .each word opening kind kindExtent comma name closing do? body =>
    each word opening kind kindExtent comma name closing do? body
      (phrase_induction block assignment command simple branch branchElse loop each body)

theorem tokensAll_eq_flatMap (body : List StmtPhrase) : tokensAll body = body.flatMap tokens := by
  induction body with
  | nil => rfl
  | cons s rest ih => rw [tokensAll, ih, List.flatMap_cons]

theorem trees_eq_map (body : List StmtPhrase) : trees body = body.map tree := by
  induction body with
  | nil => rfl
  | cons s rest ih => rw [trees, ih, List.map_cons]

theorem derivations_eq_map (body : List StmtPhrase) : derivations body = body.map derivation := by
  induction body with
  | nil => rfl
  | cons s rest ih => rw [derivations, ih, List.map_cons, derivation]

theorem formedAll_iff {body : List StmtPhrase} : FormedAll body ↔ ∀ s ∈ body, s.Formed := by
  induction body with
  | nil => simp [FormedAll]
  | cons s rest ih => rw [FormedAll, ih, List.forall_mem_cons]

theorem rule_of_isBlock {s : StmtPhrase} (isBlock : s.isBlock = true) : s.rule = .block := by
  cases s with
  | block => rfl
  | _ => cases isBlock

theorem isBlock_of_rule {s : StmtPhrase} (same : s.rule = .block) : s.isBlock = true := by
  cases s with
  | block => rfl
  | command c => cases c <;> cases same
  | _ => cases same

theorem pass_mem (s : StmtPhrase) : Alternative.one s.rule ∈ Rule.statement.alternatives := by
  cases s with
  | command c => cases c <;> simp [rule, Command.rule, Rule.alternatives, Alternative.one]
  | _ => simp [rule, Rule.alternatives, Alternative.one]

/-- A statement is derived from its rule. -/
theorem derives_own (s : StmtPhrase) : s.Formed → Derives (.rule s.rule) s.own := by
  have whole : ∀ {e : ExprPhrase}, e.Grouped → Derives (.rule .expr) (e.derivation 0) :=
    fun grouped => ExprPhrase.Fits.derives (n := 0) ⟨Nat.zero_le _, grouped⟩
  have last : ∀ last?, Derives .terminator (.optional (.symbol .semicolon) last?) :=
    fun last? => derives_terminator_iff.mpr ⟨last?, rfl⟩
  have maybe : ∀ k x?, Derives (.optional (.keyword k)) (.optional (.keyword k) x?) :=
    fun k x? => derives_optional_word_iff.mpr ⟨x?, rfl⟩
  have ofBlock : ∀ {b : StmtPhrase}, b.isBlock = true → Derives (.rule b.rule) b.own → Derives (.rule .block) b.own :=
    fun isBlock derives => rule_of_isBlock isBlock ▸ derives
  induction s using phrase_induction with
  | block opening body closing ih =>
    intro formed
    refine .rule (List.mem_singleton_self _)
      (.cons (.token rfl) (.cons (.many fun d member => ?_) (.cons (.token rfl) .nil)))
    rw [derivations_eq_map, List.mem_map] at member
    obtain ⟨s, inside, rfl⟩ := member
    exact .rule s.pass_mem (.cons (ih s inside (formedAll_iff.mp formed s inside)) .nil)
  | assignment name sign e last? =>
    intro formed
    exact .rule (List.mem_singleton_self _)
      (.cons (.token rfl) (.cons (.token rfl) (.cons (whole formed) (.cons (last last?) .nil))))
  | command c word e last? =>
    intro formed
    refine .rule (r := c.rule) (by cases c <;> decide) ?_
    cases c <;> exact .cons (.token rfl) (.cons (whole formed) (.cons (last last?) .nil))
  | simple a word last? =>
    intro formed
    exact .rule (r := .action) (by cases a <;> decide) (.cons (.token rfl) (.cons (last last?) .nil))
  | branch word c then? yes ih =>
    rintro ⟨grouped, isBlock, formed⟩
    exact .rule (List.mem_singleton_self _) (.cons (.token rfl) (.cons (whole grouped) (.cons (maybe .thenWord then?)
      (.cons (ofBlock isBlock (ih formed)) (.cons .absent .nil)))))
  | branchElse word c then? yes other no ihYes ihNo =>
    rintro ⟨grouped, ⟨isBlock, formed⟩, isBlockNo, formedNo⟩
    exact .rule (List.mem_singleton_self _) (.cons (.token rfl) (.cons (whole grouped) (.cons (maybe .thenWord then?)
      (.cons (ofBlock isBlock (ihYes formed)) (.cons (.given rfl (ofBlock isBlockNo (ihNo formedNo))) .nil)))))
  | loop word c do? body ih =>
    rintro ⟨grouped, isBlock, formed⟩
    exact .rule (List.mem_singleton_self _) (.cons (.token rfl) (.cons (whole grouped) (.cons (maybe .doWord do?)
      (.cons (ofBlock isBlock (ih formed)) .nil))))
  | each word opening kind kindExtent comma name closing do? body ih =>
    rintro ⟨isBlock, formed⟩
    have sort : Derives (.rule .foreachKind)
        (.node .foreachKind (.plain [.word (.kind kind)]) [.token ((Keyword.kind kind).token kindExtent)]) :=
      .rule (by cases kind <;> decide) (.cons (.token rfl) .nil)
    have back := DerivesAll.cons (maybe .doWord do?) (.cons (ofBlock isBlock (ih formed)) .nil)
    exact .rule (List.mem_singleton_self _) (.cons (.token rfl) (.cons (.token rfl) (.cons sort (.cons (.token rfl)
      (.cons (.token rfl) (.cons (.token rfl) back))))))

/-- The rule for all statements only passes on other rules. -/
theorem mem_statement {alternative : Alternative} (among : alternative ∈ Rule.statement.alternatives) :
    ∃ r, alternative = .one r ∧
      r ∈ [Rule.assignment, .ifStmt, .whileStmt, .foreachStmt, .printStmt, .action, .block] := by
  simp only [Rule.alternatives, List.mem_cons, List.not_mem_nil, or_false] at among
  obtain rfl | rfl | rfl | rfl | rfl | rfl | rfl := among <;> exact ⟨_, rfl, by decide⟩

theorem mem_action {alternative : Alternative} (among : alternative ∈ Rule.action.alternatives) :
    (∃ c : Command, c.rule = .action ∧ alternative = c.alternative) ∨
      ∃ a : SimpleAction, alternative = a.alternative := by
  simp only [Rule.alternatives, List.mem_cons, List.not_mem_nil, or_false] at among
  obtain own | own | own | own | own | own := among
  · exact .inl ⟨.turn, rfl, own⟩
  · exact .inr ⟨.move, own⟩
  · exact .inr ⟨.jump, own⟩
  · exact .inr ⟨.toggleweap, own⟩
  · exact .inl ⟨.fire, rfl, own⟩
  · exact .inr ⟨.skip, own⟩

theorem exists_kind {d : Derivation} (derives : Derives (.rule .foreachKind) d) : ∃ (kind : LoopKind) (x : Extent),
    d = .node .foreachKind (.plain [.word (.kind kind)]) [.token ((Keyword.kind kind).token x)] := by
  obtain ⟨_, _, rfl, among, parts⟩ := derives_rule_iff.mp derives
  simp only [Rule.alternatives, List.mem_cons, List.not_mem_nil, or_false] at among
  obtain rfl | rfl | rfl := among <;>
    simp only [Alternative.plain, derivesAll_cons_iff, derivesAll_nil_iff, derives_word_iff] at parts <;>
    obtain ⟨_, _, rfl, ⟨x, rfl⟩, rfl⟩ := parts <;>
    exact ⟨_, x, rfl⟩

/-- A derivation is that of a statement with a rule of its own. -/
def Covers (r : Rule) (d : Derivation) : Prop := ∃ s : StmtPhrase, s.Formed ∧ s.rule = r ∧ d = s.own

variable {ds : List Derivation}

theorem covers_assignment (parts : DerivesAll Alternative.assignment.parts ds) :
    Covers .assignment (.node .assignment .assignment ds) := by
  simp only [Alternative.assignment, Alternative.plain, derivesAll_cons_iff, derivesAll_nil_iff, derives_name_iff,
    derives_sign_iff, derives_terminator_iff] at parts
  obtain ⟨_, _, rfl, ⟨name, rfl⟩, _, _, rfl, ⟨sign, rfl⟩, _, _, rfl, value, _, _, rfl, ⟨last?, rfl⟩, rfl⟩ := parts
  obtain ⟨e, fits, rfl⟩ := ExprPhrase.exists_of_derives (n := 0) (by omega) value
  exact ⟨.assignment name sign e last?, fits.2, rfl, rfl⟩

theorem covers_command {c : Command} (parts : DerivesAll c.alternative.parts ds) :
    Covers c.rule (.node c.rule c.alternative ds) := by
  have same : c.alternative.parts = [.word c.keyword, .rule .expr, .terminator] := by cases c <;> rfl
  rw [same] at parts
  simp only [derivesAll_cons_iff, derivesAll_nil_iff, derives_word_iff, derives_terminator_iff] at parts
  obtain ⟨_, _, rfl, ⟨word, rfl⟩, _, _, rfl, value, _, _, rfl, ⟨last?, rfl⟩, rfl⟩ := parts
  obtain ⟨e, fits, rfl⟩ := ExprPhrase.exists_of_derives (n := 0) (by omega) value
  exact ⟨.command c word e last?, fits.2, rfl, rfl⟩

theorem covers_simple {a : SimpleAction} (parts : DerivesAll a.alternative.parts ds) :
    Covers .action (.node .action a.alternative ds) := by
  simp only [SimpleAction.alternative, Alternative.named, derivesAll_cons_iff, derivesAll_nil_iff, derives_word_iff,
    derives_terminator_iff] at parts
  obtain ⟨_, _, rfl, ⟨word, rfl⟩, _, _, rfl, ⟨last?, rfl⟩, rfl⟩ := parts
  exact ⟨.simple a word last?, trivial, rfl, rfl⟩

theorem covers_ifStmt (blocks : ∀ d, sizeOf d < sizeOf ds → Derives (.rule .block) d → Covers .block d)
    (parts : DerivesAll Alternative.ifStmt.parts ds) : Covers .ifStmt (.node .ifStmt .ifStmt ds) := by
  simp only [Alternative.ifStmt, Alternative.plain, derivesAll_cons_iff, derivesAll_nil_iff, derives_word_iff,
    derives_optional_word_iff, derives_bracket_iff] at parts
  obtain ⟨_, _, rfl, ⟨word, rfl⟩, _, _, rfl, condition, _, _, rfl, ⟨then?, rfl⟩, _, _, rfl, derivesYes, _, _, rfl,
    other, rfl⟩ := parts
  obtain ⟨c, fits, rfl⟩ := ExprPhrase.exists_of_derives (n := 0) (by omega) condition
  obtain ⟨yes, formed, isBlock, rfl⟩ := blocks _ (by simp; omega) derivesYes
  obtain rfl | ⟨l, same, word', _, derivesNo, rfl⟩ := other
  · exact ⟨.branch word c then? yes, ⟨fits.2, isBlock_of_rule isBlock, formed⟩, rfl, rfl⟩
  · obtain ⟨no, formedNo, isBlockNo, rfl⟩ := blocks _ (by simp; omega) derivesNo
    obtain rfl := Lexeme.terminal_eq_keyword.mp same
    exact ⟨.branchElse word c then? yes word' no,
      ⟨fits.2, ⟨isBlock_of_rule isBlock, formed⟩, isBlock_of_rule isBlockNo, formedNo⟩, rfl, rfl⟩

theorem covers_whileStmt (blocks : ∀ d, sizeOf d < sizeOf ds → Derives (.rule .block) d → Covers .block d)
    (parts : DerivesAll Alternative.whileStmt.parts ds) : Covers .whileStmt (.node .whileStmt .whileStmt ds) := by
  simp only [Alternative.whileStmt, Alternative.plain, derivesAll_cons_iff, derivesAll_nil_iff, derives_word_iff,
    derives_optional_word_iff] at parts
  obtain ⟨_, _, rfl, ⟨word, rfl⟩, _, _, rfl, condition, _, _, rfl, ⟨do?, rfl⟩, _, _, rfl, derivesBody, rfl⟩ := parts
  obtain ⟨c, fits, rfl⟩ := ExprPhrase.exists_of_derives (n := 0) (by omega) condition
  obtain ⟨body, formed, isBlock, rfl⟩ := blocks _ (by simp; omega) derivesBody
  exact ⟨.loop word c do? body, ⟨fits.2, isBlock_of_rule isBlock, formed⟩, rfl, rfl⟩

theorem covers_foreachStmt (blocks : ∀ d, sizeOf d < sizeOf ds → Derives (.rule .block) d → Covers .block d)
    (parts : DerivesAll Alternative.foreachStmt.parts ds) :
    Covers .foreachStmt (.node .foreachStmt .foreachStmt ds) := by
  simp only [Alternative.foreachStmt, Alternative.plain, derivesAll_cons_iff, derivesAll_nil_iff, derives_word_iff,
    derives_sign_iff, derives_name_iff, derives_optional_word_iff] at parts
  obtain ⟨_, _, rfl, ⟨word, rfl⟩, _, _, rfl, ⟨opening, rfl⟩, _, _, rfl, derivesKind, _, _, rfl, ⟨comma, rfl⟩, _, _, rfl,
    ⟨name, rfl⟩, _, _, rfl, ⟨closing, rfl⟩, _, _, rfl, ⟨do?, rfl⟩, _, _, rfl, derivesBody, rfl⟩ := parts
  obtain ⟨body, formed, isBlock, rfl⟩ := blocks _ (by simp; omega) derivesBody
  obtain ⟨kind, kindExtent, rfl⟩ := exists_kind derivesKind
  exact ⟨.each word opening kind kindExtent comma name closing do? body, ⟨isBlock_of_rule isBlock, formed⟩, rfl, rfl⟩

theorem covers_block
    (statements : ∀ d, sizeOf d < sizeOf ds → Derives (.rule .statement) d →
      ∃ s : StmtPhrase, s.Formed ∧ d = s.derivation)
    (parts : DerivesAll Alternative.block.parts ds) : Covers .block (.node .block .block ds) := by
  simp only [Alternative.block, Alternative.plain, derivesAll_cons_iff, derivesAll_nil_iff, derives_sign_iff,
    derives_many_iff] at parts
  obtain ⟨_, _, rfl, ⟨opening, rfl⟩, _, _, rfl, ⟨ds, each, rfl⟩, _, _, rfl, ⟨closing, rfl⟩, rfl⟩ := parts
  have smaller : ∀ d ∈ ds, sizeOf d < sizeOf ds := fun d member => List.sizeOf_lt_of_mem member
  obtain ⟨body, formed, rfl⟩ := exists_map_of_forall fun d member =>
    statements d (by have := smaller d member; simp; omega) (each d member)
  exact ⟨.block opening body closing, formedAll_iff.mpr formed, rfl, by rw [own, derivations_eq_map]⟩

/-- A derivation from the rule for all statements passes on one from another rule. -/
theorem exists_passed {d : Derivation} (derives : Derives (.rule .statement) d) : ∃ r inner,
    r ∈ [Rule.assignment, .ifStmt, .whileStmt, .foreachStmt, .printStmt, .action, .block] ∧ Derives (.rule r) inner ∧
      d = .node .statement (.one r) [inner] := by
  obtain ⟨_, _, rfl, alternatives, parts⟩ := derives_rule_iff.mp derives
  obtain ⟨r, rfl, among⟩ := mem_statement alternatives
  obtain ⟨inner, _, rfl, passed, nothing⟩ := derivesAll_cons_iff.mp parts
  obtain rfl := derivesAll_nil_iff.mp nothing
  exact ⟨r, inner, among, passed, rfl⟩

/-- Nothing else is derived from the rules of statements. -/
theorem covers_of_derives {r : Rule} {d : Derivation} (derives : Derives (.rule r) d)
    (among : r ∈ [Rule.assignment, .ifStmt, .whileStmt, .foreachStmt, .printStmt, .action, .block]) : Covers r d := by
  obtain ⟨alternative, ds, rfl, alternatives, parts⟩ := derives_rule_iff.mp derives
  have blocks : ∀ d, sizeOf d < sizeOf ds → Derives (.rule .block) d → Covers .block d :=
    fun d smaller derives => covers_of_derives derives (by decide)
  simp only [List.mem_cons, List.not_mem_nil, or_false] at among
  obtain rfl | rfl | rfl | rfl | rfl | rfl | rfl := among
  · obtain rfl := List.mem_singleton.mp alternatives
    exact covers_assignment parts
  · obtain rfl := List.mem_singleton.mp alternatives
    exact covers_ifStmt blocks parts
  · obtain rfl := List.mem_singleton.mp alternatives
    exact covers_whileStmt blocks parts
  · obtain rfl := List.mem_singleton.mp alternatives
    exact covers_foreachStmt blocks parts
  · obtain rfl := List.mem_singleton.mp alternatives
    exact covers_command (c := .print) parts
  · obtain ⟨c, same, rfl⟩ | ⟨a, rfl⟩ := mem_action alternatives
    · exact same ▸ covers_command parts
    · exact covers_simple parts
  · obtain rfl := List.mem_singleton.mp alternatives
    refine covers_block (fun d smaller derives => ?_) parts
    obtain ⟨r, inner, among, passed, rfl⟩ := exists_passed derives
    obtain ⟨s, formed, rfl, rfl⟩ := covers_of_derives passed among
    exact ⟨s, formed, rfl⟩
termination_by sizeOf d
decreasing_by
  · subst_vars
    simp only [node.sizeOf_spec]
    omega
  · subst_vars
    simp only [node.sizeOf_spec, List.cons.sizeOf_spec] at *
    omega

/-- Nothing but statements is derived from the rule for all of them. -/
theorem exists_of_derives {d : Derivation} (derives : Derives (.rule .statement) d) :
    ∃ s : StmtPhrase, s.Formed ∧ d = s.derivation := by
  obtain ⟨r, inner, among, passed, rfl⟩ := exists_passed derives
  obtain ⟨s, formed, rfl, rfl⟩ := covers_of_derives passed among
  exact ⟨s, formed, rfl⟩

theorem tokens_own (s : StmtPhrase) : s.own.tokens = s.tokens := by
  induction s using phrase_induction with
  | block opening body closing ih =>
    have inside : tokensAll body = Derivation.tokensAll (derivations body) := by
      rw [tokensAll_eq_flatMap, Derivation.tokensAll_eq_flatMap, derivations_eq_map, List.flatMap_map]
      refine List.flatMap_congr fun s member => ?_
      simp [derivation, Derivation.tokens, Derivation.tokensAll, ih s member]
    simp [own, tokens, Derivation.tokens, Derivation.tokensAll, inside]
  | _ =>
    simp_all [own, tokens, Derivation.tokens, Derivation.tokensAll, ExprPhrase.tokens_derivation, tokens_optional]

theorem spanning?_optional {xs : List Token} {a : Extent} (front : Extent.spanning? xs = some a) (l : Lexeme)
    (last? : Option Extent) :
    Extent.spanning? (xs ++ l.optional last?) = some { start := a.start, stop := stop a.stop last? } := by
  cases last? with
  | none => rwa [show l.optional none = [] from rfl, List.append_nil]
  | some x => exact Extent.spanning?_append front (Extent.spanning?_singleton _)

/-- The tokens of a statement lie between the two ends of its tree. -/
theorem spanning?_tokens (s : StmtPhrase) : Extent.spanning? s.tokens = some s.tree.extent := by
  induction s using phrase_induction with
  | block opening body closing =>
    rw [tokens, Extent.spanning?_over _ _ (Extent.spanning?_singleton _)]
    rfl
  | assignment name sign e last? =>
    rw [tokens, Extent.spanning?_cons _ (Extent.spanning?_cons _ (spanning?_optional e.spanning?_tokens _ last?))]
    rfl
  | command c word e last? =>
    rw [tokens, Extent.spanning?_cons _ (spanning?_optional e.spanning?_tokens _ last?)]
    cases c <;> rfl
  | simple a word last? =>
    rw [tokens, ← List.singleton_append, spanning?_optional (Extent.spanning?_singleton _) _ last?]
    rfl
  | branch word c then? yes ih | loop word c then? yes ih =>
    rw [tokens, ← List.append_assoc, Extent.spanning?_over _ _ ih]
    rfl
  | branchElse word c then? yes other no ihYes ihNo =>
    rw [tokens, ← List.append_assoc, ← List.append_assoc, Extent.spanning?_over _ _ (Extent.spanning?_cons _ ihNo)]
    rfl
  | each word opening kind kindExtent comma name closing do? body ih =>
    exact Extent.spanning?_over _ (Symbol.openParen.token opening :: (Keyword.kind kind).token kindExtent ::
      Symbol.comma.token comma :: name.token :: Symbol.closeParen.token closing :: Lexeme.optional _ do?) ih

theorem outlines_derivation {s : StmtPhrase} {o : Outline} (single : s.own.outlines false = [o])
    (keepsWords : Bool) : s.derivation.outlines keepsWords = [o] :=
  Derivation.outlines_one rfl keepsWords _ single

theorem outlines_optional (k : Lexeme) (unnamed : ∀ x, (k.token x).outline? false = none) (x? : Option Extent) :
    (Derivation.optional k x?).outlines false = [] := by
  cases x? with
  | none => rfl
  | some x => simp [Derivation.optional, outlines, unnamed]

theorem outlines_own (s : StmtPhrase) (keepsWords : Bool) : s.own.outlines keepsWords = [s.tree.outline] := by
  have spans : ∀ s : StmtPhrase, Extent.spanning? s.own.tokens = some s.tree.extent := fun s => by
    rw [tokens_own, spanning?_tokens]
  have last : ∀ last?, (Derivation.optional (.symbol .semicolon) last?).outlines false = [] :=
    outlines_optional _ fun x => rfl
  have maybe : ∀ k x?, (Derivation.optional (.keyword k) x?).outlines false = [] :=
    fun k => outlines_optional _ fun x => rfl
  induction s using phrase_induction generalizing keepsWords with
  | block opening body closing ih =>
    have inside : Derivation.outlinesAll false (derivations body) = StmtTree.outlines (trees body) := by
      rw [Derivation.outlinesAll_eq_flatMap, derivations_eq_map, trees_eq_map, StmtTree.outlines_eq_map, List.map_map,
        List.flatMap_map, List.map_eq_flatMap]
      exact List.flatMap_congr fun s member => outlines_derivation (ih s member false) false
    refine outlines_plain rfl (spans (.block opening body closing)) ?_ keepsWords
    simp [outlines, outlinesAll, Rule.keepsWords, inside, Symbol.outline?_token]
  | assignment name sign e last? =>
    refine outlines_plain rfl (spans (.assignment name sign e last?)) ?_ keepsWords
    simp [outlines, outlinesAll, Rule.keepsWords, last, e.outlines_derivation]
    rfl
  | command c word e last? =>
    have parts : outlinesAll false [.token (c.keyword.token word), e.derivation 0,
        .optional (.symbol .semicolon) last?] = [e.operand.tree.outline] := by
      simp [outlines, outlinesAll, last, e.outlines_derivation]
      rfl
    cases c with
    | print => exact outlines_plain (r := .printStmt) rfl (spans (.command .print word e last?)) parts keepsWords
    | turn => exact outlines_named (r := .action) (spans (.command .turn word e last?)) parts keepsWords
    | fire => exact outlines_named (r := .action) (spans (.command .fire word e last?)) parts keepsWords
  | simple a word last? =>
    refine outlines_named (spans (.simple a word last?)) ?_ keepsWords
    simp [outlines, outlinesAll, Rule.keepsWords, last]
    rfl
  | branch word c then? yes ih =>
    refine outlines_plain rfl (spans (.branch word c then? yes)) ?_ keepsWords
    simp [outlines, outlinesAll, Rule.keepsWords, maybe, c.outlines_derivation, ih]
    rfl
  | branchElse word c then? yes other no ihYes ihNo =>
    refine outlines_plain rfl (spans (.branchElse word c then? yes other no)) ?_ keepsWords
    simp [outlines, outlinesAll, Rule.keepsWords, maybe, c.outlines_derivation, ihYes, ihNo]
    rfl
  | loop word c do? body ih =>
    refine outlines_plain rfl (spans (.loop word c do? body)) ?_ keepsWords
    simp [outlines, outlinesAll, Rule.keepsWords, maybe, c.outlines_derivation, ih]
    rfl
  | each word opening kind kindExtent comma name closing do? body ih =>
    refine outlines_plain rfl (spans (.each word opening kind kindExtent comma name closing do? body)) ?_ keepsWords
    simp [outlines, outlinesAll, Rule.keepsWords, maybe, ih]
    rfl

end StmtPhrase

end WormLang
