import Mathlib.Tactic.IntervalCases
import WormLang.Proofs.Grammar.Rules
import WormLang.Tree.Reader

/-!
Expressions with all their tokens. A phrase is an expression as the tokens say it, with its parentheses and the places
of its signs. The levels of its operators decide where it can stand. Phrases are what is derived from the rules for
expressions: a rule that only passes on one part adds nothing to a phrase.
-/
namespace WormLang

/-- An operand that is a single token. -/
inductive Atom where
  | number (text : String)
  | truth (b : Bool)
  | null
  | self
  | name (text : String)

namespace Atom

def lexeme : Atom → Lexeme
  | number text => .number text
  | truth b => .keyword (.truth b)
  | null => .keyword .null
  | self => .keyword .self
  | name text => .name text

def tree (x : Extent) : Atom → ExprTree
  | number text => .number x text
  | truth b => .truth x b
  | null => .null x
  | self => .self x
  | name text => .name x text

def alternative : Atom → Grammar.Alternative
  | number _ => .named "number" [.token .number]
  | truth b => .named (if b then "true" else "false") [.word (.truth b)]
  | null => .named "null" [.word .null]
  | self => .named "self" [.word .self]
  | name _ => .named "variable" [.token .name]

end Atom

def UnaryOp.lexeme : UnaryOp → Lexeme
  | negative => .symbol (.arithmetic .sub)
  | bang => .symbol .bang
  | query q => .keyword (.query q)
  | sameTeam => .keyword .sameteam
  | test k => .keyword (.test k)
  | search => .keyword .searchobj

namespace Atom

variable {a b : Atom}

theorem lexeme_inj : a.lexeme = b.lexeme ↔ a = b := by
  cases a <;> cases b <;> simp [lexeme]

@[simp] theorem lexeme_ne_symbol {s : Symbol} : a.lexeme ≠ .symbol s := by
  cases a <;> simp [lexeme]

@[simp] theorem lexeme_ne_function {f : MathFunction} : a.lexeme ≠ .keyword (.function f) := by
  cases a <;> simp [lexeme]

@[simp] theorem lexeme_ne_unary {op : UnaryOp} : a.lexeme ≠ op.lexeme := by
  cases a <;> cases op <;> simp [lexeme, UnaryOp.lexeme]

end Atom

@[simp] theorem UnaryOp.lexeme_ne_openParen {op : UnaryOp} : op.lexeme ≠ .symbol .openParen := by
  cases op <;> simp [lexeme]

@[simp] theorem UnaryOp.lexeme_ne_function {op : UnaryOp} {f : MathFunction} : op.lexeme ≠ .keyword (.function f) := by
  cases op <;> simp [lexeme]

@[simp] theorem UnaryOp.terminal_lexeme {op : UnaryOp} {l : Lexeme} :
    l.terminal = op.lexeme.terminal ↔ l = op.lexeme := by
  cases op <;> cases l <;> simp [lexeme, Lexeme.terminal]

@[simp] theorem UnaryOp.ofLexeme?_lexeme (op : UnaryOp) : ofLexeme? op.lexeme = some op := by
  cases op <;> rfl

theorem UnaryOp.lexeme_inj {op op' : UnaryOp} : op.lexeme = op'.lexeme ↔ op = op' :=
  ⟨fun same => Option.some.inj (by rw [← ofLexeme?_lexeme op, same, ofLexeme?_lexeme]), congrArg lexeme⟩

def UnaryOp.all : List UnaryOp :=
  [negative, bang] ++ Query.all.map query ++ [sameTeam] ++ [TestKind.worm, .food].map test ++ [search]

theorem UnaryOp.mem_all (op : UnaryOp) : op ∈ all := by
  cases op with
  | query q | test q => cases q <;> decide
  | _ => decide

namespace BinaryOp

def all : List BinaryOp :=
  [LogicalOp.or, .and].map logical ++ [OrderOp.lt, .le, .gt, .ge].map order ++ [EqualityOp.eq, .ne].map equality ++
    [ArithmeticOp.add, .sub, .mul, .div].map arithmetic

theorem mem_all (op : BinaryOp) : op ∈ all := by
  cases op with
  | logical op | order op | equality op | arithmetic op => cases op <;> decide

def lexeme : BinaryOp → Lexeme
  | logical op => .symbol (.logical op)
  | order op => .symbol (.order op)
  | equality op => .symbol (.equality op)
  | arithmetic op => .symbol (.arithmetic op)

/-- The level that a left operand must have. Comparisons do not chain. -/
def leftLevel (op : BinaryOp) : Nat := if op.isComparison then op.level + 1 else op.level

@[simp] theorem terminal_lexeme {op : BinaryOp} {l : Lexeme} : l.terminal = op.lexeme.terminal ↔ l = op.lexeme := by
  cases op <;> cases l <;> simp [lexeme, Lexeme.terminal]

@[simp] theorem ofLexeme?_lexeme (op : BinaryOp) : ofLexeme? op.lexeme = some op := by
  cases op <;> rfl

theorem lexeme_inj {op op' : BinaryOp} : op.lexeme = op'.lexeme ↔ op = op' :=
  ⟨fun same => Option.some.inj (by rw [← ofLexeme?_lexeme op, same, ofLexeme?_lexeme]), congrArg lexeme⟩

theorem level_le_leftLevel (op : BinaryOp) : op.level ≤ op.leftLevel := by
  unfold leftLevel
  split <;> omega

theorem level_bounds (op : BinaryOp) : 1 ≤ op.level ∧ op.level ≤ 5 := by
  cases op with
  | logical op | arithmetic op => cases op <;> simp [level]
  | order op | equality op => simp [level]

theorem leftLevel_le (op : BinaryOp) : op.leftLevel ≤ op.level + 1 := by
  unfold leftLevel
  split <;> omega

end BinaryOp

theorem UnaryOp.outline?_lexeme (op : UnaryOp) (x : Extent) : (op.lexeme.token x).outline? false = none := by
  cases op <;> rfl

theorem BinaryOp.outline?_lexeme (op : BinaryOp) (x : Extent) : (op.lexeme.token x).outline? false = none := by
  cases op <;> rfl

/-- An expression as its tokens say it. -/
inductive ExprPhrase where
  | atom (a : Atom) (x : Extent)
  | paren (opening : Extent) (inner : ExprPhrase) (closing : Extent)
  | call (f : MathFunction) (word opening : Extent) (argument : ExprPhrase) (closing : Extent)
  | unary (op : UnaryOp) (sign : Extent) (operand : ExprPhrase)
  | binary (op : BinaryOp) (left : ExprPhrase) (sign : Extent) (right : ExprPhrase)

namespace ExprPhrase

def tokens : ExprPhrase → List Token
  | atom a x => [a.lexeme.token x]
  | paren opening inner closing =>
    Symbol.openParen.token opening :: (inner.tokens ++ [Symbol.closeParen.token closing])
  | call f word opening argument closing =>
    (Keyword.function f).token word :: Symbol.openParen.token opening ::
      (argument.tokens ++ [Symbol.closeParen.token closing])
  | unary op sign operand => op.lexeme.token sign :: operand.tokens
  | binary op left sign right => left.tokens ++ op.lexeme.token sign :: right.tokens

/-- How tightly a phrase holds together. -/
def level : ExprPhrase → Nat
  | atom .. | paren .. | call .. => 7
  | unary .. => 6
  | binary op .. => op.level

/-- The operands of a phrase hold together tightly enough for it. -/
def Grouped : ExprPhrase → Prop
  | atom .. => True
  | paren _ inner _ => inner.Grouped
  | call _ _ _ argument _ => argument.Grouped
  | unary _ _ operand => 6 ≤ operand.level ∧ operand.Grouped
  | binary op left _ right =>
    (op.leftLevel ≤ left.level ∧ left.Grouped) ∧ op.level + 1 ≤ right.level ∧ right.Grouped

/-- A phrase can stand where something of a level is asked for. -/
def Fits (n : Nat) (e : ExprPhrase) : Prop := n ≤ e.level ∧ e.Grouped

/-- What a phrase comes to: its tree, and its extent with the parentheses around it. -/
def operand : ExprPhrase → Operand
  | atom a x => .ofTree (a.tree x)
  | paren opening inner closing =>
    { tree := inner.operand.tree, extent := { start := opening.start, stop := closing.stop } }
  | call f word _ argument closing =>
    .ofTree (.call { start := word.start, stop := closing.stop } f argument.operand.tree)
  | unary op sign operand => operand.operand.applyUnary op sign.start
  | binary op left _ right => .applyBinary op left.operand right.operand

theorem Fits.mono {m n : Nat} {e : ExprPhrase} (fits : e.Fits n) (looser : m ≤ n) : e.Fits m :=
  ⟨looser.trans fits.1, fits.2⟩

end ExprPhrase

namespace Grammar

/-- The rules for expressions, from the loosest to the tightest. -/
def Rule.ofLevel : Nat → Rule
  | 0 => expr
  | 1 => orExpr
  | 2 => andExpr
  | 3 => compare
  | 4 => sum
  | 5 => product
  | 6 => unary
  | _ => atom

/-- How a rule passes on a tighter expression. -/
def Alternative.pass (n : Nat) : Alternative := .plain [.rule (.ofLevel (n + 1))]

/-- A derivation passed on by some rules of looser levels. -/
def Derivation.passed (n : Nat) : Nat → Derivation → Derivation
  | 0, d => d
  | k + 1, d => .node (.ofLevel n) (.pass n) [passed (n + 1) k d]

end Grammar

open Grammar

def UnaryOp.alternative (op : UnaryOp) : Alternative := .named op.rule [.token op.lexeme.terminal, .rule .unary]

def BinaryOp.alternative (op : BinaryOp) : Alternative :=
  .named op.rule [.rule (.ofLevel op.leftLevel), .token op.lexeme.terminal, .rule (.ofLevel (op.level + 1))]

def MathFunction.alternative (f : MathFunction) : Alternative :=
  .named f.word [.word (.function f), .sign .openParen, .rule .expr, .sign .closeParen]

namespace Grammar

/-- A derived atom has a text of its own if it is a number or a name. -/
theorem exists_atom_of_parts {a : Atom} {ds : List Derivation} (parts : DerivesAll a.alternative.parts ds) :
    ∃ b : Atom, b.alternative = a.alternative ∧ ∃ x, ds = [.token (b.lexeme.token x)] := by
  cases a with
  | number text =>
    simp only [Atom.alternative, Alternative.named, derivesAll_cons_iff, derivesAll_nil_iff,
      derives_number_iff] at parts
    obtain ⟨_, _, rfl, ⟨own, x, rfl⟩, rfl⟩ := parts
    exact ⟨.number own, rfl, x, rfl⟩
  | name text =>
    simp only [Atom.alternative, Alternative.named, derivesAll_cons_iff, derivesAll_nil_iff, derives_name_iff] at parts
    obtain ⟨_, _, rfl, ⟨own, rfl⟩, rfl⟩ := parts
    exact ⟨.name own.text, rfl, own.extent, rfl⟩
  | truth | null | self =>
    simp only [Atom.alternative, Alternative.named, derivesAll_cons_iff, derivesAll_nil_iff, derives_word_iff] at parts
    obtain ⟨_, _, rfl, ⟨x, rfl⟩, rfl⟩ := parts
    exact ⟨_, rfl, x, rfl⟩

/-- How parentheses are derived. -/
def Alternative.parens : Alternative := .plain [.sign .openParen, .rule .expr, .sign .closeParen]

namespace Rule

variable {alternative : Alternative}

/-- A rule for operators between operands passes on a tighter expression or has an operator of its level. -/
theorem mem_ofLevel {n : Nat} (below : n < 6) : alternative ∈ (ofLevel n).alternatives ↔
    alternative = .pass n ∨ ∃ op : BinaryOp, op.level = n ∧ alternative = op.alternative := by
  have same : (ofLevel n).alternatives =
      .pass n :: (BinaryOp.all.filter (·.level = n)).map BinaryOp.alternative := by
    interval_cases n <;> rfl
  rw [same]
  simp [BinaryOp.mem_all, eq_comm]

theorem mem_unary : alternative ∈ unary.alternatives ↔
    alternative = .pass 6 ∨ ∃ op : UnaryOp, alternative = op.alternative := by
  have same : unary.alternatives = .pass 6 :: UnaryOp.all.map UnaryOp.alternative := rfl
  rw [same]
  simp [UnaryOp.mem_all, eq_comm]

theorem mem_atom : alternative ∈ atom.alternatives ↔ (∃ a : Atom, alternative = a.alternative) ∨
    (∃ f : MathFunction, alternative = f.alternative) ∨ alternative = .parens := by
  constructor
  · intro among
    simp only [alternatives, List.mem_cons, List.not_mem_nil, or_false] at among
    obtain own | own | own | own | own | own | own | own | own | own := among
    · exact .inl ⟨.number "", own⟩
    · exact .inl ⟨.truth true, own⟩
    · exact .inl ⟨.truth false, own⟩
    · exact .inl ⟨.null, own⟩
    · exact .inl ⟨.self, own⟩
    · exact .inl ⟨.name "", own⟩
    · exact .inr (.inl ⟨.sqrt, own⟩)
    · exact .inr (.inl ⟨.sin, own⟩)
    · exact .inr (.inl ⟨.cos, own⟩)
    · exact .inr (.inr own)
  · rintro (⟨a, rfl⟩ | ⟨f, rfl⟩ | rfl)
    · cases a with
      | truth b => cases b <;> decide
      | _ => simp [alternatives, Atom.alternative]
    · cases f <;> decide
    · decide

theorem pass_mem {n : Nat} (below : n < 7) : Alternative.pass n ∈ (ofLevel n).alternatives := by
  interval_cases n <;> decide

theorem isInlined_ofLevel (n : Nat) : (ofLevel n).isInlined = true := by
  unfold ofLevel
  split <;> rfl

theorem keepsWords_ofLevel (n : Nat) : (ofLevel n).keepsWords = false := by
  unfold ofLevel
  split <;> rfl

end Rule

namespace Derivation

theorem tokens_passed (n k : Nat) (d : Derivation) : (passed n k d).tokens = d.tokens := by
  induction k generalizing n with
  | zero => rfl
  | succ k ih => rw [passed, tokens, tokensAll, tokensAll, ih, List.append_nil]

theorem outlines_passed (n k : Nat) {d : Derivation} {o : Outline} (keepsWords : Bool)
    (single : ∀ keepsWords, d.outlines keepsWords = [o]) : (passed n k d).outlines keepsWords = [o] := by
  induction k generalizing n keepsWords with
  | zero => exact single keepsWords
  | succ k ih => exact outlines_one (Rule.isInlined_ofLevel n) keepsWords _ (ih (n + 1) _)

theorem derives_passed {n k : Nat} {d : Derivation} (derives : Derives (.rule (.ofLevel (n + k))) d)
    (below : n + k ≤ 7) : Derives (.rule (.ofLevel n)) (passed n k d) := by
  induction k generalizing n with
  | zero => exact derives
  | succ k ih =>
    have inner := ih (n := n + 1) (by rwa [Nat.add_right_comm]) (by omega)
    exact .rule (Rule.pass_mem (by omega)) (.cons inner .nil)

end Derivation

end Grammar

namespace ExprPhrase

open Grammar.Derivation

/-- The derivation of a phrase from the rule of its own level. -/
def own : ExprPhrase → Derivation
  | atom a x => .node .atom a.alternative [.token (a.lexeme.token x)]
  | paren opening inner closing =>
    .node .atom .parens
      [.token (Symbol.openParen.token opening), passed 0 inner.level inner.own,
        .token (Symbol.closeParen.token closing)]
  | call f word opening argument closing =>
    .node .atom f.alternative
      [.token ((Keyword.function f).token word), .token (Symbol.openParen.token opening),
        passed 0 argument.level argument.own, .token (Symbol.closeParen.token closing)]
  | unary op sign operand =>
    .node .unary op.alternative [.token (op.lexeme.token sign), passed 6 (operand.level - 6) operand.own]
  | binary op left sign right =>
    .node (.ofLevel op.level) op.alternative
      [passed op.leftLevel (left.level - op.leftLevel) left.own, .token (op.lexeme.token sign),
        passed (op.level + 1) (right.level - (op.level + 1)) right.own]

/-- The derivation of a phrase from the rule of a level. -/
def derivation (n : Nat) (e : ExprPhrase) : Derivation := passed n (e.level - n) e.own

theorem level_le (e : ExprPhrase) : e.level ≤ 7 := by
  cases e with
  | binary op left sign right => exact op.level_bounds.2.trans (by omega)
  | _ => simp [level]

theorem derivation_level (e : ExprPhrase) : e.derivation e.level = e.own := by
  rw [derivation, Nat.sub_self, passed]

theorem derivation_of_lt {n : Nat} {e : ExprPhrase} (below : n < e.level) :
    e.derivation n = .node (.ofLevel n) (.pass n) [e.derivation (n + 1)] := by
  obtain ⟨k, steps⟩ : ∃ k, e.level - n = k + 1 := ⟨e.level - n - 1, by omega⟩
  rw [derivation, derivation, steps, passed, show e.level - (n + 1) = k by omega]

theorem tokens_own (e : ExprPhrase) : e.own.tokens = e.tokens := by
  induction e with
  | atom a x => rfl
  | paren opening inner closing ih | call f word opening inner closing ih =>
    simp [own, tokens, Derivation.tokens, tokensAll, tokens_passed, ih]
  | unary op sign operand ih => simp [own, tokens, Derivation.tokens, tokensAll, tokens_passed, ih]
  | binary op left sign right ihLeft ihRight =>
    simp [own, tokens, Derivation.tokens, tokensAll, tokens_passed, ihLeft, ihRight]

theorem tokens_derivation (n : Nat) (e : ExprPhrase) : (e.derivation n).tokens = e.tokens := by
  rw [derivation, tokens_passed, tokens_own]

theorem derives_own {e : ExprPhrase} (grouped : e.Grouped) : Derives (.rule (.ofLevel e.level)) e.own := by
  induction e with
  | atom a x =>
    refine .rule (Rule.mem_atom.mpr (.inl ⟨a, rfl⟩)) ?_
    cases a <;> exact .cons (.token rfl) .nil
  | paren opening inner closing ih =>
    have inside := derives_passed (n := 0) (by rw [Nat.zero_add]; exact ih grouped) (by have := inner.level_le; omega)
    exact .rule (Rule.mem_atom.mpr (.inr (.inr rfl))) (.cons (.token rfl) (.cons inside (.cons (.token rfl) .nil)))
  | call f word opening argument closing ih =>
    have inside := derives_passed (n := 0) (by rw [Nat.zero_add]; exact ih grouped)
      (by have := argument.level_le; omega)
    exact .rule (Rule.mem_atom.mpr (.inr (.inl ⟨f, rfl⟩)))
      (.cons (.token rfl) (.cons (.token rfl) (.cons inside (.cons (.token rfl) .nil))))
  | unary op sign operand ih =>
    obtain ⟨tight, grouped⟩ := grouped
    have inside := derives_passed (n := 6) (by rw [Nat.add_sub_cancel' tight]; exact ih grouped)
      (by have := operand.level_le; omega)
    exact .rule (Rule.mem_unary.mpr (.inr ⟨op, rfl⟩)) (.cons (.token rfl) (.cons inside .nil))
  | binary op left sign right ihLeft ihRight =>
    obtain ⟨⟨tightLeft, groupedLeft⟩, tightRight, groupedRight⟩ := grouped
    have first := derives_passed (n := op.leftLevel) (by rw [Nat.add_sub_cancel' tightLeft]; exact ihLeft groupedLeft)
      (by have := left.level_le; omega)
    have second := derives_passed (n := op.level + 1)
      (by rw [Nat.add_sub_cancel' tightRight]; exact ihRight groupedRight) (by have := right.level_le; omega)
    have below : op.level < 6 := Nat.lt_succ_of_le op.level_bounds.2
    exact .rule ((Rule.mem_ofLevel below).mpr (.inr ⟨op, rfl, rfl⟩))
      (.cons first (.cons (.token rfl) (.cons second .nil)))

/-- A phrase is derived from the rule of every level where it can stand. -/
theorem Fits.derives {n : Nat} {e : ExprPhrase} (fits : e.Fits n) :
    Derives (.rule (.ofLevel n)) (e.derivation n) := by
  obtain ⟨tight, grouped⟩ := fits
  have bound := e.level_le
  exact derives_passed (by rw [Nat.add_sub_cancel' tight]; exact derives_own grouped) (by omega)

/-- Nothing else is derived from the rules for expressions. The induction is on the derivation: a rule that passes on a
tighter expression leaves the phrase as it is. -/
theorem exists_of_derives {n : Nat} (bound : n ≤ 7) {d : Derivation} (derives : Derives (.rule (.ofLevel n)) d) :
    ∃ e : ExprPhrase, e.Fits n ∧ d = e.derivation n := by
  have passing : ∀ {m : Nat} {inner : Derivation}, (∃ e : ExprPhrase, e.Fits (m + 1) ∧ inner = e.derivation (m + 1)) →
      ∃ e : ExprPhrase, e.Fits m ∧ .node (.ofLevel m) (.pass m) [inner] = e.derivation m := by
    rintro m inner ⟨e, fits, rfl⟩
    exact ⟨e, fits.mono (Nat.le_succ m), (derivation_of_lt fits.1).symm⟩
  obtain ⟨alternative, ds, rfl, among, parts⟩ := derives_rule_iff.mp derives
  obtain below | rfl | rfl : n < 6 ∨ n = 6 ∨ n = 7 := by omega
  · obtain rfl | ⟨op, rfl, rfl⟩ := (Rule.mem_ofLevel below).mp among
    · obtain ⟨inner, _, rfl, derivesInner, rest⟩ := derivesAll_cons_iff.mp parts
      obtain rfl := derivesAll_nil_iff.mp rest
      exact passing (exists_of_derives (by omega) derivesInner)
    · simp only [BinaryOp.alternative, Alternative.named, derivesAll_cons_iff, derivesAll_nil_iff, derives_token_iff,
        BinaryOp.terminal_lexeme] at parts
      obtain ⟨first, _, rfl, derivesLeft, _, _, rfl, ⟨_, rfl, sign, rfl⟩, second, _, rfl, derivesRight, rfl⟩ := parts
      obtain ⟨left, fitsLeft, rfl⟩ := exists_of_derives (op.leftLevel_le.trans (by omega)) derivesLeft
      obtain ⟨right, fitsRight, rfl⟩ := exists_of_derives (by omega) derivesRight
      exact ⟨.binary op left sign right, ⟨Nat.le_refl _, fitsLeft, fitsRight⟩,
        (derivation_level (.binary op left sign right)).symm⟩
  · obtain rfl | ⟨op, rfl⟩ := Rule.mem_unary.mp among
    · obtain ⟨inner, _, rfl, derivesInner, rest⟩ := derivesAll_cons_iff.mp parts
      obtain rfl := derivesAll_nil_iff.mp rest
      exact passing (exists_of_derives (by omega) derivesInner)
    · simp only [UnaryOp.alternative, Alternative.named, derivesAll_cons_iff, derivesAll_nil_iff, derives_token_iff,
        UnaryOp.terminal_lexeme] at parts
      obtain ⟨_, _, rfl, ⟨_, rfl, sign, rfl⟩, inner, _, rfl, derivesInner, rfl⟩ := parts
      obtain ⟨operand, fits, rfl⟩ := exists_of_derives (n := 6) (by omega) derivesInner
      exact ⟨.unary op sign operand, ⟨Nat.le_refl _, fits⟩, (derivation_level (.unary op sign operand)).symm⟩
  · obtain ⟨a, rfl⟩ | ⟨f, rfl⟩ | rfl := Rule.mem_atom.mp among
    · obtain ⟨b, same, x, rfl⟩ := Grammar.exists_atom_of_parts parts
      exact ⟨.atom b x, ⟨Nat.le_refl _, trivial⟩, same ▸ (derivation_level (.atom b x)).symm⟩
    · simp only [MathFunction.alternative, Alternative.named, derivesAll_cons_iff, derivesAll_nil_iff, derives_word_iff,
        derives_sign_iff] at parts
      obtain ⟨_, _, rfl, ⟨word, rfl⟩, _, _, rfl, ⟨opening, rfl⟩, inner, _, rfl, derivesInner, _, _, rfl, ⟨closing, rfl⟩,
        rfl⟩ := parts
      obtain ⟨argument, fits, rfl⟩ := exists_of_derives (n := 0) (by omega) derivesInner
      exact ⟨.call f word opening argument closing, ⟨Nat.le_refl _, fits.2⟩,
        (derivation_level (.call f word opening argument closing)).symm⟩
    · simp only [Alternative.parens, Alternative.plain, derivesAll_cons_iff, derivesAll_nil_iff,
        derives_sign_iff] at parts
      obtain ⟨_, _, rfl, ⟨opening, rfl⟩, inner, _, rfl, derivesInner, _, _, rfl, ⟨closing, rfl⟩, rfl⟩ := parts
      obtain ⟨inside, fits, rfl⟩ := exists_of_derives (n := 0) (by omega) derivesInner
      exact ⟨.paren opening inside closing, ⟨Nat.le_refl _, fits.2⟩,
        (derivation_level (.paren opening inside closing)).symm⟩
termination_by sizeOf d

/-- The tokens of a phrase lie between its two ends. -/
theorem spanning?_tokens (e : ExprPhrase) : Extent.spanning? e.tokens = some e.operand.extent := by
  induction e with
  | atom a x => cases a <;> rfl
  | paren opening inner closing ih =>
    rw [tokens, Extent.spanning?_over _ _ (Extent.spanning?_singleton _)]
    rfl
  | call f word opening argument closing ih =>
    rw [tokens, ← List.cons_append, Extent.spanning?_over _ _ (Extent.spanning?_singleton _)]
    rfl
  | unary op sign operand ih =>
    rw [tokens, Extent.spanning?_cons _ ih]
    rfl
  | binary op left sign right ihLeft ihRight =>
    rw [tokens, Extent.spanning?_append ihLeft (Extent.spanning?_cons _ ihRight)]
    rfl

theorem spanning?_own (e : ExprPhrase) : Extent.spanning? e.own.tokens = some e.operand.extent := by
  rw [tokens_own, spanning?_tokens]

theorem outlines_own (e : ExprPhrase) (keepsWords : Bool) : e.own.outlines keepsWords = [e.operand.tree.outline] := by
  induction e generalizing keepsWords with
  | atom a x =>
    cases a with
    | truth b => cases b <;> exact outlines_named (spanning?_own (.atom (.truth _) x)) rfl keepsWords
    | number text => exact outlines_named (spanning?_own (.atom (.number text) x)) rfl keepsWords
    | name text => exact outlines_named (spanning?_own (.atom (.name text) x)) rfl keepsWords
    | null => exact outlines_named (spanning?_own (.atom .null x)) rfl keepsWords
    | self => exact outlines_named (spanning?_own (.atom .self x)) rfl keepsWords
  | paren opening inner closing ih =>
    simp [own, outlines, outlinesAll, outlines_passed _ _ false ih, Rule.isInlined, Rule.keepsWords,
      Alternative.parens, Alternative.plain, Symbol.outline?_token]
    rfl
  | call f word opening argument closing ih =>
    refine outlines_named (spanning?_own (.call f word opening argument closing)) ?_ keepsWords
    simp [outlines, outlinesAll, outlines_passed _ _ false ih, Rule.keepsWords, Symbol.outline?_token]
    rfl
  | unary op sign operand ih =>
    refine outlines_named (spanning?_own (.unary op sign operand)) ?_ keepsWords
    simp [outlines, outlinesAll, outlines_passed _ _ false ih, Rule.keepsWords, UnaryOp.outline?_lexeme]
  | binary op left sign right ihLeft ihRight =>
    refine outlines_named (spanning?_own (.binary op left sign right)) ?_ keepsWords
    simp [outlines, outlinesAll, outlines_passed _ _ false ihLeft, outlines_passed _ _ false ihRight,
      Rule.keepsWords_ofLevel, BinaryOp.outline?_lexeme]

theorem outlines_derivation (n : Nat) (e : ExprPhrase) (keepsWords : Bool) :
    (e.derivation n).outlines keepsWords = [e.operand.tree.outline] :=
  outlines_passed _ _ keepsWords (outlines_own e)

end ExprPhrase

end WormLang
