import WormLang.Proofs.Grammar.Program

/-!
No two programs have the same tokens. An expression is a chain of operands with operators between them: the operands are
recognized by their first tokens, and the levels of the operators say where the chain is divided. A statement is
recognized by its first token, and what may follow it cannot go on with it.
-/
namespace WormLang

namespace ExprPhrase

/-- An operator in a chain with the operand after it. -/
@[ext] structure Link where
  op : BinaryOp
  sign : Extent
  operand : ExprPhrase

def Link.tokens (c : Link) : List Token := c.op.lexeme.token c.sign :: c.operand.tokens

/-- The operand that a phrase starts with. -/
def first : ExprPhrase → ExprPhrase
  | binary _ left _ _ => left.first
  | e => e

/-- What follows the first operand. -/
def links : ExprPhrase → List Link
  | binary op left sign right => left.links ++ { op, sign, operand := right.first } :: right.links
  | _ => []

theorem tokens_eq_chain (e : ExprPhrase) : e.tokens = e.first.tokens ++ e.links.flatMap Link.tokens := by
  induction e with
  | binary op left sign right ihLeft ihRight => simp [tokens, first, links, Link.tokens, ihLeft, ihRight]
  | _ => simp [first, links]

theorem fits_first {e : ExprPhrase} (grouped : e.Grouped) : e.first.Fits 6 := by
  induction e with
  | binary op left sign right ihLeft ihRight => exact ihLeft grouped.1.2
  | _ => exact ⟨by simp [first, level], grouped⟩

theorem fits_link {e : ExprPhrase} (grouped : e.Grouped) {c : Link} (member : c ∈ e.links) : c.operand.Fits 6 := by
  induction e with
  | binary op left sign right ihLeft ihRight =>
    rw [links, List.mem_append, List.mem_cons] at member
    obtain inLeft | rfl | inRight := member
    · exact ihLeft grouped.1.2 inLeft
    · exact fits_first grouped.2.2
    · exact ihRight grouped.2.2 inRight
  | _ => cases member

/-- The operators of a phrase bind at least as tightly as the phrase. -/
theorem level_le_of_link {e : ExprPhrase} (grouped : e.Grouped) {c : Link} (member : c ∈ e.links) :
    e.level ≤ c.op.level := by
  induction e with
  | binary op left sign right ihLeft ihRight =>
    obtain ⟨⟨tightLeft, groupedLeft⟩, tightRight, groupedRight⟩ := grouped
    have looser := op.level_le_leftLevel
    rw [links, List.mem_append, List.mem_cons] at member
    obtain inLeft | rfl | inRight := member
    · exact (looser.trans tightLeft).trans (ihLeft groupedLeft inLeft)
    · exact Nat.le_refl _
    · exact ((Nat.le_succ _).trans tightRight).trans (ihRight groupedRight inRight)
  | _ => cases member

/-- A chain cannot be divided at an operator and also at a later one. -/
theorem not_divided_later {op op' : BinaryOp} {left right left' right' : ExprPhrase} {sign sign' : Extent}
    {between : List Link} (grouped : (binary op left sign right).Grouped)
    (grouped' : (binary op' left' sign' right').Grouped)
    (leftLinks : left'.links = left.links ++ { op, sign, operand := right.first } :: between)
    (rightLinks : right.links = between ++ { op := op', sign := sign', operand := right'.first } :: right'.links) :
    False := by
  -- The earlier operator is on the left of the later one, and the later one on the right of the earlier one.
  have inLeft : op'.leftLevel ≤ op.level :=
    grouped'.1.1.trans (level_le_of_link (c := { op, sign, operand := right.first }) grouped'.1.2 (by simp [leftLinks]))
  have inRight : op.level + 1 ≤ op'.level :=
    grouped.2.1.trans (level_le_of_link (c := { op := op', sign := sign', operand := right'.first }) grouped.2.2
      (by simp [rightLinks]))
  have := op'.level_le_leftLevel
  omega

/-- A chain is divided at one operator. -/
theorem divided_once {op op' : BinaryOp} {left right left' right' : ExprPhrase} {sign sign' : Extent}
    (grouped : (binary op left sign right).Grouped) (grouped' : (binary op' left' sign' right').Grouped)
    (same : (binary op left sign right).links = (binary op' left' sign' right').links) :
    left.links = left'.links ∧ (op = op' ∧ sign = sign' ∧ right.first = right'.first) ∧ right.links = right'.links := by
  rw [links, links, List.append_eq_append_iff] at same
  obtain ⟨between, leftLinks, rest⟩ | ⟨between, leftLinks, rest⟩ := same
  · cases between with
    | nil => simpa [and_assoc, eq_comm] using And.intro leftLinks rest
    | cons c between =>
      rw [List.cons_append, List.cons.injEq] at rest
      obtain ⟨rfl, rest⟩ := rest
      cases not_divided_later grouped grouped' leftLinks rest
  · cases between with
    | nil => simpa [and_assoc, eq_comm] using And.intro leftLinks rest
    | cons c between =>
      rw [List.cons_append, List.cons.injEq] at rest
      obtain ⟨rfl, rest⟩ := rest
      cases not_divided_later grouped' grouped leftLinks rest

/-- A phrase is known from its first operand and what follows it. -/
theorem eq_of_chain {e f : ExprPhrase} (groupedE : e.Grouped) (groupedF : f.Grouped) (sameFirst : e.first = f.first)
    (sameLinks : e.links = f.links) : e = f := by
  induction e generalizing f with
  | binary op left sign right ihLeft ihRight =>
    cases f with
    | binary op' left' sign' right' =>
      obtain ⟨sameLeft, ⟨rfl, rfl, sameOperand⟩, sameRight⟩ := divided_once groupedE groupedF sameLinks
      rw [ihLeft groupedE.1.2 groupedF.1.2 sameFirst sameLeft, ihRight groupedE.2.2 groupedF.2.2 sameOperand sameRight]
    | _ => simp [links] at sameLinks
  | _ =>
    cases f with
    | binary => simp [links] at sameLinks
    | _ => exact sameFirst

end ExprPhrase

/-- No operator between operands comes next. -/
def NoOperator (u : List Token) : Prop := ∀ t ∈ u.head?, BinaryOp.ofLexeme? t.lexeme = none

namespace ExprPhrase

/-- An operand is recognized, whatever follows it. -/
def Recognized (x : ExprPhrase) : Prop := ∀ y u v, y.Fits 6 → x.tokens ++ u = y.tokens ++ v → x = y ∧ u = v

theorem not_noOperator (c : Link) (u : List Token) : ¬ NoOperator (c.tokens ++ u) := fun stop => by
  have none : BinaryOp.ofLexeme? c.op.lexeme = none := stop (c.op.lexeme.token c.sign) rfl
  rw [BinaryOp.ofLexeme?_lexeme] at none
  cases none

/-- A chain goes on until no operator comes next. -/
theorem links_unique {cs ds : List Link} {u v : List Token} (recognized : ∀ c ∈ cs, c.operand.Recognized)
    (fits : ∀ d ∈ ds, d.operand.Fits 6) (stopU : NoOperator u) (stopV : NoOperator v)
    (same : cs.flatMap Link.tokens ++ u = ds.flatMap Link.tokens ++ v) : cs = ds ∧ u = v := by
  induction cs generalizing ds with
  | nil =>
    cases ds with
    | nil => exact ⟨rfl, same⟩
    | cons d rest =>
      rw [List.flatMap_nil, List.nil_append, List.flatMap_cons, List.append_assoc] at same
      exact absurd (same ▸ stopU) (not_noOperator d _)
  | cons c cs ih =>
    cases ds with
    | nil =>
      rw [List.flatMap_nil, List.nil_append, List.flatMap_cons, List.append_assoc] at same
      exact absurd (same ▸ stopV) (not_noOperator c _)
    | cons d ds =>
      simp only [List.flatMap_cons, Link.tokens, List.cons_append, List.append_assoc, List.cons.injEq, Lexeme.token_inj,
        BinaryOp.lexeme_inj] at same
      obtain ⟨⟨sameOp, sameSign⟩, same⟩ := same
      obtain ⟨sameOperand, same⟩ := recognized c List.mem_cons_self _ _ _ (fits d List.mem_cons_self) same
      obtain ⟨rfl, rfl⟩ := ih (fun c member => recognized c (List.mem_cons_of_mem _ member))
        (fun d member => fits d (List.mem_cons_of_mem _ member)) same
      exact ⟨by rw [show c = d from Link.ext sameOp sameSign sameOperand], rfl⟩

/-- A phrase whose operands are recognized is known from its tokens, up to where no operator comes next. -/
theorem unique_of_recognized {e f : ExprPhrase} {u v : List Token}
    (recognized : e.first.Recognized ∧ ∀ c ∈ e.links, c.operand.Recognized) (groupedE : e.Grouped)
    (groupedF : f.Grouped) (stopU : NoOperator u) (stopV : NoOperator v) (same : e.tokens ++ u = f.tokens ++ v) :
    e = f ∧ u = v := by
  rw [e.tokens_eq_chain, f.tokens_eq_chain, List.append_assoc, List.append_assoc] at same
  obtain ⟨sameFirst, rest⟩ := recognized.1 _ _ _ (fits_first groupedF) same
  obtain ⟨sameLinks, rfl⟩ := links_unique recognized.2 (fun d => fits_link groupedF) stopU stopV rest
  exact ⟨eq_of_chain groupedE groupedF sameFirst sameLinks, rfl⟩

theorem not_fits_binary {op : BinaryOp} {left right : ExprPhrase} {sign : Extent} :
    ¬ (binary op left sign right).Fits 6 := fun fits => by
  have := op.level_bounds
  have : 6 ≤ op.level := fits.1
  omega

/-- The same in parentheses. -/
theorem closed_unique {e f : ExprPhrase} {x y : Extent} {u v : List Token}
    (same : e.tokens ++ Symbol.closeParen.token x :: u = f.tokens ++ Symbol.closeParen.token y :: v)
    (recognized : e.first.Recognized ∧ ∀ c ∈ e.links, c.operand.Recognized) (groupedE : e.Grouped)
    (groupedF : f.Grouped) : e = f ∧ x = y ∧ u = v := by
  have stop : ∀ (x : Extent) (u : List Token), NoOperator (Symbol.closeParen.token x :: u) := by
    rintro x u t ⟨⟩
    rfl
  obtain ⟨rfl, rest⟩ := unique_of_recognized recognized groupedE groupedF (stop x u) (stop y v) same
  simp only [List.cons.injEq, Symbol.token, Lexeme.token_inj, true_and] at rest
  exact ⟨rfl, rest⟩

theorem first_of_fits {e : ExprPhrase} (fits : e.Fits 6) : e.first = e := by
  cases e with
  | binary => cases not_fits_binary fits
  | _ => rfl

theorem recognized_atom (a : Atom) (x : Extent) : (atom a x).Recognized := by
  intro y u v fits same
  cases y with
  | atom b y =>
    obtain ⟨⟨sameLexeme, rfl⟩, rfl⟩ : (a.lexeme = b.lexeme ∧ x = y) ∧ u = v := by
      simpa [tokens, Lexeme.token_inj] using same
    exact ⟨by rw [Atom.lexeme_inj.mp sameLexeme], rfl⟩
  | binary => cases not_fits_binary fits
  | _ => simp [tokens, Symbol.token, Keyword.token, Lexeme.token_inj] at same

section

variable {inner : ExprPhrase} (recognized : inner.first.Recognized ∧ ∀ c ∈ inner.links, c.operand.Recognized)
  (grouped : inner.Grouped)

include recognized grouped

theorem recognized_paren (opening closing : Extent) : (paren opening inner closing).Recognized := by
  intro y u v fits same
  cases y with
  | paren opening' inner' closing' =>
    simp only [tokens, Symbol.token, List.cons_append, List.append_assoc, List.nil_append, List.cons.injEq,
      Lexeme.token_inj, true_and] at same
    obtain ⟨rfl, same⟩ := same
    obtain ⟨rfl, rfl, rfl⟩ := closed_unique same recognized grouped fits.2
    exact ⟨rfl, rfl⟩
  | binary => cases not_fits_binary fits
  | _ => simp [tokens, Symbol.token, Keyword.token, Lexeme.token_inj, Atom.lexeme_ne_symbol.symm,
      UnaryOp.lexeme_ne_openParen.symm] at same

theorem recognized_call (f : MathFunction) (word opening closing : Extent) :
    (call f word opening inner closing).Recognized := by
  intro y u v fits same
  cases y with
  | call f' word' opening' inner' closing' =>
    simp only [tokens, Symbol.token, Keyword.token, List.cons_append, List.append_assoc, List.nil_append,
      List.cons.injEq, Lexeme.token_inj, true_and, Lexeme.keyword.injEq, Keyword.function.injEq] at same
    obtain ⟨⟨rfl, rfl⟩, rfl, same⟩ := same
    obtain ⟨rfl, rfl, rfl⟩ := closed_unique same recognized grouped fits.2
    exact ⟨rfl, rfl⟩
  | binary => cases not_fits_binary fits
  | _ => simp [tokens, Symbol.token, Keyword.token, Lexeme.token_inj, Atom.lexeme_ne_function.symm,
      UnaryOp.lexeme_ne_function.symm] at same

end

theorem recognized_unary {operand : ExprPhrase} (recognized : operand.Recognized) (op : UnaryOp) (sign : Extent) :
    (unary op sign operand).Recognized := by
  intro y u v fits same
  cases y with
  | unary op' sign' operand' =>
    simp only [tokens, List.cons_append, List.cons.injEq, Lexeme.token_inj, UnaryOp.lexeme_inj] at same
    obtain ⟨⟨rfl, rfl⟩, same⟩ := same
    obtain ⟨rfl, rfl⟩ := recognized _ _ _ fits.2 same
    exact ⟨rfl, rfl⟩
  | binary => cases not_fits_binary fits
  | _ => simp [tokens, Symbol.token, Keyword.token, Lexeme.token_inj, Atom.lexeme_ne_unary.symm] at same

/-- Every operand is recognized. -/
theorem recognized_operands {e : ExprPhrase} (grouped : e.Grouped) :
    e.first.Recognized ∧ ∀ c ∈ e.links, c.operand.Recognized := by
  -- A phrase that is no chain is its own first operand.
  induction e with
  | atom a x => exact ⟨recognized_atom a x, by simp [links]⟩
  | paren opening inner closing ih => exact ⟨recognized_paren (ih grouped) grouped opening closing, by simp [links]⟩
  | call f word opening argument closing ih =>
    exact ⟨recognized_call (ih grouped) grouped f word opening closing, by simp [links]⟩
  | unary op sign operand ih =>
    have inner := (ih grouped.2).1
    rw [first_of_fits grouped] at inner
    exact ⟨recognized_unary inner op sign, by simp [links]⟩
  | binary op left sign right ihLeft ihRight =>
    obtain ⟨first, others⟩ := ihLeft grouped.1.2
    obtain ⟨firstRight, othersRight⟩ := ihRight grouped.2.2
    refine ⟨first, fun c member => ?_⟩
    rw [links, List.mem_append, List.mem_cons] at member
    obtain inLeft | rfl | inRight := member
    · exact others c inLeft
    · exact firstRight
    · exact othersRight c inRight

/-- An expression is known from its tokens, up to where no operator comes next. -/
theorem unique {e f : ExprPhrase} {u v : List Token} (same : e.tokens ++ u = f.tokens ++ v) (groupedE : e.Grouped)
    (groupedF : f.Grouped) (stopU : NoOperator u) (stopV : NoOperator v) : e = f ∧ u = v :=
  unique_of_recognized (recognized_operands groupedE) groupedE groupedF stopU stopV same

end ExprPhrase

/-- A token that cannot go on with a complete statement. -/
structure Token.Fresh (t : Token) : Prop where
  noOperator : BinaryOp.ofLexeme? t.lexeme = none
  noParen : t.lexeme ≠ .symbol .closeParen
  noSemicolon : t.lexeme ≠ .symbol .semicolon
  noElse : t.lexeme ≠ .keyword .elseWord

/-- What comes next cannot go on with a complete statement. -/
def Fresh (u : List Token) : Prop := ∀ t ∈ u.head?, t.Fresh

theorem Fresh.head {t : Token} {u : List Token} (fresh : Fresh (t :: u)) : t.Fresh := fresh t rfl

theorem Fresh.stop {u : List Token} (fresh : Fresh u) : NoOperator u := fun t next => (fresh t next).noOperator

theorem fresh_closeBrace (x : Extent) (u : List Token) : Fresh (Symbol.closeBrace.token x :: u) := by
  rintro t ⟨⟩
  constructor <;> simp [Symbol.token, Lexeme.token, BinaryOp.ofLexeme?]

theorem not_fresh_elseWord (x : Extent) (u : List Token) : ¬ Fresh (Keyword.elseWord.token x :: u) := fun fresh =>
  fresh.head.noElse rfl

section

variable {l : Lexeme} {x? y? : Option Extent} {u v : List Token}

/-- A token that may be missing is recognized if it does not come next by itself. -/
theorem optional_unique (same : l.optional x? ++ u = l.optional y? ++ v) (notU : ∀ t ∈ u.head?, t.lexeme ≠ l)
    (notV : ∀ t ∈ v.head?, t.lexeme ≠ l) : x? = y? ∧ u = v := by
  cases x? with
  | none =>
    cases y? with
    | none => exact ⟨rfl, same⟩
    | some y =>
      obtain rfl : u = l.token y :: v := same
      cases notU _ rfl rfl
  | some x =>
    cases y? with
    | none =>
      obtain rfl : l.token x :: u = v := same
      cases notV _ rfl rfl
    | some y => simpa [Lexeme.optional, Lexeme.token_inj] using same

theorem noOperator_optional (other : BinaryOp.ofLexeme? l = none) (stop : NoOperator u) :
    NoOperator (l.optional x? ++ u) := by
  cases x? with
  | none => exact stop
  | some x =>
    rintro t ⟨⟩
    exact other

end

namespace ExprPhrase

variable {e f : ExprPhrase} {u v : List Token} {x? y? : Option Extent}

/-- An expression with a semicolon that may be missing. -/
theorem ended_unique (same : e.tokens ++ (Lexeme.optional (.symbol .semicolon) x? ++ u) =
      f.tokens ++ (Lexeme.optional (.symbol .semicolon) y? ++ v))
    (groupedE : e.Grouped) (groupedF : f.Grouped) (freshU : Fresh u) (freshV : Fresh v) :
    e = f ∧ x? = y? ∧ u = v := by
  obtain ⟨rfl, rest⟩ := unique same groupedE groupedF (noOperator_optional rfl freshU.stop)
    (noOperator_optional rfl freshV.stop)
  exact ⟨rfl, optional_unique rest (fun t next => (freshU t next).noSemicolon)
    fun t next => (freshV t next).noSemicolon⟩

end ExprPhrase

namespace StmtPhrase

theorem lexeme_of_isBlock {s : StmtPhrase} (isBlock : s.isBlock = true) (u : List Token) :
    ∀ t ∈ (s.tokens ++ u).head?, t.lexeme = .symbol .openBrace := by
  cases s with
  | block opening body closing =>
    rintro t ⟨⟩
    rfl
  | _ => cases isBlock

theorem noOperator_of_isBlock {s : StmtPhrase} (isBlock : s.isBlock = true) (u : List Token) :
    NoOperator (s.tokens ++ u) := fun t next => by rw [lexeme_of_isBlock isBlock u t next]; rfl

variable {k : Keyword} {s s' : StmtPhrase} {x? y? : Option Extent} {u v : List Token}

/-- A word that may be missing before a block. -/
theorem opening_unique (isBlock : s.isBlock = true) (isBlock' : s'.isBlock = true)
    (same : Lexeme.optional (.keyword k) x? ++ (s.tokens ++ u) = Lexeme.optional (.keyword k) y? ++ (s'.tokens ++ v)) :
    x? = y? ∧ s.tokens ++ u = s'.tokens ++ v :=
  optional_unique same (fun t next => by simp [lexeme_of_isBlock isBlock u t next])
    fun t next => by simp [lexeme_of_isBlock isBlock' v t next]

/-- A condition and what may stand before its block. -/
theorem condition_unique {c c' : ExprPhrase} (groupedC : c.Grouped) (groupedC' : c'.Grouped)
    (isBlock : s.isBlock = true) (isBlock' : s'.isBlock = true)
    (same : c.tokens ++ (Lexeme.optional (.keyword k) x? ++ (s.tokens ++ u)) =
      c'.tokens ++ (Lexeme.optional (.keyword k) y? ++ (s'.tokens ++ v))) :
    c = c' ∧ x? = y? ∧ s.tokens ++ u = s'.tokens ++ v := by
  obtain ⟨rfl, rest⟩ := ExprPhrase.unique same groupedC groupedC'
    (noOperator_optional rfl (noOperator_of_isBlock isBlock u))
    (noOperator_optional rfl (noOperator_of_isBlock isBlock' v))
  exact ⟨rfl, opening_unique isBlock isBlock' rest⟩

/-- A statement is recognized by its tokens; unless it is a block, it depends on what comes next. -/
def Recognized (s : StmtPhrase) : Prop := ∀ s' u v, s'.Formed → (s.isBlock = true ∨ Fresh u ∧ Fresh v) →
  s.tokens ++ u = s'.tokens ++ v → s = s' ∧ u = v

/-- Every statement starts with a token that cannot go on with a complete statement, that closes no block and that is
not the word of a type. -/
theorem head_tokens (s : StmtPhrase) (u : List Token) : ∃ t rest, s.tokens ++ u = t :: rest ∧ t.Fresh ∧
    t.lexeme ≠ .symbol .closeBrace ∧ ∀ ty, t.lexeme ≠ .keyword (.type ty) := by
  cases s <;>
    refine ⟨_, _, rfl, ⟨rfl, ?_, ?_, ?_⟩, ?_, ?_⟩ <;>
    simp [Symbol.token, Keyword.token, Word.token, Lexeme.token]

theorem fresh_tokens (s : StmtPhrase) (u : List Token) : Fresh (s.tokens ++ u) := by
  obtain ⟨t, rest, split, fresh, -⟩ := s.head_tokens u
  rw [split]
  rintro _ ⟨⟩
  exact fresh

/-- The statements of a block are recognized up to its brace. -/
theorem body_unique {body body' : List StmtPhrase} {x y : Extent} (recognized : ∀ s ∈ body, s.Recognized)
    (formed : FormedAll body')
    (same : tokensAll body ++ Symbol.closeBrace.token x :: u = tokensAll body' ++ Symbol.closeBrace.token y :: v) :
    body = body' ∧ x = y ∧ u = v := by
  have fresh : ∀ (body : List StmtPhrase) (x : Extent) (u : List Token),
      Fresh (tokensAll body ++ Symbol.closeBrace.token x :: u) := by
    intro body x u
    cases body with
    | nil => exact fresh_closeBrace x u
    | cons s rest =>
      rw [tokensAll, List.append_assoc]
      exact s.fresh_tokens _
  have closes : ∀ (s : StmtPhrase) (x : Extent) (u v : List Token), s.tokens ++ u ≠ Symbol.closeBrace.token x :: v := by
    intro s x u v same
    obtain ⟨t, rest, split, -, other, -⟩ := s.head_tokens u
    obtain ⟨rfl, -⟩ := List.cons.inj (split.symm.trans same)
    exact other rfl
  induction body generalizing body' with
  | nil =>
    cases body' with
    | nil => simpa [tokensAll, Symbol.token, Lexeme.token_inj] using same
    | cons s' rest' =>
      rw [tokensAll, tokensAll, List.append_assoc, List.nil_append] at same
      cases closes s' _ _ _ same.symm
  | cons s rest ih =>
    cases body' with
    | nil =>
      rw [tokensAll, tokensAll, List.append_assoc, List.nil_append] at same
      cases closes s _ _ _ same
    | cons s' rest' =>
      rw [tokensAll, tokensAll, List.append_assoc, List.append_assoc] at same
      obtain ⟨rfl, more⟩ := recognized s List.mem_cons_self s' _ _ formed.1 (.inr ⟨fresh _ _ _, fresh _ _ _⟩) same
      obtain ⟨rfl, rfl, rfl⟩ := ih (fun s member => recognized s (List.mem_cons_of_mem _ member)) formed.2 more
      exact ⟨rfl, rfl, rfl⟩

section

variable {c : ExprPhrase} (grouped : c.Grouped)

theorem recognized_block {body : List StmtPhrase} (recognized : ∀ s ∈ body, s.Recognized) (opening closing : Extent) :
    (block opening body closing).Recognized := by
  intro s' u v formed next same
  cases s' with
  | block opening' body' closing' =>
    simp only [tokens, Symbol.token, List.cons_append, List.append_assoc, List.nil_append, List.cons.injEq,
      Lexeme.token_inj, true_and] at same
    obtain ⟨rfl, same⟩ := same
    obtain ⟨rfl, rfl, rfl⟩ := body_unique recognized formed same
    exact ⟨rfl, rfl⟩
  | _ => simp [tokens, Symbol.token, Keyword.token, Word.token, Lexeme.token_inj] at same

theorem recognized_simple (a : SimpleAction) (word : Extent) (last? : Option Extent) :
    (simple a word last?).Recognized := by
  intro s' u v formed next same
  obtain ⟨⟨⟩⟩ | ⟨freshU, freshV⟩ := next
  cases s' with
  | simple a' word' last?' =>
    simp only [tokens, Keyword.token, List.cons_append, List.cons.injEq, Lexeme.token_inj, Lexeme.keyword.injEq,
      SimpleAction.keyword_inj] at same
    obtain ⟨⟨rfl, rfl⟩, same⟩ := same
    obtain ⟨rfl, rfl⟩ := optional_unique same (fun t next => (freshU t next).noSemicolon)
      fun t next => (freshV t next).noSemicolon
    exact ⟨rfl, rfl⟩
  | _ =>
    simp [tokens, Symbol.token, Keyword.token, Word.token, Lexeme.token_inj, Command.keyword_ne_simple.symm] at same

theorem recognized_each {body : StmtPhrase} (isBlock : body.isBlock = true) (recognized : body.Recognized)
    (word opening : Extent) (kind : LoopKind) (kindExtent comma : Extent) (name : Word) (closing : Extent)
    (do? : Option Extent) : (each word opening kind kindExtent comma name closing do? body).Recognized := by
  intro s' u v formed next same
  cases s' with
  | each word' opening' kind' kindExtent' comma' name' closing' do?' body' =>
    simp only [tokens, Keyword.token, Symbol.token, List.cons_append, List.append_assoc, List.cons.injEq,
      Lexeme.token_inj, Word.token_inj, Lexeme.keyword.injEq, Keyword.kind.injEq, true_and] at same
    obtain ⟨rfl, rfl, ⟨rfl, rfl⟩, rfl, rfl, rfl, same⟩ := same
    obtain ⟨rfl, rest⟩ := opening_unique isBlock formed.1 same
    obtain ⟨rfl, rfl⟩ := recognized body' u v formed.2 (.inl isBlock) rest
    exact ⟨rfl, rfl⟩
  | command c => simp [tokens, Keyword.token, Lexeme.token_inj, c.keyword_ne.2.2.1.symm] at same
  | simple a => simp [tokens, Keyword.token, Lexeme.token_inj, a.keyword_ne.2.2.1.symm] at same
  | _ => simp [tokens, Symbol.token, Keyword.token, Word.token, Lexeme.token_inj] at same

include grouped

theorem recognized_assignment (name : Word) (sign : Extent) (last? : Option Extent) :
    (assignment name sign c last?).Recognized := by
  intro s' u v formed next same
  obtain ⟨⟨⟩⟩ | ⟨freshU, freshV⟩ := next
  cases s' with
  | assignment name' sign' e' last?' =>
    simp only [tokens, Symbol.token, List.cons_append, List.append_assoc, List.cons.injEq,
      Lexeme.token_inj, true_and, Word.token_inj] at same
    obtain ⟨rfl, rfl, same⟩ := same
    obtain ⟨rfl, rfl, rfl⟩ := ExprPhrase.ended_unique same grouped formed freshU freshV
    exact ⟨rfl, rfl⟩
  | _ => simp [tokens, Symbol.token, Keyword.token, Word.token, Lexeme.token_inj] at same

theorem recognized_command (k : Command) (word : Extent) (last? : Option Extent) :
    (command k word c last?).Recognized := by
  intro s' u v formed next same
  obtain ⟨⟨⟩⟩ | ⟨freshU, freshV⟩ := next
  cases s' with
  | command k' word' e' last?' =>
    simp only [tokens, Keyword.token, List.cons_append, List.append_assoc, List.cons.injEq,
      Lexeme.token_inj, Lexeme.keyword.injEq, Command.keyword_inj] at same
    obtain ⟨⟨rfl, rfl⟩, same⟩ := same
    obtain ⟨rfl, rfl, rfl⟩ := ExprPhrase.ended_unique same grouped formed freshU freshV
    exact ⟨rfl, rfl⟩
  | _ => simp [tokens, Symbol.token, Keyword.token, Word.token, Lexeme.token_inj] at same

theorem recognized_branch {yes : StmtPhrase} (isBlock : yes.isBlock = true) (recognized : yes.Recognized)
    (word : Extent) (then? : Option Extent) : (branch word c then? yes).Recognized := by
  intro s' u v formed next same
  obtain ⟨⟨⟩⟩ | ⟨freshU, -⟩ := next
  cases s' with
  | branch word' c' then?' yes' =>
    simp only [tokens, Keyword.token, List.cons_append, List.append_assoc, List.cons.injEq, Lexeme.token_inj,
      true_and] at same
    obtain ⟨rfl, same⟩ := same
    obtain ⟨rfl, rfl, rest⟩ := condition_unique grouped formed.1 isBlock formed.2.1 same
    obtain ⟨rfl, rfl⟩ := recognized yes' u v formed.2.2 (.inl isBlock) rest
    exact ⟨rfl, rfl⟩
  | branchElse word' c' then?' yes' other' no' =>
    simp only [tokens, Keyword.token, List.cons_append, List.append_assoc, List.cons.injEq, Lexeme.token_inj,
      true_and] at same
    obtain ⟨rfl, same⟩ := same
    obtain ⟨rfl, rfl, rest⟩ := condition_unique grouped formed.1 isBlock formed.2.1.1 same
    obtain ⟨rfl, rfl⟩ := recognized yes' u _ formed.2.1.2 (.inl isBlock) rest
    -- An else would have to come after a complete statement.
    cases not_fresh_elseWord _ _ freshU
  | command k => simp [tokens, Keyword.token, Lexeme.token_inj, k.keyword_ne.1.symm] at same
  | simple a => simp [tokens, Keyword.token, Lexeme.token_inj, a.keyword_ne.1.symm] at same
  | _ => simp [tokens, Symbol.token, Keyword.token, Word.token, Lexeme.token_inj] at same

theorem recognized_branchElse {yes no : StmtPhrase} (isBlock : yes.isBlock = true) (recognized : yes.Recognized)
    (isBlockNo : no.isBlock = true) (recognizedNo : no.Recognized) (word : Extent) (then? : Option Extent)
    (other : Extent) : (branchElse word c then? yes other no).Recognized := by
  intro s' u v formed next same
  obtain ⟨⟨⟩⟩ | ⟨-, freshV⟩ := next
  cases s' with
  | branch word' c' then?' yes' =>
    simp only [tokens, Keyword.token, List.cons_append, List.append_assoc, List.cons.injEq, Lexeme.token_inj,
      true_and] at same
    obtain ⟨rfl, same⟩ := same
    obtain ⟨rfl, rfl, rest⟩ := condition_unique grouped formed.1 isBlock formed.2.1 same
    obtain ⟨rfl, rfl⟩ := recognized yes' _ v formed.2.2 (.inl isBlock) rest
    cases not_fresh_elseWord _ _ freshV
  | branchElse word' c' then?' yes' other' no' =>
    simp only [tokens, Keyword.token, List.cons_append, List.append_assoc, List.cons.injEq, Lexeme.token_inj,
      true_and] at same
    obtain ⟨rfl, same⟩ := same
    obtain ⟨rfl, rfl, rest⟩ := condition_unique grouped formed.1 isBlock formed.2.1.1 same
    obtain ⟨rfl, tail⟩ := recognized yes' _ _ formed.2.1.2 (.inl isBlock) rest
    simp only [List.cons.injEq, Lexeme.token_inj, true_and] at tail
    obtain ⟨rfl, tail⟩ := tail
    obtain ⟨rfl, rfl⟩ := recognizedNo no' _ _ formed.2.2.2 (.inl isBlockNo) tail
    exact ⟨rfl, rfl⟩
  | command k => simp [tokens, Keyword.token, Lexeme.token_inj, k.keyword_ne.1.symm] at same
  | simple a => simp [tokens, Keyword.token, Lexeme.token_inj, a.keyword_ne.1.symm] at same
  | _ => simp [tokens, Symbol.token, Keyword.token, Word.token, Lexeme.token_inj] at same

theorem recognized_loop {body : StmtPhrase} (isBlock : body.isBlock = true) (recognized : body.Recognized)
    (word : Extent) (do? : Option Extent) : (loop word c do? body).Recognized := by
  intro s' u v formed next same
  cases s' with
  | loop word' c' do?' body' =>
    simp only [tokens, Keyword.token, List.cons_append, List.append_assoc, List.cons.injEq, Lexeme.token_inj,
      true_and] at same
    obtain ⟨rfl, same⟩ := same
    obtain ⟨rfl, rfl, rest⟩ := condition_unique grouped formed.1 isBlock formed.2.1 same
    obtain ⟨rfl, rfl⟩ := recognized body' u v formed.2.2 (.inl isBlock) rest
    exact ⟨rfl, rfl⟩
  | command k => simp [tokens, Keyword.token, Lexeme.token_inj, k.keyword_ne.2.1.symm] at same
  | simple a => simp [tokens, Keyword.token, Lexeme.token_inj, a.keyword_ne.2.1.symm] at same
  | _ => simp [tokens, Symbol.token, Keyword.token, Word.token, Lexeme.token_inj] at same

end

/-- Every statement is recognized. -/
theorem recognized (s : StmtPhrase) : s.Formed → s.Recognized := by
  induction s using phrase_induction with
  | block opening body closing ih =>
    intro formed
    exact recognized_block (fun s member => ih s member (formedAll_iff.mp formed s member)) opening closing
  | assignment name sign e last? => exact fun grouped => recognized_assignment grouped name sign last?
  | command c word e last? => exact fun grouped => recognized_command grouped c word last?
  | simple a word last? => exact fun _ => recognized_simple a word last?
  | branch word c then? yes ih =>
    rintro ⟨grouped, isBlock, formed⟩
    exact recognized_branch grouped isBlock (ih formed) word then?
  | branchElse word c then? yes other no ihYes ihNo =>
    rintro ⟨grouped, ⟨isBlock, formed⟩, isBlockNo, formedNo⟩
    exact recognized_branchElse grouped isBlock (ihYes formed) isBlockNo (ihNo formedNo) word then? other
  | loop word c do? body ih =>
    rintro ⟨grouped, isBlock, formed⟩
    exact recognized_loop grouped isBlock (ih formed) word do?
  | each word opening kind kindExtent comma name closing do? body ih =>
    rintro ⟨isBlock, formed⟩
    exact recognized_each isBlock (ih formed) word opening kind kindExtent comma name closing do?

end StmtPhrase

namespace ItemPhrase

theorem fresh_tokens (i : ItemPhrase) (u : List Token) : Fresh (i.tokens ++ u) := by
  cases i with
  | declaration ty typeExtent name initial? last =>
    cases initial? <;>
      rintro _ ⟨⟩ <;>
      refine ⟨rfl, ?_, ?_, ?_⟩ <;>
      simp [Keyword.token, Lexeme.token]
  | statement s => exact s.fresh_tokens u

variable {i i' : ItemPhrase} {u v : List Token}

theorem declaration_ne_statement {ty : Ty} {typeExtent last : Extent} {name : Word}
    {initial? : Option (Extent × ExprPhrase)} {s : StmtPhrase} :
    (declaration ty typeExtent name initial? last).tokens ++ u ≠ (statement s).tokens ++ v := by
  obtain ⟨t, rest, split, -, -, other⟩ := s.head_tokens v
  intro same
  cases initial? <;>
    obtain ⟨rfl, -⟩ := List.cons.inj (same.trans split) <;>
    exact other ty rfl

/-- An item is recognized by its tokens. -/
theorem unique (same : i.tokens ++ u = i'.tokens ++ v) (formed : i.Formed) (formed' : i'.Formed) (freshU : Fresh u)
    (freshV : Fresh v) : i = i' ∧ u = v := by
  have semicolon : ∀ (x : Extent) (u : List Token), NoOperator (Symbol.semicolon.token x :: u) := by
    rintro x u t ⟨⟩
    rfl
  cases i with
  | statement s =>
    cases i' with
    | statement s' =>
      obtain ⟨rfl, rfl⟩ := s.recognized formed s' u v formed' (.inr ⟨freshU, freshV⟩) same
      exact ⟨rfl, rfl⟩
    | declaration => cases declaration_ne_statement same.symm
  | declaration ty typeExtent name initial? last =>
    cases i' with
    | statement s' => cases declaration_ne_statement same
    | declaration ty' typeExtent' name' initial?' last' =>
      cases initial? with
      | none =>
        cases initial?' with
        | none =>
          simp only [tokens, Keyword.token, Symbol.token, List.cons_append, List.nil_append, List.cons.injEq,
            Lexeme.token_inj, Word.token_inj, Lexeme.keyword.injEq, Keyword.type.injEq, true_and] at same
          obtain ⟨⟨rfl, rfl⟩, rfl, rfl, rfl⟩ := same
          exact ⟨rfl, rfl⟩
        | some initial' => simp [tokens, Symbol.token, Lexeme.token_inj] at same
      | some initial =>
        cases initial?' with
        | none => simp [tokens, Symbol.token, Lexeme.token_inj] at same
        | some initial' =>
          obtain ⟨sign, e⟩ := initial
          obtain ⟨sign', e'⟩ := initial'
          simp only [tokens, Keyword.token, Symbol.token, List.cons_append, List.nil_append, List.append_assoc,
            List.cons.injEq, Lexeme.token_inj, Word.token_inj, Lexeme.keyword.injEq, Keyword.type.injEq,
            true_and] at same
          obtain ⟨⟨rfl, rfl⟩, rfl, rfl, same⟩ := same
          obtain ⟨rfl, tail⟩ := ExprPhrase.unique same (formed _ rfl) (formed' _ rfl) (semicolon last u)
            (semicolon last' v)
          simp only [List.cons.injEq, Lexeme.token_inj, true_and] at tail
          obtain ⟨rfl, rfl⟩ := tail
          exact ⟨rfl, rfl⟩

theorem tokens_ne_nil (i : ItemPhrase) : i.tokens ≠ [] := fun empty => by
  have spans := i.spanning?_tokens
  rw [empty] at spans
  cases spans

/-- Programs with the same tokens are the same. -/
theorem all_unique {items items' : List ItemPhrase} (formed : ∀ i ∈ items, i.Formed) (formed' : ∀ i ∈ items', i.Formed)
    (same : items.flatMap tokens = items'.flatMap tokens) : items = items' := by
  have fresh : ∀ items : List ItemPhrase, Fresh (items.flatMap tokens) := by
    intro items
    cases items with
    | nil => rintro t ⟨⟩
    | cons i rest => exact i.fresh_tokens _
  induction items generalizing items' with
  | nil =>
    cases items' with
    | nil => rfl
    | cons i' rest' => cases i'.tokens_ne_nil (List.append_eq_nil_iff.mp same.symm).1
  | cons i rest ih =>
    cases items' with
    | nil => cases i.tokens_ne_nil (List.append_eq_nil_iff.mp same).1
    | cons i' rest' =>
      rw [List.forall_mem_cons] at formed formed'
      obtain ⟨rfl, tail⟩ := unique same formed.1 formed'.1 (fresh rest) (fresh rest')
      rw [ih formed.2 formed'.2 tail]

end ItemPhrase

/-- A sequence of tokens has at most one derivation from the grammar. -/
theorem Grammar.derivation_unique {d d' : Grammar.Derivation} (derives : Derives (.rule .start) d)
    (derives' : Derives (.rule .start) d') (same : d.tokens = d'.tokens) : d = d' := by
  obtain ⟨items, formed, rfl⟩ := ItemPhrase.derives_start_iff.mp derives
  obtain ⟨items', formed', rfl⟩ := ItemPhrase.derives_start_iff.mp derives'
  rw [ItemPhrase.tokens_start, ItemPhrase.tokens_start] at same
  rw [ItemPhrase.all_unique formed formed' same]

end WormLang
