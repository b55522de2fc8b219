import WormLang.Proofs.Grammar.Unambiguous
import WormLang.Proofs.RoundTrip.Reading

/-!
Every program is read as its tree. Operators that wait for an operand leave room for whatever binds more tightly, so a
phrase that fits is complete once everything of its level is settled.
-/
namespace WormLang

/-- The level that the next operand must have. -/
def takes : List Pending → Nat
  | .unary .. :: _ => 6
  | .left op _ :: _ => op.level + 1
  | _ => 0

/-- Nothing that waits for a tighter operand is settled. -/
theorem settle_of_takes {pending : List Pending} {n : Nat} (low : takes pending ≤ n) (bound : n ≤ 5) (o : Operand) :
    settle n pending o = (pending, o) := by
  cases pending with
  | nil => rfl
  | cons p rest =>
    cases p with
    | unary op start =>
      have : 6 ≤ n := low
      omega
    | left op l => exact if_neg (Nat.not_le_of_lt low)
    | paren | call => rfl

theorem BinaryOp.isComparison_iff {op : BinaryOp} : op.isComparison = true ↔ op.level = 3 := by
  cases op with
  | logical op | arithmetic op => cases op <;> simp [isComparison, level]
  | order | equality => simp [isComparison, level]

theorem comparisonWaits_of_takes {pending : List Pending} (low : takes pending ≤ 3) :
    comparisonWaits pending = false := by
  cases pending with
  | nil => rfl
  | cons p rest =>
    cases p with
    | left op l =>
      have below : op.level < 3 := low
      exact Bool.eq_false_iff.mpr fun comparison => below.ne (BinaryOp.isComparison_iff.mp comparison)
    | _ => rfl

/-- An operator follows an operand of its level. -/
theorem pushOperator?_of_takes {op : BinaryOp} {pending waiting : List Pending} {o l : Operand}
    (low : takes pending ≤ op.level) (settled : settle op.leftLevel waiting o = settle op.leftLevel pending l) :
    pushOperator? op waiting o = some (.left op l :: pending) := by
  have bound := op.level_bounds.2
  unfold pushOperator?
  unfold BinaryOp.leftLevel at settled
  split at settled
  next comparison =>
    -- No comparison waits: it would ask for an operand of a tighter level.
    have three := BinaryOp.isComparison_iff.mp comparison
    have alone : comparisonWaits pending = false := comparisonWaits_of_takes (three ▸ low)
    rw [settle_of_takes (low.trans (Nat.le_succ _)) (by omega)] at settled
    simp [comparison, settled, alone]
  next other =>
    rw [settle_of_takes low bound] at settled
    simp [other, settled]

namespace Reader

theorem feed?_cons {r r' : Reader} {t : Token} (goes : r.continue? t = some r') (rest : List Token) :
    r.feed? (t :: rest) = r'.feed? rest := by
  rw [feed?, step?_of_continue? goes]
  rfl

end Reader

open Reader

/-- A phrase in parentheses that have been opened is read up to the closing one. -/
theorem ExprPhrase.feed?_enclosed {inner : ExprPhrase} {r : Reader} {purpose : Purpose} {p : Pending}
    {pending : List Pending} {closing : Extent} {whole : Operand}
    (inside : ∃ waiting o, ({ r with phase := .operand purpose (p :: pending) } : Reader).feed? inner.tokens =
        some { r with phase := .operator purpose waiting o } ∧
      ∀ n ≤ inner.level, settle n waiting o = settle n (p :: pending) inner.operand)
    (closes : closeParen? closing.stop (p :: pending) inner.operand = some (pending, whole)) :
    ({ r with phase := .operand purpose (p :: pending) } : Reader).feed?
      (inner.tokens ++ [Symbol.closeParen.token closing]) = some { r with phase := .operator purpose pending whole } := by
  obtain ⟨waiting, o, fed, settled⟩ := inside
  have closed : closeParen? closing.stop waiting o = some (pending, whole) := by
    rw [closeParen?, settled 0 (Nat.zero_le _)]
    exact closes
  have back : ({ r with phase := .operator purpose waiting o } : Reader).continue? (Symbol.closeParen.token closing) =
      some { r with phase := .operator purpose pending whole } := congrArg (Option.map _) closed
  rw [feed?_append, fed]
  exact feed?_cons back []

/-- A phrase that fits is read as its operand, once everything of its level is settled. -/
theorem ExprPhrase.feed?_tokens {e : ExprPhrase} (grouped : e.Grouped) (r : Reader) (purpose : Purpose)
    (pending : List Pending) (low : takes pending ≤ e.level) :
    ∃ waiting o, ({ r with phase := .operand purpose pending } : Reader).feed? e.tokens =
        some { r with phase := .operator purpose waiting o } ∧
      ∀ n ≤ e.level, settle n waiting o = settle n pending e.operand := by
  induction e generalizing pending with
  | atom a x =>
    refine ⟨pending, .ofTree (a.tree x), feed?_cons ?_ [], fun n _ => rfl⟩
    cases a <;> rfl
  | paren opening inner closing ih =>
    have front : ({ r with phase := .operand purpose pending } : Reader).continue? (Symbol.openParen.token opening) =
        some { r with phase := .operand purpose (.paren opening.start :: pending) } := rfl
    refine ⟨pending, (paren opening inner closing).operand, ?_, fun n _ => rfl⟩
    rw [tokens, feed?_cons front]
    exact feed?_enclosed (ih grouped (.paren opening.start :: pending) (Nat.zero_le _)) rfl
  | call f word opening argument closing ih =>
    have named : ({ r with phase := .operand purpose pending } : Reader).continue? ((Keyword.function f).token word) =
        some { r with phase := .argument purpose pending f word.start } := rfl
    have front : ({ r with phase := .argument purpose pending f word.start } : Reader).continue?
        (Symbol.openParen.token opening) =
          some { r with phase := .operand purpose (.call f word.start :: pending) } := rfl
    refine ⟨pending, (call f word opening argument closing).operand, ?_, fun n _ => rfl⟩
    rw [tokens, feed?_cons named, feed?_cons front]
    exact feed?_enclosed (ih grouped (.call f word.start :: pending) (Nat.zero_le _)) rfl
  | unary op sign operand ih =>
    obtain ⟨tight, groupedOperand⟩ := grouped
    obtain ⟨waiting, o, fed, settled⟩ := ih groupedOperand (.unary op sign.start :: pending) tight
    have front : ({ r with phase := .operand purpose pending } : Reader).continue? (op.lexeme.token sign) =
        some { r with phase := .operand purpose (.unary op sign.start :: pending) } := by
      cases op <;> rfl
    refine ⟨waiting, o, by rw [tokens, feed?_cons front, fed], fun n below => ?_⟩
    rw [settled n (below.trans tight), settle]
    rfl
  | binary op left sign right ihLeft ihRight =>
    obtain ⟨⟨tightLeft, groupedLeft⟩, tightRight, groupedRight⟩ := grouped
    -- What waits is looser than the operator, so the operator settles the left operand and nothing else.
    have room : takes pending ≤ op.level := low
    obtain ⟨waiting, o, fedLeft, settledLeft⟩ :=
      ihLeft groupedLeft pending ((room.trans op.level_le_leftLevel).trans tightLeft)
    have pushed := pushOperator?_of_takes room (settledLeft _ tightLeft)
    have between : ({ r with phase := .operator purpose waiting o } : Reader).continue? (op.lexeme.token sign) =
        some { r with phase := .operand purpose (.left op left.operand :: pending) } := by
      simp [continue?, takeOperator?, Lexeme.token, pushed]
    obtain ⟨waiting', o', fedRight, settledRight⟩ :=
      ihRight groupedRight (.left op left.operand :: pending) tightRight
    refine ⟨waiting', o', ?_, fun n below => ?_⟩
    · rw [tokens, feed?_append, fedLeft]
      exact (feed?_cons between _).trans fedRight
    · have within : n ≤ op.level := below
      rw [settledRight n (within.trans ((Nat.le_succ _).trans tightRight)), settle, if_pos within]
      rfl

/-- A whole expression. -/
theorem ExprPhrase.feed?_whole {e : ExprPhrase} (grouped : e.Grouped) (r : Reader) (purpose : Purpose) :
    ∃ waiting o, ({ r with phase := .operand purpose [] } : Reader).feed? e.tokens =
        some { r with phase := .operator purpose waiting o } ∧ whole? waiting o = some e.operand := by
  obtain ⟨waiting, o, fed, settled⟩ := feed?_tokens grouped r purpose [] (Nat.zero_le _)
  refine ⟨waiting, o, fed, ?_⟩
  rw [whole?, settled 0 (Nat.zero_le _)]
  rfl

namespace Reader

/-- The reader has read a complete statement, and nothing that cannot go on with it does. -/
structure Settled (r ready : Reader) : Prop where
  rest : r.rest? = some ready
  isReady : ready.phase = .ready
  ends : ∀ t : Token, t.Fresh → r.continue? t = none

variable {r ready : Reader}

theorem settled_of_ready (isReady : r.phase = .ready) : r.Settled r where
  rest := by rw [rest?, isReady]
  isReady := isReady
  ends := fun t _ => by rw [continue?, isReady]

theorem settled_add (r : Reader) (s : StmtTree) : (r.add s).Settled (r.add s) := settled_of_ready (r.add_phase s)

/-- The next statement, or the end of a block. -/
theorem Settled.feed?_cons {r' : Reader} {t : Token} (settled : r.Settled ready) (fresh : t.Fresh)
    (begins : ready.begin? t = some r') (rest : List Token) : r.feed? (t :: rest) = r'.feed? rest := by
  rw [feed?, step?, settled.ends t fresh, settled.rest, Option.bind_some, begins]
  rfl

/-- A fresh token does not end an expression that completes a statement. -/
theorem continue?_of_fresh {purpose : Purpose} {make : Mark → ExprTree → StmtTree}
    (states : ∀ stop t, purpose.statement? stop t = some (make stop t)) (pending : List Pending) (o : Operand)
    {t : Token} (fresh : t.Fresh) : ({ r with phase := .operator purpose pending o } : Reader).continue? t = none := by
  have ends : ∀ e, endExpression? { r with phase := .operator purpose pending o } purpose e t = none := by
    intro e
    unfold endExpression?
    split
    next semicolon => cases fresh.noSemicolon semicolon
    next semicolon _ => cases fresh.noSemicolon semicolon
    next => cases states default e.tree
    next => cases states default e.tree
    next => cases states default e.tree
    next => cases states default e.tree
    next => rfl
  simp only [continue?, takeOperator?, fresh.noOperator, if_neg fresh.noParen]
  exact Option.bind_eq_none_iff.mpr fun e _ => ends e

/-- A statement that an expression completes, with a semicolon that may be missing. -/
theorem feed?_ended {e : ExprPhrase} (grouped : e.Grouped) (r : Reader) (purpose : Purpose)
    (make : Mark → ExprTree → StmtTree) (states : ∀ stop t, purpose.statement? stop t = some (make stop t))
    (last? : Option Extent) :
    ∃ r', ({ r with phase := .operand purpose [] } : Reader).feed?
        (e.tokens ++ Lexeme.optional (.symbol .semicolon) last?) = some r' ∧
      r'.Settled (r.add (make (StmtPhrase.stop e.operand.extent.stop last?) e.operand.tree)) := by
  obtain ⟨waiting, o, fed, whole⟩ := ExprPhrase.feed?_whole grouped r purpose
  rw [feed?_append, fed]
  cases last? with
  | none =>
    refine ⟨_, rfl, ?_, r.add_phase _, fun t fresh => continue?_of_fresh states waiting o fresh⟩
    simp only [rest?, whole, Option.bind_some, states]
    rfl
  | some x =>
    refine ⟨_, feed?_cons ?_ [], settled_add r _⟩
    have ended : endExpression? { r with phase := .operator purpose waiting o } purpose e.operand
        ((Lexeme.symbol .semicolon).token x) = some (r.add (make x.stop e.operand.tree)) := by
      have whole := states x.stop e.operand.tree
      cases purpose with
      | initial | branch | loop => cases whole
      | _ => exact congrArg (Option.map _) whole
    simp [continue?, takeOperator?, Lexeme.token, BinaryOp.ofLexeme?, whole]
    exact ended

/-- A brace opens a block for a role. -/
def OpensBlock (r base : Reader) (role : Role) : Prop :=
  ∀ x, r.continue? (Symbol.openBrace.token x) = some (base.openBlock role x.start)

theorem opensBlock_opening (r : Reader) (role : Role) (keyword? : Option Keyword) :
    ({ r with phase := .opening role keyword? } : Reader).OpensBlock r role := fun x => by
  cases keyword? <;> rfl

/-- A word that may be missing before a block. -/
theorem feed?_word (r : Reader) (role : Role) (k : Keyword) (word? : Option Extent) :
    ∃ r', ({ r with phase := .opening role (some k) } : Reader).feed? (Lexeme.optional (.keyword k) word?) = some r' ∧
      r'.OpensBlock r role := by
  cases word? with
  | none => exact ⟨_, rfl, opensBlock_opening r role (some k)⟩
  | some x =>
    have goes : ({ r with phase := .opening role (some k) } : Reader).continue? ((Lexeme.keyword k).token x) =
        some { r with phase := .opening role none } := if_pos rfl
    exact ⟨_, feed?_cons goes [], opensBlock_opening r role none⟩

/-- The word that may stand before the block of a condition, and what the block is for. -/
def opens? (condition : ExprTree) : Purpose → Option (Keyword × Role)
  | .branch start => some (.thenWord, .yes start condition)
  | .loop start => some (.doWord, .loop start condition)
  | _ => none

/-- A condition with a word that may be missing before its block. -/
theorem feed?_condition {c : ExprPhrase} (grouped : c.Grouped) (r : Reader) (purpose : Purpose) {role : Role}
    {k : Keyword} (opens : opens? c.operand.tree purpose = some (k, role)) (word? : Option Extent) :
    ∃ r', ({ r with phase := .operand purpose [] } : Reader).feed? (c.tokens ++ Lexeme.optional (.keyword k) word?) =
      some r' ∧ r'.OpensBlock r role := by
  obtain ⟨waiting, o, fed, whole⟩ := ExprPhrase.feed?_whole grouped r purpose
  rw [feed?_append, fed]
  have ended : ∀ t : Token, BinaryOp.ofLexeme? t.lexeme = none → t.lexeme ≠ .symbol .closeParen →
      ({ r with phase := .operator purpose waiting o } : Reader).continue? t =
        endExpression? { r with phase := .operator purpose waiting o } purpose c.operand t := by
    intro t noOperator noParen
    simp [continue?, takeOperator?, noOperator, noParen, whole]
  cases word? with
  | none =>
    refine ⟨_, rfl, fun x => (ended _ rfl (by simp [Symbol.token, Lexeme.token])).trans ?_⟩
    cases purpose with
    | branch | loop => cases opens; rfl
    | _ => cases opens
  | some x =>
    refine ⟨_, feed?_cons ((ended _ rfl (by simp [Lexeme.token])).trans ?_) [], opensBlock_opening r role none⟩
    cases purpose with
    | branch | loop => cases opens; rfl
    | _ => cases opens

end Reader

def Command.purpose (start : Mark) : Command → Purpose
  | print => .print start
  | turn => .turn start
  | fire => .fire start

namespace StmtPhrase

/-- A statement is read as its tree, wherever a statement can stand; a block is also read where a role asks for one. -/
structure Reads (s : StmtPhrase) : Prop where
  stands : ∀ {r ready : Reader}, r.Settled ready → ∃ r', r.feed? s.tokens = some r' ∧ r'.Settled (ready.add s.tree)
  serves : s.isBlock = true → ∀ {r base : Reader} {role : Role}, r.OpensBlock base role →
    r.feed? s.tokens = some (base.take s.tree.extent.stop s.tree role)

/-- Only blocks are read where a role asks for one. -/
theorem Reads.of_stands {s : StmtPhrase} (other : s.isBlock = false)
    (stands : ∀ {r ready : Reader}, r.Settled ready →
      ∃ r', r.feed? s.tokens = some r' ∧ r'.Settled (ready.add s.tree)) : s.Reads where
  stands := stands
  serves := fun isBlock => absurd isBlock (by simp [other])

/-- Statements are read one after the other. -/
theorem feed?_body {body : List StmtPhrase} (reads : ∀ s ∈ body, s.Reads) {r ready : Reader}
    (settled : r.Settled ready) :
    ∃ r', r.feed? (tokensAll body) = some r' ∧ r'.Settled ((trees body).foldl Reader.add ready) := by
  induction body generalizing r ready with
  | nil => exact ⟨r, rfl, settled⟩
  | cons s rest ih =>
    obtain ⟨r', fed, settled'⟩ := (reads s List.mem_cons_self).stands settled
    obtain ⟨r'', fedRest, settled''⟩ := ih (fun s member => reads s (List.mem_cons_of_mem _ member)) settled'
    exact ⟨r'', by rw [tokensAll, feed?_append, fed]; exact fedRest, settled''⟩

/-- The statements of a block and the brace that closes it. -/
theorem feed?_block {body : List StmtPhrase} (reads : ∀ s ∈ body, s.Reads) (r : Reader) (role : Role) (start : Mark)
    (closing : Extent) : (r.openBlock role start).feed? (tokensAll body ++ [Symbol.closeBrace.token closing]) =
      some (r.take closing.stop (.block { start, stop := closing.stop } (trees body)) role) := by
  obtain ⟨r', fed, settled⟩ := feed?_body reads (settled_of_ready (rfl : (r.openBlock role start).phase = .ready))
  rw [feed?_append, fed]
  refine settled.feed?_cons (fresh_closeBrace closing []).head ?_ []
  rw [openBlock, foldl_add]
  simp [begin?, Symbol.token, Lexeme.token, closeBlock?_eq]
  rfl

theorem reads_block {body : List StmtPhrase} (reads : ∀ s ∈ body, s.Reads) (opening closing : Extent) :
    (block opening body closing).Reads where
  stands {r ready} settled := by
    refine ⟨_, ?_, settled_add ready _⟩
    rw [tokens]
    refine (settled.feed?_cons (fresh_tokens (block opening body closing) []).head ?_ _).trans
      (feed?_block reads ready .plain opening.start closing)
    rfl
  serves _ {r base role} opens := by
    rw [tokens, feed?_cons (opens opening)]
    exact feed?_block reads base role opening.start closing

theorem reads_simple (a : SimpleAction) (word : Extent) (last? : Option Extent) : (simple a word last?).Reads := by
  refine .of_stands rfl fun {r ready} settled => ?_
  have front : ready.begin? (a.keyword.token word) = some { ready with phase := .acted word a } := by
    cases a <;> rfl
  rw [tokens, settled.feed?_cons (fresh_tokens (simple a word last?) []).head front]
  cases last? with
  | none =>
    refine ⟨_, rfl, rfl, ready.add_phase _, fun t fresh => ?_⟩
    unfold continue?
    split <;> simp_all [fresh.noSemicolon]
  | some x => exact ⟨_, feed?_cons rfl [], settled_add ready _⟩

theorem reads_each {body : StmtPhrase} (isBlock : body.isBlock = true) (reads : body.Reads) (word opening : Extent)
    (kind : LoopKind) (kindExtent comma : Extent) (name : Word) (closing : Extent) (do? : Option Extent) :
    (each word opening kind kindExtent comma name closing do? body).Reads := by
  refine .of_stands rfl fun {r ready} settled => ?_
  have front : ready.begin? (Keyword.foreach.token word) = some { ready with phase := .eachParen word.start } := rfl
  have fed : ({ ready with phase := .eachParen word.start } : Reader).feed?
      (Symbol.openParen.token opening :: (Keyword.kind kind).token kindExtent :: Symbol.comma.token comma ::
        name.token :: Symbol.closeParen.token closing :: (Lexeme.optional (.keyword .doWord) do? ++ body.tokens)) =
      ({ ready with phase := .opening (.each word.start kindExtent kind name) (some .doWord) } : Reader).feed?
        (Lexeme.optional (.keyword .doWord) do? ++ body.tokens) := rfl
  obtain ⟨r', fedWord, opens⟩ := feed?_word ready (.each word.start kindExtent kind name) .doWord do?
  have fresh := (fresh_tokens (each word opening kind kindExtent comma name closing do? body) []).head
  rw [tokens, settled.feed?_cons fresh front, fed, feed?_append, fedWord, Option.bind_some, reads.serves isBlock opens]
  exact ⟨_, rfl, settled_add ready _⟩

section

variable {e : ExprPhrase} (grouped : e.Grouped)

include grouped

theorem reads_assignment (name : Word) (sign : Extent) (last? : Option Extent) :
    (assignment name sign e last?).Reads := by
  refine .of_stands rfl fun {r ready} settled => ?_
  have front : ready.begin? name.token = some { ready with phase := .assigned name } := rfl
  have assign : ({ ready with phase := .assigned name } : Reader).continue? (Symbol.assign.token sign) =
      some { ready with phase := .operand (.assignment name) [] } := rfl
  rw [tokens, settled.feed?_cons (fresh_tokens (assignment name sign e last?) []).head front, feed?_cons assign]
  exact feed?_ended grouped ready (.assignment name)
    (fun stop => .assignment { start := name.extent.start, stop } name) (fun _ _ => rfl) last?

theorem reads_command (c : Command) (word : Extent) (last? : Option Extent) : (command c word e last?).Reads := by
  refine .of_stands rfl fun {r ready} settled => ?_
  have front : ready.begin? (c.keyword.token word) =
      some { ready with phase := .operand (c.purpose word.start) [] } := by
    cases c <;> rfl
  rw [tokens, settled.feed?_cons (fresh_tokens (command c word e last?) []).head front]
  exact feed?_ended grouped ready (c.purpose word.start) (fun stop e => c.tree { start := word.start, stop } e)
    (fun _ _ => by cases c <;> rfl) last?

theorem reads_branch {yes : StmtPhrase} (isBlock : yes.isBlock = true) (reads : yes.Reads) (word : Extent)
    (then? : Option Extent) : (branch word e then? yes).Reads := by
  refine .of_stands rfl fun {r ready} settled => ?_
  have front : ready.begin? (Keyword.ifWord.token word) =
      some { ready with phase := .operand (.branch word.start) [] } := rfl
  obtain ⟨r', fed, opens⟩ := feed?_condition grouped ready (.branch word.start) rfl then?
  rw [tokens, settled.feed?_cons (fresh_tokens (branch word e then? yes) []).head front, ← List.append_assoc,
    feed?_append, fed, Option.bind_some, reads.serves isBlock opens]
  -- The block was complete; only an else could go on with it.
  refine ⟨_, rfl, rfl, ready.add_phase _, fun t fresh => ?_⟩
  unfold continue?
  split <;> simp_all [fresh.noElse, take]

theorem reads_branchElse {yes no : StmtPhrase} (isBlock : yes.isBlock = true) (reads : yes.Reads)
    (isBlockNo : no.isBlock = true) (readsNo : no.Reads) (word : Extent) (then? : Option Extent) (other : Extent) :
    (branchElse word e then? yes other no).Reads := by
  refine .of_stands rfl fun {r ready} settled => ?_
  have front : ready.begin? (Keyword.ifWord.token word) =
      some { ready with phase := .operand (.branch word.start) [] } := rfl
  obtain ⟨r', fed, opens⟩ := feed?_condition grouped ready (.branch word.start) rfl then?
  have between : (ready.take yes.tree.extent.stop yes.tree (.yes word.start e.operand.tree)).continue?
      (Keyword.elseWord.token other) =
        some { ready with phase := .opening (.no word.start e.operand.tree yes.tree) none } := rfl
  rw [tokens, settled.feed?_cons (fresh_tokens (branchElse word e then? yes other no) []).head front,
    ← List.append_assoc, feed?_append, fed, Option.bind_some, feed?_append, reads.serves isBlock opens,
    Option.bind_some, feed?_cons between, readsNo.serves isBlockNo (opensBlock_opening ready _ none)]
  exact ⟨_, rfl, settled_add ready _⟩

theorem reads_loop {body : StmtPhrase} (isBlock : body.isBlock = true) (reads : body.Reads) (word : Extent)
    (do? : Option Extent) : (loop word e do? body).Reads := by
  refine .of_stands rfl fun {r ready} settled => ?_
  have front : ready.begin? (Keyword.whileWord.token word) =
      some { ready with phase := .operand (.loop word.start) [] } := rfl
  obtain ⟨r', fed, opens⟩ := feed?_condition grouped ready (.loop word.start) rfl do?
  rw [tokens, settled.feed?_cons (fresh_tokens (loop word e do? body) []).head front, ← List.append_assoc,
    feed?_append, fed, Option.bind_some, reads.serves isBlock opens]
  exact ⟨_, rfl, settled_add ready _⟩

end

/-- Every statement is read as its tree. -/
theorem reads (s : StmtPhrase) : s.Formed → s.Reads := by
  induction s using phrase_induction with
  | block opening body closing ih =>
    exact fun formed => reads_block (fun s member => ih s member (formedAll_iff.mp formed s member)) opening closing
  | assignment name sign e last? => exact fun grouped => reads_assignment grouped name sign last?
  | command c word e last? => exact fun grouped => reads_command grouped c word last?
  | simple a word last? => exact fun _ => reads_simple a word last?
  | branch word c then? yes ih =>
    rintro ⟨grouped, isBlock, formed⟩
    exact reads_branch grouped isBlock (ih formed) word then?
  | branchElse word c then? yes other no ihYes ihNo =>
    rintro ⟨grouped, ⟨isBlock, formed⟩, isBlockNo, formedNo⟩
    exact reads_branchElse grouped isBlock (ihYes formed) isBlockNo (ihNo formedNo) word then? other
  | loop word c do? body ih =>
    rintro ⟨grouped, isBlock, formed⟩
    exact reads_loop grouped isBlock (ih formed) word do?
  | each word opening kind kindExtent comma name closing do? body ih =>
    rintro ⟨isBlock, formed⟩
    exact reads_each isBlock (ih formed) word opening kind kindExtent comma name closing do?

end StmtPhrase

namespace ItemPhrase

/-- An item is read as its tree where no block is open. -/
theorem feed?_tokens {i : ItemPhrase} (formed : i.Formed) {r : Reader} {done : List ItemTree}
    (settled : r.Settled { items := done }) :
    ∃ r', r.feed? i.tokens = some r' ∧ r'.Settled { items := i.tree :: done } := by
  cases i with
  | statement s => exact (s.reads formed).stands settled
  | declaration ty typeExtent name initial? last =>
    have front : ({ items := done } : Reader).begin? ((Keyword.type ty).token typeExtent) =
        some { items := done, phase := .declared typeExtent ty } := rfl
    cases initial? with
    | none =>
      rw [tokens, settled.feed?_cons (fresh_tokens (declaration ty typeExtent name none last) []).head front]
      exact ⟨_, rfl, settled_of_ready rfl⟩
    | some initial =>
      obtain ⟨sign, e⟩ := initial
      obtain ⟨waiting, o, fed, whole⟩ := ExprPhrase.feed?_whole (formed _ rfl) { items := done }
        (.initial typeExtent.start typeExtent ty name)
      have named : ({ items := done, phase := .declared typeExtent ty } : Reader).feed?
          (name.token :: Symbol.assign.token sign :: (e.tokens ++ [Symbol.semicolon.token last])) =
          ({ items := done, phase := .operand (.initial typeExtent.start typeExtent ty name) [] } : Reader).feed?
            (e.tokens ++ [Symbol.semicolon.token last]) := rfl
      have fresh := (fresh_tokens (declaration ty typeExtent name (some (sign, e)) last) []).head
      rw [tokens, settled.feed?_cons fresh front, named, feed?_append, fed]
      refine ⟨_, feed?_cons ?_ [], settled_of_ready rfl⟩
      simp [continue?, takeOperator?, Symbol.token, Lexeme.token, BinaryOp.ofLexeme?, whole, endExpression?]
      rfl

/-- Items are read one after the other. -/
theorem feed?_all {items : List ItemPhrase} (formed : ∀ i ∈ items, i.Formed) {r : Reader} {done : List ItemTree}
    (settled : r.Settled { items := done }) :
    ∃ r', r.feed? (items.flatMap tokens) = some r' ∧ r'.Settled { items := (items.map tree).reverse ++ done } := by
  induction items generalizing r done with
  | nil => exact ⟨r, rfl, settled⟩
  | cons i rest ih =>
    rw [List.forall_mem_cons] at formed
    obtain ⟨r', fed, settled'⟩ := feed?_tokens formed.1 settled
    obtain ⟨r'', fedRest, settled''⟩ := ih formed.2 settled'
    refine ⟨r'', by rw [List.flatMap_cons, feed?_append, fed]; exact fedRest, ?_⟩
    rwa [List.map_cons, List.reverse_cons, List.append_assoc]

/-- The items of a program are read as its tree. -/
theorem feed?_program {items : List ItemPhrase} (formed : ∀ i ∈ items, i.Formed) :
    ∃ r, Reader.feed? {} (items.flatMap tokens) = some r ∧ r.finish? = some (program items) := by
  obtain ⟨r, fed, settled⟩ := feed?_all formed (settled_of_ready rfl)
  refine ⟨r, fed, ?_⟩
  rw [finish?, settled.rest, List.append_nil]
  simp [program]

end ItemPhrase

/-- Whatever is derived from the grammar is read, and as a tree with the outline of the derivation. -/
theorem Grammar.readAll_of_derives {d : Grammar.Derivation} (derives : Derives (.rule .start) d) (last : Mark) :
    ∃ tree, Reader.readAll {} last none d.tokens = .ok tree ∧
      ∀ keepsWords, d.outlines keepsWords = [tree.outline] := by
  obtain ⟨items, formed, rfl⟩ := ItemPhrase.derives_start_iff.mp derives
  obtain ⟨r, fed, finished⟩ := ItemPhrase.feed?_program formed
  rw [← ItemPhrase.tokens_start] at fed
  exact ⟨ItemPhrase.program items, Reader.readAll_of_feed? fed finished last, ItemPhrase.outlines_start items⟩

end WormLang
