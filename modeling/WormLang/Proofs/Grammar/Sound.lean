import WormLang.Proofs.Grammar.Complete

/-!
Whatever is read is derived from the grammar. The tokens so far always lead to what the reader is in the middle of: they
are complete items, the fronts of the open blocks with their complete statements, and the front of one construct. Every
step adds its token to them.
-/
namespace WormLang

theorem UnaryOp.eq_lexeme {l : Lexeme} {op : UnaryOp} (known : UnaryOp.ofLexeme? l = some op) : l = op.lexeme := by
  unfold ofLexeme? at known
  split at known <;> cases known <;> rfl

theorem BinaryOp.eq_lexeme {l : Lexeme} {op : BinaryOp} (known : BinaryOp.ofLexeme? l = some op) : l = op.lexeme := by
  unfold ofLexeme? at known
  split at known <;> cases known <;> rfl

theorem Atom.exists_of_ofToken? {t : Token} {tree : ExprTree} (known : ExprTree.ofToken? t = some tree) :
    ∃ a : Atom, t = a.lexeme.token t.extent := by
  obtain ⟨l, x⟩ := t
  cases l with
  | number text => exact ⟨.number text, rfl⟩
  | name text => exact ⟨.name text, rfl⟩
  | symbol => cases known
  | keyword k =>
    cases k with
    | truth b => exact ⟨.truth b, rfl⟩
    | null => exact ⟨.null, rfl⟩
    | self => exact ⟨.self, rfl⟩
    | _ => cases known

theorem SimpleAction.eq_keyword {k : Keyword} {a : SimpleAction} (known : ofKeyword? k = some a) : k = a.keyword := by
  unfold ofKeyword? at known
  split at known <;> cases known <;> rfl

/-- The tokens so far of an expression, up to where an operand must follow. -/
inductive Awaits : List Pending → List Token → Prop
  | nil : Awaits [] []
  | unary {pending : List Pending} {w : List Token} (awaits : Awaits pending w) (op : UnaryOp) (start : Mark)
    (x : Extent) : Awaits (.unary op start :: pending) (w ++ [op.lexeme.token x])
  | left {pending : List Pending} {w : List Token} {op : BinaryOp} {e : ExprPhrase} (awaits : Awaits pending w)
    (low : takes pending ≤ op.level) (fits : e.Fits op.leftLevel) (l : Operand) (x : Extent) :
    Awaits (.left op l :: pending) (w ++ (e.tokens ++ [op.lexeme.token x]))
  | paren {pending : List Pending} {w : List Token} (awaits : Awaits pending w) (start : Mark) (x : Extent) :
    Awaits (.paren start :: pending) (w ++ [Symbol.openParen.token x])
  | call {pending : List Pending} {w : List Token} (awaits : Awaits pending w) (f : MathFunction) (start : Mark)
    (x y : Extent) :
    Awaits (.call f start :: pending) (w ++ [(Keyword.function f).token x, Symbol.openParen.token y])

/-- The tokens so far of an expression, up to the end of an operand of a level. -/
inductive Ends (pending : List Pending) (n : Nat) (w : List Token) : Prop
  | intro {front : List Token} {e : ExprPhrase} (awaits : Awaits pending front) (room : takes pending ≤ e.level)
    (tight : n ≤ e.level) (grouped : e.Grouped) (whole : w = front ++ e.tokens)

theorem takes_le (pending : List Pending) : takes pending ≤ 6 := by
  unfold takes
  split
  · exact Nat.le_refl 6
  · exact Nat.succ_le_succ (BinaryOp.level_bounds _).2
  · exact Nat.zero_le 6

theorem takes_le_of_alone {pending : List Pending} (low : takes pending ≤ 4)
    (alone : ¬ comparisonWaits pending = true) : takes pending ≤ 3 := by
  cases pending with
  | nil => exact Nat.zero_le 3
  | cons p rest =>
    cases p with
    | left op l =>
      have other : op.level ≠ 3 := fun three => alone (BinaryOp.isComparison_iff.mpr three)
      have within : op.level + 1 ≤ 4 := low
      show op.level + 1 ≤ 3
      omega
    | unary => exact absurd low (by simp [takes])
    | paren | call => exact Nat.zero_le 3

/-- Settling an operand goes on with a phrase of the same tokens. -/
theorem Awaits.settle {pending : List Pending} {front : List Token} {e : ExprPhrase} {n : Nat}
    (awaits : Awaits pending front) (room : takes pending ≤ e.level) (tight : n ≤ e.level) (bound : n ≤ 6)
    (grouped : e.Grouped) (o : Operand) :
    takes (WormLang.settle n pending o).1 ≤ n ∧ Ends (WormLang.settle n pending o).1 n (front ++ e.tokens) := by
  induction awaits generalizing e o with
  | nil => exact ⟨Nat.zero_le n, .nil, room, tight, grouped, rfl⟩
  | @unary pending front awaits op start x ih =>
    have same : front ++ [op.lexeme.token x] ++ e.tokens = front ++ (ExprPhrase.unary op x e).tokens := by
      simp [ExprPhrase.tokens]
    rw [WormLang.settle, same]
    exact ih (e := .unary op x e) (takes_le _) bound ⟨room, grouped⟩ _
  | @left pending front op f awaits low fits l x ih =>
    have same : front ++ (f.tokens ++ [op.lexeme.token x]) ++ e.tokens =
        front ++ (ExprPhrase.binary op f x e).tokens := by
      simp [ExprPhrase.tokens]
    rw [WormLang.settle]
    split
    -- An operator that goes on waiting is looser than the level.
    next within =>
      rw [same]
      exact ih (e := .binary op f x e) low within ⟨fits, room, grouped⟩ _
    next beyond => exact ⟨Nat.lt_of_not_le beyond, .left awaits low fits l x, room, tight, grouped, rfl⟩
  | paren awaits start x => exact ⟨Nat.zero_le n, .paren awaits start x, room, tight, grouped, rfl⟩
  | call awaits f start x y => exact ⟨Nat.zero_le n, .call awaits f start x y, room, tight, grouped, rfl⟩

namespace Ends

variable {pending : List Pending} {w : List Token} {n : Nat}

theorem settle (ends : Ends pending 7 w) (bound : n ≤ 6) (o : Operand) :
    takes (WormLang.settle n pending o).1 ≤ n ∧ Ends (WormLang.settle n pending o).1 n w := by
  obtain ⟨awaits, room, tight, grouped, rfl⟩ := ends
  exact awaits.settle room (by omega) bound grouped o

/-- An operator that is accepted binds more tightly than what still waits. -/
theorem push {op : BinaryOp} {o : Operand} {pending' : List Pending} (ends : Ends pending 7 w)
    (pushed : pushOperator? op pending o = some pending') (x : Extent) :
    Awaits pending' (w ++ [op.lexeme.token x]) := by
  have bound := op.level_bounds.2
  unfold pushOperator? at pushed
  split at pushed
  next comparison =>
    have three := BinaryOp.isComparison_iff.mp comparison
    have same : op.leftLevel = op.level + 1 := if_pos comparison
    have settled := ends.settle (n := op.level + 1) (by omega) o
    cases result : WormLang.settle (op.level + 1) pending o with | mk waiting o' => ?_
    rw [result] at settled pushed
    obtain ⟨low, awaits, room, tight, grouped, rfl⟩ := settled
    dsimp only at pushed
    split at pushed
    next => cases pushed
    next alone =>
      cases pushed
      have tighter : takes waiting ≤ op.level := three ▸ takes_le_of_alone (low.trans (by omega)) alone
      rw [List.append_assoc]
      exact .left awaits tighter ⟨same ▸ tight, grouped⟩ _ x
  next other =>
    obtain ⟨low, awaits, room, tight, grouped, rfl⟩ := ends.settle (n := op.level) (by omega) o
    have same : op.leftLevel = op.level := if_neg other
    cases pushed
    rw [List.append_assoc]
    exact .left awaits low ⟨same ▸ tight, grouped⟩ _ x

/-- A closing parenthesis ends an operand. -/
theorem close {o o' : Operand} {pending' : List Pending} {stop : Mark} (ends : Ends pending 7 w)
    (closed : closeParen? stop pending o = some (pending', o')) (x : Extent) :
    Ends pending' 7 (w ++ [Symbol.closeParen.token x]) := by
  obtain ⟨low, awaits, room, tight, grouped, rfl⟩ := ends.settle (Nat.zero_le 6) o
  unfold closeParen? at closed
  split at closed
  next start rest e' settled =>
    rw [settled] at awaits
    cases closed
    cases awaits with
    | paren awaits start y =>
      exact .intro (e := .paren y _ x) awaits (Nat.le_succ_of_le (takes_le _)) (Nat.le_refl 7) grouped
        (by simp [ExprPhrase.tokens])
  next f start rest e' settled =>
    rw [settled] at awaits
    cases closed
    cases awaits with
    | call awaits f start y z =>
      exact .intro (e := .call f y z _ x) awaits (Nat.le_succ_of_le (takes_le _)) (Nat.le_refl 7) grouped
        (by simp [ExprPhrase.tokens])
  next => cases closed

/-- A whole expression. -/
theorem whole {o o' : Operand} (ends : Ends pending 7 w) (complete : whole? pending o = some o') :
    ∃ e : ExprPhrase, e.Grouped ∧ w = e.tokens := by
  obtain ⟨low, awaits, room, tight, grouped, rfl⟩ := ends.settle (Nat.zero_le 6) o
  unfold whole? at complete
  split at complete
  next e' settled =>
    rw [settled] at awaits
    cases awaits
    exact ⟨_, grouped, rfl⟩
  next => cases complete

end Ends

namespace Reader

/-- The tokens so far of a construct, up to its expression. A declaration stands where no block is open. -/
inductive Starts (levels : List Level) : Purpose → List Token → Prop
  | initial (start : Mark) (ty : Ty) (typeExtent : Extent) (name : Word) (sign : Extent) (outermost : levels = []) :
    Starts levels (.initial start typeExtent ty name)
      [(Keyword.type ty).token typeExtent, name.token, Symbol.assign.token sign]
  | assignment (name : Word) (sign : Extent) : Starts levels (.assignment name) [name.token, Symbol.assign.token sign]
  | print (start : Mark) (word : Extent) : Starts levels (.print start) [Keyword.print.token word]
  | turn (start : Mark) (word : Extent) : Starts levels (.turn start) [Keyword.turn.token word]
  | fire (start : Mark) (word : Extent) : Starts levels (.fire start) [Keyword.fire.token word]
  | branch (start : Mark) (word : Extent) : Starts levels (.branch start) [Keyword.ifWord.token word]
  | loop (start : Mark) (word : Extent) : Starts levels (.loop start) [Keyword.whileWord.token word]

/-- The tokens so far of a construct, up to its block. -/
inductive Leads : Role → List Token → Prop
  | plain : Leads .plain []
  | yes {c : ExprPhrase} (grouped : c.Grouped) (start : Mark) (condition : ExprTree) (word : Extent)
    (then? : Option Extent) :
    Leads (.yes start condition)
      (Keyword.ifWord.token word :: (c.tokens ++ Lexeme.optional (.keyword .thenWord) then?))
  | no {c : ExprPhrase} {yes : StmtPhrase} (grouped : c.Grouped) (isBlock : yes.isBlock = true) (formed : yes.Formed)
    (start : Mark) (condition : ExprTree) (tree : StmtTree) (word : Extent) (then? : Option Extent) (other : Extent) :
    Leads (.no start condition tree)
      (Keyword.ifWord.token word :: (c.tokens ++ (Lexeme.optional (.keyword .thenWord) then? ++
        (yes.tokens ++ [Keyword.elseWord.token other]))))
  | loop {c : ExprPhrase} (grouped : c.Grouped) (start : Mark) (condition : ExprTree) (word : Extent)
    (do? : Option Extent) :
    Leads (.loop start condition)
      (Keyword.whileWord.token word :: (c.tokens ++ Lexeme.optional (.keyword .doWord) do?))
  | each (start : Mark) (kindExtent : Extent) (kind : LoopKind) (name : Word) (word opening comma closing : Extent)
    (do? : Option Extent) :
    Leads (.each start kindExtent kind name)
      (Keyword.foreach.token word :: Symbol.openParen.token opening :: (Keyword.kind kind).token kindExtent ::
        Symbol.comma.token comma :: name.token :: Symbol.closeParen.token closing ::
        Lexeme.optional (.keyword .doWord) do?)

/-- The tokens so far of what the reader is in the middle of. -/
inductive Within (levels : List Level) : Phase → List Token → Prop
  | ready : Within levels .ready []
  | operand {purpose : Purpose} {pending : List Pending} {u w : List Token} (starts : Starts levels purpose u)
    (awaits : Awaits pending w) : Within levels (.operand purpose pending) (u ++ w)
  | operator {purpose : Purpose} {pending : List Pending} {u w : List Token} (starts : Starts levels purpose u)
    (ends : Ends pending 7 w) (o : Operand) : Within levels (.operator purpose pending o) (u ++ w)
  | argument {purpose : Purpose} {pending : List Pending} {u w : List Token} (starts : Starts levels purpose u)
    (awaits : Awaits pending w) (f : MathFunction) (start : Mark) (x : Extent) :
    Within levels (.argument purpose pending f start) (u ++ (w ++ [(Keyword.function f).token x]))
  | declared (outermost : levels = []) (ty : Ty) (typeExtent : Extent) :
    Within levels (.declared typeExtent ty) [(Keyword.type ty).token typeExtent]
  | named (outermost : levels = []) (ty : Ty) (typeExtent : Extent) (name : Word) :
    Within levels (.named typeExtent ty name) [(Keyword.type ty).token typeExtent, name.token]
  | assigned (name : Word) : Within levels (.assigned name) [name.token]
  | acted (a : SimpleAction) (word extent : Extent) : Within levels (.acted extent a) [a.keyword.token word]
  | opening {role : Role} {u : List Token} (leads : Leads role u) : Within levels (.opening role none) u
  | openingWord {role : Role} {u : List Token} {k : Keyword} (leads : Leads role u)
    (leadsWord : ∀ x, Leads role (u ++ [k.token x])) : Within levels (.opening role (some k)) u
  | chosen {c : ExprPhrase} {yes : StmtPhrase} (grouped : c.Grouped) (isBlock : yes.isBlock = true)
    (formed : yes.Formed) (start : Mark) (condition : ExprTree) (tree : StmtTree) (word : Extent)
    (then? : Option Extent) : Within levels (.chosen start condition tree) (StmtPhrase.branch word c then? yes).tokens
  | eachParen (start : Mark) (word : Extent) : Within levels (.eachParen start) [Keyword.foreach.token word]
  | eachKind (start : Mark) (word opening : Extent) :
    Within levels (.eachKind start) [Keyword.foreach.token word, Symbol.openParen.token opening]
  | eachComma (start : Mark) (kindExtent : Extent) (kind : LoopKind) (word opening : Extent) :
    Within levels (.eachComma start kindExtent kind)
      [Keyword.foreach.token word, Symbol.openParen.token opening, (Keyword.kind kind).token kindExtent]
  | eachName (start : Mark) (kindExtent : Extent) (kind : LoopKind) (word opening comma : Extent) :
    Within levels (.eachName start kindExtent kind)
      [Keyword.foreach.token word, Symbol.openParen.token opening, (Keyword.kind kind).token kindExtent,
        Symbol.comma.token comma]
  | eachClose (start : Mark) (kindExtent : Extent) (kind : LoopKind) (name : Word) (word opening comma : Extent) :
    Within levels (.eachClose start kindExtent kind name)
      [Keyword.foreach.token word, Symbol.openParen.token opening, (Keyword.kind kind).token kindExtent,
        Symbol.comma.token comma, name.token]

/-- The tokens so far of the open blocks, with the complete statements in them. -/
inductive Opened : List Level → List Token → Prop
  | nil : Opened [] []
  | cons {levels : List Level} {v u : List Token} {role : Role} {body : List StmtPhrase} (outer : Opened levels v)
    (leads : Leads role u) (formed : StmtPhrase.FormedAll body) (start : Mark) (done : List StmtTree) (x : Extent) :
    Opened ({ role, start, done } :: levels) (v ++ (u ++ Symbol.openBrace.token x :: StmtPhrase.tokensAll body))

/-- The tokens so far up to the present place. -/
inductive Before (levels : List Level) : List Token → Prop
  | intro {items : List ItemPhrase} {v : List Token} (formed : ∀ i ∈ items, i.Formed) (opened : Opened levels v) :
    Before levels (items.flatMap ItemPhrase.tokens ++ v)

/-- The tokens so far that the reader has read. -/
inductive Follows (r : Reader) : List Token → Prop
  | intro {v u : List Token} (before : Before r.levels v) (within : Within r.levels r.phase u) : Follows r (v ++ u)

variable {r r' : Reader} {levels : List Level} {v u w : List Token} {t : Token}

/-- A complete statement. -/
theorem Before.add (before : Before r.levels v) {s : StmtPhrase} (formed : s.Formed) (tree : StmtTree) :
    Before (r.add tree).levels (v ++ s.tokens) := by
  obtain ⟨items, levels, phase⟩ := r
  cases before with
  | @intro items' v formedItems opened =>
    cases opened with
    | nil =>
      have same : items'.flatMap ItemPhrase.tokens ++ [] ++ s.tokens =
          (items' ++ [ItemPhrase.statement s]).flatMap ItemPhrase.tokens ++ [] := by
        simp [ItemPhrase.tokens]
      rw [same]
      refine .intro (fun i member => ?_) .nil
      obtain inside | rfl := by simpa using member
      · exact formedItems i inside
      · exact formed
    | @cons levels v u role body outer leads formedBody start done x =>
      have same : items'.flatMap ItemPhrase.tokens ++
          (v ++ (u ++ Symbol.openBrace.token x :: StmtPhrase.tokensAll body)) ++ s.tokens =
          items'.flatMap ItemPhrase.tokens ++
            (v ++ (u ++ Symbol.openBrace.token x :: StmtPhrase.tokensAll (body ++ [s]))) := by
        simp [StmtPhrase.tokensAll_eq_flatMap]
      rw [same]
      refine .intro formedItems (.cons outer leads (StmtPhrase.formedAll_iff.mpr fun b member => ?_) start _ x)
      obtain inside | rfl := by simpa using member
      · exact StmtPhrase.formedAll_iff.mp formedBody b inside
      · exact formed

theorem Before.follows (before : Before r.levels v) (isReady : r.phase = .ready) : Follows r v := by
  have within : Within r.levels r.phase [] := isReady ▸ .ready
  rw [← List.append_nil v]
  exact .intro before within

/-- A complete statement, with nothing after it yet. -/
theorem Before.follows_add (before : Before r.levels v) {s : StmtPhrase} (formed : s.Formed) (tree : StmtTree)
    (whole : w = v ++ s.tokens) : Follows (r.add tree) w := by
  rw [whole]
  exact (before.add formed tree).follows (r.add_phase tree)

/-- A complete declaration. -/
theorem Before.item (before : Before levels v) {i : ItemPhrase} (outermost : levels = []) (formed : i.Formed) :
    Before levels (v ++ i.tokens) := by
  subst outermost
  cases before with
  | @intro items v formedItems opened =>
    cases opened with
    | nil =>
      have same : items.flatMap ItemPhrase.tokens ++ [] ++ i.tokens =
          (items ++ [i]).flatMap ItemPhrase.tokens ++ [] := by
        simp
      rw [same]
      refine .intro (fun j member => ?_) .nil
      obtain inside | rfl := by simpa using member
      · exact formedItems j inside
      · exact formed

/-- A brace that opens a block. -/
theorem Before.openBlock (before : Before r.levels v) {role : Role} (leads : Leads role u) (start : Mark) (x : Extent)
    (whole : w = v ++ (u ++ [Symbol.openBrace.token x])) : Follows (r.openBlock role start) w := by
  cases before with
  | @intro items v formed opened =>
    have same : w = items.flatMap ItemPhrase.tokens ++
        (v ++ (u ++ Symbol.openBrace.token x :: StmtPhrase.tokensAll [])) ++ [] := by
      simp [whole, StmtPhrase.tokensAll]
    rw [same]
    exact .intro (.intro formed (.cons opened leads (show StmtPhrase.FormedAll [] from trivial) start [] x)) .ready

/-- A brace that closes a block. -/
theorem Before.closeBlock (before : Before r.levels v) {stop : Mark} (closed : r.closeBlock? stop = some r')
    (x : Extent) : Follows r' (v ++ [Symbol.closeBrace.token x]) := by
  obtain ⟨done, levels, phase⟩ := r
  cases before with
  | @intro items v formed opened =>
    cases opened with
    | nil => cases closed
    | @cons levels v u role body outer leads formedBody start statements y =>
      have outside : Before levels (items.flatMap ItemPhrase.tokens ++ v) := .intro formed outer
      have formedBlock : (StmtPhrase.block y body x).Formed := formedBody
      cases leads with
      | plain =>
        cases closed
        exact Before.follows_add outside formedBlock _ (by simp [StmtPhrase.tokens])
      | @yes c grouped start condition word then? =>
        cases closed
        have same : items.flatMap ItemPhrase.tokens ++ (v ++ (Keyword.ifWord.token word ::
            (c.tokens ++ Lexeme.optional (.keyword .thenWord) then?) ++ Symbol.openBrace.token y ::
              StmtPhrase.tokensAll body)) ++ [Symbol.closeBrace.token x] =
            items.flatMap ItemPhrase.tokens ++ v ++ (StmtPhrase.branch word c then? (.block y body x)).tokens := by
          simp [StmtPhrase.tokens]
        rw [same]
        exact .intro outside (.chosen grouped rfl formedBlock start condition _ word then?)
      | @no c yes grouped isBlock formedYes start condition tree word then? other =>
        cases closed
        exact Before.follows_add (s := .branchElse word c then? yes other (.block y body x)) outside
          ⟨grouped, ⟨isBlock, formedYes⟩, rfl, formedBlock⟩ _ (by simp [StmtPhrase.tokens])
      | @loop c grouped start condition word do? =>
        cases closed
        exact Before.follows_add (s := .loop word c do? (.block y body x)) outside ⟨grouped, rfl, formedBlock⟩ _
          (by simp [StmtPhrase.tokens])
      | each start kindExtent kind name word opening comma closing do? =>
        cases closed
        exact Before.follows_add (s := .each word opening kind kindExtent comma name closing do? (.block y body x))
          outside ⟨rfl, formedBlock⟩ _ (by simp [StmtPhrase.tokens])

/-- A token that starts an item or a statement or ends a block. -/
theorem Before.begin (before : Before r.levels v) (begins : r.begin? t = some r') : Follows r' (v ++ [t]) := by
  obtain ⟨l, x⟩ := t
  unfold begin? at begins
  split at begins
  next ty same =>
    split at begins
    next outermost =>
      cases begins
      cases same
      exact .intro before (.declared (List.isEmpty_iff.mp outermost) ty x)
    next => cases begins
  next text same =>
    cases begins
    cases same
    exact .intro before (.assigned { extent := x, text })
  next same =>
    cases begins
    cases same
    exact .intro before (.operand (.print x.start x) .nil)
  next same =>
    cases begins
    cases same
    exact .intro before (.operand (.turn x.start x) .nil)
  next same =>
    cases begins
    cases same
    exact .intro before (.operand (.fire x.start x) .nil)
  next same =>
    cases begins
    cases same
    exact .intro before (.operand (.branch x.start x) .nil)
  next same =>
    cases begins
    cases same
    exact .intro before (.operand (.loop x.start x) .nil)
  next same =>
    cases begins
    cases same
    exact .intro before (.eachParen x.start x)
  next k _ _ _ _ _ _ _ same =>
    obtain ⟨a, known, rfl⟩ := Option.map_eq_some_iff.mp begins
    obtain rfl := SimpleAction.eq_keyword known
    cases same
    exact .intro before (.acted a x x)
  next same =>
    cases begins
    cases same
    exact before.openBlock .plain x.start x rfl
  next same =>
    cases same
    exact before.closeBlock begins x
  next => cases begins

/-- A statement that an expression completes. -/
theorem Starts.statement {purpose : Purpose} {stop : Mark} {value : ExprTree} {tree : StmtTree} {e : ExprPhrase}
    (starts : Starts levels purpose u) (states : purpose.statement? stop value = some tree) (grouped : e.Grouped)
    (last? : Option Extent) :
    ∃ s : StmtPhrase, s.Formed ∧ s.tokens = u ++ (e.tokens ++ Lexeme.optional (.symbol .semicolon) last?) := by
  cases starts with
  | assignment name sign => exact ⟨.assignment name sign e last?, grouped, rfl⟩
  | print start word => exact ⟨.command .print word e last?, grouped, rfl⟩
  | turn start word => exact ⟨.command .turn word e last?, grouped, rfl⟩
  | fire start word => exact ⟨.command .fire word e last?, grouped, rfl⟩
  | initial | branch | loop => cases states

/-- A complete statement that could end here. -/
theorem Follows.rest (follows : Follows r w) (rests : r.rest? = some r') : Before r'.levels w := by
  obtain ⟨items, levels, phase⟩ := r
  obtain ⟨before, within⟩ := follows
  dsimp only at within
  cases within with
  | ready =>
    cases rests
    rwa [List.append_nil]
  | operator starts ends o =>
    obtain ⟨o', complete, stated⟩ := Option.bind_eq_some_iff.mp rests
    obtain ⟨tree, states, rfl⟩ := Option.map_eq_some_iff.mp stated
    obtain ⟨e, grouped, rfl⟩ := ends.whole complete
    obtain ⟨s, formed, tokens⟩ := starts.statement states grouped none
    rw [show Lexeme.optional (.symbol .semicolon) none = [] from rfl, List.append_nil] at tokens
    rw [← tokens]
    exact before.add formed tree
  | acted a word extent =>
    cases rests
    exact before.add (s := .simple a word none) trivial _
  | @chosen c yes grouped isBlock formed start condition tree word then? =>
    cases rests
    exact before.add (s := .branch word c then? yes) ⟨grouped, isBlock, formed⟩ _
  | _ => cases rests

/-- An operand or a token that starts one. -/
theorem Before.takeOperand {purpose : Purpose} {pending : List Pending} (before : Before r.levels v)
    (starts : Starts r.levels purpose u) (awaits : Awaits pending w)
    (taken : r.takeOperand? purpose pending t = some r') : Follows r' (v ++ (u ++ (w ++ [t]))) := by
  unfold takeOperand? at taken
  split at taken
  next tree known =>
    obtain ⟨a, same⟩ := Atom.exists_of_ofToken? known
    cases taken
    rw [same]
    exact .intro before (.operator starts (.intro (e := .atom a t.extent) awaits (Nat.le_succ_of_le (takes_le pending))
      (Nat.le_refl 7) trivial rfl) _)
  next =>
    obtain ⟨l, x⟩ := t
    split at taken
    next op known =>
      cases taken
      obtain rfl : l = op.lexeme := UnaryOp.eq_lexeme known
      exact .intro before (.operand starts (.unary awaits op x.start x))
    next f _ same =>
      cases taken
      obtain rfl : l = .keyword (.function f) := same
      exact .intro before (.argument starts awaits f x.start x)
    next _ same =>
      cases taken
      obtain rfl : l = .symbol .openParen := same
      exact .intro before (.operand starts (.paren awaits x.start x))
    next => cases taken

/-- A token that ends a whole expression. -/
theorem Before.endExpression {purpose : Purpose} {o : Operand} {e : ExprPhrase} (before : Before r.levels v)
    (starts : Starts r.levels purpose u) (grouped : e.Grouped) (ended : r.endExpression? purpose o t = some r') :
    Follows r' (v ++ (u ++ (e.tokens ++ [t]))) := by
  obtain ⟨l, x⟩ := t
  unfold endExpression? at ended
  split at ended
  next start typeExtent ty name same =>
    obtain rfl : l = .symbol .semicolon := same
    cases ended
    cases starts with
    | initial start ty typeExtent name sign outermost =>
      refine Before.follows ?_ rfl
      exact before.item (i := .declaration ty typeExtent name (some (sign, e)) x) outermost
        (by simpa [ItemPhrase.Formed])
  next same _ =>
    obtain rfl : l = .symbol .semicolon := same
    obtain ⟨tree, states, rfl⟩ := Option.map_eq_some_iff.mp ended
    obtain ⟨s, formed, tokens⟩ := starts.statement states grouped (some x)
    exact before.follows_add formed tree (congrArg (v ++ ·) tokens.symm)
  next start same =>
    obtain rfl : l = .symbol .openBrace := same
    cases ended
    cases starts with
    | branch start word =>
      exact before.openBlock (.yes grouped start o.tree word none) x.start x (by simp [Lexeme.optional]; rfl)
  next start same =>
    obtain rfl : l = .symbol .openBrace := same
    cases ended
    cases starts with
    | loop start word =>
      exact before.openBlock (.loop grouped start o.tree word none) x.start x (by simp [Lexeme.optional]; rfl)
  next start same =>
    obtain rfl : l = .keyword .thenWord := same
    cases ended
    cases starts with
    | branch start word => exact .intro before (.opening (.yes grouped start o.tree word (some x)))
  next start same =>
    obtain rfl : l = .keyword .doWord := same
    cases ended
    cases starts with
    | loop start word => exact .intro before (.opening (.loop grouped start o.tree word (some x)))
  next => cases ended

/-- A token that follows an operand. -/
theorem Before.takeOperator {purpose : Purpose} {pending : List Pending} {o : Operand} (before : Before r.levels v)
    (starts : Starts r.levels purpose u) (ends : Ends pending 7 w)
    (taken : r.takeOperator? purpose pending o t = some r') : Follows r' (v ++ (u ++ (w ++ [t]))) := by
  obtain ⟨l, x⟩ := t
  unfold takeOperator? at taken
  split at taken
  next op known =>
    obtain ⟨pending', pushed, rfl⟩ := Option.map_eq_some_iff.mp taken
    obtain rfl : l = op.lexeme := BinaryOp.eq_lexeme known
    exact .intro before (.operand starts (ends.push pushed x))
  next =>
    split at taken
    next same =>
      obtain ⟨⟨pending', o'⟩, closed, rfl⟩ := Option.map_eq_some_iff.mp taken
      obtain rfl : l = .symbol .closeParen := same
      exact .intro before (.operator starts (ends.close closed x) o')
    next =>
      obtain ⟨o', complete, ended⟩ := Option.bind_eq_some_iff.mp taken
      obtain ⟨e, grouped, rfl⟩ := ends.whole complete
      exact before.endExpression starts grouped ended

/-- A token that goes on with what the reader is in the middle of. -/
theorem Follows.continue (follows : Follows r w) (goes : r.continue? t = some r') : Follows r' (w ++ [t]) := by
  obtain ⟨items, levels, phase⟩ := r
  obtain ⟨l, x⟩ := t
  obtain ⟨before, within⟩ := follows
  rw [List.append_assoc]
  unfold continue? at goes
  dsimp only at within goes
  split at goes
  next => cases goes
  next purpose pending =>
    cases within with
    | operand starts awaits =>
      rw [List.append_assoc]
      exact before.takeOperand starts awaits goes
  next purpose pending o =>
    cases within with
    | operator starts ends o =>
      rw [List.append_assoc]
      exact before.takeOperator starts ends goes
  next purpose pending f start =>
    cases goes
    cases within with
    | argument starts awaits f start y =>
      rw [List.append_assoc, List.append_assoc]
      exact .intro before (.operand starts (.call awaits f start y x))
  next typeExtent ty text =>
    cases goes
    cases within with
    | declared outermost ty typeExtent =>
      exact .intro before (.named outermost ty typeExtent { extent := x, text })
  next typeExtent ty name =>
    cases goes
    cases within with
    | named outermost ty typeExtent name =>
      have starts := Starts.initial typeExtent.start ty typeExtent name x outermost
      exact .intro before (.operand (w := []) starts .nil)
  next typeExtent ty name =>
    cases goes
    cases within with
    | named outermost ty typeExtent name =>
      refine Before.follows ?_ rfl
      exact before.item (i := .declaration ty typeExtent name none x) outermost (by simp [ItemPhrase.Formed])
  next name =>
    cases goes
    cases within with
    | assigned name =>
      have starts : Starts levels (.assignment name) [name.token, Symbol.assign.token x] := .assignment name x
      exact .intro before (.operand (w := []) starts .nil)
  next extent a =>
    cases goes
    cases within with
    | acted a word extent => exact before.follows_add (s := .simple a word (some x)) trivial _ rfl
  next role keyword? =>
    cases goes
    cases within with
    | opening leads => exact before.openBlock leads x.start x rfl
    | openingWord leads leadsWord => exact before.openBlock leads x.start x rfl
  next role keyword k =>
    obtain ⟨rfl, same⟩ := Option.ite_none_right_eq_some.mp goes
    cases same
    cases within with
    | openingWord leads leadsWord => exact .intro before (.opening (leadsWord x))
  next start condition tree =>
    cases goes
    cases within with
    | @chosen c yes grouped isBlock formed start condition tree word then? =>
      have same : (StmtPhrase.branch word c then? yes).tokens ++ [Keyword.elseWord.token x] =
          Keyword.ifWord.token word :: (c.tokens ++ (Lexeme.optional (.keyword .thenWord) then? ++
            (yes.tokens ++ [Keyword.elseWord.token x]))) := by
        simp [StmtPhrase.tokens]
      exact .intro before (same ▸ .opening (.no grouped isBlock formed start condition tree word then? x))
  next start =>
    cases goes
    cases within with
    | eachParen start word => exact .intro before (.eachKind start word x)
  next start kind =>
    cases goes
    cases within with
    | eachKind start word opening => exact .intro before (.eachComma start x kind word opening)
  next start kindExtent kind =>
    cases goes
    cases within with
    | eachComma start kindExtent kind word opening =>
      exact .intro before (.eachName start kindExtent kind word opening x)
  next start kindExtent kind text =>
    cases goes
    cases within with
    | eachName start kindExtent kind word opening comma =>
      exact .intro before (.eachClose start kindExtent kind { extent := x, text } word opening comma)
  next start kindExtent kind name =>
    cases goes
    cases within with
    | eachClose start kindExtent kind name word opening comma =>
      exact .intro before (.openingWord (.each start kindExtent kind name word opening comma x none)
        fun y => .each start kindExtent kind name word opening comma x (some y))
  next => cases goes

/-- What one step adds to the tokens so far. -/
theorem Follows.step (follows : Follows r w) (taken : r.step? t = some r') : Follows r' (w ++ [t]) := by
  unfold step? at taken
  split at taken
  next goes => exact follows.continue (taken ▸ goes)
  next =>
    obtain ⟨ready, rests, begins⟩ := Option.bind_eq_some_iff.mp taken
    exact (follows.rest rests).begin begins

/-- What a program adds to the tokens so far. -/
theorem Follows.feed {tokens : List Token} (follows : Follows r w) (fed : r.feed? tokens = some r') :
    Follows r' (w ++ tokens) := by
  induction tokens generalizing r w with
  | nil =>
    cases fed
    rwa [List.append_nil]
  | cons t rest ih =>
    obtain ⟨next, taken, fed⟩ := Option.bind_eq_some_iff.mp fed
    rw [List.append_cons]
    exact ih (follows.step taken) fed

/-- A complete program. -/
theorem Follows.finish {tree : ProgramTree} (follows : Follows r w) (finished : r.finish? = some tree) :
    ∃ items : List ItemPhrase, (∀ i ∈ items, i.Formed) ∧ w = items.flatMap ItemPhrase.tokens := by
  obtain ⟨ready, rests, closed⟩ := Option.bind_eq_some_iff.mp finished
  obtain ⟨outermost, -⟩ := Option.ite_none_right_eq_some.mp closed
  have before := follows.rest rests
  rw [List.isEmpty_iff.mp outermost] at before
  cases before with
  | intro formed opened =>
    cases opened with
    | nil => exact ⟨_, formed, List.append_nil _⟩

theorem exists_feed_of_readAll {last : Mark} {stray? : Option (Char × Mark)} {tokens : List Token} {tree : ProgramTree}
    (read : r.readAll last stray? tokens = .ok tree) :
    stray? = none ∧ ∃ r', r.feed? tokens = some r' ∧ r'.finish? = some tree := by
  induction tokens generalizing r last with
  | nil =>
    unfold readAll at read
    split at read
    next => cases read
    next =>
      split at read
      next tree' finished =>
        cases read
        exact ⟨rfl, r, rfl, finished⟩
      next => cases read
  | cons t rest ih =>
    unfold readAll at read
    split at read
    next next taken =>
      obtain ⟨whole, r', fed, finished⟩ := ih read
      exact ⟨whole, r', by rw [feed?, taken]; exact fed, finished⟩
    next => cases read

/-- What is read is derived from the grammar. -/
theorem derives_of_readAll {last : Mark} {stray? : Option (Char × Mark)} {tokens : List Token} {tree : ProgramTree}
    (read : readAll {} last stray? tokens = .ok tree) :
    stray? = none ∧ ∃ d, Grammar.Derives (.rule .start) d ∧ d.tokens = tokens := by
  obtain ⟨whole, r, fed, finished⟩ := exists_feed_of_readAll read
  have none : ∀ i ∈ ([] : List ItemPhrase), i.Formed := by simp
  have start : Follows {} [] := Before.follows (r := {}) (.intro none .nil) rfl
  obtain ⟨items, formed, rfl⟩ := (start.feed fed).finish finished
  exact ⟨whole, ItemPhrase.start items, ItemPhrase.derives_start formed, ItemPhrase.tokens_start items⟩

end Reader

namespace Grammar

/-- A result of reading is what the grammar says about a scanned text. -/
structure Decides (scan : Scan) (result : Except Reader.Stop ProgramTree) : Prop where
  accepts : (∃ tree, result = .ok tree) ↔ scan.stray? = none ∧ ∃ d, Derives (.rule .start) d ∧ d.tokens = scan.tokens
  unique : ∀ d d', Derives (.rule .start) d → Derives (.rule .start) d' → d.tokens = scan.tokens →
    d'.tokens = scan.tokens → d = d'
  outlines : ∀ tree d, result = .ok tree → Derives (.rule .start) d → d.tokens = scan.tokens →
    d.outlines false = [tree.outline]

theorem decides_readAll (scan : Scan) (last : Mark) :
    Decides scan (Reader.readAll {} last scan.stray? scan.tokens) := by
  obtain ⟨tokens, stray?⟩ := scan
  constructor
  case accepts =>
    constructor
    · rintro ⟨tree, read⟩
      exact Reader.derives_of_readAll read
    · rintro ⟨rfl, d, derives, rfl⟩
      obtain ⟨tree, read, -⟩ := readAll_of_derives derives last
      exact ⟨tree, read⟩
  case unique =>
    intro d d' derives derives' tokens tokens'
    exact derivation_unique derives derives' (tokens.trans tokens'.symm)
  case outlines =>
    intro tree d read derives same
    obtain ⟨tree', read', outlines⟩ := readAll_of_derives derives last
    obtain ⟨rfl, -⟩ := Reader.derives_of_readAll read
    rw [same, read] at read'
    cases read'
    exact outlines false

end Grammar

/-- The reader accepts exactly what is derived from the grammar, whatever the tokens and their places; nothing has two
derivations, and the outline of a tree that was read is that of the derivation. So it is for the tokens of a text. -/
theorem ProgramTree.parse_follows_grammar (scan : Scan) (last : Mark) (source : String) :
    Grammar.Decides scan (Reader.readAll {} last scan.stray? scan.tokens) ∧
      Grammar.Decides (Scan.ofText source) (parse source) :=
  ⟨Grammar.decides_readAll scan last, Grammar.decides_readAll (Scan.ofText source) { line := 1, column := 1 }⟩

/-- Lexemes as the tokens of a text, all at one place. -/
def Scan.bare (lexemes : List Lexeme) : Scan := { tokens := lexemes.map (Lexeme.token · default), stray? := none }

/-- A comparison after the word print has one derivation, and with another comparison after it none. -/
theorem comparison_follows_grammar :
    let one : List Lexeme := [.keyword .print, .number "1", .symbol (.order .lt), .number "2"]
    let two := one ++ [.symbol (.order .lt), .number "3"]
    (∃ d, (Grammar.Derives (.rule .start) d ∧ d.tokens = (Scan.bare one).tokens) ∧
      ∀ d', Grammar.Derives (.rule .start) d' → d'.tokens = (Scan.bare one).tokens → d' = d) ∧
    ¬ ∃ d, Grammar.Derives (.rule .start) d ∧ d.tokens = (Scan.bare two).tokens := by
  intro one two
  have decidesOne := (ProgramTree.parse_follows_grammar (Scan.bare one) default "").1
  have decidesTwo := (ProgramTree.parse_follows_grammar (Scan.bare two) default "").1
  constructor
  · obtain ⟨-, d, derives, tokens⟩ := decidesOne.accepts.mp ⟨_, rfl⟩
    exact ⟨d, ⟨derives, tokens⟩, fun d' derives' tokens' => decidesOne.unique d' d derives' derives tokens' tokens⟩
  · intro derived
    obtain ⟨tree, read⟩ := decidesTwo.accepts.mpr ⟨rfl, derived⟩
    cases read

end WormLang
