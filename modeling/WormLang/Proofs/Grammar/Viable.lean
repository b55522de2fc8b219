import WormLang.Proofs.Grammar.Sound

/-!
Viable prefixes. Whatever state the reader is in, it can go on to the end of a program, since what is open can be
closed. So the reader accepts a sequence of tokens iff some program starts with it.
-/
namespace WormLang

/-- What is left of the operators that wait, once no parenthesis is open, is a whole expression; otherwise the innermost
parenthesis can be closed. -/
theorem whole?_or_closeParen? (stop : Mark) (pending : List Pending) (e : Operand) :
    (∃ o, whole? pending e = some o) ∨
      ∃ rest o, rest.length < pending.length ∧ closeParen? stop pending e = some (rest, o) := by
  induction pending generalizing e with
  | nil => exact .inl ⟨e, rfl⟩
  | cons p rest ih =>
    have longer : ∀ {waiting : List Pending}, waiting.length < rest.length → waiting.length < (p :: rest).length :=
      fun shorter => shorter.trans (Nat.lt_succ_self _)
    cases p with
    | unary op start =>
      obtain whole | ⟨waiting, o, shorter, closed⟩ := ih (e.applyUnary op start)
      · exact .inl whole
      · exact .inr ⟨waiting, o, longer shorter, closed⟩
    | left op l =>
      have settled : settle 0 (.left op l :: rest) e = settle 0 rest (.applyBinary op l e) := rfl
      obtain whole | ⟨waiting, o, shorter, closed⟩ := ih (.applyBinary op l e)
      · exact .inl (by rwa [whole?, settled])
      · exact .inr ⟨waiting, o, longer shorter, by rwa [closeParen?, settled]⟩
    | paren start => exact .inr ⟨rest, _, Nat.lt_succ_self _, rfl⟩
    | call f start => exact .inr ⟨rest, _, Nat.lt_succ_self _, rfl⟩

namespace Reader

/-- Some tokens lead from here to a complete program. -/
def Completable (r : Reader) : Prop :=
  ∃ more r' tree, r.feed? more = some r' ∧ r'.finish? = some tree

variable {r r' ready : Reader}

theorem Completable.of_feed {w : List Token} (completable : r'.Completable) (fed : r.feed? w = some r') :
    r.Completable := by
  obtain ⟨more, last, tree, fedMore, finished⟩ := completable
  exact ⟨w ++ more, last, tree, by rw [feed?_append, fed]; exact fedMore, finished⟩

theorem Completable.of_step {t : Token} (completable : r'.Completable) (taken : r.step? t = some r') :
    r.Completable :=
  completable.of_feed (w := [t]) (by rw [feed?, taken]; rfl)

theorem Completable.of_continue {t : Token} (completable : r'.Completable) (goes : r.continue? t = some r') :
    r.Completable :=
  completable.of_step (step?_of_continue? goes)

theorem length_levels_add (r : Reader) (s : StmtTree) : (r.add s).levels.length = r.levels.length := by
  obtain ⟨items, levels, phase⟩ := r
  cases levels <;> rfl

/-- An if is complete without its else. -/
theorem settled_chosen (r : Reader) (start : Mark) (condition : ExprTree) (yes : StmtTree) :
    ({ r with phase := .chosen start condition yes } : Reader).Settled
      (r.add (.branch { start, stop := yes.extent.stop } condition yes)) where
  rest := rfl
  isReady := r.add_phase _
  ends := fun t fresh => by
    unfold continue?
    split <;> simp_all [fresh.noElse]

/-- Closing a block completes a statement. -/
theorem exists_settled_take (r : Reader) (stop : Mark) (block : StmtTree) (role : Role) :
    ∃ ready, (r.take stop block role).Settled ready ∧ ready.levels.length = r.levels.length := by
  cases role with
  | yes start condition => exact ⟨_, settled_chosen r start condition block, length_levels_add r _⟩
  | plain | no | loop | each => exact ⟨_, settled_add r _, length_levels_add r _⟩

/-- After a complete statement the open blocks can be closed one after the other. -/
theorem Settled.completable (settled : r.Settled ready) : r.Completable := by
  induction depth : ready.levels.length generalizing r ready with
  | zero =>
    refine ⟨[], r, { items := ready.items.reverse }, rfl, ?_⟩
    rw [finish?, settled.rest, Option.bind_some, List.eq_nil_of_length_eq_zero depth]
    rfl
  | succ n ih =>
    obtain ⟨items, levels, phase⟩ := ready
    obtain rfl : phase = .ready := settled.isReady
    obtain ⟨⟨role, start, done⟩, rest, rfl⟩ := List.exists_cons_of_length_eq_add_one depth
    let closing := Symbol.closeBrace.token default
    let outer : Reader := { items, levels := rest }
    obtain ⟨ready', settled', same⟩ :=
      exists_settled_take outer closing.stop (.block { start, stop := closing.stop } done.reverse) role
    have closed : r.step? closing =
        some (outer.take closing.stop (.block { start, stop := closing.stop } done.reverse) role) := by
      rw [step?, settled.ends closing (fresh_closeBrace default []).head, settled.rest, Option.bind_some]
      exact closeBlock?_eq outer role start closing.stop done
    have shallower : ready'.levels.length = n := by
      rw [same]
      exact Nat.succ.inj depth
    exact (ih settled' shallower).of_step closed

theorem completable_of_ready (isReady : r.phase = .ready) : r.Completable := (settled_of_ready isReady).completable

theorem completable_opening (r : Reader) (role : Role) (keyword? : Option Keyword) :
    ({ r with phase := .opening role keyword? } : Reader).Completable :=
  (completable_of_ready rfl).of_continue (opensBlock_opening r role keyword? default)

/-- A whole expression leads to a semicolon or to a block. -/
theorem completable_of_whole {purpose : Purpose} {pending : List Pending} {e o : Operand}
    (whole : whole? pending e = some o) :
    ({ r with phase := .operator purpose pending e } : Reader).Completable := by
  have ended : ∀ t : Token, BinaryOp.ofLexeme? t.lexeme = none → t.lexeme ≠ .symbol .closeParen →
      ({ r with phase := .operator purpose pending e } : Reader).continue? t =
        endExpression? { r with phase := .operator purpose pending e } purpose o t := by
    intro t noOperator noParen
    simp [continue?, takeOperator?, noOperator, noParen, whole]
  have bySemicolon := ended (Symbol.semicolon.token default) rfl (by simp [Symbol.token, Lexeme.token])
  have byBrace := ended (Symbol.openBrace.token default) rfl (by simp [Symbol.token, Lexeme.token])
  cases purpose with
  | initial start typeExtent ty name => exact (completable_of_ready rfl).of_continue bySemicolon
  | assignment | print | turn | fire => exact (completable_of_ready (add_phase _ _)).of_continue bySemicolon
  | branch start => exact (completable_of_ready rfl).of_continue byBrace
  | loop start => exact (completable_of_ready rfl).of_continue byBrace

/-- After an operand the open parentheses can be closed one after the other. -/
theorem completable_operator (r : Reader) (purpose : Purpose) (pending : List Pending) (e : Operand) :
    ({ r with phase := .operator purpose pending e } : Reader).Completable := by
  induction size : pending.length using Nat.strong_induction_on generalizing pending e with
  | _ n ih =>
    let closing := Symbol.closeParen.token default
    obtain ⟨o, whole⟩ | ⟨rest, o, shorter, closed⟩ := whole?_or_closeParen? closing.stop pending e
    · exact completable_of_whole whole
    · have goes : ({ r with phase := .operator purpose pending e } : Reader).continue? closing =
          some { r with phase := .operator purpose rest o } := congrArg (Option.map _) closed
      exact (ih rest.length (size ▸ shorter) rest o rfl).of_continue goes

/-- An operand can always be the name of the worm itself. -/
theorem completable_operand (r : Reader) (purpose : Purpose) (pending : List Pending) :
    ({ r with phase := .operand purpose pending } : Reader).Completable :=
  (completable_operator r purpose pending _).of_continue (t := Keyword.self.token default) rfl

/-- The head of a loop over things leads to its block. -/
theorem completable_of_each (base : Reader) {w : List Token} {role : Role}
    (fed : r.feed? w = some { base with phase := .opening role (some .doWord) }) : r.Completable :=
  (completable_opening base role (some .doWord)).of_feed fed

/-- Every state of the reader leads to a program. -/
theorem completable (r : Reader) : r.Completable := by
  obtain ⟨items, levels, phase⟩ := r
  let name : Word := { extent := default, text := "x" }
  let opening := Symbol.openParen.token default
  let worm := (Keyword.kind .worm).token default
  let comma := Symbol.comma.token default
  let closing := Symbol.closeParen.token default
  let assign := Symbol.assign.token default
  let semicolon := Symbol.semicolon.token default
  cases phase with
  | ready => exact completable_of_ready rfl
  | operand purpose pending => exact completable_operand { items, levels } purpose pending
  | operator purpose pending e => exact completable_operator { items, levels } purpose pending e
  | argument purpose pending f start =>
    exact (completable_operand { items, levels } purpose (.call f start :: pending)).of_continue (t := opening) rfl
  | declared typeExtent ty => exact (completable_of_ready rfl).of_feed (w := [name.token, semicolon]) rfl
  | named typeExtent ty declared => exact (completable_of_ready rfl).of_continue (t := semicolon) rfl
  | assigned target =>
    exact (completable_operand { items, levels } (.assignment target) []).of_continue (t := assign) rfl
  | acted extent action => exact (completable_of_ready (add_phase _ _)).of_continue (t := semicolon) rfl
  | opening role keyword? => exact completable_opening { items, levels } role keyword?
  | chosen start condition yes => exact (settled_chosen { items, levels } start condition yes).completable
  | eachParen start =>
    exact completable_of_each { items, levels } (w := [opening, worm, comma, name.token, closing]) rfl
  | eachKind start =>
    exact completable_of_each { items, levels } (w := [worm, comma, name.token, closing]) rfl
  | eachComma start kindExtent kind =>
    exact completable_of_each { items, levels } (w := [comma, name.token, closing]) rfl
  | eachName start kindExtent kind =>
    exact completable_of_each { items, levels } (w := [name.token, closing]) rfl
  | eachClose start kindExtent kind target =>
    exact completable_of_each { items, levels } (w := [closing]) rfl

end Reader

namespace Grammar

/-- The tokens of a program of the grammar. -/
def IsProgram (tokens : List Token) : Prop := ∃ d, Derives (.rule .start) d ∧ d.tokens = tokens

/-- Some program of the grammar starts with the tokens. -/
def Viable (tokens : List Token) : Prop := ∃ more, IsProgram (tokens ++ more)

variable {tokens : List Token}

theorem isProgram_iff : IsProgram tokens ↔ ∃ r tree, Reader.feed? {} tokens = some r ∧ r.finish? = some tree := by
  constructor
  · rintro ⟨d, derives, rfl⟩
    obtain ⟨tree, read, -⟩ := readAll_of_derives derives default
    obtain ⟨-, r, fed, finished⟩ := Reader.exists_feed_of_readAll read
    exact ⟨r, tree, fed, finished⟩
  · rintro ⟨r, tree, fed, finished⟩
    exact (Reader.derives_of_readAll (Reader.readAll_of_feed? fed finished default)).2

/-- The reader accepts what some program starts with. -/
theorem viable_iff : Viable tokens ↔ ∃ r, Reader.feed? {} tokens = some r := by
  constructor
  · rintro ⟨more, program⟩
    obtain ⟨last, tree, fed, -⟩ := isProgram_iff.mp program
    rw [Reader.feed?_append] at fed
    obtain ⟨r, fedTokens, -⟩ := Option.bind_eq_some_iff.mp fed
    exact ⟨r, fedTokens⟩
  · rintro ⟨r, fed⟩
    obtain ⟨more, last, tree, fedMore, finished⟩ := r.completable
    exact ⟨more, isProgram_iff.mpr ⟨last, tree, by rw [Reader.feed?_append, fed]; exact fedMore, finished⟩⟩

end Grammar

end WormLang
