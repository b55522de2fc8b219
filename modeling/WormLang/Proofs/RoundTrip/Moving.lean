import WormLang.Proofs.Build.SourceOrder

/-!
Text at other places. A phrase stays what it is when its tokens are moved, and so does its tree, but for its places. So
two texts that are cut into the same lexemes are both read or both not, and their trees differ in their places only.
-/
namespace WormLang

/-- No place in particular. -/
def Extent.nowhere : Extent := { start := ⟨0, 0⟩, stop := ⟨0, 0⟩ }

def Word.bare (w : Word) : Word := { w with extent := .nowhere }

def ExprTree.bare : ExprTree → ExprTree
  | number _ text => number .nowhere text
  | truth _ b => truth .nowhere b
  | null _ => null .nowhere
  | self _ => self .nowhere
  | name _ text => name .nowhere text
  | unary _ op operand => unary .nowhere op operand.bare
  | call _ f argument => call .nowhere f argument.bare
  | binary _ op left right => binary .nowhere op left.bare right.bare

namespace StmtTree

mutual

def bare : StmtTree → StmtTree
  | block _ body => block .nowhere (bareAll body)
  | assignment _ name e => assignment .nowhere name.bare e.bare
  | print _ e => print .nowhere e.bare
  | turn _ e => turn .nowhere e.bare
  | fire _ e => fire .nowhere e.bare
  | simple _ a => simple .nowhere a
  | branch _ c yes => branch .nowhere c.bare yes.bare
  | branchElse _ c yes no => branchElse .nowhere c.bare yes.bare no.bare
  | loop _ c body => loop .nowhere c.bare body.bare
  | each _ _ kind name body => each .nowhere .nowhere kind name.bare body.bare

def bareAll : List StmtTree → List StmtTree
  | [] => []
  | s :: rest => s.bare :: bareAll rest

end

theorem bareAll_eq_map (body : List StmtTree) : bareAll body = body.map bare := by
  induction body with
  | nil => rfl
  | cons s rest ih => rw [bareAll, ih, List.map_cons]

end StmtTree

def ItemTree.bare : ItemTree → ItemTree
  | declaration _ _ t name initial? => declaration .nowhere .nowhere t name.bare (initial?.map ExprTree.bare)
  | statement s => statement s.bare

def ProgramTree.bare (p : ProgramTree) : ProgramTree := { items := p.items.map ItemTree.bare }

section Move

variable (f : Extent → Extent)

def Token.move (t : Token) : Token := { t with extent := f t.extent }

def Word.move (w : Word) : Word := { w with extent := f w.extent }

def ExprPhrase.move : ExprPhrase → ExprPhrase
  | atom a x => atom a (f x)
  | paren opening inner closing => paren (f opening) inner.move (f closing)
  | call g word opening argument closing => call g (f word) (f opening) argument.move (f closing)
  | unary op sign operand => unary op (f sign) operand.move
  | binary op left sign right => binary op left.move (f sign) right.move

namespace StmtPhrase

mutual

def move : StmtPhrase → StmtPhrase
  | block opening body closing => block (f opening) (moveAll body) (f closing)
  | assignment name sign e last? => assignment (name.move f) (f sign) (e.move f) (last?.map f)
  | command c word e last? => command c (f word) (e.move f) (last?.map f)
  | simple a word last? => simple a (f word) (last?.map f)
  | branch word c then? yes => branch (f word) (c.move f) (then?.map f) yes.move
  | branchElse word c then? yes other no =>
    branchElse (f word) (c.move f) (then?.map f) yes.move (f other) no.move
  | loop word c do? body => loop (f word) (c.move f) (do?.map f) body.move
  | each word opening kind kindExtent comma name closing do? body =>
    each (f word) (f opening) kind (f kindExtent) (f comma) (name.move f) (f closing) (do?.map f) body.move

def moveAll : List StmtPhrase → List StmtPhrase
  | [] => []
  | s :: rest => s.move :: moveAll rest

end

theorem moveAll_eq_map (body : List StmtPhrase) : moveAll f body = body.map (move f) := by
  induction body with
  | nil => rfl
  | cons s rest ih => rw [moveAll, ih, List.map_cons]

end StmtPhrase

def ItemPhrase.move : ItemPhrase → ItemPhrase
  | declaration ty typeExtent name initial? last =>
    declaration ty (f typeExtent) (name.move f) (initial?.map fun initial => (f initial.1, initial.2.move f)) (f last)
  | statement s => statement (s.move f)

variable {f}

theorem Lexeme.move_token (l : Lexeme) (x : Extent) : (l.token x).move f = l.token (f x) := rfl

theorem Keyword.move_token (k : Keyword) (x : Extent) : (k.token x).move f = k.token (f x) := rfl

theorem Symbol.move_token (s : Symbol) (x : Extent) : (s.token x).move f = s.token (f x) := rfl

theorem Word.move_token (w : Word) : w.token.move f = (w.move f).token := rfl

theorem Lexeme.move_optional (l : Lexeme) (x? : Option Extent) :
    (l.optional x?).map (Token.move f) = l.optional (x?.map f) := by
  cases x? <;> rfl

namespace ExprPhrase

theorem tokens_move (e : ExprPhrase) : (e.move f).tokens = e.tokens.map (Token.move f) := by
  induction e with
  | atom => rfl
  | paren opening inner closing ih | call g word opening inner closing ih =>
    simp [move, tokens, ih, Symbol.move_token, Keyword.move_token]
  | unary op sign operand ih => simp [move, tokens, ih, Lexeme.move_token]
  | binary op left sign right ihLeft ihRight => simp [move, tokens, ihLeft, ihRight, Lexeme.move_token]

theorem level_move (e : ExprPhrase) : (e.move f).level = e.level := by
  cases e <;> rfl

theorem grouped_move (e : ExprPhrase) : (e.move f).Grouped ↔ e.Grouped := by
  induction e with
  | atom => rfl
  | paren opening inner closing ih | call g word opening inner closing ih => exact ih
  | unary op sign operand ih => simp only [move, Grouped, level_move, ih]
  | binary op left sign right ihLeft ihRight => simp only [move, Grouped, level_move, ihLeft, ihRight]

theorem bare_move (e : ExprPhrase) : (e.move f).operand.tree.bare = e.operand.tree.bare := by
  induction e with
  | atom a => cases a <;> rfl
  | paren opening inner closing ih => exact ih
  | call g word opening argument closing ih => exact congrArg (ExprTree.call .nowhere g) ih
  | unary op sign operand ih => exact congrArg (ExprTree.unary .nowhere op) ih
  | binary op left sign right ihLeft ihRight => exact congrArg₂ (ExprTree.binary .nowhere op) ihLeft ihRight

end ExprPhrase

namespace StmtPhrase

theorem tokens_move (s : StmtPhrase) : (s.move f).tokens = s.tokens.map (Token.move f) := by
  induction s using phrase_induction with
  | block opening body closing ih =>
    have inside : (body.map (move f)).flatMap tokens = (body.flatMap tokens).map (Token.move f) := by
      rw [List.flatMap_map, List.map_flatMap]
      exact List.flatMap_congr ih
    simp [move, tokens, moveAll_eq_map, tokensAll_eq_flatMap, inside, Symbol.move_token]
  | _ =>
    simp [move, tokens, ExprPhrase.tokens_move, Lexeme.move_optional, Symbol.move_token, Keyword.move_token,
      Word.move_token, *]

theorem isBlock_move (s : StmtPhrase) : (s.move f).isBlock = s.isBlock := by
  cases s <;> rfl

theorem formed_move (s : StmtPhrase) : (s.move f).Formed ↔ s.Formed := by
  induction s using phrase_induction with
  | block opening body closing ih =>
    simp only [move, Formed, moveAll_eq_map, formedAll_iff, List.forall_mem_map]
    exact forall₂_congr ih
  | _ => simp only [move, Formed, ExprPhrase.grouped_move, isBlock_move, *]

theorem bare_move (s : StmtPhrase) : (s.move f).tree.bare = s.tree.bare := by
  induction s using phrase_induction with
  | block opening body closing ih =>
    simp only [move, tree, StmtTree.bare, moveAll_eq_map, trees_eq_map, StmtTree.bareAll_eq_map, List.map_map]
    exact congrArg (StmtTree.block .nowhere) (List.map_congr_left ih)
  | command c => cases c <;> simp [move, tree, Command.tree, StmtTree.bare, ExprPhrase.bare_move]
  | _ => simp [move, tree, StmtTree.bare, ExprPhrase.bare_move, Word.move, Word.bare, *]

end StmtPhrase

namespace ItemPhrase

theorem tokens_move (i : ItemPhrase) : (i.move f).tokens = i.tokens.map (Token.move f) := by
  cases i with
  | statement s => exact s.tokens_move
  | declaration ty typeExtent name initial? last =>
    cases initial? <;>
      simp [move, tokens, ExprPhrase.tokens_move, Symbol.move_token, Keyword.move_token, Word.move_token]

theorem formed_move (i : ItemPhrase) : (i.move f).Formed ↔ i.Formed := by
  cases i with
  | statement s => exact s.formed_move
  | declaration ty typeExtent name initial? last => cases initial? <;> simp [move, Formed, ExprPhrase.grouped_move]

theorem bare_move (i : ItemPhrase) : (i.move f).tree.bare = i.tree.bare := by
  cases i with
  | statement s => exact congrArg ItemTree.statement s.bare_move
  | declaration ty typeExtent name initial? last =>
    cases initial? <;> simp [move, tree, ItemTree.bare, ExprPhrase.bare_move, Word.move, Word.bare]

end ItemPhrase

end Move

/-- Different things can be mapped to any others. -/
theorem exists_map_eq {α β : Type} [DecidableEq α] (other : β) {xs : List α} (ys : List β) (distinct : xs.Nodup)
    (size : xs.length = ys.length) : ∃ f : α → β, xs.map f = ys := by
  induction xs generalizing ys with
  | nil => exact ⟨fun _ => other, (List.length_eq_zero_iff.mp size.symm).symm⟩
  | cons x xs ih =>
    obtain ⟨fresh, distinct⟩ := List.nodup_cons.mp distinct
    obtain ⟨y, ys, rfl⟩ := List.exists_cons_of_length_eq_add_one size.symm
    obtain ⟨f, same⟩ := ih ys distinct (Nat.succ.inj size)
    refine ⟨Function.update f x y, ?_⟩
    rw [List.map_cons, Function.update_self, ← same]
    refine congrArg (y :: ·) (List.map_congr_left fun z member => Function.update_of_ne ?_ _ _)
    rintro rfl
    exact fresh member

/-- Tokens with the same lexemes at the same places are the same. -/
theorem Token.eq_of_maps {ts us : List Token} (lexemes : ts.map lexeme = us.map lexeme)
    (extents : ts.map extent = us.map extent) : ts = us := by
  induction ts generalizing us with
  | nil => exact (List.map_eq_nil_iff.mp lexemes.symm).symm
  | cons t rest ih =>
    obtain ⟨u, others, rfl, first, lexemes⟩ := List.map_eq_cons_iff.mp lexemes.symm
    obtain ⟨place, extents⟩ := List.cons.inj extents
    rw [ih lexemes.symm extents, show t = u by cases t; cases u; simp_all]

namespace Scan

/-- No two tokens of a text stand at the same place. -/
theorem nodup_extents (source : String) : ((ofText source).tokens.map Token.extent).Nodup := by
  refine List.pairwise_map.mpr ((before_run ⟨1, 1⟩ source.toList).2.imp fun {t u} before same => ?_)
  have place : t.start = u.start := congrArg Extent.start same
  rw [place, Mark.Before] at before
  omega

/-- Tokens of a text can be moved to those of another text with the same lexemes. -/
theorem exists_move {source other : String}
    (same : (ofText other).tokens.map Token.lexeme = (ofText source).tokens.map Token.lexeme) :
    ∃ f, (ofText source).tokens.map (Token.move f) = (ofText other).tokens := by
  have size : (ofText other).tokens.length = (ofText source).tokens.length := by
    simpa using congrArg List.length same
  obtain ⟨f, moved⟩ := exists_map_eq Extent.nowhere ((ofText other).tokens.map Token.extent) (nodup_extents source)
    (by simp [size])
  refine ⟨f, Token.eq_of_maps ?_ ?_⟩
  · rw [List.map_map]
    exact same.symm
  · rw [List.map_map] at moved ⊢
    exact moved

end Scan

/-- A text with the lexemes of a program is a program, and its tree is the same but for its places. -/
theorem ProgramTree.exists_parse_of_lexemes {source other : String} {tree : ProgramTree}
    (read : ProgramTree.parse source = .ok tree)
    (same : (Scan.ofText other).tokens.map Token.lexeme = (Scan.ofText source).tokens.map Token.lexeme)
    (whole : (Scan.ofText other).stray? = none) :
    ∃ tree', ProgramTree.parse other = .ok tree' ∧ tree'.bare = tree.bare := by
  obtain ⟨items, formed, tokens, -, rfl⟩ := exists_formed_of_parse read
  obtain ⟨f, moved⟩ := Scan.exists_move same
  have formedThere : ∀ i ∈ items.map (ItemPhrase.move f), i.Formed :=
    List.forall_mem_map.mpr fun i member => i.formed_move.mpr (formed i member)
  have tokensThere : (items.map (ItemPhrase.move f)).flatMap ItemPhrase.tokens = (Scan.ofText other).tokens := by
    rw [← moved, ← tokens, List.flatMap_map, List.map_flatMap]
    exact List.flatMap_congr fun i _ => i.tokens_move
  obtain ⟨r, fed, finished⟩ := ItemPhrase.feed?_program formedThere
  rw [tokensThere] at fed
  refine ⟨ItemPhrase.program (items.map (ItemPhrase.move f)), ?_, ?_⟩
  · rw [ProgramTree.parse, whole]
    exact Reader.readAll_of_feed? fed finished _
  · simp only [bare, ItemPhrase.program, List.map_map]
    exact congrArg ProgramTree.mk (List.map_congr_left fun i _ => i.bare_move)

end WormLang
