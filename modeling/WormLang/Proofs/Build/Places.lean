import Mathlib.Order.Lattice
import WormLang.Proofs.Build.SourceOrder

/-!
Where the statements of a text stand. Tokens are cut one behind the other, so a statement starts in front of the
statements directly inside it, and these stand one behind the other in it. What is refused in its own expressions starts
in front of them too.
-/
namespace WormLang

/-- Marks are ordered as a text is read. -/
instance : Preorder Mark := Preorder.lift fun m => toLex (m.line, m.column)

namespace Mark

variable {m n : Mark}

theorem lt_iff_before : m < n ↔ m.Before n := Prod.Lex.toLex_lt_toLex

theorem lt_after (m : Mark) (c : Char) : m < m.after c := lt_iff_before.mpr (m.before_after c)

theorem lt_along (m : Mark) (extra : Nat) : m < { m with column := m.column + 1 + extra } :=
  lt_iff_before.mpr (m.before_along extra)

end Mark

/-- Tokens stand one behind the other. -/
structure Token.Laid (ts : List Token) : Prop where
  filled : ∀ t ∈ ts, t.start < t.stop
  apart : ts.Pairwise fun t u => t.stop ≤ u.start

/-- Tokens are cut one behind the other, from where cutting starts. -/
theorem Scan.laid_run (m : Mark) (cs : List Char) :
    (∀ t ∈ (run m cs).tokens, m ≤ t.start) ∧ Token.Laid (run m cs).tokens := by
  fun_induction run m cs with
  | case1 => exact ⟨List.forall_mem_nil _, List.forall_mem_nil _, .nil⟩
  | case2 m c rest space ih => exact ⟨fun t member => (m.lt_after c).le.trans (ih.1 t member), ih.2⟩
  | case3 m c rest noSpace starts comment ih =>
    exact ⟨fun t member => (m.lt_along _).le.trans (ih.1 t member), ih.2⟩
  | case4 => exact ⟨List.forall_mem_nil _, List.forall_mem_nil _, .nil⟩
  | case5 m c rest noSpace noComment l extra cut stop scan ih =>
    obtain ⟨behind, filled, apart⟩ := ih
    have ahead : m < stop := m.lt_along extra
    exact ⟨List.forall_mem_cons.mpr ⟨le_rfl, fun t member => ahead.le.trans (behind t member)⟩,
      List.forall_mem_cons.mpr ⟨ahead, filled⟩, List.pairwise_cons.mpr ⟨behind, apart⟩⟩

/-- A stretch of text holds the character at a mark. -/
def Extent.Holds (x : Extent) (m : Mark) : Prop := x.start ≤ m ∧ m < x.stop

namespace Token.Laid

variable {ts us : List Token} {x : Extent}

theorem sublist (laid : Laid ts) (less : us.Sublist ts) : Laid us :=
  ⟨fun t member => laid.filled t (less.subset member), laid.apart.sublist less⟩

/-- What some tokens span holds each of them. -/
theorem within (laid : Laid ts) (span : Extent.spanning? ts = some x) {t : Token} (member : t ∈ ts) :
    x.start ≤ t.start ∧ t.stop ≤ x.stop := by
  obtain ⟨first, last, head, getLast, rfl⟩ := Extent.spanning?_eq_some.mp span
  obtain ⟨rest, rfl⟩ := List.head?_eq_some_iff.mp head
  obtain ⟨front, whole⟩ := List.getLast?_eq_some_iff.mp getLast
  constructor
  · obtain rfl | behind := List.mem_cons.mp member
    · exact le_rfl
    · exact (laid.filled first List.mem_cons_self).le.trans ((List.pairwise_cons.mp laid.apart).1 t behind)
  · rw [whole] at laid member
    obtain ahead | same := List.mem_append.mp member
    · have before := (List.pairwise_append.mp laid.apart).2.2 t ahead last (List.mem_singleton_self _)
      exact before.trans (laid.filled last (by simp)).le
    · rw [List.mem_singleton.mp same]

end Token.Laid

/-- What tokens span starts and stops with one of them. -/
theorem Extent.exists_ends {ts : List Token} {x : Extent} (span : spanning? ts = some x) :
    (∃ t ∈ ts, x.start = t.start) ∧ ∃ t ∈ ts, x.stop = t.stop := by
  obtain ⟨first, last, head, getLast, rfl⟩ := spanning?_eq_some.mp span
  exact ⟨⟨first, List.mem_of_head? head, rfl⟩, last, List.mem_of_getLast? getLast, rfl⟩

variable {declared : List (String × Ty)}

/-- What is refused in an expression starts with one of its tokens. -/
theorem ExprPhrase.exists_token_of_refused (e : ExprPhrase) {m : Mistake}
    (refused : m ∈ e.operand.tree.refusals declared) : ∃ t ∈ e.tokens, m.extent.start = t.start := by
  have whole : ∀ e : ExprPhrase, ∀ {cause? : Option Cause}, m ∈ mistakeOf e.operand.extent cause? →
      ∃ t ∈ e.tokens, m.extent.start = t.start := by
    intro e cause? own
    obtain ⟨cause, -, rfl⟩ := StmtTree.mem_mistakeOf.mp own
    exact (Extent.exists_ends e.spanning?_tokens).1
  induction e with
  | atom a x => cases a <;> exact whole (.atom _ x) refused
  | paren opening inner closing ih =>
    obtain ⟨t, member, start⟩ := ih refused
    exact ⟨t, by simp [tokens, member], start⟩
  | call f word opening argument closing ih =>
    obtain inside | own := List.mem_append.mp refused
    · obtain ⟨t, member, start⟩ := ih inside
      exact ⟨t, by simp [tokens, member], start⟩
    · exact whole (.call f word opening argument closing) own
  | unary op sign operand ih =>
    obtain inside | own := List.mem_append.mp refused
    · obtain ⟨t, member, start⟩ := ih inside
      exact ⟨t, by simp [tokens, member], start⟩
    · exact whole (.unary op sign operand) own
  | binary op left sign right ihLeft ihRight =>
    obtain inside | own := List.mem_append.mp refused
    · obtain inside | inside := List.mem_append.mp inside
      · obtain ⟨t, member, start⟩ := ihLeft inside
        exact ⟨t, by simp [tokens, member], start⟩
      · obtain ⟨t, member, start⟩ := ihRight inside
        exact ⟨t, by simp [tokens, member], start⟩
    · exact whole (.binary op left sign right) own

namespace StmtTree

/-- A statement starts in front of the statements directly inside it, which stand one behind the other, and what its
own expressions are refused for starts in front of them too. -/
structure Lies (declared : List (String × Ty)) (s : StmtTree) : Prop where
  filled : s.extent.start < s.extent.stop
  inside : ∀ c ∈ s.children, s.extent.start < c.extent.start ∧ c.extent.stop ≤ s.extent.stop
  apart : s.children.Pairwise fun c d => c.extent.stop ≤ d.extent.start
  own : ∀ e ∈ s.expressions, ∀ m ∈ e.refusals declared,
    s.extent.Holds m.extent.start ∧ ∀ c ∈ s.children, m.extent.start < c.extent.start

/-- A statement and all statements inside it lie as they should. -/
def Spread (declared : List (String × Ty)) (s : StmtTree) : Prop := ∀ u ∈ s.walk, u.Lies declared

/-- A statement lies as its tokens do: its own ones in front, and then groups for the statements directly inside. -/
theorem lies_of_tokens {s : StmtTree} {front rest : List Token} {groups : List (List Token × StmtTree)}
    (laid : Token.Laid (front ++ rest)) (span : Extent.spanning? (front ++ rest) = some s.extent) (starts : front ≠ [])
    (own : ∀ e ∈ s.expressions, ∀ m ∈ e.refusals declared, ∃ t ∈ front, m.extent.start = t.start)
    (among : (groups.flatMap Prod.fst).Sublist rest) (children : s.children = groups.map Prod.snd)
    (spans : ∀ g ∈ groups, Extent.spanning? g.1 = some g.2.extent) : s.Lies declared := by
  obtain ⟨first, leads⟩ := List.exists_mem_of_ne_nil front starts
  have within : ∀ t ∈ front ++ rest, s.extent.start ≤ t.start ∧ t.stop ≤ s.extent.stop :=
    fun t member => laid.within span member
  have filled : ∀ t ∈ front, s.extent.start ≤ t.start ∧ t.start < s.extent.stop := by
    intro t member
    have both := within t (List.mem_append_left _ member)
    exact ⟨both.1, (laid.filled t (List.mem_append_left _ member)).trans_le both.2⟩
  have inRest : ∀ g ∈ groups, ∀ t ∈ g.1, t ∈ rest :=
    fun g member t inside => among.subset (List.mem_flatMap.mpr ⟨g, member, inside⟩)
  obtain ⟨-, laidRest, between⟩ := List.pairwise_append.mp laid.apart
  have ahead : ∀ t ∈ front, ∀ g ∈ groups, t.start < g.2.extent.start := by
    intro t member g child
    obtain ⟨⟨u, inside, start⟩, -⟩ := Extent.exists_ends (spans g child)
    rw [start]
    exact (laid.filled t (List.mem_append_left _ member)).trans_le (between t member u (inRest g child u inside))
  refine ⟨(filled first leads).1.trans_lt (filled first leads).2, ?_, ?_, fun e given m refused => ?_⟩
  · rw [children]
    refine List.forall_mem_map.mpr fun g child => ⟨(filled first leads).1.trans_lt (ahead first leads g child), ?_⟩
    obtain ⟨-, t, inside, stop⟩ := Extent.exists_ends (spans g child)
    rw [stop]
    exact (within t (List.mem_append_right _ (inRest g child t inside))).2
  · rw [children, List.pairwise_map]
    refine (List.pairwise_flatMap.mp (laidRest.sublist among)).2.imp_of_mem fun {g h} child other behind => ?_
    obtain ⟨-, t, inG, stop⟩ := Extent.exists_ends (spans g child)
    obtain ⟨⟨u, inH, start⟩, -⟩ := Extent.exists_ends (spans h other)
    rw [stop, start]
    exact behind t inG u inH
  · obtain ⟨t, member, start⟩ := own e given m refused
    rw [start, children]
    exact ⟨filled t member, List.forall_mem_map.mpr (ahead t member)⟩

/-- A statement and all statements inside it lie as their tokens do. -/
theorem spread_of_tokens {s : StmtTree} {tokens : List Token} (front rest : List Token)
    (groups : List (List Token × StmtTree)) (laid : Token.Laid tokens) (span : Extent.spanning? tokens = some s.extent)
    (whole : tokens = front ++ rest) (starts : front ≠ [])
    (own : ∀ e ∈ s.expressions, ∀ m ∈ e.refusals declared, ∃ t ∈ front, m.extent.start = t.start)
    (among : (groups.flatMap Prod.fst).Sublist rest) (children : s.children = groups.map Prod.snd)
    (ih : ∀ g ∈ groups, Extent.spanning? g.1 = some g.2.extent ∧ (Token.Laid g.1 → g.2.Spread declared)) :
    s.Spread declared := by
  subst whole
  intro u walked
  rw [walk_eq, children] at walked
  obtain rfl | deeper := List.mem_cons.mp walked
  · exact lies_of_tokens laid span starts own among children fun g member => (ih g member).1
  · obtain ⟨c, child, inside⟩ := List.mem_flatMap.mp deeper
    obtain ⟨g, member, rfl⟩ := List.mem_map.mp child
    have group : g.1 <:+: groups.flatMap Prod.fst := List.infix_of_mem_flatten (List.mem_map_of_mem member)
    have less : g.1.Sublist (front ++ rest) := group.sublist.trans (among.trans (List.sublist_append_right _ _))
    exact (ih g member).2 (laid.sublist less) u inside

/-- A statement without statements inside it lies as its tokens do. -/
theorem spread_of_leaf {s : StmtTree} {tokens : List Token} (laid : Token.Laid tokens)
    (span : Extent.spanning? tokens = some s.extent)
    (own : ∀ e ∈ s.expressions, ∀ m ∈ e.refusals declared, ∃ t ∈ tokens, m.extent.start = t.start)
    (leaf : s.children = []) : s.Spread declared := by
  have starts : tokens ≠ [] := by
    rintro rfl
    cases span
  exact spread_of_tokens tokens [] [] laid span (List.append_nil _).symm starts own .slnil leaf nofun

end StmtTree

/-- What the expression of a statement is refused for starts with a token of it. -/
theorem ExprPhrase.owned (e : ExprPhrase) {tokens : List Token} (among : e.tokens ⊆ tokens) :
    ∀ f ∈ [e.operand.tree], ∀ m ∈ f.refusals declared, ∃ t ∈ tokens, m.extent.start = t.start := by
  intro f same m refused
  rw [List.mem_singleton.mp same] at refused
  obtain ⟨t, member, start⟩ := e.exists_token_of_refused refused
  exact ⟨t, among member, start⟩

namespace StmtPhrase

/-- A statement with its tokens. -/
def group (s : StmtPhrase) : List Token × StmtTree := (s.tokens, s.tree)

/-- What is read lies as its tokens do. -/
theorem spread (s : StmtPhrase) : Token.Laid s.tokens → s.tree.Spread declared := by
  induction s using phrase_induction with
  | block opening body closing ih =>
    intro laid
    have span := spanning?_tokens (block opening body closing)
    have among : ((body.map group).flatMap Prod.fst).Sublist (tokensAll body ++ [Symbol.closeBrace.token closing]) := by
      rw [List.flatMap_map, tokensAll_eq_flatMap]
      exact List.sublist_append_left _ _
    have children : (trees body) = (body.map group).map Prod.snd := by
      rw [List.map_map, trees_eq_map]
      rfl
    exact StmtTree.spread_of_tokens [Symbol.openBrace.token opening] _ (body.map group) laid span rfl
      (List.cons_ne_nil _ _) (List.forall_mem_nil _) among children
      (List.forall_mem_map.mpr fun s member => ⟨s.spanning?_tokens, ih s member⟩)
  | assignment name sign e last? =>
    intro laid
    have span := spanning?_tokens (assignment name sign e last?)
    exact StmtTree.spread_of_leaf laid span (e.owned fun t member => by simp [tokens, member]) rfl
  | command c word e last? =>
    intro laid
    have span := spanning?_tokens (command c word e last?)
    have among : e.tokens ⊆ (command c word e last?).tokens := fun t member => by simp [tokens, member]
    cases c <;> exact StmtTree.spread_of_leaf laid span (e.owned among) rfl
  | simple a word last? =>
    intro laid
    exact StmtTree.spread_of_leaf laid (spanning?_tokens (simple a word last?)) (List.forall_mem_nil _) rfl
  | branch word c then? yes ih =>
    intro laid
    have span := spanning?_tokens (branch word c then? yes)
    exact StmtTree.spread_of_tokens
      (Keyword.ifWord.token word :: (c.tokens ++ Lexeme.optional (.keyword .thenWord) then?)) yes.tokens [yes.group]
      laid span (by simp [tokens]) (List.cons_ne_nil _ _) (c.owned fun t member => by simp [member]) (by simp [group])
      rfl (List.forall_mem_singleton.mpr ⟨yes.spanning?_tokens, ih⟩)
  | branchElse word c then? yes other no ihYes ihNo =>
    intro laid
    have span := spanning?_tokens (branchElse word c then? yes other no)
    exact StmtTree.spread_of_tokens
      (Keyword.ifWord.token word :: (c.tokens ++ Lexeme.optional (.keyword .thenWord) then?))
      (yes.tokens ++ Keyword.elseWord.token other :: no.tokens) [yes.group, no.group] laid span (by simp [tokens])
      (List.cons_ne_nil _ _) (c.owned fun t member => by simp [member]) (by simp [group]) rfl
      (List.forall_mem_cons.mpr ⟨⟨yes.spanning?_tokens, ihYes⟩,
        List.forall_mem_singleton.mpr ⟨no.spanning?_tokens, ihNo⟩⟩)
  | loop word c do? body ih =>
    intro laid
    have span := spanning?_tokens (loop word c do? body)
    exact StmtTree.spread_of_tokens
      (Keyword.whileWord.token word :: (c.tokens ++ Lexeme.optional (.keyword .doWord) do?)) body.tokens [body.group]
      laid span (by simp [tokens]) (List.cons_ne_nil _ _) (c.owned fun t member => by simp [member]) (by simp [group])
      rfl (List.forall_mem_singleton.mpr ⟨body.spanning?_tokens, ih⟩)
  | each word opening kind kindExtent comma name closing do? body ih =>
    intro laid
    have span := spanning?_tokens (each word opening kind kindExtent comma name closing do? body)
    exact StmtTree.spread_of_tokens
      (Keyword.foreach.token word :: Symbol.openParen.token opening :: (Keyword.kind kind).token kindExtent ::
        Symbol.comma.token comma :: name.token :: Symbol.closeParen.token closing ::
        Lexeme.optional (.keyword .doWord) do?)
      body.tokens [body.group] laid span (by simp [tokens]) (List.cons_ne_nil _ _) (List.forall_mem_nil _)
      (by simp [group]) rfl (List.forall_mem_singleton.mpr ⟨body.spanning?_tokens, ih⟩)

end StmtPhrase

namespace StmtTree

variable {s t u : StmtTree} {m n : Mistake}

theorem Spread.child (spread : t.Spread declared) (child : s ∈ t.children) : s.Spread declared :=
  fun u inside => spread u (mem_walk_of_child child inside)

/-- A statement inside another one lies within it. -/
theorem Spread.within (spread : t.Spread declared) (inside : s ∈ t.walk) :
    t.extent.start ≤ s.extent.start ∧ s.extent.stop ≤ t.extent.stop := by
  induction t using child_induction with
  | step t ih =>
    rw [walk_eq] at inside
    obtain rfl | deeper := List.mem_cons.mp inside
    · exact ⟨le_rfl, le_rfl⟩
    · obtain ⟨c, child, inner⟩ := List.mem_flatMap.mp deeper
      have outer := (spread t t.mem_walk_self).inside c child
      have both := ih c child (spread.child child) inner
      exact ⟨outer.1.le.trans both.1, both.2.trans outer.2⟩

/-- What is refused in a statement starts within it. -/
theorem Spread.holds (spread : t.Spread declared) (refused : m ∈ t.refusals declared) :
    t.extent.Holds m.extent.start := by
  induction t using child_induction with
  | step t ih =>
    have lies := spread t t.mem_walk_self
    obtain ⟨e, given, inside⟩ | ⟨c, child, inside⟩ | own := mem_refusals_iff.mp refused
    · exact (lies.own e given m inside).1
    · have outer := lies.inside c child
      have both := ih c child (spread.child child) inside
      exact ⟨outer.1.le.trans both.1, both.2.trans_le outer.2⟩
    · obtain ⟨cause, -, rfl⟩ := mem_mistakeOf.mp own
      exact ⟨le_rfl, lies.filled⟩

/-- Statements directly inside another one that hold the same mark are the same. -/
theorem Lies.eq_of_holds (lies : t.Lies declared) {c d : StmtTree} (first : c ∈ t.children) (second : d ∈ t.children)
    {m : Mark} (holds : c.extent.Holds m) (also : d.extent.Holds m) : c = d := by
  have apart : ∀ {c d : StmtTree}, c.extent.stop ≤ d.extent.start → c.extent.Holds m → ¬ d.extent.Holds m :=
    fun behind holds also => absurd (holds.2.trans_le (behind.trans also.1)) (lt_irrefl m)
  exact List.Pairwise.forall_of_forall_of_flip (R := fun c d => c.extent.Holds m → d.extent.Holds m → c = d)
    (fun c _ _ _ => rfl) (lies.apart.imp fun behind holds also => absurd also (apart behind holds))
    (lies.apart.imp fun behind holds also => absurd holds (apart behind also)) first second holds also

/-- The statement inside that holds a mark holds every statement inside that does. -/
theorem Spread.eq_or_mem_walk (spread : t.Spread declared) {c : StmtTree} (child : c ∈ t.children) {m : Mark}
    (holds : c.extent.Holds m) (inside : s ∈ t.walk) (also : s.extent.Holds m) : s = t ∨ s ∈ c.walk := by
  rw [walk_eq] at inside
  obtain same | deeper := List.mem_cons.mp inside
  · exact .inl same
  · obtain ⟨d, other, inner⟩ := List.mem_flatMap.mp deeper
    have both := (spread.child other).within inner
    have outer : d.extent.Holds m := ⟨both.1.trans also.1, also.2.trans_le both.2⟩
    rw [(spread t t.mem_walk_self).eq_of_holds child other holds outer]
    exact .inr inner

end StmtTree

/-- The outermost statements of an item. The first value of a declaration is given by one. -/
def ItemTree.roots : ItemTree → List StmtTree
  | declaration extent _ _ name (some e) => [.assignment extent name e]
  | declaration _ _ _ _ none => []
  | statement s => [s]

def ProgramTree.roots (p : ProgramTree) : List StmtTree := p.items.flatMap ItemTree.roots

theorem ItemTree.refusals_eq (item : ItemTree) :
    item.refusals declared = item.roots.flatMap (StmtTree.refusals declared) := by
  cases item with
  | statement s => exact (List.append_nil _).symm
  | declaration extent typeExtent t name initial? =>
    cases initial? with
    | none => rfl
    | some e => exact (List.append_nil _).symm

/-- The outermost statement of an item lies as the tokens of the item do. -/
theorem ItemPhrase.spread (i : ItemPhrase) {s : StmtTree} (root : s ∈ i.tree.roots) :
    Extent.spanning? i.tokens = some s.extent ∧ (Token.Laid i.tokens → s.Spread declared) := by
  have span := i.spanning?_tokens
  cases i with
  | statement p =>
    obtain rfl := List.mem_singleton.mp root
    exact ⟨span, p.spread⟩
  | declaration ty typeExtent name initial? last =>
    cases initial? with
    | none => cases root
    | some initial =>
      obtain rfl := List.mem_singleton.mp root
      have among : initial.2.tokens ⊆ (declaration ty typeExtent name (some initial) last).tokens :=
        fun t member => by simp [tokens, member]
      exact ⟨span, fun laid => StmtTree.spread_of_leaf laid span (initial.2.owned among) rfl⟩

/-- The outermost statements of an item that was read, with the tokens of the item. -/
def ItemPhrase.groups (i : ItemPhrase) : List (List Token × StmtTree) := i.tree.roots.map fun s => (i.tokens, s)

theorem ItemPhrase.groups_sublist (i : ItemPhrase) : (i.groups.flatMap Prod.fst).Sublist i.tokens := by
  cases i with
  | statement s => simp [groups, tree, ItemTree.roots]
  | declaration ty typeExtent name initial? last => cases initial? <;> simp [groups, tree, ItemTree.roots]

namespace ProgramTree

variable {source : String} {tree : ProgramTree}

/-- The outermost statements of a text lie as those of a block do. -/
theorem exists_spread (read : parse source = .ok tree) :
    ∃ extent, (StmtTree.block extent tree.roots).Spread declared := by
  obtain ⟨items, tokens, rfl⟩ := exists_items_of_parse read
  -- A brace in front of the first line makes the whole text a block.
  let brace : Token := Symbol.openBrace.token { start := ⟨0, 0⟩, stop := ⟨1, 1⟩ }
  have front : brace.start < brace.stop := by decide
  obtain ⟨behind, filled, apart⟩ := Scan.laid_run ⟨1, 1⟩ source.toList
  have laid : Token.Laid (brace :: (Scan.ofText source).tokens) :=
    ⟨List.forall_mem_cons.mpr ⟨front, filled⟩, List.pairwise_cons.mpr ⟨behind, apart⟩⟩
  rw [← tokens] at laid
  obtain ⟨extent, span⟩ : ∃ extent, Extent.spanning? (brace :: items.flatMap ItemPhrase.tokens) = some extent := by
    simp [Extent.spanning?_eq_some, List.getLast?_cons]
  refine ⟨extent, StmtTree.spread_of_tokens [brace] _ (items.flatMap ItemPhrase.groups) laid span rfl
    (List.cons_ne_nil _ _) nofun ?_ ?_ fun g member => ?_⟩
  · rw [List.flatMap_assoc]
    exact List.Sublist.flatMap_right items fun i _ => i.groups_sublist
  · simp [StmtTree.children, roots, ItemPhrase.program, ItemPhrase.groups, List.flatMap_map, List.map_flatMap,
      Function.comp_def]
  · obtain ⟨i, -, inside⟩ := List.mem_flatMap.mp member
    obtain ⟨s, root, rfl⟩ := List.mem_map.mp inside
    exact i.spread root

end ProgramTree

end WormLang
