import WormLang.Proofs.Grammar.Statement

/-!
Programs with all their tokens. The outline of the only derivation of a program from the grammar is that of its tree.
-/
namespace WormLang

/-- An item of a program as its tokens say it. -/
inductive ItemPhrase where
  | declaration (ty : Ty) (typeExtent : Extent) (name : Word) (initial? : Option (Extent × ExprPhrase)) (last : Extent)
  | statement (s : StmtPhrase)

def Grammar.Alternative.declaration : Grammar.Alternative :=
  .plain [.rule .type, .token .name, .bracket (.symbol .assign) .expr, .sign .semicolon]

namespace ItemPhrase

open Grammar Grammar.Derivation

def tokens : ItemPhrase → List Token
  | declaration ty typeExtent name none last =>
    [(Keyword.type ty).token typeExtent, name.token, Symbol.semicolon.token last]
  | declaration ty typeExtent name (some (sign, e)) last =>
    (Keyword.type ty).token typeExtent :: name.token :: Symbol.assign.token sign ::
      (e.tokens ++ [Symbol.semicolon.token last])
  | statement s => s.tokens

def tree : ItemPhrase → ItemTree
  | declaration ty typeExtent name initial? last =>
    .declaration { start := typeExtent.start, stop := last.stop } typeExtent ty name
      (initial?.map fun initial => initial.2.operand.tree)
  | statement s => .statement s.tree

def Formed : ItemPhrase → Prop
  | declaration _ _ _ initial? _ => ∀ initial ∈ initial?, initial.2.Grouped
  | statement s => s.Formed

def rule : ItemPhrase → Rule
  | declaration .. => .declaration
  | statement _ => .statement

def own : ItemPhrase → Derivation
  | declaration ty typeExtent name initial? last =>
    .node .declaration .declaration
      [.node .type (.plain [.word (.type ty)]) [.token ((Keyword.type ty).token typeExtent)], .token name.token,
        (initial?.map fun initial => given (Symbol.assign.token initial.1) (initial.2.derivation 0)).getD .absent,
        .token (Symbol.semicolon.token last)]
  | statement s => s.derivation

/-- The derivation of an item from the rule for all of them. -/
def derivation (i : ItemPhrase) : Derivation := .node .item (.one i.rule) [i.own]

def program (items : List ItemPhrase) : ProgramTree := { items := items.map tree }

def start (items : List ItemPhrase) : Derivation :=
  .node .start (.plain [.many .item]) [.many (items.map derivation)]

variable {i : ItemPhrase} {items : List ItemPhrase}

theorem derives_own (formed : i.Formed) : Derives (.rule i.rule) i.own := by
  cases i with
  | declaration ty typeExtent name initial? last =>
    have type : Derives (.rule .type)
        (.node .type (.plain [.word (.type ty)]) [.token ((Keyword.type ty).token typeExtent)]) :=
      .rule (by cases ty <;> decide) (.cons (.token rfl) .nil)
    refine .rule (List.mem_singleton_self _)
      (.cons type (.cons (.token rfl) (.cons ?_ (.cons (.token rfl) .nil))))
    cases initial? with
    | none => exact .absent
    | some initial =>
      exact .given rfl (ExprPhrase.Fits.derives (n := 0) ⟨Nat.zero_le _, formed initial rfl⟩)
  | statement s => exact .rule s.pass_mem (.cons (s.derives_own formed) .nil)

theorem derives_start (formed : ∀ i ∈ items, i.Formed) : Derives (.rule .start) (start items) := by
  refine .rule (List.mem_singleton_self _) (.cons (.many fun d member => ?_) .nil)
  obtain ⟨i, inside, rfl⟩ := List.mem_map.mp member
  have among : .one i.rule ∈ Rule.item.alternatives := by
    cases i <;> simp [rule, Alternative.one, Rule.alternatives]
  exact .rule among (.cons (derives_own (formed i inside)) .nil)

theorem exists_type {d : Derivation} (derives : Derives (.rule .type) d) : ∃ (ty : Ty) (x : Extent),
    d = .node .type (.plain [.word (.type ty)]) [.token ((Keyword.type ty).token x)] := by
  obtain ⟨_, _, rfl, among, parts⟩ := derives_rule_iff.mp derives
  simp only [Rule.alternatives, List.mem_cons, List.not_mem_nil, or_false] at among
  obtain rfl | rfl | rfl := among <;>
    simp only [Alternative.plain, derivesAll_cons_iff, derivesAll_nil_iff, derives_word_iff] at parts <;>
    obtain ⟨_, _, rfl, ⟨x, rfl⟩, rfl⟩ := parts <;>
    exact ⟨_, x, rfl⟩

theorem exists_declaration {d : Derivation} (derives : Derives (.rule .declaration) d) :
    ∃ i : ItemPhrase, i.Formed ∧ i.rule = .declaration ∧ d = i.own := by
  obtain ⟨_, _, rfl, among, parts⟩ := derives_rule_iff.mp derives
  obtain rfl := List.mem_singleton.mp among
  simp only [Alternative.plain, derivesAll_cons_iff, derivesAll_nil_iff, derives_name_iff, derives_sign_iff,
    derives_bracket_iff] at parts
  obtain ⟨_, _, rfl, derivesType, _, _, rfl, ⟨name, rfl⟩, _, _, rfl, initial, _, _, rfl, ⟨last, rfl⟩, rfl⟩ := parts
  obtain ⟨ty, typeExtent, rfl⟩ := exists_type derivesType
  obtain rfl | ⟨l, same, sign, _, value, rfl⟩ := initial
  · exact ⟨.declaration ty typeExtent name none last, by simp [Formed], rfl, rfl⟩
  · obtain ⟨e, fits, rfl⟩ := ExprPhrase.exists_of_derives (n := 0) (by omega) value
    obtain rfl := Lexeme.terminal_eq_symbol.mp same
    exact ⟨.declaration ty typeExtent name (some (sign, e)) last, by simpa [Formed] using fits.2, rfl, rfl⟩

theorem exists_of_derives {d : Derivation} (derives : Derives (.rule .item) d) :
    ∃ i : ItemPhrase, i.Formed ∧ d = i.derivation := by
  obtain ⟨_, _, rfl, among, parts⟩ := derives_rule_iff.mp derives
  simp only [Rule.alternatives, List.mem_cons, List.not_mem_nil, or_false] at among
  obtain rfl | rfl := among
  · obtain ⟨inner, _, rfl, passed, nothing⟩ := derivesAll_cons_iff.mp parts
    obtain rfl := derivesAll_nil_iff.mp nothing
    obtain ⟨i, formed, same, rfl⟩ := exists_declaration passed
    exact ⟨i, formed, by rw [derivation, same]; rfl⟩
  · obtain ⟨inner, _, rfl, passed, nothing⟩ := derivesAll_cons_iff.mp parts
    obtain rfl := derivesAll_nil_iff.mp nothing
    obtain ⟨s, formed, rfl⟩ := StmtPhrase.exists_of_derives passed
    exact ⟨.statement s, formed, rfl⟩

/-- Nothing but programs is derived from the grammar. -/
theorem derives_start_iff {d : Derivation} :
    Derives (.rule .start) d ↔ ∃ items : List ItemPhrase, (∀ i ∈ items, i.Formed) ∧ d = start items := by
  constructor
  · intro derives
    obtain ⟨_, _, rfl, among, parts⟩ := derives_rule_iff.mp derives
    obtain rfl := List.mem_singleton.mp among
    simp only [Alternative.plain, derivesAll_cons_iff, derivesAll_nil_iff, derives_many_iff] at parts
    obtain ⟨_, _, rfl, ⟨ds, each, rfl⟩, rfl⟩ := parts
    obtain ⟨items, formed, rfl⟩ := exists_map_of_forall fun d member => exists_of_derives (each d member)
    exact ⟨items, formed, rfl⟩
  · rintro ⟨items, formed, rfl⟩
    exact derives_start formed

theorem tokens_derivation (i : ItemPhrase) : i.derivation.tokens = i.tokens := by
  cases i with
  | declaration ty typeExtent name initial? last =>
    cases initial? <;>
      simp [derivation, own, tokens, Derivation.tokens, tokensAll, ExprPhrase.tokens_derivation]
  | statement s =>
    simp [derivation, own, tokens, Derivation.tokens, tokensAll, StmtPhrase.derivation, StmtPhrase.tokens_own]

theorem tokens_start (items : List ItemPhrase) : (start items).tokens = items.flatMap tokens := by
  have all : (items.map derivation).flatMap Derivation.tokens = items.flatMap tokens := by
    rw [List.flatMap_map]
    exact List.flatMap_congr fun i _ => i.tokens_derivation
  rw [start, Derivation.tokens, tokensAll, tokensAll, Derivation.tokens, tokensAll_eq_flatMap, all, List.append_nil]

theorem spanning?_tokens (i : ItemPhrase) : Extent.spanning? i.tokens = some i.tree.extent := by
  cases i with
  | declaration ty typeExtent name initial? last =>
    cases initial? with
    | none => rfl
    | some initial =>
      exact Extent.spanning?_over _ (name.token :: Symbol.assign.token initial.1 :: initial.2.tokens)
        (Extent.spanning?_singleton _)
  | statement s => exact s.spanning?_tokens

/-- The tokens of a program lie between the two ends of its tree. -/
theorem spanning?_program (items : List ItemPhrase) :
    Extent.spanning? (items.flatMap tokens) = (program items).extent? := by
  induction items with
  | nil => rfl
  | cons i rest ih =>
    rw [List.flatMap_cons]
    cases rest with
    | nil => rw [List.flatMap_nil, List.append_nil, spanning?_tokens, program]; rfl
    | cons j more =>
      obtain ⟨last, same⟩ : ∃ last, (j.tree :: more.map tree).getLast? = some last :=
        ⟨_, List.getLast?_eq_some_getLast (List.cons_ne_nil _ _)⟩
      simp only [program, ProgramTree.extent?, List.map_cons, List.head?_cons, List.getLast?_cons_cons, same] at ih ⊢
      rw [Extent.spanning?_append i.spanning?_tokens ih]

theorem outlines_derivation (i : ItemPhrase) (keepsWords : Bool) :
    i.derivation.outlines keepsWords = [i.tree.outline] := by
  refine outlines_one rfl keepsWords _ ?_
  cases i with
  | declaration ty typeExtent name initial? last =>
    have whole := spanning?_tokens (.declaration ty typeExtent name initial? last)
    rw [← tokens_derivation, derivation, Derivation.tokens, tokensAll, tokensAll, List.append_nil] at whole
    refine outlines_plain rfl whole ?_ _
    cases initial? <;>
      simp [outlinesAll, outlines, Rule.keepsWords, Symbol.outline?_token, ExprPhrase.outlines_derivation] <;>
      rfl
  | statement s => exact StmtPhrase.outlines_derivation (s.outlines_own false) _

/-- The outline of a derived program. -/
theorem outlines_start (items : List ItemPhrase) (keepsWords : Bool) :
    (start items).outlines keepsWords = [(program items).outline] := by
  have whole := spanning?_program items
  rw [← tokens_start] at whole
  have all : (items.map derivation).flatMap (outlines false) = (program items).items.map ItemTree.outline := by
    rw [program, List.flatMap_map, List.map_map, List.map_eq_flatMap]
    exact List.flatMap_congr fun i _ => i.outlines_derivation false
  refine outlines_plain rfl whole ?_ keepsWords
  rw [outlinesAll, outlinesAll, outlines, outlinesAll_eq_flatMap, List.append_nil]
  exact all

end ItemPhrase

end WormLang
