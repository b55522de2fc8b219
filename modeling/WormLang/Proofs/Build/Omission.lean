import WormLang.Proofs.Build.Reporting
import WormLang.Proofs.Grammar.Sound

/-!
What a report leaves out. An action in a loop over entities is always reported, though not always at the loop: where it
does not show, because it is refused itself or stands in something that is refused, that is reported instead. What is
wrong with respect to all declarations is reported only if every node could be made.
-/
namespace WormLang

variable {declared : List (String × Ty)}

namespace StmtTree

theorem refusalsAll_eq_flatMap (body : List StmtTree) :
    refusalsAll declared body = body.flatMap (refusals declared) := by
  induction body with
  | nil => rfl
  | cons s rest ih => rw [refusalsAll, ih, List.flatMap_cons]

theorem showsAny_eq_any (body : List StmtTree) : showsAny declared body = body.any (shows declared) := by
  induction body with
  | nil => rfl
  | cons s rest ih => rw [showsAny, ih, List.any_cons]

theorem mem_mistakeOf {extent : Extent} {cause? : Option Cause} {m : Mistake} :
    m ∈ mistakeOf extent cause? ↔ ∃ cause, cause? = some cause ∧ m = { cause, extent } := by
  cases cause? with
  | none => simp [mistakeOf]
  | some cause => simp [mistakeOf]

def expressions : StmtTree → List ExprTree
  | assignment _ _ e | print _ e | turn _ e | fire _ e | branch _ e _ | branchElse _ e _ _ | loop _ e _ => [e]
  | _ => []

/-- What is refused in a statement stands in an expression, in a statement inside it, or is the statement itself. -/
theorem mem_refusals_iff {s : StmtTree} {m : Mistake} :
    m ∈ s.refusals declared ↔ (∃ e ∈ s.expressions, m ∈ e.refusals declared) ∨
      (∃ t ∈ s.children, m ∈ t.refusals declared) ∨ m ∈ mistakeOf s.extent (s.refusal? declared) := by
  cases s with
  | block | print | simple =>
    simp [refusals, refusalsAll_eq_flatMap, expressions, children, refusal?, operandRefusal?, mistakeOf]
  | branchElse =>
    simp only [refusals, expressions, children, extent, List.mem_append, List.mem_cons, List.not_mem_nil, or_false,
      exists_eq_left, exists_eq_or_imp]
    tauto
  | _ =>
    simp only [refusals, expressions, children, extent, List.mem_append, List.mem_cons, List.not_mem_nil, or_false,
      false_and, exists_false, false_or, exists_eq_left, or_assoc]

/-- Every refused statement is among the mistakes. -/
theorem mem_refusals_of_walk {s t : StmtTree} (inside : s ∈ t.walk) {cause : Cause}
    (refused : s.refusal? declared = some cause) : { cause, extent := s.extent } ∈ t.refusals declared := by
  induction t using child_induction with
  | step t ih =>
    rw [walk_eq] at inside
    obtain rfl | deeper := List.mem_cons.mp inside
    · exact mem_refusals_iff.mpr (.inr (.inr (mem_mistakeOf.mpr ⟨cause, refused, rfl⟩)))
    · obtain ⟨u, child, among⟩ := List.mem_flatMap.mp deeper
      exact mem_refusals_iff.mpr (.inr (.inl ⟨u, child, ih u child among⟩))

theorem mem_walk_trans {s t u : StmtTree} (inner : s ∈ t.walk) (outer : t ∈ u.walk) : s ∈ u.walk := by
  induction u using child_induction with
  | step u ih =>
    rw [walk_eq] at outer
    obtain rfl | deeper := List.mem_cons.mp outer
    · exact inner
    · obtain ⟨v, child, among⟩ := List.mem_flatMap.mp deeper
      exact mem_walk_of_child child (ih v child among)

/-- A statement inside acts and is refused. -/
def Hides (declared : List (String × Ty)) (t s : StmtTree) (cause : Cause) : Prop :=
  s ∈ t.walk ∧ s.Acts ∧ s.refusal? declared = some cause

theorem Hides.of_child {s t u : StmtTree} {cause : Cause} (child : u ∈ t.children) (hides : u.Hides declared s cause) :
    t.Hides declared s cause :=
  ⟨mem_walk_of_child child hides.1, hides.2⟩

theorem Acts.hides_self {t : StmtTree} (acts : t.Acts) (refused : (t.refusal? declared).isNone = false) :
    ∃ s cause, t.Hides declared s cause := by
  obtain ⟨cause, refused⟩ := Option.isSome_iff_exists.mp (Option.isNone_eq_false_iff.mp refused)
  exact ⟨t, cause, mem_walk_self t, acts, refused⟩

theorem exists_hides_of_child {t u : StmtTree} (child : u ∈ t.children)
    (hides : ∃ s cause, u.Hides declared s cause) : ∃ s cause, t.Hides declared s cause := by
  obtain ⟨s, cause, hides⟩ := hides
  exact ⟨s, cause, hides.of_child child⟩

/-- An action that does not show is hidden by a refused statement. -/
theorem Acts.exists_hides {t : StmtTree} (acts : t.Acts) (hidden : t.shows declared = false) :
    ∃ s cause, t.Hides declared s cause := by
  induction acts with
  | turn extent angle => exact (Acts.turn extent angle).hides_self hidden
  | fire extent power => exact (Acts.fire extent power).hides_self hidden
  | simple => cases hidden
  | block extent member inner ih =>
    rw [shows, showsAny_eq_any, List.any_eq_false] at hidden
    exact exists_hides_of_child member (ih (Bool.eq_false_iff.mpr (hidden _ member)))
  | @branch extent c yes inner ih =>
    obtain refused | hidden := Bool.and_eq_false_iff.mp hidden
    · exact (Acts.branch extent c inner).hides_self refused
    · exact exists_hides_of_child (List.mem_singleton_self _) (ih hidden)
  | @yes extent c yes no inner ih =>
    obtain refused | hidden := Bool.and_eq_false_iff.mp hidden
    · exact (Acts.yes extent c no inner).hides_self refused
    · exact exists_hides_of_child List.mem_cons_self (ih (Bool.or_eq_false_iff.mp hidden).1)
  | @no extent c yes no inner ih =>
    obtain refused | hidden := Bool.and_eq_false_iff.mp hidden
    · exact (Acts.no extent c yes inner).hides_self refused
    · exact exists_hides_of_child (List.mem_cons_of_mem _ (List.mem_singleton_self _))
        (ih (Bool.or_eq_false_iff.mp hidden).2)
  | @loop extent c body inner ih =>
    obtain refused | hidden := Bool.and_eq_false_iff.mp hidden
    · exact (Acts.loop extent c inner).hides_self refused
    · exact exists_hides_of_child (List.mem_singleton_self _) (ih hidden)
  | @each extent kindExtent kind name body inner ih =>
    cases shown : body.shows declared with
    | false => exact exists_hides_of_child (List.mem_singleton_self _) (ih shown)
    | true =>
      refine (Acts.each extent kindExtent kind name inner).hides_self ?_
      simp only [refusal?, shown, if_pos]
      cases refusalOfName? name.text <;> rfl

end StmtTree

/-- The mistakes that are found while nodes are made: none of them takes all declarations. -/
def Mistake.IsEarly (m : Mistake) : Prop := m.cause.kind = .typeCheck ∨ m.cause.kind = .argument

theorem Place.refusal?_early {place : Place} {needed : Ty} {shown? : Option Ty} {cause : Cause}
    (refused : place.refusal? needed shown? = some cause) : cause.kind = .typeCheck := by
  unfold refusal? at refused
  split at refused
  next => cases refused
  next =>
    split at refused
    next => cases refused
    next => cases refused; rfl

theorem refusalOfBoth?_early {symbol : String} {needed : Ty} {left? right? : Option Ty} {cause : Cause}
    (refused : refusalOfBoth? symbol needed left? right? = some cause) : cause.kind = .typeCheck := by
  obtain refused | ⟨-, refused⟩ := Option.or_eq_some_iff.mp refused
  · exact Place.refusal?_early refused
  · exact Place.refusal?_early refused

theorem BinaryOp.refusal?_early {op : BinaryOp} {left? right? : Option Ty} {cause : Cause}
    (refused : op.refusal? left? right? = some cause) : cause.kind = .typeCheck := by
  cases op with
  | arithmetic | order | logical => exact refusalOfBoth?_early refused
  | equality op =>
    rw [refusal?.eq_def] at refused
    dsimp only at refused
    split at refused
    next =>
      split at refused
      next => cases refused
      next => cases refused; rfl
    next => cases refused

theorem refusalOfName?_early {name : String} {cause : Cause} (refused : refusalOfName? name = some cause) :
    cause.kind = .argument := by
  unfold refusalOfName? at refused
  split at refused
  next => cases refused; rfl
  next => cases refused

theorem early_of_mistakeOf {extent : Extent} {cause? : Option Cause}
    (early : ∀ cause, cause? = some cause → cause.kind = .typeCheck ∨ cause.kind = .argument) :
    ∀ m ∈ mistakeOf extent cause?, m.IsEarly := by
  intro m member
  obtain ⟨cause, refused, rfl⟩ := StmtTree.mem_mistakeOf.mp member
  exact early cause refused

theorem ExprTree.early_of_refusals (e : ExprTree) : ∀ m ∈ e.refusals declared, m.IsEarly := by
  induction e with
  | number | truth | null | self => exact early_of_mistakeOf fun cause refused => by cases refused
  | name extent text =>
    refine early_of_mistakeOf fun cause refused => .inr ?_
    rw [refusal?] at refused
    split at refused
    next => cases refused
    next => cases refused; rfl
  | unary extent op operand ih =>
    exact List.forall_mem_append.mpr ⟨ih, early_of_mistakeOf fun cause refused => .inl (Place.refusal?_early refused)⟩
  | call extent f argument ih =>
    exact List.forall_mem_append.mpr ⟨ih, early_of_mistakeOf fun cause refused => .inl (Place.refusal?_early refused)⟩
  | binary extent op left right ihLeft ihRight =>
    exact List.forall_mem_append.mpr ⟨List.forall_mem_append.mpr ⟨ihLeft, ihRight⟩,
      early_of_mistakeOf fun cause refused => .inl (BinaryOp.refusal?_early refused)⟩

namespace StmtTree

theorem refusal?_early {s : StmtTree} {cause : Cause} (refused : s.refusal? declared = some cause) :
    cause.kind = .typeCheck ∨ cause.kind = .argument := by
  cases s with
  | assignment => exact .inr (refusalOfName?_early refused)
  | each extent kindExtent kind name body =>
    obtain refused | ⟨-, refused⟩ := Option.or_eq_some_iff.mp refused
    · exact .inr (refusalOfName?_early refused)
    · split at refused
      next => cases refused; exact .inr rfl
      next => cases refused
  | turn | fire | branch | branchElse | loop => exact .inl (Place.refusal?_early refused)
  | block | print | simple => cases refused

theorem early_of_refusals (s : StmtTree) : ∀ m ∈ s.refusals declared, m.IsEarly := by
  induction s using child_induction with
  | step s ih =>
    intro m member
    obtain ⟨e, -, inside⟩ | ⟨t, child, inside⟩ | own := mem_refusals_iff.mp member
    · exact e.early_of_refusals m inside
    · exact ih t child m inside
    · exact early_of_mistakeOf (fun cause => refusal?_early) m own

end StmtTree

namespace ItemTree

theorem early_of_redeclarations (items : List ItemTree) : ∀ m ∈ redeclarations declared items, m.IsEarly := by
  induction items generalizing declared with
  | nil => simp [redeclarations]
  | cons item rest ih =>
    cases item with
    | statement s => exact ih
    | declaration extent typeExtent t name initial? =>
      refine List.forall_mem_append.mpr ⟨early_of_mistakeOf fun cause again => .inr ?_, ih⟩
      split at again
      next => cases again; rfl
      next => cases again

theorem early_of_refusals (item : ItemTree) : ∀ m ∈ item.refusals declared, m.IsEarly := by
  cases item with
  | statement s => exact s.early_of_refusals
  | declaration extent typeExtent t name initial? =>
    cases initial? with
    | none => simp [refusals]
    | some e =>
      exact List.forall_mem_append.mpr ⟨e.early_of_refusals,
        early_of_mistakeOf fun cause refused => .inr (refusalOfName?_early refused)⟩

end ItemTree

namespace ProgramTree

variable {tree : ProgramTree}

theorem early_of_refusals (tree : ProgramTree) : ∀ m ∈ tree.refusals, m.IsEarly := by
  refine List.forall_mem_append.mpr ⟨ItemTree.early_of_redeclarations tree.items, fun m member => ?_⟩
  obtain ⟨item, -, inside⟩ := List.mem_flatMap.mp member
  exact item.early_of_refusals m inside

/-- Every refused statement of a program text is among its mistakes. -/
theorem mem_refusals_of_walk {s : StmtTree} (inside : s ∈ tree.walk) {cause : Cause}
    (refused : s.refusal? tree.declarations = some cause) : { cause, extent := s.extent } ∈ tree.refusals := by
  obtain ⟨item, among, deeper⟩ := List.mem_flatMap.mp inside
  refine List.mem_append_right _ (List.mem_flatMap.mpr ⟨item, among, ?_⟩)
  cases item with
  | declaration => cases deeper
  | statement t => exact StmtTree.mem_refusals_of_walk deeper refused

theorem mem_walk_trans {s t : StmtTree} (inner : s ∈ t.walk) (outer : t ∈ tree.walk) : s ∈ tree.walk := by
  obtain ⟨item, among, deeper⟩ := List.mem_flatMap.mp outer
  refine List.mem_flatMap.mpr ⟨item, among, ?_⟩
  cases item with
  | declaration => cases deeper
  | statement u => exact StmtTree.mem_walk_trans inner deeper

theorem Outcome.exists_log_of_refusal {file : Option String} {result : Except Failure Program}
    (outcome : tree.Outcome file result) {m : Mistake} (member : m ∈ tree.refusals) :
    ∃ log, result = .error (.rejected (tree.refusals.map (Mistake.fault file)) log) := by
  cases outcome with
  | refused _ log => exact ⟨log, rfl⟩
  | mismatched made | accepted made =>
    rw [made] at member
    cases member

/-- A value is given to a variable, by an assignment or as its first value. -/
inductive Assigns (tree : ProgramTree) (extent : Extent) (name : Word) (e : ExprTree) : Prop
  | assignment (inside : .assignment extent name e ∈ tree.walk)
  | initial {typeExtent : Extent} {t : Ty} (among : .declaration extent typeExtent t name (some e) ∈ tree.items)

/-- An assignment to a name that is not declared is among the mismatches. -/
theorem Assigns.mem_mismatches {extent : Extent} {name : Word} {e : ExprTree} (assigns : tree.Assigns extent name e)
    (undeclared : name.text ∉ tree.declarations.map Prod.fst) :
    { cause := .assignmentUndeclared name.text, extent } ∈ tree.mismatches := by
  have unknown : tree.declarations.lookup name.text = none := by
    refine List.lookup_eq_none_iff.mpr fun entry member => ?_
    have other : entry.1 ≠ name.text := fun same => undeclared (same ▸ List.mem_map_of_mem member)
    simpa using other.symm
  have wrong : mismatch? tree.declarations name.text e = some (.assignmentUndeclared name.text) := by
    rw [mismatch?, unknown]
  cases assigns with
  | assignment inside =>
    obtain ⟨item, among, deeper⟩ := List.mem_flatMap.mp inside
    refine List.mem_flatMap.mpr ⟨item, among, ?_⟩
    cases item with
    | declaration => cases deeper
    | statement t =>
      exact List.mem_flatMap.mpr ⟨_, deeper, StmtTree.mem_mistakeOf.mpr ⟨_, wrong, rfl⟩⟩
  | initial among =>
    exact List.mem_flatMap.mpr ⟨_, among, StmtTree.mem_mistakeOf.mpr ⟨_, wrong, rfl⟩⟩

end ProgramTree

/-- The variable of a loop over entities is a token of the loop. -/
theorem StmtPhrase.mem_tokens_of_each {extent kindExtent : Extent} {kind : LoopKind} {name : Word} {body : StmtTree}
    (s : StmtPhrase) (inside : .each extent kindExtent kind name body ∈ s.tree.walk) : name.token ∈ s.tokens := by
  induction s using phrase_induction with
  | block opening inner closing ih =>
    obtain ⟨t, child, deeper⟩ := List.mem_flatMap.mp
      (List.mem_of_ne_of_mem (by simp [tree]) (StmtTree.walk_eq _ ▸ inside))
    rw [tree, StmtTree.children, trees_eq_map] at child
    obtain ⟨u, among, rfl⟩ := List.mem_map.mp child
    simp only [tokens, tokensAll_eq_flatMap, List.mem_cons, List.mem_append, List.mem_flatMap]
    exact .inr (.inl ⟨u, among, ih u among deeper⟩)
  | assignment | simple => simp [tree, StmtTree.walk] at inside
  | command c => cases c <;> simp [tree, Command.tree, StmtTree.walk] at inside
  | branch word c then? yes ih =>
    simp only [tree, StmtTree.walk, List.mem_cons, reduceCtorEq, false_or] at inside
    simp [tokens, ih inside]
  | branchElse word c then? yes other no ihYes ihNo =>
    simp only [tree, StmtTree.walk, List.mem_cons, reduceCtorEq, false_or, List.mem_append] at inside
    obtain inside | inside := inside
    · simp [tokens, ihYes inside]
    · simp [tokens, ihNo inside]
  | loop word c do? body ih =>
    simp only [tree, StmtTree.walk, List.mem_cons, reduceCtorEq, false_or] at inside
    simp [tokens, ih inside]
  | each word opening kind kindExtent comma target closing do? body ih =>
    rw [tree, StmtTree.walk, List.mem_cons] at inside
    obtain same | inside := inside
    · cases same
      simp [tokens]
    · simp [tokens, ih inside]

/-- A tree that was read is that of the phrases that its tokens form, and all of the text has been cut into tokens. -/
theorem ProgramTree.exists_formed_of_parse {source : String} {tree : ProgramTree}
    (read : ProgramTree.parse source = .ok tree) :
    ∃ items : List ItemPhrase, (∀ i ∈ items, i.Formed) ∧
      items.flatMap ItemPhrase.tokens = (Scan.ofText source).tokens ∧ (Scan.ofText source).stray? = none ∧
      tree = ItemPhrase.program items := by
  obtain ⟨whole, d, derives, tokens⟩ := Reader.derives_of_readAll read
  obtain ⟨items, formed, rfl⟩ := ItemPhrase.derives_start_iff.mp derives
  rw [ItemPhrase.tokens_start] at tokens
  obtain ⟨r, fed, finished⟩ := ItemPhrase.feed?_program formed
  obtain ⟨-, r', fed', finished'⟩ := Reader.exists_feed_of_readAll read
  rw [tokens] at fed
  cases fed.symm.trans fed'
  exact ⟨items, formed, tokens, whole, Option.some.inj (finished'.symm.trans finished)⟩

/-- A tree that was read is that of the phrases of its tokens. -/
theorem ProgramTree.exists_items_of_parse {source : String} {tree : ProgramTree}
    (read : ProgramTree.parse source = .ok tree) :
    ∃ items : List ItemPhrase, items.flatMap ItemPhrase.tokens = (Scan.ofText source).tokens ∧
      tree = ItemPhrase.program items := by
  obtain ⟨items, -, tokens, -, same⟩ := exists_formed_of_parse read
  exact ⟨items, tokens, same⟩

/-- Loops over entities have variables with names. -/
theorem ProgramTree.named_of_each {source : String} {tree : ProgramTree} (read : ProgramTree.parse source = .ok tree)
    {extent kindExtent : Extent} {kind : LoopKind} {name : Word} {body : StmtTree}
    (inside : .each extent kindExtent kind name body ∈ tree.walk) : refusalOfName? name.text = none := by
  obtain ⟨items, tokens, rfl⟩ := exists_items_of_parse read
  obtain ⟨item, among, deeper⟩ := List.mem_flatMap.mp inside
  obtain ⟨phrase, member, rfl⟩ := List.mem_map.mp among
  cases phrase with
  | declaration => cases deeper
  | statement s =>
    have token : name.token ∈ (Scan.ofText source).tokens :=
      tokens ▸ List.mem_flatMap.mpr ⟨_, member, s.mem_tokens_of_each deeper⟩
    have valid := Scan.valid_of_mem_run _ _ _ token name.text rfl
    refine if_neg fun empty => ?_
    rw [String.isEmpty_iff.mp empty] at valid
    exact absurd valid (by decide)

/-- A report names all refused nodes, and all mismatches if there are none. A loop over entities with an action inside is
refused exactly if the action shows, and something around the action or the action itself is refused otherwise. An
assignment to a name that is not declared is reported exactly if nothing is refused. -/
theorem Program.parse_reports {source : String} {tree : ProgramTree} (read : ProgramTree.parse source = .ok tree)
    (file : Option String) (handler? : Option HandlerId) (limit : Int) :
    tree.Outcome file (parse source file handler? (.ok limit)) ∧
    (∀ extent kindExtent kind name body, .each extent kindExtent kind name body ∈ tree.walk → body.Acts →
      ∃ faults log, parse source file handler? (.ok limit) = .error (.rejected faults log) ∧
        (body.shows tree.declarations = true → Mistake.fault file { cause := .actionInLoop, extent } ∈ faults) ∧
        (body.shows tree.declarations = false →
          (StmtTree.each extent kindExtent kind name body).refusal? tree.declarations = none ∧
          ∃ s cause, body.Hides tree.declarations s cause ∧ Mistake.fault file { cause, extent := s.extent } ∈ faults)) ∧
    ∀ extent name e, tree.Assigns extent name e → name.text ∉ tree.declarations.map Prod.fst →
      ∃ faults log, parse source file handler? (.ok limit) = .error (.rejected faults log) ∧
        (Mistake.fault file { cause := .assignmentUndeclared name.text, extent } ∈ faults ↔ tree.refusals = []) := by
  have outcome := outcome_parse read file handler? limit
  refine ⟨outcome, fun extent kindExtent kind name body inside acts => ?_, fun extent name e assigns undeclared => ?_⟩
  · have refusal : (StmtTree.each extent kindExtent kind name body).refusal? tree.declarations =
        if body.shows tree.declarations then some .actionInLoop else none := by
      rw [StmtTree.refusal?, ProgramTree.named_of_each read inside, Option.none_or]
    cases shown : body.shows tree.declarations with
    | true =>
      rw [shown, if_pos rfl] at refusal
      have member := ProgramTree.mem_refusals_of_walk inside refusal
      obtain ⟨log, rejected⟩ := outcome.exists_log_of_refusal member
      exact ⟨_, log, rejected, fun _ => List.mem_map_of_mem member, nofun⟩
    | false =>
      rw [shown, if_neg Bool.false_ne_true] at refusal
      obtain ⟨s, cause, hides⟩ := acts.exists_hides shown
      have within : s ∈ tree.walk :=
        ProgramTree.mem_walk_trans hides.1 (ProgramTree.mem_walk_trans
          (StmtTree.mem_walk_of_child (List.mem_singleton_self body) body.mem_walk_self) inside)
      have member := ProgramTree.mem_refusals_of_walk within hides.2.2
      obtain ⟨log, rejected⟩ := outcome.exists_log_of_refusal member
      exact ⟨_, log, rejected, nofun, fun _ => ⟨refusal, s, cause, hides, List.mem_map_of_mem member⟩⟩
  · have member := assigns.mem_mismatches undeclared
    generalize parse source file handler? (.ok limit) = result at outcome ⊢
    cases outcome with
    | refused refused log =>
      refine ⟨_, log, rfl, iff_of_false (fun reported => ?_) refused⟩
      obtain ⟨m, among, same⟩ := List.mem_map.mp reported
      have cause : m.cause = .assignmentUndeclared name.text := congrArg Fault.cause same
      have early := tree.early_of_refusals m among
      rw [Mistake.IsEarly, cause] at early
      simp [Cause.kind] at early
    | mismatched made _ log => exact ⟨_, log, rfl, iff_of_true (List.mem_map_of_mem member) made⟩
    | accepted _ matched =>
      rw [matched] at member
      cases member

namespace Muster

/-- A loop over entities around a turn by a truth value, and an assignment to a name that is not declared. -/
def source : String := "entity e; foreach (worm, e) do \x7b turn true; \x7d y := 1;"

def span (first last : Nat) : Extent := { start := ⟨1, first⟩, stop := ⟨1, last⟩ }

def body : StmtTree := .block (span 32 46) [.turn (span 34 44) (.truth (span 39 43) true)]

def loop : StmtTree := .each (span 11 46) (span 20 24) .worm { extent := span 26 27, text := "e" } body

def target : Word := { extent := span 47 48, text := "y" }

def value : ExprTree := .number (span 52 53) "1"

def tree : ProgramTree :=
  { items := [.declaration (span 1 10) (span 1 7) .entity { extent := span 8 9, text := "e" } none, .statement loop,
      .statement (.assignment (span 47 54) target value)] }

theorem read : ProgramTree.parse source = .ok tree := by cbv

theorem inside : loop ∈ tree.walk := List.mem_cons_self

theorem acts : body.Acts := .block _ (List.mem_singleton_self _) (.turn _ _)

theorem assigns : tree.Assigns (span 47 54) target value := .assignment (by simp [tree, ProgramTree.walk, ItemTree.walk,
  StmtTree.walk])

end Muster

/-- The turn in the loop is reported. -/
theorem muster_reports :
    ∃ faults log, Program.parse Muster.source none none (.ok 9) = .error (.rejected faults log) ∧
      ∃ s cause, Muster.body.Hides Muster.tree.declarations s cause ∧
        Mistake.fault none { cause, extent := s.extent } ∈ faults := by
  obtain ⟨faults, log, rejected, -, hidden⟩ :=
    (Program.parse_reports Muster.read none none 9).2.1 _ _ _ _ _ Muster.inside Muster.acts
  exact ⟨faults, log, rejected, (hidden rfl).2⟩

/-- The turn is all that is reported: neither the loop around it nor the assignment is. -/
theorem muster_conceals :
    (Muster.loop ∈ Muster.tree.walk ∧ Muster.body.Acts) ∧
    (Muster.tree.Assigns (Muster.span 47 54) Muster.target Muster.value ∧
      Muster.target.text ∉ Muster.tree.declarations.map Prod.fst) ∧
    ∃ faults log, Program.parse Muster.source none none (.ok 9) = .error (.rejected faults log) ∧
      Mistake.fault none { cause := .actionInLoop, extent := Muster.loop.extent } ∉ faults ∧
      Mistake.fault none { cause := .assignmentUndeclared "y", extent := Muster.span 47 54 } ∉ faults := by
  refine ⟨⟨Muster.inside, Muster.acts⟩, ⟨Muster.assigns, by decide⟩, ?_⟩
  have refusals : Muster.tree.refusals =
      [{ cause := .operandType .angle .number .boolean, extent := Muster.span 34 44 }] := rfl
  obtain ⟨log, rejected⟩ := (Program.outcome_parse Muster.read none none 9).exists_log_of_refusal
    (refusals ▸ List.mem_singleton_self _)
  exact ⟨_, log, rejected, by rw [refusals]; decide, by rw [refusals]; decide⟩

end WormLang
