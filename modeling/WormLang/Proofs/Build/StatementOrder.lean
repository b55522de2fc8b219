import WormLang.Proofs.Build.Places

/-!
The order of what a build reports. Statements of a text stand one behind the other or one inside the other, and a build
makes what stands in front first, but for one place: of a conditional with two branches, the second branch is made
before the condition and the first one. So faults in two statements one behind the other are reported in the order of
the text, unless the two lie in different branches of one conditional, and then they are reported the other way round.
-/
namespace WormLang

variable {declared : List (String × Ty)}

namespace StmtTree

variable {s t u : StmtTree}

/-- A conditional has one mark in its first branch and another one in its second branch. -/
inductive Parts (m n : Mark) : StmtTree → Prop
  | branchElse (extent : Extent) (c : ExprTree) {yes no : StmtTree} (first : yes.extent.Holds m)
    (second : no.extent.Holds n) : Parts m n (.branchElse extent c yes no)

/-- Of what stands at two marks of a text, a build makes the first before the second. -/
structure Made (walk : List StmtTree) (m n : Mark) : Prop where
  straight : ∀ b ∈ walk, ¬ b.Parts m n
  crossed : ∀ s ∈ walk, ∀ t ∈ walk, s.extent.stop ≤ t.extent.start → s.extent.Holds n → t.extent.Holds m →
    ∃ b ∈ walk, b.Parts n m

theorem Parts.exists_children {m n : Mark} (parts : t.Parts m n) :
    ∃ c ∈ t.children, ∃ d ∈ t.children, c.extent.Holds m ∧ d.extent.Holds n := by
  cases parts with
  | branchElse extent c first second =>
    exact ⟨_, List.mem_cons_self, _, List.mem_cons_of_mem _ (List.mem_singleton_self _), first, second⟩

/-- A statement that parts two marks holds both. -/
theorem Lies.holds_of_parts (lies : t.Lies declared) {m n : Mark} (parts : t.Parts m n) :
    t.extent.Holds m ∧ t.extent.Holds n := by
  have outer : ∀ {k : Mark}, ∀ c ∈ t.children, c.extent.Holds k → t.extent.Holds k := fun c child holds =>
    ⟨(lies.inside c child).1.le.trans holds.1, holds.2.trans_le (lies.inside c child).2⟩
  obtain ⟨c, first, d, second, inC, inD⟩ := parts.exists_children
  exact ⟨outer c first inC, outer d second inD⟩

/-- Of a statement, only what stands in different statements inside it is parted by itself. -/
theorem Lies.not_parts (lies : t.Lies declared) {c : StmtTree} (child : c ∈ t.children) {m n : Mark}
    (inside : c.extent.Holds m) (also : c.extent.Holds n) : ¬ t.Parts m n := by
  intro parts
  cases parts with
  | @branchElse _ _ yes no first second =>
    have isYes := lies.eq_of_holds List.mem_cons_self child first inside
    have isNo := lies.eq_of_holds (List.mem_cons_of_mem _ (List.mem_singleton_self _)) child second also
    have apart : yes.extent.stop ≤ no.extent.start := List.rel_of_pairwise_cons lies.apart (List.mem_singleton_self _)
    rw [isYes, isNo] at apart
    exact absurd (inside.2.trans_le (apart.trans inside.1)) (lt_irrefl m)

/-- No statement inside stands behind the statement or in front of it. -/
theorem Spread.not_apart (spread : t.Spread declared) (inside : s ∈ t.walk) :
    ¬ t.extent.stop ≤ s.extent.start ∧ ¬ s.extent.stop ≤ t.extent.start := by
  have both := spread.within inside
  have filled := (spread s inside).filled
  exact ⟨fun behind => absurd (filled.trans_le (both.2.trans behind)) (lt_irrefl _),
    fun ahead => absurd (filled.trans_le (ahead.trans both.1)) (lt_irrefl _)⟩

section Made

variable {m n : Mark} {c d : StmtTree}

/-- What is parted deeper inside a statement is in one statement directly inside. -/
theorem Spread.parts_deeper (spread : t.Spread declared) {b : StmtTree} (inside : b ∈ t.walk) (parts : b.Parts m n) :
    b = t ∨ ∃ c ∈ t.children, b ∈ c.walk ∧ c.extent.Holds m ∧ c.extent.Holds n := by
  have holds := (spread b inside).holds_of_parts parts
  rw [walk_eq] at inside
  obtain same | deeper := List.mem_cons.mp inside
  · exact .inl same
  · obtain ⟨c, child, inner⟩ := List.mem_flatMap.mp deeper
    have both := (spread.child child).within inner
    exact .inr ⟨c, child, inner, ⟨both.1.trans holds.1.1, holds.1.2.trans_le both.2⟩,
      both.1.trans holds.2.1, holds.2.2.trans_le both.2⟩

/-- What is made in a statement directly inside is made in the same order in the statement. -/
theorem Spread.made_inside (spread : t.Spread declared) (child : c ∈ t.children) (inside : c.extent.Holds m)
    (also : c.extent.Holds n) (made : Made c.walk m n) : Made t.walk m n := by
  have lies := spread t t.mem_walk_self
  refine ⟨fun b walked parts => ?_, fun s first u second behind holds further => ?_⟩
  · obtain rfl | inner := spread.eq_or_mem_walk child inside walked ((spread b walked).holds_of_parts parts).1
    · exact lies.not_parts child inside also parts
    · exact made.straight b inner parts
  · obtain rfl | inFirst := spread.eq_or_mem_walk child also first holds
    · exact absurd behind (spread.not_apart second).1
    · obtain rfl | inSecond := spread.eq_or_mem_walk child inside second further
      · exact absurd behind (spread.not_apart first).2
      · obtain ⟨b, inner, parts⟩ := made.crossed s inFirst u inSecond behind holds further
        exact ⟨b, mem_walk_of_child child inner, parts⟩

/-- What does not stand in one statement directly inside is parted by the statement or not at all. -/
theorem Spread.eq_of_parts (spread : t.Spread declared) (child : c ∈ t.children) (holds : c.extent.Holds m)
    (apart : ¬ c.extent.Holds n) {b : StmtTree} (inside : b ∈ t.walk) (parts : b.Parts m n) : b = t := by
  obtain same | ⟨e, other, -, first, second⟩ := spread.parts_deeper inside parts
  · exact same
  · rw [(spread t t.mem_walk_self).eq_of_holds other child first holds] at second
    exact absurd second apart

/-- What stands in front of all statements inside can be made at any time. -/
theorem Spread.made_own (spread : t.Spread declared) (ahead : ∀ c ∈ t.children, m < c.extent.start) (n : Mark) :
    Made t.walk m n ∧ Made t.walk n m := by
  have outside : ∀ c ∈ t.children, ¬ c.extent.Holds m :=
    fun c child holds => absurd ((ahead c child).trans_le holds.1) (lt_irrefl m)
  have alone : ∀ s ∈ t.walk, s.extent.Holds m → s = t := by
    intro s inside holds
    rw [walk_eq] at inside
    obtain same | deeper := List.mem_cons.mp inside
    · exact same
    · obtain ⟨c, child, inner⟩ := List.mem_flatMap.mp deeper
      have both := (spread.child child).within inner
      exact absurd ⟨both.1.trans holds.1, holds.2.trans_le both.2⟩ (outside c child)
  have whole : ∀ b ∈ t.walk, ∀ k, ¬ b.Parts m k ∧ ¬ b.Parts k m := by
    intro b inside k
    constructor
    · intro parts
      obtain rfl | ⟨c, child, -, holds, -⟩ := spread.parts_deeper inside parts
      · obtain ⟨c, child, -, -, holds, -⟩ := parts.exists_children
        exact outside c child holds
      · exact outside c child holds
    · intro parts
      obtain rfl | ⟨c, child, -, -, holds⟩ := spread.parts_deeper inside parts
      · obtain ⟨-, -, c, child, -, holds⟩ := parts.exists_children
        exact outside c child holds
      · exact outside c child holds
  refine ⟨⟨fun b inside => (whole b inside n).1, fun s first u second behind _ holds => ?_⟩,
    ⟨fun b inside => (whole b inside n).2, fun s first u second behind holds _ => ?_⟩⟩
  · rw [alone u second holds] at behind
    exact absurd behind (spread.not_apart first).2
  · rw [alone s first holds] at behind
    exact absurd behind (spread.not_apart second).1

/-- What stands in a statement directly inside is made before what stands in one behind it, unless they are the branches
of one conditional. -/
theorem Spread.made_behind (spread : t.Spread declared) (first : c ∈ t.children)
    (behind : c.extent.stop ≤ d.extent.start) (inFirst : c.extent.Holds m) (inSecond : d.extent.Holds n)
    (straight : ¬ t.Parts m n) : Made t.walk m n := by
  have ahead : m < n := inFirst.2.trans_le (behind.trans inSecond.1)
  have apart : ¬ c.extent.Holds n :=
    fun holds => absurd (holds.2.trans_le (behind.trans inSecond.1)) (lt_irrefl n)
  refine ⟨fun b inside parts => ?_, fun s _ u _ behind holds further => ?_⟩
  · exact straight (spread.eq_of_parts first inFirst apart inside parts ▸ parts)
  · exact absurd (ahead.trans (holds.2.trans_le (behind.trans further.1))) (lt_irrefl m)

/-- What stands in the second branch of a conditional is made before what stands in the first one. -/
theorem Spread.made_crossed {extent : Extent} {e : ExprTree} {yes no : StmtTree}
    (spread : (branchElse extent e yes no).Spread declared) (inNo : no.extent.Holds m) (inYes : yes.extent.Holds n) :
    Made (branchElse extent e yes no).walk m n := by
  have lies := spread _ (mem_walk_self _)
  have behind : yes.extent.stop ≤ no.extent.start := List.rel_of_pairwise_cons lies.apart (List.mem_singleton_self _)
  have ahead : n < m := inYes.2.trans_le (behind.trans inNo.1)
  have apart : ¬ no.extent.Holds n :=
    fun holds => absurd (inYes.2.trans_le (behind.trans holds.1)) (lt_irrefl n)
  refine ⟨fun b inside parts => ?_, fun s _ u _ _ _ _ => ⟨_, mem_walk_self _, .branchElse extent e inYes inNo⟩⟩
  obtain rfl := spread.eq_of_parts (List.mem_cons_of_mem _ (List.mem_singleton_self _)) inNo apart inside parts
  cases parts with
  | branchElse _ _ first second => exact absurd (first.2.trans_le (behind.trans inNo.1)) (lt_irrefl m)

end Made

/-- What is refused in a statement other than a conditional with two branches is found in its expressions, in the
statements directly inside in order, and then at the statement itself. -/
theorem refusals_eq (t : StmtTree) (straight : ∀ extent c yes no, t ≠ branchElse extent c yes no) :
    t.refusals declared = t.expressions.flatMap (ExprTree.refusals declared) ++
      (t.children.flatMap (refusals declared) ++ mistakeOf t.extent (t.refusal? declared)) := by
  cases t with
  | branchElse extent c yes no => exact absurd rfl (straight extent c yes no)
  | block | print | simple =>
    simp [refusals, refusalsAll_eq_flatMap, expressions, children, refusal?, operandRefusal?, mistakeOf]
  | _ => simp [refusals, expressions, children, extent]

/-- Refused nodes come in the order in which what stands where they start is made. -/
def InOrder (walk : List StmtTree) (mistakes : List Mistake) : Prop :=
  mistakes.Pairwise fun m n => Made walk m.extent.start n.extent.start

section

variable {m : Mistake}

/-- What is refused in the expressions of a statement may come before and behind everything else in it. -/
theorem Spread.made_given (spread : t.Spread declared) {e : ExprTree} (among : e ∈ t.expressions)
    (refused : m ∈ e.refusals declared) (n : Mark) :
    Made t.walk m.extent.start n ∧ Made t.walk n m.extent.start :=
  spread.made_own ((spread t t.mem_walk_self).own e among m refused).2 n

/-- So may what the statement itself is refused for. -/
theorem Spread.made_self (spread : t.Spread declared) (own : m ∈ mistakeOf t.extent (t.refusal? declared)) (n : Mark) :
    Made t.walk m.extent.start n ∧ Made t.walk n m.extent.start := by
  obtain ⟨cause, -, rfl⟩ := mem_mistakeOf.mp own
  exact spread.made_own (fun c child => ((spread t t.mem_walk_self).inside c child).1) n

theorem Spread.inOrder_self (spread : t.Spread declared) :
    InOrder t.walk (mistakeOf t.extent (t.refusal? declared)) :=
  List.pairwise_of_forall_mem_list fun _ member n _ => (spread.made_self member n.extent.start).1

end

/-- In a statement that is no conditional with two branches, the statements inside come one behind the other. -/
theorem Spread.inOrder_straight (spread : t.Spread declared)
    (straight : ∀ extent c yes no, t ≠ branchElse extent c yes no)
    (inside : ∀ c ∈ t.children, InOrder t.walk (c.refusals declared)) : InOrder t.walk (t.refusals declared) := by
  have lies := spread t t.mem_walk_self
  have uncrossed : ∀ m n, ¬ t.Parts m n := by
    intro m n parts
    cases parts with
    | branchElse extent c => exact straight extent c _ _ rfl
  have first : ∀ m ∈ t.expressions.flatMap (ExprTree.refusals declared), ∀ n, Made t.walk m.extent.start n := by
    intro m member n
    obtain ⟨e, among, refused⟩ := List.mem_flatMap.mp member
    exact (spread.made_given among refused n).1
  have between : InOrder t.walk (t.children.flatMap (refusals declared)) := by
    refine List.pairwise_flatMap.mpr ⟨inside, lies.apart.imp_of_mem ?_⟩
    intro c d child other behind m inFirst n inSecond
    exact spread.made_behind child behind ((spread.child child).holds inFirst)
      ((spread.child other).holds inSecond) (uncrossed _ _)
  rw [t.refusals_eq straight]
  exact List.pairwise_append.mpr ⟨List.pairwise_of_forall_mem_list fun m member n _ => first m member _,
    List.pairwise_append.mpr ⟨between, spread.inOrder_self, fun m _ n member => (spread.made_self member _).2⟩,
    fun m member n _ => first m member _⟩

/-- In a conditional with two branches, the second one comes before the condition and the first. -/
theorem Spread.inOrder_branchElse {extent : Extent} {c : ExprTree} {yes no : StmtTree}
    (spread : (branchElse extent c yes no).Spread declared)
    (inside : ∀ s ∈ (branchElse extent c yes no).children,
      InOrder (branchElse extent c yes no).walk (s.refusals declared)) :
    InOrder (branchElse extent c yes no).walk ((branchElse extent c yes no).refusals declared) := by
  have isYes : yes ∈ (branchElse extent c yes no).children := List.mem_cons_self
  have isNo : no ∈ (branchElse extent c yes no).children := List.mem_cons_of_mem _ (List.mem_singleton_self _)
  have condition : ∀ m ∈ c.refusals declared, ∀ n, Made (branchElse extent c yes no).walk m.extent.start n ∧
      Made (branchElse extent c yes no).walk n m.extent.start :=
    fun m refused => spread.made_given (List.mem_singleton_self c) refused
  have crossed : ∀ m ∈ no.refusals declared, ∀ n ∈ yes.refusals declared,
      Made (branchElse extent c yes no).walk m.extent.start n.extent.start :=
    fun m inNo n inYes => spread.made_crossed ((spread.child isNo).holds inNo) ((spread.child isYes).holds inYes)
  rw [InOrder, refusals, List.pairwise_append, List.pairwise_append, List.pairwise_append]
  refine ⟨⟨⟨inside no isNo, ?_, fun m _ n member => (condition n member _).2⟩, inside yes isYes, ?_⟩,
    spread.inOrder_self, fun m _ n member => (spread.made_self member _).2⟩
  · exact List.pairwise_of_forall_mem_list fun m member n _ => (condition m member _).1
  · exact fun m member n inYes => (List.mem_append.mp member).elim (fun inNo => crossed m inNo n inYes)
      fun inCondition => (condition m inCondition _).1

/-- The refused nodes of a statement come in the order in which what stands where they start is made. -/
theorem Spread.inOrder (spread : t.Spread declared) : InOrder t.walk (t.refusals declared) := by
  induction t using child_induction with
  | step t ih =>
    have inside : ∀ c ∈ t.children, InOrder t.walk (c.refusals declared) := by
      intro c child
      have inner := spread.child child
      exact (ih c child inner).imp_of_mem fun first second made =>
        spread.made_inside child (inner.holds first) (inner.holds second) made
    by_cases straight : ∀ extent c yes no, t ≠ branchElse extent c yes no
    · exact spread.inOrder_straight straight inside
    · push Not at straight
      obtain ⟨extent, c, yes, no, rfl⟩ := straight
      exact spread.inOrder_branchElse inside

end StmtTree

/-- A fault is reported at a place in a stretch of text. -/
def Fault.In (f : Fault) (x : Extent) : Prop :=
  ∃ m : Mark, f.place? = some ((m.line : Int), (m.column : Int)) ∧ x.Holds m

theorem Mistake.fault_in_iff {file : Option String} {m : Mistake} {x : Extent} :
    (m.fault file).In x ↔ x.Holds m.extent.start := by
  have place : (m.fault file).place? = some ((m.extent.start.line : Int), (m.extent.start.column : Int)) := rfl
  simp only [Fault.In, place, Option.some.injEq, Prod.mk.injEq, Int.natCast_inj]
  constructor
  · rintro ⟨n, ⟨line, column⟩, holds⟩
    have same : m.extent.start = n := by
      cases n
      exact congrArg₂ Mark.mk line column
    rwa [same]
  · exact fun holds => ⟨_, ⟨rfl, rfl⟩, holds⟩

namespace ProgramTree

/-- A conditional of a text has one fault in its first branch and another one in its second branch. -/
def Parts (tree : ProgramTree) (f g : Fault) : Prop :=
  ∃ extent c yes no, .branchElse extent c yes no ∈ tree.walk ∧ f.In yes.extent ∧ g.In no.extent

/-- Faults in two statements one behind the other come in this order, unless they are in the two branches of one
conditional; those in the second branch of a conditional come before those in the first. -/
structure Follows (tree : ProgramTree) (faults : List Fault) : Prop where
  behind : ∀ s ∈ tree.sites, ∀ t ∈ tree.sites, s.extent.stop ≤ t.extent.start →
    ∀ (i j : Nat) (f g : Fault), faults[i]? = some f → faults[j]? = some g → f.In s.extent → g.In t.extent →
      i < j ∨ tree.Parts f g
  crossed : ∀ (i j : Nat) (f g : Fault), faults[i]? = some f → faults[j]? = some g → tree.Parts f g → j < i

variable {source : String} {tree : ProgramTree}

/-- A statement of a text stands in the block of its outermost ones. -/
theorem exists_walk_of_site {s : Site} (member : s ∈ tree.sites) (extent : Extent) :
    ∃ t ∈ (StmtTree.block extent tree.roots).walk, t.extent = s.extent := by
  obtain ⟨item, among, inside⟩ := List.mem_flatMap.mp member
  have root : ∀ r ∈ item.roots, ∀ t ∈ r.walk, t ∈ (StmtTree.block extent tree.roots).walk := fun r outer t inner =>
    StmtTree.mem_walk_of_child (List.mem_flatMap.mpr ⟨item, among, outer⟩) inner
  cases item with
  | statement r =>
    obtain ⟨t, inner, rfl⟩ := List.mem_map.mp inside
    exact ⟨t, root r (List.mem_singleton_self r) t inner, rfl⟩
  | declaration place typeExtent t name initial? =>
    cases initial? with
    | none => cases inside
    | some e =>
      obtain rfl := List.mem_singleton.mp inside
      exact ⟨_, root _ (List.mem_singleton_self _) _ (StmtTree.mem_walk_self _), rfl⟩

/-- The conditionals with two branches in the block of the outermost statements are those of the text. -/
theorem branchElse_mem_walk {extent place : Extent} {c : ExprTree} {yes no : StmtTree} :
    .branchElse place c yes no ∈ (StmtTree.block extent tree.roots).walk ↔ .branchElse place c yes no ∈ tree.walk := by
  have item : ∀ i : ItemTree, .branchElse place c yes no ∈ i.roots.flatMap StmtTree.walk ↔
      .branchElse place c yes no ∈ i.walk := by
    intro i
    cases i with
    | statement r => simp [ItemTree.roots, ItemTree.walk]
    | declaration _ _ _ _ initial? => cases initial? <;> simp [ItemTree.roots, ItemTree.walk, StmtTree.walk]
  rw [StmtTree.walk, StmtTree.walkAll_eq_flatMap, roots, List.flatMap_assoc, walk]
  simp [List.mem_flatMap, item]

/-- A fault is reported where its mistake starts, so conditionals part the two alike. -/
theorem parts_iff {file : Option String} {m n : Mistake} {extent : Extent} :
    tree.Parts (m.fault file) (n.fault file) ↔
      ∃ b ∈ (StmtTree.block extent tree.roots).walk, b.Parts m.extent.start n.extent.start := by
  constructor
  · rintro ⟨place, c, yes, no, inside, first, second⟩
    exact ⟨_, branchElse_mem_walk.mpr inside,
      .branchElse place c (Mistake.fault_in_iff.mp first) (Mistake.fault_in_iff.mp second)⟩
  · rintro ⟨b, inside, parts⟩
    cases parts with
    | branchElse place c first second =>
      exact ⟨place, c, _, _, branchElse_mem_walk.mp inside, Mistake.fault_in_iff.mpr first,
        Mistake.fault_in_iff.mpr second⟩

/-- The refused nodes of the items of a text are reported in the order of its statements. -/
theorem follows_of_parse (read : parse source = .ok tree) (file : Option String) :
    tree.Follows ((tree.items.flatMap (ItemTree.refusals tree.declarations)).map (Mistake.fault file)) := by
  obtain ⟨extent, spread⟩ : ∃ extent, (StmtTree.block extent tree.roots).Spread tree.declarations := exists_spread read
  have refusals : (StmtTree.block extent tree.roots).refusals tree.declarations =
      tree.items.flatMap (ItemTree.refusals tree.declarations) := by
    rw [StmtTree.refusals, StmtTree.refusalsAll_eq_flatMap, roots, List.flatMap_assoc]
    exact List.flatMap_congr fun item _ => item.refusals_eq.symm
  have made := spread.inOrder
  rw [refusals] at made
  generalize tree.items.flatMap (ItemTree.refusals tree.declarations) = mistakes at made
  have order : ∀ {i j : Nat} {m n : Mistake}, mistakes[i]? = some m → mistakes[j]? = some n → i < j →
      StmtTree.Made (StmtTree.block extent tree.roots).walk m.extent.start n.extent.start := by
    intro i j m n first second before
    obtain ⟨inFirst, rfl⟩ := List.getElem?_eq_some_iff.mp first
    obtain ⟨inSecond, rfl⟩ := List.getElem?_eq_some_iff.mp second
    exact List.pairwise_iff_getElem.mp made i j inFirst inSecond before
  constructor
  · intro s sited t also behind i j f g first second inside further
    rw [List.getElem?_map, Option.map_eq_some_iff] at first second
    obtain ⟨m, first, rfl⟩ := first
    obtain ⟨n, second, rfl⟩ := second
    rw [Mistake.fault_in_iff] at inside further
    rw [parts_iff]
    obtain ⟨s', walked, same⟩ := exists_walk_of_site sited extent
    obtain ⟨t', walkedToo, sameToo⟩ := exists_walk_of_site also extent
    rw [← same] at behind inside
    rw [← sameToo] at behind further
    obtain before | rfl | after := Nat.lt_trichotomy i j
    · exact .inl before
    · obtain rfl : m = n := Option.some.inj (first.symm.trans second)
      exact absurd (inside.2.trans_le (behind.trans further.1)) (lt_irrefl _)
    · exact .inr ((order second first after).crossed s' walked t' walkedToo behind inside further)
  · intro i j f g first second parts
    rw [List.getElem?_map, Option.map_eq_some_iff] at first second
    obtain ⟨m, first, rfl⟩ := first
    obtain ⟨n, second, rfl⟩ := second
    obtain ⟨b, walked, parts⟩ := parts_iff.mp parts
    obtain before | rfl | after := Nat.lt_trichotomy i j
    · exact absurd parts ((order first second before).straight b walked)
    · obtain rfl : m = n := Option.some.inj (first.symm.trans second)
      obtain ⟨c, child, d, other, inFirst, inSecond⟩ := parts.exists_children
      have lies := spread b walked
      rw [lies.eq_of_holds other child inSecond inFirst] at inSecond
      exact absurd parts (lies.not_parts child inFirst inFirst)
    · exact after

end ProgramTree

theorem ItemTree.alreadyDeclared_of_redeclarations (items : List ItemTree) :
    ∀ m ∈ redeclarations declared items, ∃ name, m.cause = .alreadyDeclared name := by
  induction items generalizing declared with
  | nil => simp [redeclarations]
  | cons item rest ih =>
    cases item with
    | statement s => exact ih
    | declaration extent typeExtent t name initial? =>
      refine List.forall_mem_append.mpr ⟨fun m member => ?_, ih⟩
      obtain ⟨cause, again, rfl⟩ := StmtTree.mem_mistakeOf.mp member
      split at again
      next => cases again; exact ⟨name.text, rfl⟩
      next => cases again

theorem mismatch?_semantic {name : String} {e : ExprTree} {cause : Cause}
    (mismatched : mismatch? declared name e = some cause) : cause.kind = .semantic := by
  unfold mismatch? at mismatched
  split at mismatched
  next => cases mismatched; rfl
  next => cases mismatched
  next =>
    split at mismatched
    next => cases mismatched
    next => cases mismatched; rfl

theorem Site.mismatch?_semantic {s : Site} {cause : Cause} (mismatched : s.mismatch? declared = some cause) :
    cause.kind = .semantic := by
  cases s with
  | initial => exact WormLang.mismatch?_semantic mismatched
  | statement s =>
    cases s with
    | assignment => exact WormLang.mismatch?_semantic mismatched
    | each extent kindExtent kind name body =>
      simp only [mismatch?, StmtTree.mismatch?] at mismatched
      split at mismatched
      next => cases mismatched; rfl
      next =>
        split at mismatched
        next => cases mismatched
        next => cases mismatched; rfl
    | _ => cases mismatched

/-- Construction faults of a text that matches the grammar are reported in the order of its statements, once the names
that are declared again have been reported; only the faults in the second branch of a conditional come before those in
the first. -/
theorem Program.parse_reports_statements {source : String} {tree : ProgramTree}
    (read : ProgramTree.parse source = .ok tree) {file : Option String} {handler? : Option HandlerId}
    {budget : Except Fault Int} {faults : List Fault} {log : Log}
    (rejected : parse source file handler? budget = .error (.rejected faults log))
    (construction : ∃ f ∈ faults, f.kind ≠ .semantic) :
    ∃ again made, faults = again ++ made ∧ (∀ f ∈ again, ∃ name, f.cause = .alreadyDeclared name) ∧
      tree.Follows made := by
  obtain ⟨f, member, early⟩ := construction
  obtain rfl | ⟨-, rfl⟩ := faults_of_rejected read rejected
  · refine ⟨_, _, List.map_append, List.forall_mem_map.mpr ?_, ProgramTree.follows_of_parse read file⟩
    exact ItemTree.alreadyDeclared_of_redeclarations tree.items
  · obtain ⟨m, found, rfl⟩ := List.mem_map.mp member
    rw [ProgramTree.mismatches_eq] at found
    obtain ⟨s, -, mistaken⟩ := List.mem_flatMap.mp found
    obtain ⟨cause, mismatched, rfl⟩ := StmtTree.mem_mistakeOf.mp mistaken
    exact absurd (Site.mismatch?_semantic mismatched) early

namespace Crossing

/-- A conditional with a mistake in each of its two branches. -/
def source : String := "if true then \x7b turn true; \x7d else \x7b fire true; \x7d"

def span (first last : Nat) : Extent := { start := ⟨1, first⟩, stop := ⟨1, last⟩ }

def turn : StmtTree := .turn (span 16 26) (.truth (span 21 25) true)

def fire : StmtTree := .fire (span 36 46) (.truth (span 41 45) true)

def tree : ProgramTree :=
  { items := [.statement (.branchElse (span 1 48) (.truth (span 4 8) true) (.block (span 14 28) [turn])
      (.block (span 34 48) [fire]))] }

def faults : List Fault := [
  { cause := .operandType .yield .number .boolean, position := some (fire.extent.position none) },
  { cause := .operandType .angle .number .boolean, position := some (turn.extent.position none) }]

theorem read : ProgramTree.parse source = .ok tree := by cbv

theorem rejected : ∃ log, Program.parse source none none (.ok 9) = .error (.rejected faults log) := by
  have outcome := Program.outcome_parse read none none 9
  generalize Program.parse source none none (.ok 9) = result at outcome
  cases outcome with
  | refused _ log => exact ⟨log, rfl⟩
  | mismatched made => cases made
  | accepted made => cases made

end Crossing

/-- The mistakes of the conditional are reported as the text has been read. -/
theorem crossing_reports_statements :
    ∃ log, ProgramTree.parse Crossing.source = .ok Crossing.tree ∧
      Program.parse Crossing.source none none (.ok 9) = .error (.rejected Crossing.faults log) ∧
      (∃ f ∈ Crossing.faults, f.kind ≠ .semantic) ∧
      ∃ again made, Crossing.faults = again ++ made ∧ (∀ f ∈ again, ∃ name, f.cause = .alreadyDeclared name) ∧
        Crossing.tree.Follows made := by
  obtain ⟨log, rejected⟩ := Crossing.rejected
  have construction : ∃ f ∈ Crossing.faults, f.kind ≠ .semantic := ⟨_, List.mem_cons_self, by decide⟩
  exact ⟨log, Crossing.read, rejected, construction,
    Program.parse_reports_statements Crossing.read rejected construction⟩

/-- The mistake in the second branch is reported in front of the one in the first branch, which stops before the second
branch starts. -/
theorem crossing_reports_backwards :
    ProgramTree.parse Crossing.source = .ok Crossing.tree ∧
      (.statement Crossing.turn ∈ Crossing.tree.sites ∧ .statement Crossing.fire ∈ Crossing.tree.sites ∧
        Crossing.turn.extent.stop ≤ Crossing.fire.extent.start) ∧
      ∃ f g log, Program.parse Crossing.source none none (.ok 9) = .error (.rejected [f, g] log) ∧
        (f.kind ≠ .semantic ∧ g.kind ≠ .semantic) ∧ f.In Crossing.fire.extent ∧ g.In Crossing.turn.extent ∧
        ¬ ∃ name, f.cause = .alreadyDeclared name ∨ g.cause = .alreadyDeclared name := by
  obtain ⟨log, rejected⟩ := Crossing.rejected
  refine ⟨Crossing.read, ⟨?_, ?_, ?_⟩, _, _, log, rejected, by decide, ⟨⟨1, 36⟩, rfl, ?_⟩, ⟨⟨1, 16⟩, rfl, ?_⟩, ?_⟩
  · simp [Crossing.tree, ProgramTree.sites, ItemTree.sites, StmtTree.walk, StmtTree.walkAll, StmtTree.mem_walk_self]
  · simp [Crossing.tree, ProgramTree.sites, ItemTree.sites, StmtTree.walk, StmtTree.walkAll, StmtTree.mem_walk_self]
  · exact (Mark.lt_iff_before.mpr (.inr (by decide))).le
  · exact ⟨le_rfl, Mark.lt_iff_before.mpr (.inr (by decide))⟩
  · exact ⟨le_rfl, Mark.lt_iff_before.mpr (.inr (by decide))⟩
  · simp

end WormLang
