import Mathlib.Data.List.Forall2
import Mathlib.Data.Prod.Lex
import WormLang.Proofs.Build.Omission
import WormLang.Proofs.Grammar.Offence

/-!
The order of what validation reports. Every statement of a text starts with a token of its own, and validation looks at
the statements in the order of these tokens. So the faults come one for each statement that disagrees with the declared
variables, each at the first token of its statement, and their places grow along the list.
-/
namespace WormLang

/-- A mark stands in front of another one. -/
def Mark.Before (m n : Mark) : Prop := m.line < n.line ∨ m.line = n.line ∧ m.column < n.column

namespace Mark

variable {m n k : Mark}

theorem Before.trans (first : m.Before n) (second : n.Before k) : m.Before k := by
  unfold Before at *
  omega

theorem before_after (m : Mark) (c : Char) : m.Before (m.after c) := by
  unfold Before after
  split <;> simp

theorem before_along (m : Mark) (extra : Nat) : m.Before { m with column := m.column + 1 + extra } :=
  .inr ⟨rfl, by dsimp only; omega⟩

end Mark

namespace Scan

/-- Tokens are cut one behind the other, and none in front of the mark where cutting starts. -/
theorem before_run (m : Mark) (cs : List Char) :
    (∀ n : Mark, n.Before m → ∀ t ∈ (run m cs).tokens, n.Before t.start) ∧
      (run m cs).tokens.Pairwise fun t u => t.start.Before u.start := by
  fun_induction run m cs with
  | case1 => exact ⟨fun _ _ => List.forall_mem_nil _, .nil⟩
  | case2 m c rest space ih => exact ⟨fun n before => ih.1 n (before.trans (m.before_after c)), ih.2⟩
  | case3 m c rest noSpace starts comment ih => exact ⟨fun n before => ih.1 n (before.trans (m.before_along _)), ih.2⟩
  | case4 => exact ⟨fun _ _ => List.forall_mem_nil _, .nil⟩
  | case5 m c rest noSpace noComment l extra cut stop scan ih =>
    refine ⟨fun n before => List.forall_mem_cons.mpr ⟨before, ih.1 n (before.trans (m.before_along extra))⟩, ?_⟩
    exact List.pairwise_cons.mpr ⟨ih.1 m (m.before_along extra), ih.2⟩

end Scan

/-- The lexeme that a statement starts with. -/
def StmtTree.opening : StmtTree → Lexeme
  | block .. => .symbol .openBrace
  | assignment _ name _ => .name name.text
  | print .. => .keyword .print
  | turn .. => .keyword .turn
  | fire .. => .keyword .fire
  | simple _ a => .keyword a.keyword
  | branch .. | branchElse .. => .keyword .ifWord
  | loop .. => .keyword .whileWord
  | each .. => .keyword .foreach

/-- The statements of a walk start with tokens of their own, in the same order. -/
theorem StmtPhrase.openings_sublist (s : StmtPhrase) :
    (s.tree.walk.map fun t => (t.extent.start, t.opening)).Sublist (s.tokens.map fun t => (t.start, t.lexeme)) := by
  have behind : ∀ {walk front tokens : List (Mark × Lexeme)}, walk.Sublist tokens → walk.Sublist (front ++ tokens) :=
    fun inner => inner.trans (List.sublist_append_right _ _)
  induction s using phrase_induction with
  | block opening body closing ih =>
    have inside : ((trees body).flatMap StmtTree.walk |>.map fun t => (t.extent.start, t.opening)).Sublist
        ((tokensAll body).map fun t => (t.start, t.lexeme)) := by
      rw [trees_eq_map, tokensAll_eq_flatMap, List.flatMap_map, List.map_flatMap, List.map_flatMap]
      clear behind
      induction body with
      | nil => exact .slnil
      | cons s rest ihRest =>
        obtain ⟨first, others⟩ := List.forall_mem_cons.mp ih
        exact first.append (ihRest others)
    rw [tree, StmtTree.walk_eq, tokens, List.map_cons, List.map_cons, List.map_append]
    exact (inside.trans (List.sublist_append_left _ _)).cons_cons _
  | assignment name sign e last? => exact (List.nil_sublist _).cons_cons _
  | command c word e last? => cases c <;> exact (List.nil_sublist _).cons_cons _
  | simple a word last? => exact (List.nil_sublist _).cons_cons _
  | branch word c then? yes ih =>
    rw [tree, StmtTree.walk, tokens, List.map_cons, List.map_cons, List.map_append, List.map_append]
    exact (behind (behind ih)).cons_cons _
  | branchElse word c then? yes other no ihYes ihNo =>
    simp only [tree, StmtTree.walk, tokens, List.map_cons, List.map_append]
    exact (behind (behind (ihYes.append (ihNo.cons _)))).cons_cons _
  | loop word c do? body ih =>
    rw [tree, StmtTree.walk, tokens, List.map_cons, List.map_cons, List.map_append, List.map_append]
    exact (behind (behind ih)).cons_cons _
  | each word opening kind kindExtent comma name closing do? body ih =>
    rw [tree, StmtTree.walk, tokens, List.map_cons, List.map_cons]
    refine List.Sublist.cons_cons _ ?_
    simp only [List.map_cons, List.map_append]
    exact ((((behind ih).cons _).cons _).cons _).cons _ |>.cons _

/-- A statement of a program text. A declaration that gives its variable a first value is one. -/
inductive Site where
  | initial (extent : Extent) (t : Ty) (name : Word) (e : ExprTree)
  | statement (s : StmtTree)

namespace Site

def extent : Site → Extent
  | initial extent .. => extent
  | statement s => s.extent

def opening : Site → Lexeme
  | initial _ t _ _ => .keyword (.type t)
  | statement s => s.opening

/-- A statement gives the value of an expression to a variable. -/
inductive Assigns : Site → Word → ExprTree → Prop
  | initial (extent : Extent) (t : Ty) (name : Word) (e : ExprTree) : Assigns (.initial extent t name e) name e
  | assignment (extent : Extent) (name : Word) (e : ExprTree) : Assigns (.statement (.assignment extent name e)) name e

/-- A statement is a loop over entities that binds a variable. -/
inductive Binds : Site → Word → Prop
  | each (extent kindExtent : Extent) (kind : LoopKind) (name : Word) (body : StmtTree) :
    Binds (.statement (.each extent kindExtent kind name body)) name

/-- Why a statement disagrees with the declared variables. -/
inductive Disagrees (declared : List (String × Ty)) (s : Site) : Cause → Prop
  | assignmentUndeclared {name : Word} {e : ExprTree} (assigns : s.Assigns name e)
    (unknown : ∀ t, (name.text, t) ∉ declared) : Disagrees declared s (.assignmentUndeclared name.text)
  | assignmentType {name : Word} {e : ExprTree} {t got : Ty} (assigns : s.Assigns name e)
    (known : (name.text, t) ∈ declared) (typed : e.HasType declared got) (differs : got ≠ t) :
    Disagrees declared s (.assignmentType name.text t got)
  | loopUndeclared {name : Word} (binds : s.Binds name) (unknown : ∀ t, (name.text, t) ∉ declared) :
    Disagrees declared s (.loopUndeclared name.text)
  | loopType {name : Word} {t : Ty} (binds : s.Binds name) (known : (name.text, t) ∈ declared) (differs : t ≠ .entity) :
    Disagrees declared s (.loopType name.text t)

def mismatch? (declared : List (String × Ty)) : Site → Option Cause
  | initial _ _ name e => WormLang.mismatch? declared name.text e
  | statement s => s.mismatch? declared

end Site

def ItemTree.sites : ItemTree → List Site
  | declaration extent _ t name (some e) => [.initial extent t name e]
  | declaration _ _ _ _ none => []
  | statement s => s.walk.map .statement

def ProgramTree.sites (p : ProgramTree) : List Site := p.items.flatMap ItemTree.sites

section Declared

variable {declared : List (String × Ty)}

theorem lookup_eq_none_iff_forall (distinct : (declared.map Prod.fst).Nodup) {name : String} :
    declared.lookup name = none ↔ ∀ t, (name, t) ∉ declared := by
  simp only [← lookup_eq_some_iff_mem distinct]
  exact Option.eq_none_iff_forall_ne_some

namespace ExprTree

/-- An expression with a type shows it. -/
theorem HasType.shown? (distinct : (declared.map Prod.fst).Nodup) {e : ExprTree} {t : Ty}
    (typed : e.HasType declared t) : e.shown? declared = some t := by
  induction typed with
  | number | truth | null | self => rfl
  | name extent known => exact (lookup_eq_some_iff_mem distinct).mpr known
  | unary extent op inner ih => simp [ExprTree.shown?, ih, UnaryOp.refusal?, Place.refusal?, shownUnless]
  | call extent f inner ih => simp [ExprTree.shown?, ih, Place.refusal?, shownUnless]
  | binary extent takes innerLeft innerRight ihLeft ihRight =>
    cases takes <;>
      simp [ExprTree.shown?, ihLeft, ihRight, BinaryOp.refusal?, refusalOfBoth?, Place.refusal?, shownUnless,
        BinaryOp.resultTy]

/-- An expression without refused nodes has a type. -/
theorem exists_hasType (distinct : (declared.map Prod.fst).Nodup) (e : ExprTree) (clean : e.refusals declared = []) :
    ∃ t, e.HasType declared t := by
  have kept : ∀ {extent : Extent} {cause? : Option Cause}, mistakeOf extent cause? = [] → cause? = none := by
    intro extent cause? empty
    cases cause? with
    | none => rfl
    | some cause => cases empty
  have fits : ∀ {place : Place} {needed got : Ty}, place.refusal? needed (some got) = none → got = needed := by
    intro place needed got
    simp [Place.refusal?]
  induction e with
  | number extent text => exact ⟨_, .number extent text⟩
  | truth extent b => exact ⟨_, .truth extent b⟩
  | null extent => exact ⟨_, .null extent⟩
  | self extent => exact ⟨_, .self extent⟩
  | name extent text =>
    have known := kept clean
    cases found : declared.lookup text with
    | none => simp [refusal?, found] at known
    | some t => exact ⟨t, .name extent ((lookup_eq_some_iff_mem distinct).mp found)⟩
  | unary extent op operand ih =>
    obtain ⟨inside, own⟩ := List.append_eq_nil_iff.mp clean
    obtain ⟨t, typed⟩ := ih inside
    have known := kept own
    rw [refusal?, typed.shown? distinct] at known
    exact ⟨_, .unary extent op (fits known ▸ typed)⟩
  | call extent f argument ih =>
    obtain ⟨inside, own⟩ := List.append_eq_nil_iff.mp clean
    obtain ⟨t, typed⟩ := ih inside
    have known := kept own
    rw [refusal?, typed.shown? distinct] at known
    exact ⟨_, .call extent f (fits known ▸ typed)⟩
  | binary extent op left right ihLeft ihRight =>
    obtain ⟨inside, own⟩ := List.append_eq_nil_iff.mp clean
    obtain ⟨cleanLeft, cleanRight⟩ := List.append_eq_nil_iff.mp inside
    obtain ⟨t, typedLeft⟩ := ihLeft cleanLeft
    obtain ⟨u, typedRight⟩ := ihRight cleanRight
    have known := kept own
    rw [refusal?, typedLeft.shown? distinct, typedRight.shown? distinct] at known
    have both : ∀ symbol needed, refusalOfBoth? symbol needed (some t) (some u) = none → t = needed ∧ u = needed := by
      intro symbol needed unrefused
      obtain ⟨first, second⟩ := Option.or_eq_none_iff.mp unrefused
      exact ⟨fits first, fits second⟩
    cases op with
    | arithmetic op =>
      obtain ⟨rfl, rfl⟩ := both _ _ known
      exact ⟨_, .binary extent (.arithmetic op) typedLeft typedRight⟩
    | order op =>
      obtain ⟨rfl, rfl⟩ := both _ _ known
      exact ⟨_, .binary extent (.order op) typedLeft typedRight⟩
    | logical op =>
      obtain ⟨rfl, rfl⟩ := both _ _ known
      exact ⟨_, .binary extent (.logical op) typedLeft typedRight⟩
    | equality op =>
      obtain rfl : t = u := by simpa [BinaryOp.refusal?] using known
      exact ⟨_, .binary extent (.equality op t) typedLeft typedRight⟩

end ExprTree

theorem mismatch?_eq_some_iff (distinct : (declared.map Prod.fst).Nodup) {name : String} {e : ExprTree} {got : Ty}
    (typed : e.HasType declared got) {cause : Cause} :
    mismatch? declared name e = some cause ↔
      ((∀ t, (name, t) ∉ declared) ∧ cause = .assignmentUndeclared name) ∨
        ∃ t, (name, t) ∈ declared ∧ got ≠ t ∧ cause = .assignmentType name t got := by
  simp only [← lookup_eq_some_iff_mem distinct]
  rw [mismatch?, typed.shown? distinct]
  cases declared.lookup name with
  | none => simp [eq_comm]
  | some t => by_cases same : got = t <;> simp [same, eq_comm]

namespace Site

variable {s : Site} {cause : Cause}

/-- The expressions of a statement that give values show all their types. -/
def Clean (declared : List (String × Ty)) (s : Site) : Prop := ∀ name e, s.Assigns name e → e.refusals declared = []

theorem Assigns.mismatch?_eq {name : Word} {e : ExprTree} (assigns : s.Assigns name e) :
    s.mismatch? declared = WormLang.mismatch? declared name.text e := by
  cases assigns <;> rfl

/-- Validation of a statement finds why it disagrees with the declared variables. -/
theorem mismatch?_eq_some_iff_disagrees (distinct : (declared.map Prod.fst).Nodup) (clean : s.Clean declared) :
    s.mismatch? declared = some cause ↔ s.Disagrees declared cause := by
  constructor
  · intro mismatched
    by_cases gives : ∃ name e, s.Assigns name e
    · obtain ⟨name, e, assigns⟩ := gives
      obtain ⟨got, typed⟩ := e.exists_hasType distinct (clean name e assigns)
      rw [assigns.mismatch?_eq, mismatch?_eq_some_iff distinct typed] at mismatched
      obtain ⟨unknown, rfl⟩ | ⟨t, known, differs, rfl⟩ := mismatched
      · exact .assignmentUndeclared assigns unknown
      · exact .assignmentType assigns known typed differs
    · cases s with
      | initial extent t name e => exact absurd ⟨name, e, .initial extent t name e⟩ gives
      | statement s =>
        cases s with
        | assignment extent name e => exact absurd ⟨name, e, .assignment extent name e⟩ gives
        | each extent kindExtent kind name body =>
          have binds : Binds _ name := .each extent kindExtent kind name body
          simp only [mismatch?, StmtTree.mismatch?] at mismatched
          cases found : declared.lookup name.text with
          | none =>
            rw [found] at mismatched
            cases mismatched
            exact .loopUndeclared binds ((lookup_eq_none_iff_forall distinct).mp found)
          | some t =>
            rw [found] at mismatched
            dsimp only at mismatched
            split at mismatched
            next => cases mismatched
            next differs =>
              cases mismatched
              exact .loopType binds ((lookup_eq_some_iff_mem distinct).mp found) differs
        | _ => cases mismatched
  · intro disagrees
    cases disagrees with
    | assignmentUndeclared assigns unknown =>
      obtain ⟨got, typed⟩ := ExprTree.exists_hasType distinct _ (clean _ _ assigns)
      rw [assigns.mismatch?_eq, mismatch?_eq_some_iff distinct typed]
      exact .inl ⟨unknown, rfl⟩
    | assignmentType assigns known typed differs =>
      rw [assigns.mismatch?_eq, mismatch?_eq_some_iff distinct typed]
      exact .inr ⟨_, known, differs, rfl⟩
    | loopUndeclared binds unknown =>
      cases binds
      simp [mismatch?, StmtTree.mismatch?, (lookup_eq_none_iff_forall distinct).mpr unknown]
    | loopType binds known differs =>
      cases binds
      simp [mismatch?, StmtTree.mismatch?, (lookup_eq_some_iff_mem distinct).mpr known, differs]

end Site

/-- Names that are not declared again are different. -/
theorem ItemTree.nodup_of_redeclarations {items : List ItemTree} {before : List (String × Ty)}
    (distinct : (before.map Prod.fst).Nodup) (clean : redeclarations before items = []) :
    ((before ++ items.filterMap declared?).map Prod.fst).Nodup := by
  induction items generalizing before with
  | nil => simpa using distinct
  | cons item rest ih =>
    cases item with
    | statement s => exact ih distinct clean
    | declaration extent typeExtent t name initial? =>
      obtain ⟨own, others⟩ := List.append_eq_nil_iff.mp clean
      have new : before.lookup name.text = none := by
        cases found : before.lookup name.text with
        | none => rfl
        | some u => simp [found, mistakeOf] at own
      have absent : name.text ∉ before.map Prod.fst := by
        intro member
        obtain ⟨⟨_, u⟩, inside, rfl⟩ := List.mem_map.mp member
        exact (lookup_eq_none_iff_forall distinct).mp new u inside
      have more : ((before ++ [(name.text, t)]).map Prod.fst).Nodup := by
        rw [List.map_append, List.nodup_append]
        refine ⟨distinct, List.nodup_singleton _, fun a inside b own => ?_⟩
        rw [List.mem_singleton.mp own]
        rintro rfl
        exact absent inside
      simpa [declared?] using ih more others

theorem StmtTree.mem_refusals_trans {s t : StmtTree} (inside : s ∈ t.walk) {m : Mistake}
    (member : m ∈ s.refusals declared) : m ∈ t.refusals declared := by
  induction t using child_induction with
  | step t ih =>
    rw [walk_eq] at inside
    obtain rfl | deeper := List.mem_cons.mp inside
    · exact member
    · obtain ⟨u, child, among⟩ := List.mem_flatMap.mp deeper
      exact mem_refusals_iff.mpr (.inr (.inl ⟨u, child, ih u child among⟩))

end Declared

/-- Text stands in a source, in front of the rest, where the characters before it lead to a mark. -/
def StandsAt (source : String) (m : Mark) (text : String) : Prop :=
  ∃ front back, source.toList = front ++ (text.toList ++ back) ∧ m = front.foldl Mark.after { line := 1, column := 1 }

namespace ProgramTree

variable {source : String} {tree : ProgramTree}

theorem mismatches_eq (tree : ProgramTree) :
    tree.mismatches = tree.sites.flatMap fun s => mistakeOf s.extent (s.mismatch? tree.declarations) := by
  rw [mismatches, sites, List.flatMap_assoc]
  refine List.flatMap_congr fun item _ => ?_
  cases item with
  | statement s => rw [ItemTree.mismatches, StmtTree.mismatches, ItemTree.sites, List.flatMap_map]; rfl
  | declaration extent typeExtent t name initial? =>
    cases initial? with
    | none => rfl
    | some e => exact (List.append_nil _).symm

/-- The statements of a text start with tokens of their own, in the same order. -/
theorem openings_sublist (read : parse source = .ok tree) :
    (tree.sites.map fun s => (s.extent.start, s.opening)).Sublist
      ((Scan.ofText source).tokens.map fun t => (t.start, t.lexeme)) := by
  obtain ⟨items, tokens, rfl⟩ := exists_items_of_parse read
  rw [← tokens, sites, ItemPhrase.program]
  clear read tokens
  induction items with
  | nil => exact .slnil
  | cons item rest ih =>
    rw [List.map_cons, List.flatMap_cons, List.flatMap_cons, List.map_append, List.map_append]
    refine .append ?_ ih
    cases item with
    | statement s =>
      have own := s.openings_sublist
      rwa [ItemPhrase.tree, ItemTree.sites, List.map_map]
    | declaration ty typeExtent name initial? last =>
      cases initial? with
      | none => exact List.nil_sublist _
      | some initial => exact (List.nil_sublist _).cons_cons _

theorem clean_of_refusals (made : tree.refusals = []) {s : Site} (member : s ∈ tree.sites) :
    s.Clean tree.declarations := by
  obtain ⟨-, clean⟩ := List.append_eq_nil_iff.mp made
  obtain ⟨item, among, inside⟩ := List.mem_flatMap.mp member
  have cleanItem := List.flatMap_eq_nil_iff.mp clean item among
  intro name e assigns
  cases item with
  | declaration extent typeExtent t name initial? =>
    cases initial? with
    | none => cases inside
    | some initial =>
      obtain rfl := List.mem_singleton.mp inside
      cases assigns
      exact (List.append_eq_nil_iff.mp cleanItem).1
  | statement t =>
    obtain ⟨u, deeper, rfl⟩ := List.mem_map.mp inside
    cases assigns with
    | assignment extent =>
      refine List.eq_nil_iff_forall_not_mem.mpr fun m refused => ?_
      have own : m ∈ (StmtTree.assignment extent name e).refusals tree.declarations := List.mem_append_left _ refused
      have outer := StmtTree.mem_refusals_trans deeper own
      rw [show t.refusals tree.declarations = [] from cleanItem] at outer
      cases outer

end ProgramTree

def Fault.place? (f : Fault) : Option (Int × Int) := do
  let p ← f.position
  return (← p.line, ← p.column)

namespace Site

/-- A fault reports why a statement disagrees with the declared variables, where the statement starts. -/
structure Reports (source : String) (file : Option String) (declared : List (String × Ty)) (s : Site) (f : Fault) :
    Prop where
  disagrees : s.Disagrees declared f.cause
  position : f.position = some (s.extent.position file)
  stands : StandsAt source s.extent.start s.opening.text

variable {source : String} {file : Option String} {declared : List (String × Ty)}

/-- What validation finds reports the statements where it finds something, one by one. -/
theorem forall₂_reports {sites : List Site}
    (found : ∀ s ∈ sites, ∀ cause, s.mismatch? declared = some cause → s.Disagrees declared cause)
    (stands : ∀ s ∈ sites, StandsAt source s.extent.start s.opening.text) :
    (sites.filter fun s => (s.mismatch? declared).isSome).Forall₂ (Reports source file declared)
      ((sites.flatMap fun s => mistakeOf s.extent (s.mismatch? declared)).map (Mistake.fault file)) := by
  induction sites with
  | nil => exact .nil
  | cons s rest ih =>
    obtain ⟨foundHere, foundRest⟩ := List.forall_mem_cons.mp found
    obtain ⟨standsHere, standsRest⟩ := List.forall_mem_cons.mp stands
    have others := ih foundRest standsRest
    rw [List.flatMap_cons, List.map_append]
    cases mismatched : s.mismatch? declared with
    | none =>
      rw [List.filter_cons_of_neg (by simp [mismatched])]
      exact others
    | some cause =>
      rw [List.filter_cons_of_pos (by simp [mismatched])]
      exact .cons ⟨foundHere cause mismatched, rfl, standsHere⟩ others

/-- Faults are reported at places that grow as the statements that they report do. -/
theorem pairwise_places {faulty : List Site} {faults : List Fault}
    (each : faulty.Forall₂ (Reports source file declared) faults)
    (ordered : faulty.Pairwise fun s t => s.extent.start.Before t.extent.start) :
    faults.Pairwise fun f g => ∃ p ∈ f.place?, ∃ q ∈ g.place?, toLex p < toLex q := by
  have place : ∀ s f, Reports source file declared s f →
      some ((s.extent.start.line : Int), (s.extent.start.column : Int)) = f.place? := by
    intro s f reports
    rw [Fault.place?, reports.position]
    rfl
  have places : faulty.map (fun s => some ((s.extent.start.line : Int), (s.extent.start.column : Int))) =
      faults.map Fault.place? := by
    rw [← List.forall₂_eq_eq_eq, List.forall₂_map_left_iff, List.forall₂_map_right_iff]
    exact each.imp place
  have grow : (faults.map Fault.place?).Pairwise fun a b => ∃ p ∈ a, ∃ q ∈ b, toLex p < toLex q := by
    rw [← places, List.pairwise_map]
    refine ordered.imp fun {s t} before => ⟨_, rfl, _, rfl, Prod.Lex.toLex_lt_toLex.mpr ?_⟩
    unfold Mark.Before at before
    dsimp only
    omega
  exact List.pairwise_map.mp grow

end Site

namespace ProgramTree

variable {source : String} {file : Option String} {tree : ProgramTree}

/-- Faults report the statements of a text that disagree with its declarations, each of them once and in order. -/
structure ReportsEach (source : String) (file : Option String) (tree : ProgramTree) (faulty : List Site)
    (faults : List Fault) : Prop where
  ordered : tree.sites.Pairwise fun s t => s.extent.start.Before t.extent.start
  among : faulty.Sublist tree.sites
  all : ∀ s ∈ tree.sites, s ∈ faulty ↔ ∃ cause, s.Disagrees tree.declarations cause
  each : faulty.Forall₂ (Site.Reports source file tree.declarations) faults
  increasing : faults.Pairwise fun f g => ∃ p ∈ f.place?, ∃ q ∈ g.place?, toLex p < toLex q

theorem sites_ordered (read : parse source = .ok tree) :
    tree.sites.Pairwise fun s t => s.extent.start.Before t.extent.start := by
  have tokens := (Scan.before_run { line := 1, column := 1 } source.toList).2
  have marks : ((Scan.ofText source).tokens.map fun t => (t.start, t.lexeme)).Pairwise
      fun (a b : Mark × Lexeme) => a.1.Before b.1 := List.pairwise_map.mpr tokens
  have openings := marks.sublist (openings_sublist read)
  rwa [List.pairwise_map] at openings

theorem stands_of_site (read : parse source = .ok tree) {s : Site} (member : s ∈ tree.sites) :
    StandsAt source s.extent.start s.opening.text := by
  have among := (openings_sublist read).subset (List.mem_map_of_mem member)
  obtain ⟨t, token, same⟩ := List.mem_map.mp among
  obtain ⟨start, lexeme⟩ := Prod.mk.inj same
  obtain ⟨before, after, whole⟩ := List.append_of_mem token
  obtain ⟨front, back, reaches, -⟩ := Scan.exists_reaches_token _ _ t after before whole
  exact ⟨front, back, lexeme ▸ reaches.whole, start ▸ reaches.mark⟩

theorem reportsEach_of_parse (read : parse source = .ok tree) (made : tree.refusals = []) (file : Option String) :
    ∃ faulty, tree.ReportsEach source file faulty (tree.mismatches.map (Mistake.fault file)) := by
  have distinct : (tree.declarations.map Prod.fst).Nodup :=
    ItemTree.nodup_of_redeclarations (by simp) (List.append_eq_nil_iff.mp made).1
  have found : ∀ s ∈ tree.sites, ∀ cause,
      s.mismatch? tree.declarations = some cause ↔ s.Disagrees tree.declarations cause :=
    fun s member cause => Site.mismatch?_eq_some_iff_disagrees distinct (clean_of_refusals made member)
  have among : (tree.sites.filter fun s => (s.mismatch? tree.declarations).isSome).Sublist tree.sites :=
    List.filter_sublist
  have each : List.Forall₂ (Site.Reports source file tree.declarations) _ _ :=
    Site.forall₂_reports (fun s member cause => (found s member cause).mp) fun s member => stands_of_site read member
  rw [← mismatches_eq] at each
  refine ⟨_, sites_ordered read, among, fun s member => ?_, each,
    Site.pairwise_places each ((sites_ordered read).sublist among)⟩
  simp [member, Option.isSome_iff_exists, found s member]

end ProgramTree

/-- What is reported of a text that matches the grammar: the nodes that were refused, or what validation finds. -/
theorem Program.faults_of_rejected {source : String} {tree : ProgramTree} (read : ProgramTree.parse source = .ok tree)
    {file : Option String} {handler? : Option HandlerId} {budget : Except Fault Int} {faults : List Fault} {log : Log}
    (rejected : parse source file handler? budget = .error (.rejected faults log)) :
    faults = tree.refusals.map (Mistake.fault file) ∨
      tree.refusals = [] ∧ faults = tree.mismatches.map (Mistake.fault file) := by
  cases budget with
  | ok limit =>
    have outcome := outcome_parse read file handler? limit
    rw [rejected] at outcome
    generalize same : Except.error (Failure.rejected faults log) = result at outcome
    cases outcome with
    | refused => cases same; exact .inl rfl
    | mismatched made => cases same; exact .inr ⟨made, rfl⟩
    | accepted => cases same
  | error fault =>
    obtain ⟨collected, -⟩ := tree.reports_build file (ProgramTree.sane_of_parse read) handler?
    rw [parse_of_read read rfl, Builder.program] at rejected
    split at rejected
    next =>
      cases rejected
      exact .inl collected
    next => cases rejected

/-- Faults of validation are reported only for texts of which every node could be made. -/
theorem Program.mismatches_of_semantic {source : String} {file : Option String} {handler? : Option HandlerId}
    {budget : Except Fault Int} {faults : List Fault} {log : Log}
    (rejected : parse source file handler? budget = .error (.rejected faults log))
    (semantic : ∃ f ∈ faults, f.kind = .semantic) :
    ∃ tree, ProgramTree.parse source = .ok tree ∧ tree.refusals = [] ∧
      faults = tree.mismatches.map (Mistake.fault file) := by
  obtain ⟨f, member, kind⟩ := semantic
  cases read : ProgramTree.parse source with
  | error stop =>
    rw [(parse_refuses_offence read file handler? budget).1] at rejected
    cases rejected
    rw [List.mem_singleton.mp member] at kind
    cases stop <;> cases kind
  | ok tree =>
    obtain rfl | ⟨made, found⟩ := faults_of_rejected read rejected
    · obtain ⟨m, among, rfl⟩ := List.mem_map.mp member
      have early := tree.early_of_refusals m among
      rw [Mistake.IsEarly, show m.cause.kind = .semantic from kind] at early
      simp at early
    · exact ⟨tree, rfl, made, found⟩

/-- Validation reports the statements that disagree with the declared variables: assignments and first values to names
that are not declared or have another type, and loops over entities whose variables are not declared or hold no entity.
Each of them is reported once, where its first token stands, and the reports come in the order of the text. -/
theorem Program.parse_reports_in_order {source : String} {file : Option String} {handler? : Option HandlerId}
    {budget : Except Fault Int} {faults : List Fault} {log : Log}
    (rejected : parse source file handler? budget = .error (.rejected faults log))
    (semantic : ∃ f ∈ faults, f.kind = .semantic) :
    ∃ tree faulty, ProgramTree.parse source = .ok tree ∧ tree.ReportsEach source file faulty faults := by
  obtain ⟨tree, read, made, rfl⟩ := mismatches_of_semantic rejected semantic
  obtain ⟨faulty, reports⟩ := ProgramTree.reportsEach_of_parse read made file
  exact ⟨tree, faulty, read, reports⟩

namespace Roster

/-- A first value of another type, and a loop over a number with two assignments inside, of which one is to a name that
is not declared and one stands on a line of its own. -/
def source : String :=
  "double n := true; foreach (worm, n) do \x7b if true \x7b m := 1; \x7d\n n := null; \x7d n := 2;"

def place (line column endLine endColumn : Nat) : Extent := { start := ⟨line, column⟩, stop := ⟨endLine, endColumn⟩ }

def tree : ProgramTree :=
  { items := [
      .declaration (place 1 1 1 18) (place 1 1 1 7) .number ⟨place 1 8 1 9, "n"⟩ (some (.truth (place 1 13 1 17) true)),
      .statement (.each (place 1 19 2 14) (place 1 28 1 32) .worm ⟨place 1 34 1 35, "n"⟩
        (.block (place 1 40 2 14) [
          .branch (place 1 42 1 61) (.truth (place 1 45 1 49) true)
            (.block (place 1 50 1 61) [
              .assignment (place 1 52 1 59) ⟨place 1 52 1 53, "m"⟩ (.number (place 1 57 1 58) "1")]),
          .assignment (place 2 2 2 12) ⟨place 2 2 2 3, "n"⟩ (.null (place 2 7 2 11))])),
      .statement (.assignment (place 2 15 2 22) ⟨place 2 15 2 16, "n"⟩ (.number (place 2 20 2 21) "2"))] }

def faults : List Fault := [
  { cause := .assignmentType "n" .number .boolean, position := some ((place 1 1 1 18).position none) },
  { cause := .loopType "n" .number, position := some ((place 1 19 2 14).position none) },
  { cause := .assignmentUndeclared "m", position := some ((place 1 52 1 59).position none) },
  { cause := .assignmentType "n" .number .entity, position := some ((place 2 2 2 12).position none) }]

theorem read : ProgramTree.parse source = .ok tree := by cbv

end Roster

/-- Four statements of the text disagree with its declaration, and the last one does not. -/
theorem roster_reports :
    ∃ log, Program.parse Roster.source none none (.ok 9) = .error (.rejected Roster.faults log) ∧
      (∃ f ∈ Roster.faults, f.kind = .semantic) ∧
      ∃ tree faulty, ProgramTree.parse Roster.source = .ok tree ∧
        tree.ReportsEach Roster.source none faulty Roster.faults := by
  have made : Roster.tree.refusals = [] := rfl
  have found : Roster.tree.mismatches.map (Mistake.fault none) = Roster.faults := rfl
  obtain ⟨log, rejected⟩ : ∃ log,
      Program.parse Roster.source none none (.ok 9) = .error (.rejected Roster.faults log) := by
    have outcome := Program.outcome_parse Roster.read none none 9
    generalize Program.parse Roster.source none none (.ok 9) = result at outcome
    cases outcome with
    | refused refused => exact absurd made refused
    | mismatched _ _ log => exact ⟨log, by rw [found]⟩
    | accepted _ matched => rw [matched] at found; cases found
  have semantic : ∃ f ∈ Roster.faults, f.kind = .semantic := ⟨_, List.mem_cons_self, rfl⟩
  exact ⟨log, rejected, semantic, Program.parse_reports_in_order rejected semantic⟩

end WormLang
