import WormLang.CommandLine
import WormLang.Proofs.Build.Typing

/-!
Where the actions of a built tree are. The calls of a builder make trees in which no loop over entities has an action
anywhere in its body, so that whether a statement acts can be told from what its constructor noted. Building from
program text makes only such calls.
-/
namespace WormLang

open Builder

namespace Stmt

def isAction : Stmt → Bool
  | action .. => true
  | _ => false

def isEach : Stmt → Bool
  | each .. => true
  | _ => false

/-- No action lies in the tree. -/
def Peaceful (s : Stmt) : Prop := ∀ t ∈ s.walk, t.isAction = false

/-- Trees made by calls of builders, whatever was built with them before. A call that fails leaves a placeholder. -/
inductive Made : Stmt → Prop
  | sequence (at? : Option Position) {body : List Stmt} (inside : ∀ s ∈ body, Made s) : Made (.sequence at? body)
  | print (at? : Option Position) (e : Expr) : Made (.print at? e)
  | assignment (b : Builder) (at? : Option Position) (name : String) (e : Expr) :
    Made ((keepStmt .assignment (mkAssignment at? name e)).run b).1
  | action (b : Builder) (form : Form) (at? : Option Position) (a : Action) :
    Made ((keepStmt form (mkAction at? a)).run b).1
  | branch (b : Builder) (at? : Option Position) (c : Expr) {yes : Stmt} {no? : Option Stmt} (ifYes : Made yes)
    (ifNo : ∀ no ∈ no?, Made no) : Made ((Builder.branch at? c yes no?).run b).1
  | loop (b : Builder) (at? : Option Position) (c : Expr) {body : Stmt} (inside : Made body) :
    Made ((Builder.loop at? c body).run b).1
  | each (b : Builder) (at? : Option Position) (kind : LoopKind) (name : String) {body : Stmt} (inside : Made body) :
    Made ((Builder.each at? kind name body).run b).1

theorem isWellFormed_iff {s : Stmt} : s.isWellFormed = true ↔
    (∀ id at? kind name body, s = .each id at? kind name body → body.hasAction = false) ∧
      ∀ t ∈ s.children, t.isWellFormed = true := by
  unfold isWellFormed
  simp only [List.all_eq_true]
  rw [forall_walk_iff]
  refine and_congr ⟨fun own id at? kind name body same => ?_, fun own => ?_⟩ Iff.rfl
  · subst same
    simpa using own
  · cases s with
    | each id at? kind name body => simpa using own id at? kind name body rfl
    | _ => rfl

theorem isWellFormed_placeholder (f : Fault) : (placeholder f).isWellFormed = true :=
  isWellFormed_iff.mpr ⟨by simp, by simp [children]⟩

/-- What is kept of a statement is the statement that was made or a placeholder. -/
theorem isWellFormed_keepStmt (form : Form) (s? : Except Fault Stmt) (b : Builder)
    (checked : ∀ s, s? = .ok s → s.isWellFormed = true) :
    ((keepStmt form s?).run b).1.isWellFormed = true := by
  cases s? with
  | ok s => exact checked s rfl
  | error f => exact isWellFormed_placeholder f

/-- No call of a builder puts an action into the body of a loop over entities. -/
theorem Made.isWellFormed {s : Stmt} (made : s.Made) : s.isWellFormed = true := by
  induction made with
  | sequence at? _ ih => exact isWellFormed_iff.mpr ⟨by simp, by simpa [children] using ih⟩
  | print => exact isWellFormed_iff.mpr ⟨by simp, by simp [children]⟩
  | assignment b at? name e =>
    refine isWellFormed_keepStmt _ _ _ fun s made => ?_
    rw [eq_of_mkAssignment made]
    exact isWellFormed_iff.mpr ⟨by simp, by simp [children]⟩
  | action b form at? a =>
    refine isWellFormed_keepStmt _ _ _ fun s made => ?_
    rw [eq_of_mkAction made]
    exact isWellFormed_iff.mpr ⟨by simp, by simp [children]⟩
  | @branch b at? c yes no? _ _ ihYes ihNo =>
    rw [Builder.branch, run_bind]
    refine isWellFormed_keepStmt _ _ _ fun s made => ?_
    rw [(eq_of_mkBranch made).2]
    have otherwise : (no?.getD (.sequence at? [])).isWellFormed = true := by
      cases no? with
      | none => exact isWellFormed_iff.mpr ⟨by simp, by simp [children]⟩
      | some no => exact ihNo no rfl
    exact isWellFormed_iff.mpr ⟨by simp, by simp [children, ihYes, otherwise]⟩
  | loop b at? c _ ih =>
    rw [Builder.loop, run_bind]
    refine isWellFormed_keepStmt _ _ _ fun s made => ?_
    rw [(eq_of_mkLoop made).2]
    exact isWellFormed_iff.mpr ⟨by simp, by simp [children, ih]⟩
  | each b at? kind name _ ih =>
    rw [Builder.each, run_bind]
    refine isWellFormed_keepStmt _ _ _ fun s made => ?_
    obtain ⟨quiet, rfl⟩ := eq_of_mkEach made
    refine isWellFormed_iff.mpr ⟨?_, by simp [children, ih]⟩
    intro id' at' kind' name' body' same
    cases same
    exact quiet

/-- An action lies in a tree if the tree is one or one lies in a direct part of it. -/
theorem exists_action_iff (s : Stmt) : (∃ t ∈ s.walk, t.isAction = true) ↔
    s.isAction = true ∨ ∃ part ∈ s.children, ∃ t ∈ part.walk, t.isAction = true := by
  rw [walk_eq]
  simp only [List.mem_cons, List.mem_flatMap]
  constructor
  · rintro ⟨t, rfl | ⟨part, member, among⟩, isAction⟩
    · exact .inl isAction
    · exact .inr ⟨part, member, t, among, isAction⟩
  · rintro (isAction | ⟨part, member, t, among, isAction⟩)
    · exact ⟨s, .inl rfl, isAction⟩
    · exact ⟨t, .inr ⟨part, member, among⟩, isAction⟩

/-- What a constructor notes about actions, from what was noted one level below. -/
theorem hasAction_iff_children {s : Stmt}
    (quiet : ∀ id at? kind name body, s = .each id at? kind name body → body.hasAction = false) :
    s.hasAction = true ↔ s.isAction = true ∨ ∃ part ∈ s.children, part.hasAction = true := by
  cases s with
  | sequence at? body => simp [hasAction, hasActionAny_eq_any, isAction, children]
  | each id at? kind name body => simp [hasAction, isAction, children, quiet id at? kind name body rfl]
  | _ => simp [hasAction, isAction, children]

/-- What a statement notes about actions is what its walk shows, if no loop over entities notes one in its body. -/
theorem hasAction_iff {s : Stmt} (wellFormed : s.isWellFormed = true) :
    s.hasAction = true ↔ ∃ t ∈ s.walk, t.isAction = true := by
  induction s using child_induction with
  | step s ih =>
    obtain ⟨quiet, inner⟩ := isWellFormed_iff.mp wellFormed
    rw [hasAction_iff_children quiet, exists_action_iff]
    refine or_congr Iff.rfl (exists_congr fun part => ?_)
    exact and_congr_right fun member => ih part member (inner part member)

theorem isWellFormed_of_mem_walk {s t : Stmt} (wellFormed : s.isWellFormed = true) (inside : t ∈ s.walk) :
    t.isWellFormed = true := by
  unfold isWellFormed at wellFormed ⊢
  rw [List.all_eq_true] at wellFormed ⊢
  exact fun u among => wellFormed u (mem_walk_trans inside among)

/-- A loop over entities that was checked is peaceful. -/
theorem peaceful_of_isEach {s t : Stmt} (wellFormed : s.isWellFormed = true) (inside : t ∈ s.walk)
    (isEach : t.isEach = true) : t.Peaceful := by
  have quiet : t.hasAction = false := by
    cases t <;> first | rfl | cases isEach
  intro u among
  by_contra acts
  have noted := (hasAction_iff (isWellFormed_of_mem_walk wellFormed inside)).mpr ⟨u, among, by simpa using acts⟩
  rw [quiet] at noted
  cases noted

end Stmt

open Stmt

mutual

/-- Building a statement makes only calls of the builder. -/
theorem StmtTree.made_build (file : Option String) : (t : StmtTree) → (b : Builder) → ((t.build file).run b).1.Made
  | .block extent body, b => by
    rw [StmtTree.build, run_bind]
    exact .sequence _ (StmtTree.made_buildAll file body b)
  | .assignment extent name e, b => by
    rw [StmtTree.build, run_bind]
    exact .assignment _ _ _ _
  | .print extent e, b => by
    rw [StmtTree.build, run_bind]
    exact .print _ _
  | .turn extent e, b => by
    rw [StmtTree.build, run_bind]
    exact .action _ .turn _ (.turn _)
  | .fire extent e, b => by
    rw [StmtTree.build, run_bind]
    exact .action _ .fire _ (.fire _)
  | .simple extent a, b => by
    rw [StmtTree.build]
    cases a with
    | move => exact .action b .move _ .move
    | jump => exact .action b .jump _ .jump
    | toggleweap => exact .action b .toggleWeapon _ .toggleWeapon
    | skip => exact .action b .skip _ .skip
  | .branch extent c yes, b => by
    rw [StmtTree.build, run_bind, run_bind]
    exact .branch _ _ _ (StmtTree.made_build file yes _) (by simp)
  | .branchElse extent c yes no, b => by
    rw [StmtTree.build, run_bind, run_bind, run_bind]
    refine .branch _ _ _ (StmtTree.made_build file yes _) fun s member => ?_
    cases member
    exact StmtTree.made_build file no b
  | .loop extent c body, b => by
    rw [StmtTree.build, run_bind, run_bind]
    exact .loop _ _ _ (StmtTree.made_build file body _)
  | .each extent kindExtent kind name body, b => by
    rw [StmtTree.build, run_bind]
    exact .each _ _ _ _ (StmtTree.made_build file body _)

theorem StmtTree.made_buildAll (file : Option String) : (body : List StmtTree) → (b : Builder) →
    ∀ s ∈ ((StmtTree.buildAll file body).run b).1, s.Made
  | [], b => by
    rw [StmtTree.buildAll]
    exact fun s member => by cases member
  | t :: rest, b => by
    rw [StmtTree.buildAll, run_bind, run_bind]
    intro s member
    obtain rfl | member := List.mem_cons.mp member
    · exact StmtTree.made_build file t b
    · exact StmtTree.made_buildAll file rest _ s member

end

theorem ItemTree.made_buildAll (file : Option String) (items : List ItemTree) (b : Builder) :
    ∀ s ∈ ((items.mapM (ItemTree.build file)).run b).1.filterMap id, s.Made := by
  induction items generalizing b with
  | nil => exact fun s member => by cases member
  | cons item rest ih =>
    rw [List.mapM_cons, run_bind, run_bind]
    intro s member
    obtain ⟨s', member, same⟩ := List.mem_filterMap.mp member
    cases same
    obtain first | member := List.mem_cons.mp member
    · cases item with
      | declaration extent typeExtent ty name initial? =>
        cases initial? with
        | none => cases first
        | some initial =>
          cases first
          exact .assignment _ _ _ _
      | statement tree =>
        cases first
        exact tree.made_build file b
    · exact ih _ s (List.mem_filterMap.mpr ⟨some s, member, rfl⟩)

namespace Program

/-- Programs that come out of their text, or out of a builder with a root that builders made. -/
inductive Built (p : Program) : Prop
  | parsed {source : String} {file : Option String} {handler? : Option HandlerId} {budget : Except Fault Int}
    (parsed : parse source file handler? budget = .ok p) : Built p
  | assembled {b : Builder} {root : Stmt} {budget : Except Fault Int} (made : root.Made)
    (assembled : b.program root budget = .ok p) : Built p

theorem Built.made {p : Program} (built : p.Built) : p.root.Made := by
  cases built with
  | parsed parsed =>
    obtain ⟨tree, -, -, root, -⟩ := exists_tree_of_parse parsed
    rw [root, ProgramTree.build, run_bind, run_bind]
    exact .sequence _ (ItemTree.made_buildAll _ tree.items _)
  | @assembled b root budget made assembled =>
    have same : p.root = root := by
      unfold Builder.program at assembled
      split at assembled
      · cases assembled
      · cases budget with
        | error f => cases assembled
        | ok n =>
          cases assembled
          rfl
    exact same ▸ made

theorem Built.isWellFormed {p : Program} (built : p.Built) : p.isWellFormed = true := built.made.isWellFormed

end Program

namespace CommandLine

/-- Printing lines ends well or in a fault of the console. -/
theorem ending_printLines (lines : List String) :
    (printLines lines).ending = .exit 0 "" ∨ ∃ f, (printLines lines).ending = .fault f := by
  induction lines with
  | nil => exact .inl rfl
  | cons line rest ih =>
    unfold printLines
    split
    · exact ih
    · exact .inr ⟨_, rfl⟩

/-- Only a program that is not well formed makes the check of a program exit with a complaint. -/
theorem ending_checkReport {p : Program} (wellFormed : p.isWellFormed = true) (source : String) (dump : Bool)
    (status : Nat) (complaint : String) (positive : status ≠ 0) :
    (checkReport source dump p).ending ≠ .exit status complaint := by
  unfold checkReport
  rw [wellFormed]
  dsimp only
  split
  · simp
  · intro same
    obtain well | ⟨f, broken⟩ := ending_printLines ["[green]ok[/green] " ++ source]
    · have ends : (printLines ["[green]ok[/green] " ++ source]).ending = .exit status complaint := same
      rw [well] at ends
      cases ends
      exact positive rfl
    · have ends : (printLines ["[green]ok[/green] " ++ source]).ending = .exit status complaint := same
      rw [broken] at ends
      cases ends

end CommandLine

end WormLang
