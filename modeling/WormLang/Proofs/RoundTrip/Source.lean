import WormLang.Proofs.RoundTrip.Rebuilding

/-!
What program text can come to. Every name that the scan cuts is a word and no keyword, and the reader takes names of
declarations from such tokens only. Branches and bodies are always blocks.
-/
namespace WormLang

namespace Scan

theorem valid_of_lexeme? {c : Char} {rest : List Char} {text : String} {extra : Nat}
    (cut : lexeme? c rest = some (.name text, extra)) : (Lexeme.name text).Valid := by
  unfold lexeme? at cut
  split at cut
  · next starts =>
    obtain ⟨word, -⟩ := Prod.mk.inj (Option.some.inj cut)
    unfold Lexeme.ofWord at word
    split at word
    · cases word
    · next free =>
      cases word
      refine ⟨?_, free⟩
      rw [String.toList_ofList, isWord, starts, Bool.true_and]
      exact List.all_takeWhile
  · split at cut
    · obtain ⟨found, -, same⟩ := Option.map_eq_some_iff.mp cut
      cases same
    · cases cut

/-- Every name that is cut from a text is a word and no keyword. -/
theorem valid_of_mem_run (m : Mark) (cs : List Char) :
    ∀ t ∈ (run m cs).tokens, ∀ text, t.lexeme = .name text → (Lexeme.name text).Valid := by
  fun_induction run m cs with
  | case1 => simp
  | case2 m c rest space ih => exact ih
  | case3 m c rest space starts comment ih => exact ih
  | case4 => simp
  | case5 m c rest space starts lexeme extra cut stop scan ih =>
    intro t member text named
    obtain rfl | member := List.mem_cons.mp member
    · cases named
      exact valid_of_lexeme? cut
    · exact ih t member text named

end Scan

namespace StmtTree

def isBlock : StmtTree → Bool
  | block .. => true
  | _ => false

mutual

/-- All branches and bodies inside a tree are blocks. -/
def Blocked : StmtTree → Prop
  | .block _ body => BlockedAll body
  | .branch _ _ yes => yes.isBlock = true ∧ yes.Blocked
  | .branchElse _ _ yes no => (yes.isBlock = true ∧ yes.Blocked) ∧ no.isBlock = true ∧ no.Blocked
  | .loop _ _ body | .each _ _ _ _ body => body.isBlock = true ∧ body.Blocked
  | _ => True

def BlockedAll : List StmtTree → Prop
  | [] => True
  | tree :: rest => tree.Blocked ∧ BlockedAll rest

end

theorem blockedAll_iff {trees : List StmtTree} : BlockedAll trees ↔ ∀ tree ∈ trees, tree.Blocked := by
  induction trees with
  | nil => simp [BlockedAll]
  | cons tree rest ih => simp [BlockedAll, ih]

end StmtTree

/-- The item declares a name or is a statement with blocks throughout. -/
def ItemTree.Sane : ItemTree → Prop
  | declaration _ _ _ name _ => (Lexeme.name name.text).Valid
  | statement tree => tree.Blocked

def Purpose.Sane : Purpose → Prop
  | initial _ _ _ name => (Lexeme.name name.text).Valid
  | _ => True

def Role.Sane : Role → Prop
  | no _ _ first => first.isBlock = true ∧ first.Blocked
  | _ => True

def Phase.Sane : Phase → Prop
  | operand purpose _ | operator purpose _ _ | argument purpose _ _ _ => purpose.Sane
  | named _ _ name => (Lexeme.name name.text).Valid
  | opening role _ => role.Sane
  | chosen _ _ yes => yes.isBlock = true ∧ yes.Blocked
  | _ => True

structure Level.Sane (level : Level) : Prop where
  role : level.role.Sane
  done : ∀ tree ∈ level.done, tree.Blocked

namespace Reader

/-- The names and blocks that a reader keeps. -/
structure Sane (r : Reader) : Prop where
  items : ∀ item ∈ r.items, item.Sane
  levels : ∀ level ∈ r.levels, level.Sane
  phase : r.phase.Sane

variable {r r' : Reader} {t : Token}

theorem Sane.withPhase (sane : r.Sane) {phase : Phase} (kept : phase.Sane) : ({ r with phase } : Reader).Sane :=
  ⟨sane.items, sane.levels, kept⟩

theorem Sane.add (sane : r.Sane) {tree : StmtTree} (blocked : tree.Blocked) : (r.add tree).Sane := by
  unfold Reader.add
  split
  · refine ⟨fun item member => ?_, sane.levels, trivial⟩
    obtain rfl | member := List.mem_cons.mp member
    · exact blocked
    · exact sane.items item member
  · next level rest here =>
    have levels := here ▸ sane.levels
    refine ⟨sane.items, fun other member => ?_, trivial⟩
    obtain rfl | member := List.mem_cons.mp member
    · have kept := levels level List.mem_cons_self
      refine ⟨kept.role, fun s inside => ?_⟩
      obtain rfl | inside := List.mem_cons.mp inside
      · exact blocked
      · exact kept.done s inside
    · exact levels other (List.mem_cons_of_mem _ member)

theorem Sane.openBlock (sane : r.Sane) {role : Role} (kept : role.Sane) (start : Mark) :
    (r.openBlock role start).Sane := by
  refine ⟨sane.items, fun level member => ?_, trivial⟩
  obtain rfl | member := List.mem_cons.mp member
  · exact ⟨kept, by simp⟩
  · exact sane.levels level member

theorem Sane.closeBlock? (sane : r.Sane) {stop : Mark} (closed : r.closeBlock? stop = some r') : r'.Sane := by
  unfold Reader.closeBlock? at closed
  split at closed
  · cases closed
  · next level rest here =>
    have levels := here ▸ sane.levels
    have kept := levels level List.mem_cons_self
    have block : (StmtTree.block { start := level.start, stop } level.done.reverse).Blocked := by
      rw [StmtTree.Blocked, StmtTree.blockedAll_iff]
      intro tree member
      exact kept.done tree (List.mem_reverse.mp member)
    have outer : ({ r with levels := rest } : Reader).Sane :=
      ⟨sane.items, fun other member => levels other (List.mem_cons_of_mem _ member), sane.phase⟩
    dsimp only at closed
    split at closed <;> cases closed
    · exact outer.add block
    · exact outer.withPhase ⟨rfl, block⟩
    · next role =>
      have yes : Role.Sane (.no _ _ _) := role ▸ kept.role
      refine outer.add ?_
      rw [StmtTree.Blocked]
      exact ⟨yes, rfl, block⟩
    · refine outer.add ?_
      rw [StmtTree.Blocked]
      exact ⟨rfl, block⟩
    · refine outer.add ?_
      rw [StmtTree.Blocked]
      exact ⟨rfl, block⟩

theorem Sane.begin? (sane : r.Sane) (begun : r.begin? t = some r') : r'.Sane := by
  unfold Reader.begin? at begun
  split at begun
  · split at begun
    · cases begun
      exact sane.withPhase trivial
    · cases begun
  case h_9 => 
    obtain ⟨action, -, rfl⟩ := Option.map_eq_some_iff.mp begun
    exact sane.withPhase trivial
  case h_10 =>
    cases begun
    refine sane.openBlock ?_ _
    trivial
  case h_11 => exact sane.closeBlock? begun
  case h_12 => cases begun
  all_goals
    cases begun
    exact sane.withPhase trivial

theorem Sane.takeOperand? (sane : r.Sane) {purpose : Purpose} {pending : List Pending} (kept : purpose.Sane)
    (taken : r.takeOperand? purpose pending t = some r') : r'.Sane := by
  unfold Reader.takeOperand? at taken
  split at taken
  · cases taken
    exact sane.withPhase kept
  · split at taken <;> cases taken <;> exact sane.withPhase kept

theorem blocked_of_statement? {purpose : Purpose} {stop : Mark} {e : ExprTree} {tree : StmtTree}
    (made : purpose.statement? stop e = some tree) : tree.Blocked := by
  cases purpose <;> cases made <;> rw [StmtTree.Blocked] <;> simp

theorem Sane.endExpression? (sane : r.Sane) {purpose : Purpose} {e : Operand} (kept : purpose.Sane)
    (ended : r.endExpression? purpose e t = some r') : r'.Sane := by
  unfold Reader.endExpression? at ended
  split at ended
  · cases ended
    refine ⟨fun item member => ?_, sane.levels, trivial⟩
    obtain rfl | member := List.mem_cons.mp member
    · exact kept
    · exact sane.items item member
  · obtain ⟨tree, made, rfl⟩ := Option.map_eq_some_iff.mp ended
    exact sane.add (blocked_of_statement? made)
  · cases ended
    refine sane.openBlock ?_ _
    trivial
  · cases ended
    refine sane.openBlock ?_ _
    trivial
  · cases ended
    exact sane.withPhase trivial
  · cases ended
    exact sane.withPhase trivial
  · cases ended

theorem Sane.takeOperator? (sane : r.Sane) {purpose : Purpose} {pending : List Pending} {e : Operand}
    (kept : purpose.Sane) (taken : r.takeOperator? purpose pending e t = some r') : r'.Sane := by
  unfold Reader.takeOperator? at taken
  split at taken
  · obtain ⟨waiting, -, rfl⟩ := Option.map_eq_some_iff.mp taken
    exact sane.withPhase kept
  · split at taken
    · obtain ⟨⟨waiting, operand⟩, -, rfl⟩ := Option.map_eq_some_iff.mp taken
      exact sane.withPhase kept
    · obtain ⟨whole, -, ended⟩ := Option.bind_eq_some_iff.mp taken
      exact sane.endExpression? kept ended

theorem Sane.rest? (sane : r.Sane) (rested : r.rest? = some r') : r'.Sane := by
  have kept := sane.phase
  unfold Reader.rest? at rested
  split at rested
  · cases rested
    exact sane
  · obtain ⟨whole, -, rested⟩ := Option.bind_eq_some_iff.mp rested
    obtain ⟨tree, made, rfl⟩ := Option.map_eq_some_iff.mp rested
    exact sane.add (blocked_of_statement? made)
  · cases rested
    exact sane.add (by rw [StmtTree.Blocked] <;> simp)
  · next phase =>
    cases rested
    rw [phase] at kept
    refine sane.add ?_
    rw [StmtTree.Blocked]
    exact kept
  · cases rested

theorem Sane.continue? (sane : r.Sane) (valid : ∀ text, t.lexeme = .name text → (Lexeme.name text).Valid)
    (gone : r.continue? t = some r') : r'.Sane := by
  have kept := sane.phase
  unfold Reader.continue? at gone
  split at gone
  case h_1 => cases gone
  case h_2 phase =>
    rw [phase] at kept
    exact sane.takeOperand? kept gone
  case h_3 phase =>
    rw [phase] at kept
    exact sane.takeOperator? kept gone
  case h_4 phase _ =>
    cases gone
    rw [phase] at kept
    exact sane.withPhase kept
  case h_5 named =>
    cases gone
    exact sane.withPhase (valid _ named)
  case h_6 phase _ =>
    cases gone
    rw [phase] at kept
    exact sane.withPhase kept
  case h_7 phase _ =>
    cases gone
    rw [phase] at kept
    refine ⟨fun item member => ?_, sane.levels, trivial⟩
    obtain rfl | member := List.mem_cons.mp member
    · exact kept
    · exact sane.items item member
  case h_9 =>
    cases gone
    exact sane.add (by rw [StmtTree.Blocked] <;> simp)
  case h_10 phase _ =>
    cases gone
    rw [phase] at kept
    exact sane.openBlock kept _
  case h_11 phase _ =>
    rw [phase] at kept
    split at gone
    · cases gone
      exact sane.withPhase kept
    · cases gone
  case h_12 phase _ =>
    cases gone
    rw [phase] at kept
    exact sane.withPhase kept
  case h_18 => cases gone
  all_goals
    cases gone
    exact sane.withPhase trivial

/-- What reading one token keeps. -/
theorem Sane.step? (sane : r.Sane) (valid : ∀ text, t.lexeme = .name text → (Lexeme.name text).Valid)
    (taken : r.step? t = some r') : r'.Sane := by
  unfold Reader.step? at taken
  split at taken
  · next gone =>
    cases taken
    exact sane.continue? valid gone
  · obtain ⟨ready, rested, begun⟩ := Option.bind_eq_some_iff.mp taken
    exact (sane.rest? rested).begin? begun

/-- Whatever is read to its end has names and blocks where they belong. -/
theorem Sane.readAll {tokens : List Token} {last : Mark} {stray? : Option (Char × Mark)} {tree : ProgramTree}
    (sane : r.Sane) (valid : ∀ t ∈ tokens, ∀ text, t.lexeme = .name text → (Lexeme.name text).Valid)
    (read : r.readAll last stray? tokens = .ok tree) : ∀ item ∈ tree.items, item.Sane := by
  induction tokens generalizing r last with
  | nil =>
    unfold Reader.readAll at read
    split at read
    · cases read
    · split at read
      · next finished =>
        cases read
        obtain ⟨ready, rested, complete⟩ := Option.bind_eq_some_iff.mp finished
        split at complete
        · cases complete
          intro item member
          exact (sane.rest? rested).items item (List.mem_reverse.mp member)
        · cases complete
      · cases read
  | cons t rest ih =>
    unfold Reader.readAll at read
    split at read
    · next taken =>
      exact ih (sane.step? (valid t List.mem_cons_self) taken)
        (fun other member => valid other (List.mem_cons_of_mem _ member)) read
    · cases read

end Reader

/-- The items of a program text declare names, and branches and bodies in them are blocks. -/
theorem ProgramTree.sane_of_parse {source : String} {tree : ProgramTree}
    (parsed : ProgramTree.parse source = .ok tree) : ∀ item ∈ tree.items, item.Sane := by
  have start : Reader.Sane {} := ⟨by simp, by simp, trivial⟩
  exact start.readAll (Scan.valid_of_mem_run _ _) parsed

theorem Stmt.blocked_of_isLeaf {s : Stmt} (leaf : s.isLeaf = true) : s.Blocked := by
  refine blocked_iff.mpr ⟨?_, by simp [children_of_isLeaf leaf]⟩
  cases s with
  | branch | loop | each => cases leaf
  | _ => trivial

theorem Stmt.blocked_placeholder (f : Fault) : (Stmt.placeholder f).Blocked :=
  blocked_iff.mpr ⟨trivial, by simp [children]⟩

theorem Builder.blocked_keepStmt (form : Form) {s? : Except Fault Stmt} (b : Builder)
    (blocked : ∀ s, s? = .ok s → s.Blocked) : ((keepStmt form s?).run b).1.Blocked := by
  cases s? with
  | ok s => exact blocked s rfl
  | error f => exact Stmt.blocked_placeholder f

theorem StmtTree.isBlock_build {tree : StmtTree} (block : tree.isBlock = true) (file : Option String) (b : Builder) :
    ((tree.build file).run b).1.isBlock = true := by
  cases tree with
  | block extent body => rfl
  | _ => cases block

open Builder

mutual

/-- Branches and bodies that are blocks in the tree are blocks in what is built from it. -/
theorem StmtTree.blocked_build (file : Option String) : (tree : StmtTree) → (b : Builder) → tree.Blocked →
    ((tree.build file).run b).1.Blocked
  | .block extent body, b, blocked => by
    have inner := StmtTree.blocked_buildAll file body b (by rwa [StmtTree.Blocked] at blocked)
    rw [StmtTree.build, run_bind]
    exact Stmt.blocked_iff.mpr ⟨trivial, inner⟩
  | .assignment extent name e, b, _ => by
    rw [StmtTree.build, run_bind]
    refine blocked_keepStmt _ _ fun s made => ?_
    rw [Stmt.eq_of_mkAssignment made]
    exact Stmt.blocked_of_isLeaf rfl
  | .print extent e, b, _ => by
    rw [StmtTree.build, run_bind]
    exact Stmt.blocked_of_isLeaf rfl
  | .turn extent e, b, _ | .fire extent e, b, _ => by
    rw [StmtTree.build, run_bind]
    refine blocked_keepStmt _ _ fun s made => ?_
    rw [Stmt.eq_of_mkAction made]
    exact Stmt.blocked_of_isLeaf rfl
  | .simple extent a, b, _ => by
    rw [StmtTree.build]
    exact Stmt.blocked_of_isLeaf rfl
  | .branch extent c yes, b, blocked => by
    obtain ⟨isBlock, inside⟩ : yes.isBlock = true ∧ yes.Blocked := by rwa [StmtTree.Blocked] at blocked
    rw [StmtTree.build, run_bind, run_bind, Builder.branch, run_bind]
    refine blocked_keepStmt _ _ fun s made => ?_
    rw [(Stmt.eq_of_mkBranch made).2]
    have first := StmtTree.blocked_build file yes ((c.build file).run b).2 inside
    have empty : (Stmt.sequence (extent.position file) []).Blocked :=
      Stmt.blocked_iff.mpr ⟨trivial, by simp [Stmt.children]⟩
    refine Stmt.blocked_iff.mpr ⟨⟨isBlock_build isBlock file _, rfl⟩, ?_⟩
    simpa [Stmt.children] using ⟨first, empty⟩
  | .branchElse extent c yes no, b, blocked => by
    obtain ⟨⟨blockYes, insideYes⟩, blockNo, insideNo⟩ :
        (yes.isBlock = true ∧ yes.Blocked) ∧ no.isBlock = true ∧ no.Blocked := by rwa [StmtTree.Blocked] at blocked
    rw [StmtTree.build, run_bind, run_bind, run_bind, Builder.branch, run_bind]
    refine blocked_keepStmt _ _ fun s made => ?_
    rw [(Stmt.eq_of_mkBranch made).2]
    have second := StmtTree.blocked_build file no b insideNo
    have first := StmtTree.blocked_build file yes ((c.build file).run ((no.build file).run b).2).2 insideYes
    refine Stmt.blocked_iff.mpr ⟨⟨isBlock_build blockYes file _, isBlock_build blockNo file _⟩, ?_⟩
    simpa [Stmt.children] using ⟨first, second⟩
  | .loop extent c body, b, blocked => by
    obtain ⟨isBlock, inside⟩ : body.isBlock = true ∧ body.Blocked := by rwa [StmtTree.Blocked] at blocked
    rw [StmtTree.build, run_bind, run_bind, Builder.loop, run_bind]
    refine blocked_keepStmt _ _ fun s made => ?_
    rw [(Stmt.eq_of_mkLoop made).2]
    have inner := StmtTree.blocked_build file body ((c.build file).run b).2 inside
    exact Stmt.blocked_iff.mpr ⟨isBlock_build isBlock file _, by simpa [Stmt.children] using inner⟩
  | .each extent kindExtent kind name body, b, blocked => by
    obtain ⟨isBlock, inside⟩ : body.isBlock = true ∧ body.Blocked := by rwa [StmtTree.Blocked] at blocked
    rw [StmtTree.build, run_bind, Builder.each, run_bind]
    refine blocked_keepStmt _ _ fun s made => ?_
    rw [(Stmt.eq_of_mkEach made).2]
    have inner := StmtTree.blocked_build file body b inside
    exact Stmt.blocked_iff.mpr ⟨isBlock_build isBlock file _, by simpa [Stmt.children] using inner⟩

theorem StmtTree.blocked_buildAll (file : Option String) : (trees : List StmtTree) → (b : Builder) →
    StmtTree.BlockedAll trees → ∀ s ∈ ((StmtTree.buildAll file trees).run b).1, s.Blocked
  | [], b, _ => by
    intro s member
    cases member
  | tree :: rest, b, blocked => by
    obtain ⟨here, others⟩ : tree.Blocked ∧ StmtTree.BlockedAll rest := by rwa [StmtTree.BlockedAll] at blocked
    have first := StmtTree.blocked_build file tree b here
    have second := StmtTree.blocked_buildAll file rest ((tree.build file).run b).2 others
    rw [StmtTree.buildAll, run_bind, run_bind]
    intro s member
    obtain rfl | member := List.mem_cons.mp member
    · exact first
    · exact second s member

end

theorem ItemTree.blocked_build {item : ItemTree} (sane : item.Sane) (file : Option String) (b : Builder) :
    ∀ s ∈ ((item.build file).run b).1, s.Blocked := by
  intro s member
  cases item with
  | declaration extent typeExtent ty name initial? =>
    cases initial? with
    | none => cases member
    | some initial =>
      rw [ItemTree.build, run_bind, run_bind] at member
      cases member
      refine blocked_keepStmt _ _ fun s made => ?_
      rw [Stmt.eq_of_mkAssignment made]
      exact Stmt.blocked_of_isLeaf rfl
  | statement tree =>
    rw [ItemTree.build, run_bind] at member
    cases member
    exact StmtTree.blocked_build file tree b sane

theorem ItemTree.blocked_buildAll {items : List ItemTree} (sane : ∀ item ∈ items, item.Sane) (file : Option String)
    (b : Builder) : ∀ s ∈ ((items.mapM (ItemTree.build file)).run b).1.filterMap id, s.Blocked := by
  induction items generalizing b with
  | nil =>
    intro s member
    cases member
  | cons item rest ih =>
    have first := ItemTree.blocked_build (sane item List.mem_cons_self) file b
    have second := ih (fun other member => sane other (List.mem_cons_of_mem _ member)) ((item.build file).run b).2
    rw [List.mapM_cons, run_bind, run_bind]
    intro s member
    obtain ⟨made, among, known⟩ := List.mem_filterMap.mp member
    obtain rfl | among := List.mem_cons.mp among
    · exact first s known
    · exact second s (List.mem_filterMap.mpr ⟨made, among, known⟩)

namespace Table

variable {α : Type} {table table' : Table α} {name : String} {a : α}

theorem contains_iff : table.contains name = true ↔ name ∈ table.names := by
  simp [contains, get?, names]

/-- What a successful declaration does. -/
theorem declare_eq_ok {position : Option Position} :
    table.declare name a position = .ok table' ↔ name ≠ "" ∧ name ∉ table.names ∧ table' = table.push name a := by
  unfold declare
  split
  · next empty => simp [String.isEmpty_iff.mp empty]
  · next some =>
    have named : name ≠ "" := by simpa using some
    split
    · next known => simp [contains_iff.mp known]
    · next new =>
      have absent : name ∉ table.names := fun member => new (contains_iff.mpr member)
      simp [named, absent, eq_comm]

theorem mem_entries_of_get? {name : String} (known : table.get? name = some a) : (name, a) ∈ table.entries := by
  obtain ⟨first, second, entries, -⟩ := List.lookup_eq_some_iff.mp known
  simp [entries]

/-- Names declared once each, with the first values of their types. -/
structure Fresh (table : Table Variable) : Prop where
  nodup : table.names.Nodup
  names : ∀ entry ∈ table.entries, (Lexeme.name entry.1).Valid
  values : ∀ entry ∈ table.entries, entry.2 = .ofTy entry.2.ty

theorem Fresh.push {table : Table Variable} (fresh : table.Fresh) (new : name ∉ table.names)
    (valid : (Lexeme.name name).Valid) (t : Ty) : (table.push name (.ofTy t)).Fresh := by
  refine ⟨?_, fun entry member => ?_, fun entry member => ?_⟩
  · have names : (table.push name (.ofTy t)).names = table.names ++ [name] := by simp [Table.push, Table.names]
    rw [names, List.nodup_append]
    refine ⟨fresh.nodup, by simp, fun other known last isName same => new ?_⟩
    rwa [← List.mem_singleton.mp isName, ← same]
  · obtain known | rfl := by simpa [Table.push] using member
    · exact fresh.names entry known
    · exact valid
  · obtain known | rfl := by simpa [Table.push] using member
    · exact fresh.values entry known
    · rfl

end Table

theorem Builder.run_declare (at? : Option Position) (name : String) (t : Ty) (b : Builder) :
    (Builder.declare at? name t).run b =
      match b.globals.declare name (.ofTy t) at? with
      | .ok globals => (some (.ofTy t), { b with globals })
      | .error f => (none, ((collect f).run b).2) := by
  unfold Builder.declare
  rw [run_bind]
  show StateT.run (match b.globals.declare name (.ofTy t) at? with | .ok globals => _ | .error f => _) b = _
  cases b.globals.declare name (.ofTy t) at? <;> rfl

theorem ItemTree.fresh_declare {item : ItemTree} (sane : item.Sane) (file : Option String) {b : Builder}
    (fresh : b.globals.Fresh) : ((item.declare file).run b).2.globals.Fresh := by
  cases item with
  | statement tree => exact fresh
  | declaration extent typeExtent ty name initial? =>
    rw [ItemTree.declare, run_bind, run_declare]
    cases outcome : b.globals.declare name.text (.ofTy ty) (name.extent.position file) with
    | error f => exact fresh
    | ok globals =>
      obtain ⟨-, new, rfl⟩ := Table.declare_eq_ok.mp outcome
      exact fresh.push new sane ty

theorem ItemTree.fresh_declareAll {items : List ItemTree} (sane : ∀ item ∈ items, item.Sane) (file : Option String)
    {b : Builder} (fresh : b.globals.Fresh) : ((items.forM (·.declare file)).run b).2.globals.Fresh := by
  induction items generalizing b with
  | nil => exact fresh
  | cons item rest ih =>
    rw [List.forM, run_bind]
    exact ih (fun other member => sane other (List.mem_cons_of_mem _ member))
      (ItemTree.fresh_declare (sane item List.mem_cons_self) file fresh)

namespace Program

variable {source : String} {file : Option String} {handler? : Option HandlerId} {budget : Except Fault Int}
  {p : Program}

/-- The variables of a program that comes out of its text have not been assigned yet. -/
theorem fresh_of_parse (parsed : parse source file handler? budget = .ok p) : p.globals.Fresh := by
  obtain ⟨tree, read, -, -, globals, -⟩ := exists_tree_of_parse parsed
  rw [globals, (makes_root file tree _).grows.globals]
  exact ItemTree.fresh_declareAll (ProgramTree.sane_of_parse read) file ⟨List.nodup_nil, by simp, by simp⟩

/-- The root of a program is a block, and so are all branches and bodies. -/
theorem blocked_of_parse (parsed : parse source file handler? budget = .ok p) :
    (∃ at? body, p.root = .sequence at? body) ∧ p.root.Blocked := by
  obtain ⟨tree, read, -, root, -⟩ := exists_tree_of_parse parsed
  rw [root]
  refine ⟨⟨_, _, rfl⟩, Stmt.blocked_iff.mpr ⟨trivial, ?_⟩⟩
  exact ItemTree.blocked_buildAll (ProgramTree.sane_of_parse read) file _

end Program

end WormLang
