import WormLang.Proofs.RoundTrip.Source

/-!
The text of a program is the text of a program, and of the same one: printing, cutting, reading and building come
back to the variables and the statements that were printed. Declarations move to the front and lose their first
values, which are assignments already; nothing else is lost but places and identities.
-/
namespace WormLang

open Builder

theorem valid_binaryLexemes {left right : List Lexeme} (validLeft : ∀ l ∈ left, l.Valid)
    (validRight : ∀ l ∈ right, l.Valid) (y : Symbol) : ∀ l ∈ binaryLexemes left y right, l.Valid := by
  simp only [binaryLexemes, List.forall_mem_cons, List.forall_mem_append]
  exact ⟨trivial, validLeft, trivial, validRight, trivial, List.forall_mem_nil _⟩

/-- The lexemes of a well typed expression are valid if declared names are and numbers read back. -/
theorem Expr.valid_lexemes {globals : Table Variable} {e : Expr} (typed : e.WellTyped globals)
    (names : ∀ name v, globals.get? name = some v → (Lexeme.name name).Valid)
    (numbers : ∀ x ∈ e.literals, Number.ReadsBack x) : ∀ l ∈ e.lexemes, l.Valid := by
  induction e with
  | number at? x => exact List.forall_mem_singleton.mpr (numbers x List.mem_cons_self).valid
  | boolean | null | self => exact List.forall_mem_singleton.mpr trivial
  | access at? name ty =>
    obtain ⟨v, declared, -⟩ := Option.map_eq_some_iff.mp typed
    exact List.forall_mem_singleton.mpr (names name v declared)
  | arithmetic at? op l r ihLeft ihRight | order at? op l r ihLeft ihRight | logical at? op l r ihLeft ihRight =>
    exact valid_binaryLexemes (ihLeft typed.1.1 fun x member => numbers x (List.mem_append_left _ member))
      (ihRight typed.2.1 fun x member => numbers x (List.mem_append_right _ member)) _
  | equality at? op l r ihLeft ihRight =>
    exact valid_binaryLexemes (ihLeft typed.1 fun x member => numbers x (List.mem_append_left _ member))
      (ihRight typed.2.1 fun x member => numbers x (List.mem_append_right _ member)) _
  | math at? f e ih =>
    simp only [lexemes, List.forall_mem_cons, List.forall_mem_append]
    exact ⟨trivial, trivial, ih typed.1 numbers, trivial, List.forall_mem_nil _⟩
  | negation at? e ih | query at? q e ih | sameTeam at? e ih | isKind at? k e ih | search at? e ih =>
    exact List.forall_mem_cons.mpr ⟨trivial, ih typed.1 numbers⟩
  | placeholder fault => cases typed

namespace Stmt

variable {globals : Table Variable}

/-- The lexemes of a statement that is sound throughout are valid if declared names are. -/
theorem valid_lexemes (names : ∀ name v, globals.get? name = some v → (Lexeme.name name).Valid) {s : Stmt}
    (sound : ∀ t ∈ s.walk, t.Sound globals) : ∀ l ∈ s.lexemes, l.Valid := by
  induction s using child_induction with
  | step s ih =>
    obtain ⟨here, inside⟩ := forall_walk_iff.mp sound
    have children : ∀ t ∈ s.children, ∀ l ∈ t.lexemes, l.Valid := fun t child => ih t child (inside t child)
    have operand : ∀ e ∈ s.expressions, e.WellTyped globals → ∀ l ∈ e.lexemes, l.Valid :=
      fun e member typed => e.valid_lexemes typed names (here.numbers e member)
    have target : ∀ name, s.target? = some name → (Lexeme.name name).Valid := by
      intro name assigned
      obtain ⟨v, declared⟩ := exists_declared here.checked assigned
      exact names name v declared
    cases s with
    | sequence at? body =>
      simp only [lexemes, lexemesAll_eq_flatMap, List.forall_mem_cons, List.forall_mem_append, List.forall_mem_flatMap]
      exact ⟨trivial, children, trivial, List.forall_mem_nil _⟩
    | assignment at? name e =>
      simp only [lexemes, List.forall_mem_cons, List.forall_mem_append]
      exact ⟨target name rfl, trivial, operand e List.mem_cons_self here.fits, trivial, List.forall_mem_nil _⟩
    | print at? e =>
      simp only [lexemes, List.forall_mem_cons, List.forall_mem_append]
      exact ⟨trivial, operand e List.mem_cons_self here.fits, trivial, List.forall_mem_nil _⟩
    | action at? a =>
      cases a with
      | turn e | fire e =>
        simp only [lexemes, Action.lexemes, List.forall_mem_cons, List.forall_mem_append]
        exact ⟨trivial, operand e List.mem_cons_self here.fits.1, trivial, List.forall_mem_nil _⟩
      | move | jump | toggleWeapon | skip =>
        simp only [lexemes, Action.lexemes, List.forall_mem_cons]
        exact ⟨trivial, trivial, List.forall_mem_nil _⟩
    | branch id at? c yes no =>
      have otherwise : ∀ l ∈ if no.children.isEmpty then [] else .keyword .elseWord :: no.lexemes, l.Valid := by
        split
        · exact List.forall_mem_nil _
        · exact List.forall_mem_cons.mpr ⟨trivial, children no (by simp [Stmt.children])⟩
      simp only [lexemes, List.forall_mem_cons, List.forall_mem_append]
      exact ⟨trivial, operand c List.mem_cons_self here.fits.1, trivial, children yes (by simp [Stmt.children]),
        otherwise⟩
    | loop id at? c body =>
      simp only [lexemes, List.forall_mem_cons, List.forall_mem_append]
      exact ⟨trivial, operand c List.mem_cons_self here.fits.1, children body (by simp [Stmt.children])⟩
    | each id at? kind name body =>
      simp only [lexemes, eachLexemes, List.forall_mem_cons, List.forall_mem_append]
      exact ⟨trivial, ⟨trivial, trivial, trivial, target name rfl, trivial, trivial, List.forall_mem_nil _⟩,
        children body (by simp [Stmt.children])⟩
    | placeholder fault => cases here.fits

end Stmt

namespace ItemTree

theorem eq_of_plain? {item : ItemTree} {name : String} {ty : Ty} (plain : item.plain? = some (name, ty)) :
    ∃ extent typeExtent word, item = .declaration extent typeExtent ty word none ∧ word.text = name := by
  cases item with
  | statement => cases plain
  | declaration extent typeExtent ty word initial? =>
    cases initial? with
    | some => cases plain
    | none =>
      cases plain
      exact ⟨extent, typeExtent, word, rfl, rfl⟩

theorem run_declare_statements (file : Option String) (trees : List StmtTree) (b : Builder) :
    (((trees.map ItemTree.statement).forM (ItemTree.declare file)).run b).2 = b := by
  induction trees with
  | nil => rfl
  | cons tree rest ih =>
    rw [List.map_cons, List.forM, run_bind]
    exact ih

/-- Declarations without first values declare their variables again. -/
theorem run_declare_plain {items : List ItemTree} {entries : List (String × Variable)}
    (plain : items.map plain? = entries.map fun entry => some (entry.1, entry.2.ty)) (file : Option String)
    (trees : List StmtTree) (b : Builder)
    (fresh : ({ entries := b.globals.entries ++ entries } : Table Variable).Fresh) :
    (((items ++ trees.map ItemTree.statement).forM (ItemTree.declare file)).run b).2 =
      { b with globals := { entries := b.globals.entries ++ entries } } := by
  induction entries generalizing items b with
  | nil =>
    rw [List.map_eq_nil_iff.mp plain, List.nil_append, run_declare_statements, List.append_nil]
  | cons entry rest ih =>
    obtain ⟨item, others, rfl, here, later⟩ := List.map_eq_cons_iff.mp plain
    obtain ⟨extent, typeExtent, word, rfl, named⟩ := eq_of_plain? here
    have member : entry ∈ b.globals.entries ++ entry :: rest := by simp
    have declared : b.globals.declare word.text (.ofTy entry.2.ty) (word.extent.position file) =
        .ok (b.globals.push word.text (.ofTy entry.2.ty)) := by
      refine Table.declare_eq_ok.mpr ⟨?_, ?_, rfl⟩
      · rintro empty
        have valid := (fresh.names entry member).1
        rw [← named, empty] at valid
        cases valid
      · have nodup := fresh.nodup
        simp only [Table.names, List.map_append, List.map_cons, List.nodup_append] at nodup
        rw [named]
        intro known
        exact nodup.2.2 entry.1 known entry.1 List.mem_cons_self rfl
    have pushed : b.globals.push word.text (.ofTy entry.2.ty) = { entries := b.globals.entries ++ [entry] } := by
      rw [Table.push, named, ← fresh.values entry member]
    have moved : b.globals.entries ++ entry :: rest = b.globals.entries ++ [entry] ++ rest := by simp
    rw [List.cons_append, List.forM, run_bind, ItemTree.declare, run_bind, run_declare, declared, pushed, moved]
    exact ih later { b with globals := { entries := b.globals.entries ++ [entry] } } (moved ▸ fresh)

theorem run_build_statements (file : Option String) (trees : List StmtTree) (b : Builder) :
    ((trees.map ItemTree.statement).mapM (ItemTree.build file)).run b =
      (((StmtTree.buildAll file trees).run b).1.map some, ((StmtTree.buildAll file trees).run b).2) := by
  induction trees generalizing b with
  | nil => rfl
  | cons tree rest ih =>
    rw [List.map_cons, List.mapM_cons, run_bind, run_bind, ih, StmtTree.buildAll, run_bind, run_bind]
    rfl

/-- Declarations without first values are no statements. -/
theorem run_build_plain {items : List ItemTree} {entries : List (String × Variable)}
    (plain : items.map plain? = entries.map fun entry => some (entry.1, entry.2.ty)) (file : Option String)
    (trees : List StmtTree) (b : Builder) :
    let out := ((items ++ trees.map ItemTree.statement).mapM (ItemTree.build file)).run b
    out.1.filterMap id = ((StmtTree.buildAll file trees).run b).1 ∧
      out.2 = ((StmtTree.buildAll file trees).run b).2 := by
  induction entries generalizing items with
  | nil =>
    rw [List.map_eq_nil_iff.mp plain, List.nil_append, run_build_statements]
    exact ⟨by simp, rfl⟩
  | cons entry rest ih =>
    obtain ⟨item, others, rfl, here, later⟩ := List.map_eq_cons_iff.mp plain
    obtain ⟨extent, typeExtent, word, rfl, -⟩ := eq_of_plain? here
    rw [List.cons_append, List.mapM_cons, run_bind, run_bind]
    exact ih later

end ItemTree

/-- Declarations of fresh variables, and trees that match sound statements, are built as these variables and these
statements. -/
theorem ProgramTree.rebuilds {globals : Table Variable} {body : List Stmt} {items : List ItemTree}
    {trees : List StmtTree} (fresh : globals.Fresh) (sound : ∀ s ∈ body, ∀ t ∈ s.walk, t.Sound globals)
    (plain : items.map ItemTree.plain? = globals.entries.map fun entry => some (entry.1, entry.2.ty))
    (fits : Stmt.MatchesAll body trees) (at? : Option Position) (file : Option String) (handler? : Option HandlerId) :
    let out := (ProgramTree.build file { items := items ++ trees.map .statement }).run { handler? }
    out.1.bare = (Stmt.sequence at? body).bare ∧ out.2.globals = globals ∧ out.2.failed = false := by
  have named : ∀ name v, globals.get? name = some v → name ≠ "" := by
    rintro name v known rfl
    have valid := (fresh.names _ (Table.mem_entries_of_get? known)).1
    cases valid
  have declares : (((items ++ trees.map ItemTree.statement).forM (ItemTree.declare file)).run { handler? }).2 =
      { globals, handler? } := ItemTree.run_declare_plain plain file trees { handler? } fresh
  obtain ⟨stated, after⟩ := ItemTree.run_build_plain plain file trees { globals, handler? }
  obtain ⟨bare, kept, faults⟩ := Stmt.isRebuilt_all (fun s member => Stmt.isRebuilt named (sound s member)) fits file
    { globals, handler? } rfl
  intro out
  have built : out = (Stmt.sequence (ProgramTree.position file { items := items ++ trees.map .statement })
        ((StmtTree.buildAll file trees).run { globals, handler? }).1,
      ((StmtTree.buildAll file trees).run { globals, handler? }).2) := by
    show (ProgramTree.build file { items := items ++ trees.map .statement }).run { handler? } = _
    rw [ProgramTree.build, run_bind, run_bind, declares, ← stated, ← after]
    rfl
  rw [built]
  refine ⟨?_, kept, ?_⟩
  · rw [Stmt.bare, Stmt.bare, Stmt.bareAll_eq_map, Stmt.bareAll_eq_map, bare]
  · simp [Builder.failed, faults]

namespace Program

variable {source : String} {file : Option String} {handler? : Option HandlerId} {budget : Except Fault Int}
  {p : Program}

/-- Every statement of a program that comes out of its text is sound if its numbers read back. -/
theorem sound_of_parse (parsed : parse source file handler? budget = .ok p)
    (numbers : ∀ x ∈ p.root.literals, Number.ReadsBack x) : ∀ t ∈ p.root.walk, t.Sound p.globals := by
  obtain ⟨tree, -, -, -, -, valid, -⟩ := exists_tree_of_parse parsed
  intro t inside
  refine ⟨wellTyped_of_parse parsed t inside, Stmt.validate_eq_nil.mp valid t inside,
    (blocked_of_parse parsed).2 t inside, fun e member x literal => numbers x ?_⟩
  exact List.mem_flatMap.mpr ⟨t, inside, List.mem_flatMap.mpr ⟨e, member, literal⟩⟩

theorem unparse_of_bare {again : Program} (globals : again.globals = p.globals) {at? : Option Position}
    {body : List Stmt} (root : p.root = .sequence at? body) (same : again.root.bare = p.root.bare) :
    again.unparse = p.unparse := by
  have sequence : ∃ at' body', again.root = .sequence at' body' ∧ body'.map Stmt.bare = body.map Stmt.bare := by
    rw [root, Stmt.bare, Stmt.bareAll_eq_map] at same
    cases other : again.root with
    | sequence at' body' =>
      rw [other, Stmt.bare, Stmt.bareAll_eq_map] at same
      exact ⟨at', body', rfl, (Stmt.sequence.inj same).2⟩
    | _ =>
      rw [other] at same
      cases same
  obtain ⟨at', body', again', bodies⟩ := sequence
  have texts : Stmt.unparseAll body' = Stmt.unparseAll body := by
    refine Stmt.unparseAll_congr ?_
    have unparsed := congrArg (List.map Stmt.unparse) bodies
    simpa [List.map_map, Function.comp_def, Stmt.unparse_bare] using unparsed
  rw [Program.unparse, Program.unparse, globals, again', root]
  dsimp only
  rw [texts]

/-- Every program that comes out of program text has a text itself, and this text is accepted, whatever file it is
read from, with any handler and any budget that is not refused: it comes to the same variables in the same order and to
the same statements, node for node, but for places in the text and identities. So its text is the same again. The
literals are finite, and the text of a finite number is taken to be a number token that reads as this number. -/
theorem parse_unparse (parsed : parse source file handler? budget = .ok p)
    (finite : ∀ x ∈ p.root.literals, x.isFinite = true)
    (readsBack : ∀ x ∈ p.root.literals, x.isFinite = true → Number.ReadsBack x) :
    ∃ text, p.unparse = .ok text ∧ ∀ (place : Option String) (other? : Option HandlerId) (given : Option Int)
      (limit : Int), checkedBudget given = .ok limit → ∃ again,
      parse text place other? (checkedBudget given) = .ok again ∧ again.globals = p.globals ∧
        again.root.bare = p.root.bare ∧ again.unparse = .ok text := by
  have fresh := fresh_of_parse parsed
  have sound := sound_of_parse parsed fun x literal => readsBack x literal (finite x literal)
  obtain ⟨⟨at?, body, root⟩, blocked⟩ := blocked_of_parse parsed
  have typed := wellTyped_of_parse parsed
  have names : ∀ name v, p.globals.get? name = some v → (Lexeme.name name).Valid :=
    fun name v known => fresh.names _ (Table.mem_entries_of_get? known)
  have member : ∀ s ∈ body, s ∈ p.root.children := by
    rw [root]
    exact fun s inside => inside
  have soundAll : ∀ s ∈ body, ∀ t ∈ s.walk, t.Sound p.globals :=
    fun s inside t deeper => sound t (Stmt.mem_walk_of_child (member s inside) deeper)
  have validAll : ∀ l ∈ Stmt.lexemesAll body, l.Valid := by
    intro l among
    rw [Stmt.lexemesAll_eq_flatMap] at among
    obtain ⟨s, inside, among⟩ := List.mem_flatMap.mp among
    exact Stmt.valid_lexemes names (soundAll s inside) l among
  obtain ⟨text, unparsed, spelled⟩ := exists_spelled root typed fresh.names validAll
  obtain ⟨items, trees, read, plain, fits⟩ := ProgramTree.parse_of_spells spelled
    (fun s inside => (Stmt.wellTyped_iff.mp typed).2 s (member s inside))
    (fun s inside => (Stmt.blocked_iff.mp blocked).2 s (member s inside))
  refine ⟨text, unparsed, fun place other? given limit checked => ?_⟩
  rw [checked]
  obtain ⟨bare, globals, clean⟩ := ProgramTree.rebuilds fresh soundAll plain fits at? place other?
  rw [← root] at bare
  have valid := Stmt.validate_of_bare bare (Stmt.validate_eq_nil.mpr fun t inside => (sound t inside).checked)
  rw [← globals] at valid
  obtain ⟨again, accepted, rootAgain, globalsAgain⟩ := exists_parse_of_tree read limit clean valid
  rw [← rootAgain] at bare
  rw [← globalsAgain] at globals
  refine ⟨again, accepted, globals, bare, ?_⟩
  rw [unparse_of_bare globals root bare, unparsed]

end Program

namespace Aim

/-- A program with a first value, a negation, an empty else branch and blocks without optional words. -/
def source : String :=
  "double a := 1.5; entity w; if -a < 2 \x7b turn a \x7d else \x7b \x7d foreach (worm, w) \x7b print w \x7d"

def program : Program := (Program.parse source none none (.ok 9)).toOption.getD default

theorem parse_source : Program.parse source none none (.ok 9) = .ok program := by
  have accepted : (Program.parse source none none (.ok 9)).toOption.isSome = true := by decide +kernel
  unfold program
  cases outcome : Program.parse source none none (.ok 9) with
  | ok p => rfl
  | error failure =>
    rw [outcome] at accepted
    cases accepted

theorem literals_program : program.root.literals = [1.5, 0.0, 2.0] := by decide +kernel

end Aim

/-- The text of the program is accepted under another name, with a handler and without a limit of its own. -/
theorem aim_parse_unparse : ∃ text again, Aim.program.unparse = .ok text ∧
    Program.parse text (some "aim") (some ⟨0⟩) (checkedBudget none) = .ok again ∧ again.globals = Aim.program.globals ∧
      again.root.bare = Aim.program.root.bare ∧ again.unparse = .ok text := by
  obtain ⟨text, unparsed, accepted⟩ := Program.parse_unparse Aim.parse_source
    (by rw [Aim.literals_program]; decide +kernel) (by rw [Aim.literals_program]; decide +kernel)
  obtain ⟨again, parsed⟩ := accepted (some "aim") (some ⟨0⟩) none defaultBudget rfl
  exact ⟨text, again, unparsed, parsed⟩

end WormLang
