import WormLang.Builder.OfOutline
import WormLang.Proofs.Build.Omission
import WormLang.Proofs.Number.Literal

/-!
Outlines of program text are converted to the end. Every outline that the grammar gives has a shape that conversion
knows: the rules are known, and their parts are of the right sort and at the right places. What conversion does with an
outline is what the operations of the builder make of the tree, whatever the builder; the builder of programs makes of
it what is built from the tree.
-/
namespace WormLang

variable {m : Type → Type} [Monad m] {E S : Type}

def ExprTree.make (maker : Maker m E S) (file : Option String) : ExprTree → m E
  | number extent text => maker.number (extent.position file) (literalValue text)
  | truth extent b => maker.truth (extent.position file) b
  | null extent => maker.null (extent.position file)
  | self extent => maker.self (extent.position file)
  | name extent text => maker.access (extent.position file) text
  | unary extent op operand => do maker.prefixed (.inl op) (extent.position file) (← operand.make maker file)
  | call extent f argument => do maker.prefixed (.inr f) (extent.position file) (← argument.make maker file)
  | binary extent op left right => do
    let l ← left.make maker file
    let r ← right.make maker file
    maker.binary op (extent.position file) l r

mutual

def StmtTree.make (maker : Maker m E S) (file : Option String) : StmtTree → m S
  | .block extent body => do maker.sequence (extent.position file) (← StmtTree.makeAll maker file body)
  | .assignment extent name e => do maker.assignment (extent.position file) name.text (← e.make maker file)
  | .print extent e => do maker.print (extent.position file) (← e.make maker file)
  | .turn extent e => do maker.turn (extent.position file) (← e.make maker file)
  | .fire extent e => do maker.fire (extent.position file) (← e.make maker file)
  | .simple extent a => maker.simple a (extent.position file)
  | .branch extent c yes => do
    let c ← c.make maker file
    let yes ← yes.make maker file
    maker.branch (extent.position file) c yes none
  | .branchElse extent c yes no => do
    let no ← no.make maker file
    let c ← c.make maker file
    let yes ← yes.make maker file
    maker.branch (extent.position file) c yes (some no)
  | .loop extent c body => do
    let c ← c.make maker file
    let body ← body.make maker file
    maker.loop (extent.position file) c body
  | .each extent _ kind name body => do maker.each (extent.position file) kind name.text (← body.make maker file)

def StmtTree.makeAll (maker : Maker m E S) (file : Option String) : List StmtTree → m (List S)
  | [] => return []
  | s :: rest => do
    let s ← s.make maker file
    let rest ← StmtTree.makeAll maker file rest
    return s :: rest

end

namespace ItemTree

/-- A builder declares the variable of an item. -/
def announce (maker : Maker m E S) (file : Option String) : ItemTree → m Unit
  | declaration _ _ t name _ => maker.declare (name.extent.position file) name.text t
  | statement _ => return

def make (maker : Maker m E S) (file : Option String) : ItemTree → m (Option S)
  | declaration extent _ _ name (some initial) => do
    let e ← initial.make maker file
    some <$> maker.assignment (extent.position file) name.text e
  | declaration _ _ _ _ none => return none
  | statement s => some <$> s.make maker file

end ItemTree

def ProgramTree.make (maker : Maker m E S) (file : Option String) (p : ProgramTree) : m S := do
  p.items.forM (·.announce maker file)
  let statements ← p.items.mapM (·.make maker file)
  maker.sequence (p.position file) (statements.filterMap id)

/-! ### The builder of programs -/

theorem ExprTree.make_builder (file : Option String) (e : ExprTree) : e.make Builder.maker file = e.build file := by
  induction e with
  | unary extent op operand ih | call extent op operand ih => rw [make, build, ih]; rfl
  | binary extent op left right ihLeft ihRight => rw [make, build, ihLeft, ihRight]; rfl
  | _ => rfl

mutual

theorem StmtTree.make_builder (file : Option String) :
    ∀ s : StmtTree, s.make Builder.maker file = s.build file
  | .block extent body => by rw [make, build, StmtTree.makeAll_builder file body]; rfl
  | .assignment extent name e => by rw [make, build, e.make_builder]; rfl
  | .print extent e => by rw [make, build, e.make_builder]; rfl
  | .turn extent e => by rw [make, build, e.make_builder]; rfl
  | .fire extent e => by rw [make, build, e.make_builder]; rfl
  | .simple extent a => rfl
  | .branch extent c yes => by rw [make, build, c.make_builder, yes.make_builder]; rfl
  | .branchElse extent c yes no => by rw [make, build, c.make_builder, yes.make_builder, no.make_builder]; rfl
  | .loop extent c body => by rw [make, build, c.make_builder, body.make_builder]; rfl
  | .each extent kindExtent kind name body => by rw [make, build, body.make_builder]; rfl

theorem StmtTree.makeAll_builder (file : Option String) :
    ∀ body : List StmtTree, StmtTree.makeAll Builder.maker file body = StmtTree.buildAll file body
  | [] => rfl
  | s :: rest => by rw [makeAll, buildAll, s.make_builder, StmtTree.makeAll_builder file rest]

end

theorem ProgramTree.make_builder (file : Option String) (p : ProgramTree) :
    p.make Builder.maker file = p.build file := by
  have announced : ∀ i : ItemTree, i.announce Builder.maker file = i.declare file := fun i => by cases i <;> rfl
  have made : ∀ i : ItemTree, i.make Builder.maker file = i.build file := by
    intro i
    cases i with
    | declaration extent typeExtent t name initial =>
      cases initial with
      | none => rfl
      | some e => rw [ItemTree.make, ItemTree.build, e.make_builder]; rfl
    | statement s => rw [ItemTree.make, ItemTree.build, s.make_builder]; rfl
  unfold make build
  simp only [announced, made]
  rfl

/-! ### Tables -/

namespace Outline

theorem lookup_binaryRules (op : BinaryOp) : binaryRules.lookup op.rule = some op := by
  cases op with
  | logical op | order op | equality op | arithmetic op => cases op <;> rfl

theorem lookup_unary (op : UnaryOp) :
    binaryRules.lookup op.rule = none ∧ prefixRules.lookup op.rule = some (.inl op) := by
  cases op with
  | query q => cases q <;> exact ⟨rfl, rfl⟩
  | test k => cases k <;> exact ⟨rfl, rfl⟩
  | _ => exact ⟨rfl, rfl⟩

theorem lookup_call (f : MathFunction) :
    binaryRules.lookup f.word = none ∧ prefixRules.lookup f.word = some (.inr f) := by
  cases f <;> exact ⟨rfl, rfl⟩

theorem lookup_loopKinds (kind : LoopKind) : loopKinds.lookup kind.word = some kind := by cases kind <;> rfl

theorem lookup_types (t : Ty) : types.lookup t.keyword = some t := by cases t <;> rfl

end Outline

/-! ### Expressions -/

namespace Token

/-- Tokens of numbers have texts of numbers. -/
def Spelt (tokens : List Token) : Prop :=
  ∀ t ∈ tokens, ∀ text, t.lexeme = .number text → Grammar.Terminal.Text .number text.toList

theorem Spelt.mono {tokens more : List Token} (spelt : Spelt more) (fewer : tokens ⊆ more) : Spelt tokens :=
  fun t member => spelt t (fewer member)

end Token

theorem Outline.number_of_text [LawfulMonad m] {text : String} (spelt : Grammar.Terminal.Text .number text.toList) :
    (Outline.number text : ExceptT Misfit m Float) = pure (literalValue text) := by
  obtain ⟨digits, e, denotes⟩ := Number.exists_denotes spelt
  unfold Outline.number literalValue
  rw [denotes.reads]
  rfl

open Outline

variable [LawfulMonad m] (maker : Maker m E S) (file : Option String)

theorem Outline.position_some (extent : Extent) : position file (some extent) = extent.position file := rfl

/-- Atoms have no parts but the token of a number or a name. -/
theorem Atom.convert_outline {a : Atom} {x : Extent} (spelt : Token.Spelt [a.lexeme.token x]) :
    convertExpr maker file (a.tree x).outline = liftM ((a.tree x).make maker file) := by
  cases a with
  | number text =>
    have read := number_of_text (m := m) (spelt _ (List.mem_singleton_self _) text rfl)
    simp [tree, ExprTree.outline, ExprTree.make, convertExpr, binaryRules, prefixRules, List.lookup, part, value, read,
      position_some]
  | name text =>
    simp [tree, ExprTree.outline, ExprTree.make, convertExpr, binaryRules, prefixRules, List.lookup, part, Outline.name,
      value, position_some]
  | truth b =>
    cases b <;>
      simp [tree, ExprTree.outline, ExprTree.make, convertExpr, binaryRules, prefixRules, List.lookup, position_some]
  | _ => simp [tree, ExprTree.outline, ExprTree.make, convertExpr, binaryRules, prefixRules, List.lookup, position_some]

/-- Expressions are converted to the end, and come to what the builder makes of their trees. -/
theorem ExprPhrase.convert_outline (e : ExprPhrase) (spelt : Token.Spelt e.tokens) :
    convertExpr maker file e.operand.tree.outline = liftM (e.operand.tree.make maker file) := by
  induction e with
  | atom a x => exact a.convert_outline maker file spelt
  | paren opening inner closing ih => exact ih (spelt.mono fun t member => by simp [tokens, member])
  | call f word opening argument closing ih =>
    obtain ⟨notBinary, known⟩ := lookup_call f
    simp [operand, Operand.ofTree, ExprTree.outline, ExprTree.make, convertExpr, convertExprs, notBinary, known, part,
      ih (spelt.mono fun t member => by simp [tokens, member]), position_some]
  | unary op sign operand ih =>
    obtain ⟨notBinary, known⟩ := lookup_unary op
    simp [ExprPhrase.operand, Operand.applyUnary, Operand.ofTree, ExprTree.outline, ExprTree.make, convertExpr,
      convertExprs, notBinary, known, part, ih (spelt.mono fun t member => by simp [tokens, member]), position_some]
  | binary op left sign right ihLeft ihRight =>
    simp [operand, Operand.applyBinary, Operand.ofTree, ExprTree.outline, ExprTree.make, convertExpr, convertExprs,
      lookup_binaryRules, part, ihLeft (spelt.mono fun t member => by simp [tokens, member]),
      ihRight (spelt.mono fun t member => by simp [tokens, member]), position_some]

/-! ### Statements -/

/-- Statements are rules, and none is a declaration. -/
theorem StmtTree.exists_outline (s : StmtTree) :
    ∃ name extent? parts, s.outline = .rule name extent? parts ∧ name ≠ "declaration" := by
  cases s with
  | simple extent a => cases a <;> exact ⟨_, _, _, rfl, by decide⟩
  | _ => exact ⟨_, _, _, rfl, by decide⟩

@[simp] theorem StmtTree.present?_outline (s : StmtTree) : s.outline.present? = some s.outline := by
  obtain ⟨name, extent?, parts, same, -⟩ := s.exists_outline
  rw [same]
  rfl

theorem StmtPhrase.convertStmts_outlines {body : List StmtPhrase}
    (each : ∀ s ∈ body, convertStmt maker file s.tree.outline = liftM (s.tree.make maker file)) :
    (convertStmts maker file (StmtTree.outlines (trees body))).mapM id =
      liftM (StmtTree.makeAll maker file (trees body)) := by
  induction body with
  | nil => simp [trees, StmtTree.outlines, convertStmts, StmtTree.makeAll]
  | cons s rest ih =>
    rw [List.forall_mem_cons] at each
    simp [trees, StmtTree.outlines, convertStmts, StmtTree.makeAll, each.1, ih each.2]

/-- Statements are converted to the end, and come to what the builder makes of their trees. -/
theorem StmtPhrase.convert_outline (s : StmtPhrase) (spelt : Token.Spelt s.tokens) :
    convertStmt maker file s.tree.outline = liftM (s.tree.make maker file) := by
  induction s using phrase_induction with
  | block opening body closing ih =>
    have all := convertStmts_outlines maker file fun s member => ih s member (spelt.mono fun t inside => by
      simp only [tokens, tokensAll_eq_flatMap, List.mem_cons, List.mem_append, List.mem_flatMap]
      exact .inr (.inl ⟨s, member, inside⟩))
    simp [tree, StmtTree.outline, StmtTree.make, convertStmt, position_some, all]
  | assignment name sign e last? =>
    simp [tree, StmtTree.outline, StmtTree.make, convertStmt, position_some, part, convertPart, Outline.name, value,
      e.convert_outline maker file (spelt.mono fun t member => by simp [tokens, member])]
  | command c word e last? =>
    have inner := e.convert_outline maker file (spelt.mono fun t member => by simp [tokens, member])
    cases c <;>
      simp [tree, Command.tree, StmtTree.outline, StmtTree.make, convertStmt, position_some, part, convertPart, inner]
  | simple a word last? =>
    cases a <;> simp [tree, StmtTree.outline, SimpleAction.rule, StmtTree.make, convertStmt, position_some]
  | branch word c then? yes ih =>
    simp [tree, StmtTree.outline, StmtTree.make, convertStmt, convertStmts, position_some, part, present?, convertPart,
      c.convert_outline maker file (spelt.mono fun t member => by simp [tokens, member]),
      ih (spelt.mono fun t member => by simp [tokens, member])]
  | branchElse word c then? yes other no ihYes ihNo =>
    simp [tree, StmtTree.outline, StmtTree.make, convertStmt, convertStmts, position_some, part, convertPart,
      c.convert_outline maker file (spelt.mono fun t member => by simp [tokens, member]),
      ihYes (spelt.mono fun t member => by simp [tokens, member]),
      ihNo (spelt.mono fun t member => by simp [tokens, member])]
  | loop word c do? body ih =>
    simp [tree, StmtTree.outline, StmtTree.make, convertStmt, convertStmts, position_some, part, convertPart,
      c.convert_outline maker file (spelt.mono fun t member => by simp [tokens, member]),
      ih (spelt.mono fun t member => by simp [tokens, member])]
  | each word opening kind kindExtent comma name closing do? body ih =>
    simp [tree, StmtTree.outline, StmtTree.make, convertStmt, convertStmts, position_some, part, find, Outline.word,
      Outline.parts, Outline.keyword, value, Outline.name, lookup_loopKinds,
      ih (spelt.mono fun t member => by simp [tokens, member])]

/-! ### Programs -/

@[simp] theorem ExprTree.present?_outline (e : ExprTree) : e.outline.present? = some e.outline := by
  cases e <;> rfl

namespace ItemPhrase

variable (i : ItemPhrase)

/-- An item is declared if it is a declaration. -/
theorem declareItem_outline : declareItem maker file i.tree.outline = liftM (i.tree.announce maker file) := by
  cases i with
  | declaration ty typeExtent name initial? last =>
    simp [tree, ItemTree.outline, ItemTree.announce, declareItem, Outline.declaration, find, word, Outline.parts, part,
      Outline.keyword, value, Outline.name, lookup_types]
  | statement s =>
    obtain ⟨name, extent?, parts, same, other⟩ := s.tree.exists_outline
    simp [tree, ItemTree.outline, ItemTree.announce, same, declareItem, other]

/-- An item is converted to the end, and comes to what the builder makes of its tree. -/
theorem convertItem_outline (spelt : Token.Spelt i.tokens) :
    convertItem maker file i.tree.outline = liftM (i.tree.make maker file) := by
  cases i with
  | declaration ty typeExtent name initial? last =>
    cases initial? with
    | none => simp [tree, ItemTree.outline, ItemTree.make, convertItem, Outline.declaration, present?]
    | some initial =>
      simp [tree, ItemTree.outline, ItemTree.make, convertItem, Outline.declaration, value, Outline.name, position_some,
        initial.2.convert_outline maker file (spelt.mono fun t member => by simp [tokens, member])]
  | statement s =>
    obtain ⟨name, extent?, parts, same, other⟩ := s.tree.exists_outline
    have converted := s.convert_outline maker file spelt
    rw [same] at converted
    simp [tree, ItemTree.outline, ItemTree.make, same, convertItem, other, converted]

/-- Programs are converted to the end, and come to what the builder makes of their trees. -/
theorem convertProgram_outline {items : List ItemPhrase} (spelt : Token.Spelt (items.flatMap tokens)) :
    convertProgram maker file (program items).outline = liftM ((program items).make maker file) := by
  have declared : (items.map fun i => i.tree.outline).forM (declareItem maker file) =
      liftM ((items.map tree).forM (·.announce maker file)) := by
    clear spelt
    induction items with
    | nil => exact (liftM_pure _).symm
    | cons i rest ih =>
      rw [List.map_cons, List.map_cons, List.forM, List.forM, liftM_bind, declareItem_outline, ih]
  have converted : (items.map fun i => i.tree.outline).mapM (convertItem maker file) =
      liftM ((items.map tree).mapM (·.make maker file)) := by
    clear declared
    induction items with
    | nil => rw [List.map_nil, List.map_nil, List.mapM_nil, List.mapM_nil, liftM_pure]
    | cons i rest ih =>
      rw [List.flatMap_cons] at spelt
      rw [List.map_cons, List.map_cons, List.mapM_cons, List.mapM_cons,
        i.convertItem_outline maker file (spelt.mono (List.subset_append_left _ _)),
        ih (spelt.mono (List.subset_append_right _ _))]
      simp only [liftM_bind, liftM_pure]
  rw [ProgramTree.outline, convertProgram, ProgramTree.make, program, List.map_map]
  simp only [liftM_bind]
  exact congrArg₂ _ declared (funext fun _ => congrArg₂ _ converted rfl)

end ItemPhrase

/-! ### Everything that the grammar gives -/

/-- The rules that stand where statements do. -/
def Grammar.Rule.ofStatement : List Grammar.Rule :=
  [statement, assignment, ifStmt, whileStmt, foreachStmt, printStmt, action, block]

theorem Token.spelt_ofText (source : String) : Token.Spelt (Scan.ofText source).tokens := by
  intro t member text number
  have spelt := Scan.text_of_mem_run _ _ t member
  rw [number] at spelt
  exact spelt

/-- A conversion does not get stuck, whatever the builder does. -/
def Outline.Finishes {α : Type} (conversion : ExceptT Misfit m α) : Prop := ∃ x : m α, conversion.run = .ok <$> x

omit [LawfulMonad m] in
theorem Outline.finishes_of_eq {α : Type} {conversion : ExceptT Misfit m α} {x : m α}
    (same : conversion = liftM x) : Finishes conversion := by
  rw [same]
  exact ⟨x, ExceptT.run_monadLift x⟩

open Grammar in
/-- Conversion never meets an unknown shape. Whatever is derived where an expression stands has one outline, which is
converted to the end by any builder; so has whatever is derived where a statement stands, and so has every program
that is read. With the builder of programs, converting the outline is building the tree. -/
theorem Outline.conversion_finishes :
    (∀ n ≤ 7, ∀ d, Derives (.rule (.ofLevel n)) d → Token.Spelt d.tokens →
      ∃ o, d.outlines false = [o] ∧ Finishes (convertExpr maker file o)) ∧
    (∀ r ∈ Rule.ofStatement, ∀ d, Derives (.rule r) d → Token.Spelt d.tokens →
      ∃ o, d.outlines false = [o] ∧ Finishes (convertStmt maker file o)) ∧
    ∀ source tree, ProgramTree.parse source = .ok tree →
      Finishes (convertProgram maker file tree.outline) ∧
      (convertProgram Builder.maker file tree.outline).run = .ok <$> tree.build file := by
  refine ⟨fun n bound d derives spelt => ?_, fun r among d derives spelt => ?_, fun source tree read => ?_⟩
  · obtain ⟨e, -, rfl⟩ := ExprPhrase.exists_of_derives bound derives
    rw [ExprPhrase.tokens_derivation] at spelt
    exact ⟨_, e.outlines_derivation n false, finishes_of_eq (e.convert_outline maker file spelt)⟩
  · obtain rfl | among := List.mem_cons.mp among
    · obtain ⟨s, -, rfl⟩ := StmtPhrase.exists_of_derives derives
      rw [StmtPhrase.derivation, Derivation.tokens, Derivation.tokensAll, Derivation.tokensAll, List.append_nil,
        s.tokens_own] at spelt
      exact ⟨_, StmtPhrase.outlines_derivation (s.outlines_own false) false,
        finishes_of_eq (s.convert_outline maker file spelt)⟩
    · obtain ⟨s, -, -, rfl⟩ := StmtPhrase.covers_of_derives derives among
      rw [s.tokens_own] at spelt
      exact ⟨_, s.outlines_own false, finishes_of_eq (s.convert_outline maker file spelt)⟩
  · obtain ⟨items, tokens, rfl⟩ := ProgramTree.exists_items_of_parse read
    have spelt := Token.spelt_ofText source
    rw [← tokens] at spelt
    refine ⟨finishes_of_eq (ItemPhrase.convertProgram_outline maker file spelt), ?_⟩
    rw [ItemPhrase.convertProgram_outline Builder.maker file spelt, ProgramTree.make_builder]
    exact ExceptT.run_monadLift _

namespace HalfTurn

def source : String := "turn 0.5"

/-- The first characters of the line, up to a column. -/
def span (first last : Nat) : Extent := { start := ⟨1, first⟩, stop := ⟨1, last⟩ }

def angle : ExprPhrase := .atom (.number "0.5") (span 6 9)

def phrase : StmtPhrase := .command .turn (span 1 5) angle none

theorem read : ProgramTree.parse source = .ok (ItemPhrase.program [.statement phrase]) := by cbv

theorem spelt : Token.Spelt [Lexeme.token (.number "0.5") (span 6 9)] := by
  rintro t member text number
  obtain rfl := List.mem_singleton.mp member
  obtain rfl : "0.5" = text := Lexeme.number.inj number
  exact .number (w := ['0', '.', '5']) (v := [])
    (.both (w := ['0']) (v := ['5']) ⟨by simp, by simp⟩ ⟨by simp, by simp⟩) .none

end HalfTurn

open Grammar HalfTurn in
theorem Outline.halfTurn_finishes :
    (∃ o, (angle.derivation 0).outlines false = [o] ∧ Finishes (convertExpr Builder.maker none o)) ∧
    (∃ o, phrase.derivation.outlines false = [o] ∧ Finishes (convertStmt Builder.maker none o)) ∧
    Finishes (convertProgram Builder.maker none (ItemPhrase.program [.statement phrase]).outline) := by
  obtain ⟨expressions, statements, programs⟩ := conversion_finishes Builder.maker none
  refine ⟨expressions 0 (by decide) _ ?_ ?_, statements .statement (by decide) _ ?_ ?_,
    (programs source _ HalfTurn.read).1⟩
  · exact ExprPhrase.Fits.derives ⟨Nat.zero_le _, trivial⟩
  · rw [ExprPhrase.tokens_derivation]
    exact HalfTurn.spelt
  · exact .rule phrase.pass_mem (.cons (phrase.derives_own trivial) .nil)
  · exact fun t member text number => HalfTurn.spelt t (by
      obtain rfl | member := List.mem_cons.mp member
      · cases number
      · exact member) text number

end WormLang
