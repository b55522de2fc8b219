import WormLang.Tree.Outline

/-!
The grammar of program text, and what it means to derive a sequence of tokens from it. A rule has alternatives, and an
alternative is a sequence of parts, some of which may be missing or repeated. A derivation is a tree of alternatives
with the tokens at its leaves. Its outline is what is left of it once rules that only pass on one part are left out,
words and signs without content are dropped, and brackets that were not used are marked.
-/
namespace WormLang

namespace Grammar

inductive Terminal where
  | keyword (k : Keyword)
  | symbol (s : Symbol)
  | name
  | number
  deriving DecidableEq, Repr

/-- What can be derived. -/
inductive Rule where
  | start
  | item
  | declaration
  | type
  | statement
  | block
  | assignment
  | printStmt
  | ifStmt
  | whileStmt
  | foreachStmt
  | foreachKind
  | action
  | expr
  | orExpr
  | andExpr
  | compare
  | sum
  | product
  | unary
  | atom
  deriving DecidableEq, Repr

/-- A part of an alternative. -/
inductive Part where
  | token (t : Terminal)
  | rule (r : Rule)
  /-- Any number of times. -/
  | many (r : Rule)
  /-- A token that may be missing. -/
  | optional (t : Terminal)
  /-- A token and what follows it, both of which may be missing. -/
  | bracket (t : Terminal) (r : Rule)
  deriving DecidableEq, Repr

/-- One way to derive a rule, perhaps with a name of its own. -/
structure Alternative where
  label? : Option String
  parts : List Part
  deriving DecidableEq, Repr

namespace Part

def word (k : Keyword) : Part := token (.keyword k)

def sign (s : Symbol) : Part := token (.symbol s)

/-- A semicolon that may be missing. -/
def terminator : Part := optional (.symbol .semicolon)

end Part

def Alternative.plain (parts : List Part) : Alternative := { label? := none, parts }

def Alternative.named (label : String) (parts : List Part) : Alternative := { label? := some label, parts }

namespace Rule

def name : Rule → String
  | start => "start"
  | item => "item"
  | declaration => "declaration"
  | type => "type"
  | statement => "statement"
  | block => "block"
  | assignment => "assignment"
  | printStmt => "print_stmt"
  | ifStmt => "if_stmt"
  | whileStmt => "while_stmt"
  | foreachStmt => "foreach_stmt"
  | foreachKind => "foreach_kind"
  | action => "action"
  | expr => "expr"
  | orExpr => "or_expr"
  | andExpr => "and_expr"
  | compare => "compare"
  | sum => "sum"
  | product => "product"
  | unary => "unary"
  | atom => "atom"

/-- Whether an alternative without a name of its own is left out of outlines if it passes on a single part. -/
def isInlined : Rule → Bool
  | item | statement | action | expr | orExpr | andExpr | compare | sum | product | unary | atom => true
  | _ => false

/-- Whether outlines keep the words of the rule. -/
def keepsWords : Rule → Bool
  | type | foreachKind => true
  | _ => false

/-- The grammar. -/
def alternatives : Rule → List Alternative
  | start => [.plain [.many item]]
  | item => [.plain [.rule declaration], .plain [.rule statement]]
  | declaration => [.plain [.rule type, .token .name, .bracket (.symbol .assign) expr, .sign .semicolon]]
  | type => [.plain [.word (.type .number)], .plain [.word (.type .boolean)], .plain [.word (.type .entity)]]
  | statement =>
    [.plain [.rule assignment], .plain [.rule ifStmt], .plain [.rule whileStmt], .plain [.rule foreachStmt],
      .plain [.rule printStmt], .plain [.rule action], .plain [.rule block]]
  | block => [.plain [.sign .openBrace, .many statement, .sign .closeBrace]]
  | assignment => [.plain [.token .name, .sign .assign, .rule expr, .terminator]]
  | printStmt => [.plain [.word .print, .rule expr, .terminator]]
  | ifStmt =>
    [.plain [.word .ifWord, .rule expr, .optional (.keyword .thenWord), .rule block,
      .bracket (.keyword .elseWord) block]]
  | whileStmt => [.plain [.word .whileWord, .rule expr, .optional (.keyword .doWord), .rule block]]
  | foreachStmt =>
    [.plain [.word .foreach, .sign .openParen, .rule foreachKind, .sign .comma, .token .name, .sign .closeParen,
      .optional (.keyword .doWord), .rule block]]
  | foreachKind => [.plain [.word (.kind .worm)], .plain [.word (.kind .food)], .plain [.word (.kind .any)]]
  | action =>
    [.named "turn" [.word .turn, .rule expr, .terminator],
      .named "move" [.word .move, .terminator],
      .named "jump" [.word .jump, .terminator],
      .named "toggleweap" [.word .toggleweap, .terminator],
      .named "fire" [.word .fire, .rule expr, .terminator],
      .named "skip" [.word .skip, .terminator]]
  | expr => [.plain [.rule orExpr]]
  | orExpr => [.plain [.rule andExpr], .named "or_op" [.rule orExpr, .sign (.logical .or), .rule andExpr]]
  | andExpr => [.plain [.rule compare], .named "and_op" [.rule andExpr, .sign (.logical .and), .rule compare]]
  | compare =>
    [.plain [.rule sum],
      .named "lt" [.rule sum, .sign (.order .lt), .rule sum],
      .named "le" [.rule sum, .sign (.order .le), .rule sum],
      .named "gt" [.rule sum, .sign (.order .gt), .rule sum],
      .named "ge" [.rule sum, .sign (.order .ge), .rule sum],
      .named "eq" [.rule sum, .sign (.equality .eq), .rule sum],
      .named "ne" [.rule sum, .sign (.equality .ne), .rule sum]]
  | sum =>
    [.plain [.rule product],
      .named "add" [.rule sum, .sign (.arithmetic .add), .rule product],
      .named "sub" [.rule sum, .sign (.arithmetic .sub), .rule product]]
  | product =>
    [.plain [.rule unary],
      .named "mul" [.rule product, .sign (.arithmetic .mul), .rule unary],
      .named "div" [.rule product, .sign (.arithmetic .div), .rule unary]]
  | unary =>
    [.plain [.rule atom],
      .named "neg" [.sign (.arithmetic .sub), .rule unary],
      .named "not_op" [.sign .bang, .rule unary],
      .named "getx" [.word (.query .x), .rule unary],
      .named "gety" [.word (.query .y), .rule unary],
      .named "getradius" [.word (.query .radius), .rule unary],
      .named "getdir" [.word (.query .direction), .rule unary],
      .named "getap" [.word (.query .actionPoints), .rule unary],
      .named "getmaxap" [.word (.query .maxActionPoints), .rule unary],
      .named "gethp" [.word (.query .hitPoints), .rule unary],
      .named "getmaxhp" [.word (.query .maxHitPoints), .rule unary],
      .named "sameteam" [.word .sameteam, .rule unary],
      .named "isworm" [.word (.test .worm), .rule unary],
      .named "isfood" [.word (.test .food), .rule unary],
      .named "searchobj" [.word .searchobj, .rule unary]]
  | atom =>
    [.named "number" [.token .number],
      .named "true" [.word (.truth true)],
      .named "false" [.word (.truth false)],
      .named "null" [.word .null],
      .named "self" [.word .self],
      .named "variable" [.token .name],
      .named "sqrt" [.word (.function .sqrt), .sign .openParen, .rule expr, .sign .closeParen],
      .named "sin" [.word (.function .sin), .sign .openParen, .rule expr, .sign .closeParen],
      .named "cos" [.word (.function .cos), .sign .openParen, .rule expr, .sign .closeParen],
      .plain [.sign .openParen, .rule expr, .sign .closeParen]]

end Rule

end Grammar

def Lexeme.token (l : Lexeme) (x : Extent) : Token := { lexeme := l, extent := x }

def Keyword.token (k : Keyword) (x : Extent) : Token := Lexeme.token (.keyword k) x

def Symbol.token (s : Symbol) (x : Extent) : Token := Lexeme.token (.symbol s) x

def Word.token (w : Word) : Token := Lexeme.token (.name w.text) w.extent

theorem Lexeme.token_inj {l m : Lexeme} {x y : Extent} : l.token x = m.token y ↔ l = m ∧ x = y := by
  simp [token]

theorem Word.token_inj {w w' : Word} : w.token = w'.token ↔ w = w' := by
  cases w
  cases w'
  simp [token, Lexeme.token, and_comm]

/-- The token of a lexeme that may be missing. -/
def Lexeme.optional (l : Lexeme) (x? : Option Extent) : List Token := (x?.map l.token).toList

def Lexeme.terminal : Lexeme → Grammar.Terminal
  | keyword k => .keyword k
  | symbol s => .symbol s
  | name _ => .name
  | number _ => .number

@[simp] theorem Lexeme.terminal_eq_keyword {l : Lexeme} {k : Keyword} : l.terminal = .keyword k ↔ l = .keyword k := by
  cases l <;> simp [terminal]

@[simp] theorem Lexeme.terminal_eq_symbol {l : Lexeme} {s : Symbol} : l.terminal = .symbol s ↔ l = .symbol s := by
  cases l <;> simp [terminal]

@[simp] theorem Lexeme.terminal_eq_name {l : Lexeme} : l.terminal = .name ↔ ∃ text, l = .name text := by
  cases l <;> simp [terminal]

@[simp] theorem Lexeme.terminal_eq_number {l : Lexeme} : l.terminal = .number ↔ ∃ text, l = .number text := by
  cases l <;> simp [terminal]

/-- A token in an outline. Names and numbers are always kept, words only where a rule says so, and signs never. -/
def Token.outline? (keepsWords : Bool) (t : Token) : Option Outline :=
  match t.lexeme with
  | .keyword k => if keepsWords then some (.keyword k.word t.extent) else none
  | .symbol _ => none
  | .name text => some (.name t.extent text)
  | .number text => some (.token "NUMBER" text t.extent)

theorem Symbol.outline?_token (s : Symbol) (x : Extent) (keepsWords : Bool) : (s.token x).outline? keepsWords = none :=
  rfl

/-- The stretch from the first to the last of some tokens. -/
def Extent.spanning? (tokens : List Token) : Option Extent :=
  match tokens.head?, tokens.getLast? with
  | some first, some last => some { start := first.start, stop := last.stop }
  | _, _ => none

namespace Extent

variable {xs ys : List Token} {a b : Extent}

theorem spanning?_singleton (t : Token) : spanning? [t] = some t.extent := rfl

theorem spanning?_eq_some : spanning? xs = some a ↔ ∃ first last,
    xs.head? = some first ∧ xs.getLast? = some last ∧ { start := first.start, stop := last.stop } = a := by
  unfold spanning?
  cases xs.head? <;> cases xs.getLast? <;> simp

theorem spanning?_append (front : spanning? xs = some a) (back : spanning? ys = some b) :
    spanning? (xs ++ ys) = some { start := a.start, stop := b.stop } := by
  obtain ⟨first, -, head, -, rfl⟩ := spanning?_eq_some.mp front
  obtain ⟨-, last, -, getLast, rfl⟩ := spanning?_eq_some.mp back
  exact spanning?_eq_some.mpr ⟨first, last, by simp [head], by simp [getLast], rfl⟩

theorem spanning?_cons (t : Token) (back : spanning? ys = some b) :
    spanning? (t :: ys) = some { start := t.start, stop := b.stop } :=
  spanning?_append (spanning?_singleton t) back

/-- What lies between the first token and the last ones does not matter. -/
theorem spanning?_over (t : Token) (between : List Token) (back : spanning? ys = some b) :
    spanning? (t :: (between ++ ys)) = some { start := t.start, stop := b.stop } := by
  obtain ⟨-, last, -, getLast, rfl⟩ := spanning?_eq_some.mp back
  exact spanning?_eq_some.mpr ⟨t, last, rfl, by simp [List.getLast?_cons, getLast], rfl⟩

end Extent

namespace Grammar

/-- A tree of alternatives, with the tokens at its leaves. -/
inductive Derivation where
  | token (t : Token)
  | node (rule : Rule) (alternative : Alternative) (parts : List Derivation)
  | many (each : List Derivation)
  /-- An optional token that is missing. -/
  | missing
  | given (t : Token) (inner : Derivation)
  /-- A bracket that was not used. -/
  | absent

/-- An optional token as it is derived. -/
def Derivation.optional (l : Lexeme) : Option Extent → Derivation
  | none => .missing
  | some x => .token (l.token x)

mutual

/-- A derivation of a part. -/
inductive Derives : Part → Derivation → Prop
  | token {t : Token} {a : Terminal} (same : t.lexeme.terminal = a) : Derives (.token a) (.token t)
  | rule {r : Rule} {alternative : Alternative} {ds : List Derivation} (among : alternative ∈ r.alternatives)
    (parts : DerivesAll alternative.parts ds) : Derives (.rule r) (.node r alternative ds)
  | many {r : Rule} {ds : List Derivation} (each : ∀ d ∈ ds, Derives (.rule r) d) : Derives (.many r) (.many ds)
  | used {t : Token} {a : Terminal} (same : t.lexeme.terminal = a) : Derives (.optional a) (.token t)
  | missing {a : Terminal} : Derives (.optional a) .missing
  | given {t : Token} {a : Terminal} {r : Rule} {d : Derivation} (same : t.lexeme.terminal = a)
    (inner : Derives (.rule r) d) : Derives (.bracket a r) (.given t d)
  | absent {a : Terminal} {r : Rule} : Derives (.bracket a r) .absent

/-- Derivations of parts in order. -/
inductive DerivesAll : List Part → List Derivation → Prop
  | nil : DerivesAll [] []
  | cons {p : Part} {d : Derivation} {ps : List Part} {ds : List Derivation} (head : Derives p d)
    (tail : DerivesAll ps ds) : DerivesAll (p :: ps) (d :: ds)

end

section

variable {a : Terminal} {r : Rule} {p : Part} {ps : List Part} {d : Derivation} {ds : List Derivation}

theorem derives_token_iff :
    Derives (.token a) d ↔ ∃ l : Lexeme, l.terminal = a ∧ ∃ x, d = .token (l.token x) := by
  constructor
  · rintro ⟨same⟩
    exact ⟨_, same, _, rfl⟩
  · rintro ⟨l, same, x, rfl⟩
    exact .token same

theorem derives_rule_iff : Derives (.rule r) d ↔
    ∃ alternative ds, d = .node r alternative ds ∧ alternative ∈ r.alternatives ∧ DerivesAll alternative.parts ds := by
  constructor
  · intro derives
    cases derives with
    | rule among parts => exact ⟨_, _, rfl, among, parts⟩
  · rintro ⟨alternative, ds, rfl, among, parts⟩
    exact .rule among parts

theorem derives_many_iff : Derives (.many r) d ↔ ∃ ds, (∀ e ∈ ds, Derives (.rule r) e) ∧ d = .many ds := by
  constructor
  · intro derives
    cases derives with
    | many each => exact ⟨_, each, rfl⟩
  · rintro ⟨ds, each, rfl⟩
    exact .many each

theorem derives_optional_iff : Derives (.optional a) d ↔
    d = .missing ∨ ∃ l : Lexeme, l.terminal = a ∧ ∃ x, d = .token (l.token x) := by
  constructor
  · intro derives
    cases derives with
    | used same => exact .inr ⟨_, same, _, rfl⟩
    | missing => exact .inl rfl
  · rintro (rfl | ⟨l, same, x, rfl⟩)
    · exact .missing
    · exact .used same

theorem derives_bracket_iff : Derives (.bracket a r) d ↔
    d = .absent ∨ ∃ l : Lexeme, l.terminal = a ∧ ∃ x inner, Derives (.rule r) inner ∧ d = .given (l.token x) inner := by
  constructor
  · intro derives
    cases derives with
    | given same inner => exact .inr ⟨_, same, _, _, inner, rfl⟩
    | absent => exact .inl rfl
  · rintro (rfl | ⟨l, same, x, inner, derives, rfl⟩)
    · exact .absent
    · exact .given same derives

theorem derives_word_iff {k : Keyword} : Derives (.word k) d ↔ ∃ x, d = .token (k.token x) := by
  simp [Part.word, derives_token_iff, Keyword.token]

theorem derives_sign_iff {s : Symbol} : Derives (.sign s) d ↔ ∃ x, d = .token (s.token x) := by
  simp [Part.sign, derives_token_iff, Symbol.token]

theorem derives_name_iff : Derives (.token .name) d ↔ ∃ w : Word, d = .token w.token := by
  rw [derives_token_iff]
  constructor
  · rintro ⟨l, isName, x, rfl⟩
    obtain ⟨text, rfl⟩ := Lexeme.terminal_eq_name.mp isName
    exact ⟨{ extent := x, text }, rfl⟩
  · rintro ⟨w, rfl⟩
    exact ⟨_, rfl, _, rfl⟩

theorem derives_number_iff : Derives (.token .number) d ↔ ∃ text x, d = .token (Lexeme.token (.number text) x) := by
  rw [derives_token_iff]
  constructor
  · rintro ⟨l, isNumber, x, rfl⟩
    obtain ⟨text, rfl⟩ := Lexeme.terminal_eq_number.mp isNumber
    exact ⟨text, x, rfl⟩
  · rintro ⟨text, x, rfl⟩
    exact ⟨_, rfl, x, rfl⟩

theorem derives_optional_word_iff {k : Keyword} :
    Derives (.optional (.keyword k)) d ↔ ∃ x?, d = .optional (.keyword k) x? := by
  simp [derives_optional_iff, Option.exists, Derivation.optional]

theorem derives_terminator_iff : Derives .terminator d ↔ ∃ x?, d = .optional (.symbol .semicolon) x? := by
  simp [Part.terminator, derives_optional_iff, Option.exists, Derivation.optional]

theorem derivesAll_nil_iff : DerivesAll [] ds ↔ ds = [] := by
  constructor
  · intro derives
    cases derives with
    | nil => rfl
  · rintro rfl
    exact .nil

theorem derivesAll_cons_iff : DerivesAll (p :: ps) ds ↔
    ∃ d rest, ds = d :: rest ∧ Derives p d ∧ DerivesAll ps rest := by
  constructor
  · intro derives
    cases derives with
    | cons head tail => exact ⟨_, _, rfl, head, tail⟩
  · rintro ⟨d, rest, rfl, head, tail⟩
    exact .cons head tail

/-- Derivations that come from something of a kind come from a list of such things. -/
theorem exists_map_of_forall {α : Type} {P : α → Prop} {f : α → Derivation}
    (each : ∀ d ∈ ds, ∃ a, P a ∧ d = f a) : ∃ as : List α, (∀ a ∈ as, P a) ∧ ds = as.map f := by
  induction ds with
  | nil => exact ⟨[], by simp, rfl⟩
  | cons d rest ih =>
    obtain ⟨a, holds, rfl⟩ := each d List.mem_cons_self
    obtain ⟨as, all, rfl⟩ := ih fun e member => each e (List.mem_cons_of_mem _ member)
    exact ⟨a :: as, List.forall_mem_cons.mpr ⟨holds, all⟩, rfl⟩

end

namespace Derivation

mutual

def tokens : Derivation → List Token
  | token t => [t]
  | node _ _ parts => tokensAll parts
  | many each => tokensAll each
  | missing | absent => []
  | given t inner => t :: inner.tokens

def tokensAll : List Derivation → List Token
  | [] => []
  | d :: rest => d.tokens ++ tokensAll rest

end

mutual

/-- What a derivation is to the outline of the rule that it is a part of. -/
def outlines (keepsWords : Bool) : Derivation → List Outline
  | token t => (t.outline? keepsWords).toList
  | node r alternative parts =>
    let inner := outlinesAll r.keepsWords parts
    if r.isInlined = true ∧ alternative.label? = none ∧ inner.length = 1 then inner
    else [.rule (alternative.label?.getD r.name) (Extent.spanning? (tokensAll parts)) inner]
  | many each => outlinesAll keepsWords each
  | missing => []
  | given t inner => (t.outline? keepsWords).toList ++ inner.outlines keepsWords
  | absent => [.absent]

def outlinesAll (keepsWords : Bool) : List Derivation → List Outline
  | [] => []
  | d :: rest => d.outlines keepsWords ++ outlinesAll keepsWords rest

end

theorem tokensAll_eq_flatMap (ds : List Derivation) : tokensAll ds = ds.flatMap tokens := by
  induction ds with
  | nil => rfl
  | cons d rest ih => rw [tokensAll, ih, List.flatMap_cons]

theorem outlinesAll_eq_flatMap (keepsWords : Bool) (ds : List Derivation) :
    outlinesAll keepsWords ds = ds.flatMap (outlines keepsWords) := by
  induction ds with
  | nil => rfl
  | cons d rest ih => rw [outlinesAll, ih, List.flatMap_cons]

theorem tokens_optional (l : Lexeme) (x? : Option Extent) : (Derivation.optional l x?).tokens = l.optional x? := by
  cases x? <;> rfl

/-- A rule that is not left out of outlines. -/
theorem outlines_plain {r : Rule} {parts : List Part} {ds : List Derivation} {x? : Option Extent}
    {inner : List Outline} (kept : r.isInlined = false) (spans : Extent.spanning? (tokensAll ds) = x?)
    (outlines : outlinesAll r.keepsWords ds = inner) (keepsWords : Bool) :
    (node r (.plain parts) ds).outlines keepsWords = [.rule r.name x? inner] := by
  simp [Derivation.outlines, Alternative.plain, kept, spans, outlines]

/-- A rule that only passes on one part is left out of outlines. -/
theorem outlines_one {r : Rule} (inlined : r.isInlined = true) (keepsWords : Bool) (inner : Rule) {d : Derivation}
    {o : Outline} (single : d.outlines r.keepsWords = [o]) :
    (node r (.plain [.rule inner]) [d]).outlines keepsWords = [o] := by
  simp [outlines, outlinesAll, Alternative.plain, inlined, single]

/-- An alternative with a name of its own is kept in outlines. -/
theorem outlines_named {r : Rule} {label : String} {parts : List Part} {ds : List Derivation} {x? : Option Extent}
    {inner : List Outline} (spans : Extent.spanning? (tokensAll ds) = x?)
    (outlines : outlinesAll r.keepsWords ds = inner) (keepsWords : Bool) :
    (node r (.named label parts) ds).outlines keepsWords = [.rule label x? inner] := by
  simp [Derivation.outlines, Alternative.named, spans, outlines]

end Derivation

end Grammar

end WormLang
