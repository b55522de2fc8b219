import WormLang.Proofs.Build.Typing
import WormLang.Proofs.Execution.Seek
import WormLang.Proofs.Soundness.Data

/-!
Soundness of types for expressions. Where the variables hold values of their declared types, a well typed expression has
a value of its type, or it fails in one of three ways: an entity lacks a capability, something that is no entity lacks a
field, or a search has an angle without a direction. Besides, it can trip over what a host put on a being: data in the
place of a field that does not have the form of that field.
-/
namespace WormLang

namespace Expr

/-- The type that the operands of an expression must have. Those of an equality must have one type, whatever it is. -/
def demand : Expr → Option Ty
  | arithmetic .. | math .. | order .. | search .. => some .number
  | logical .. | negation .. => some .boolean
  | query .. | sameTeam .. | isKind .. => some .entity
  | equality _ _ l _ => l.ty?
  | _ => none

/-- Whether the value of an expression comes from those of its operands alone: no variable is read, nobody is asked. -/
def computes : Expr → Bool
  | self .. | access .. | query .. | sameTeam .. | search .. | placeholder .. => false
  | _ => true

theorem WellTyped.ty?_operand {globals : Table Variable} {e operand : Expr} (typed : e.WellTyped globals)
    (inside : operand ∈ e.operands) : operand.ty? = e.demand := by
  cases e <;> simp only [operands, List.mem_cons, List.not_mem_nil, or_false] at inside
  case arithmetic | order | logical => obtain rfl | rfl := inside <;> first | exact typed.1.2 | exact typed.2.2
  case equality => obtain rfl | rfl := inside <;> first | rfl | exact typed.2.2.symm
  all_goals
    subst inside
    exact typed.2

theorem mem_walk_self (e : Expr) : e ∈ e.walk := by
  rw [walk_eq]
  exact List.mem_cons_self

theorem mem_walk_of_operand {e operand part : Expr} (inside : operand ∈ e.operands) (among : part ∈ operand.walk) :
    part ∈ e.walk := by
  rw [walk_eq]
  exact List.mem_cons_of_mem _ (List.mem_flatMap.mpr ⟨operand, inside, among⟩)

/-- Every part of a well typed expression is well typed. -/
theorem WellTyped.part {globals : Table Variable} {e : Expr} (typed : e.WellTyped globals) :
    ∀ part ∈ e.walk, part.WellTyped globals := by
  induction e using operand_induction with
  | step e ih =>
    intro part inside
    rw [walk_eq] at inside
    obtain rfl | deeper := List.mem_cons.mp inside
    · exact typed
    · obtain ⟨operand, directly, among⟩ := List.mem_flatMap.mp deeper
      exact ih operand directly (typed.operand directly) part among

end Expr

/-- A table has the variables that were declared, each with a value of its declared type. -/
structure Table.Fits (globals table : Table Variable) : Prop where
  types : globals.SameTypes table
  values : ∀ name v, table.get? name = some v → v.value.ty = v.ty

namespace Table.Fits

variable {globals table : Table Variable}

theorem exists_get? (fits : globals.Fits table) {name : String} {t : Ty}
    (declared : (globals.get? name).map Variable.ty = some t) :
    ∃ v, table.get? name = some v ∧ v.ty = t ∧ v.value.ty = t := by
  rw [fits.types name] at declared
  obtain ⟨v, found, ty⟩ := Option.map_eq_some_iff.mp declared
  exact ⟨v, found, ty, (fits.values name v found).trans ty⟩

/-- Another value of the declared type keeps the table in order. -/
theorem set (fits : globals.Fits table) {name : String} {w : Variable}
    (declared : (globals.get? name).map Variable.ty = some w.ty) (holds : w.value.ty = w.ty) :
    globals.Fits (table.set name w) := by
  obtain ⟨v, found, ty, -⟩ := fits.exists_get? declared
  refine ⟨fits.types.trans (Table.sameTypes_set found ty.symm), fun other u got => ?_⟩
  rw [Table.get?_set] at got
  split at got
  · obtain ⟨_, -, rfl⟩ := Option.map_eq_some_iff.mp got
    exact holds
  · exact fits.values other u got

end Table.Fits

/-- A number that is infinite. -/
def Number.IsInfinite (x : Float) : Prop := ∃ negative, Number.parts x = .infinite negative

namespace Angle

/-- Only an infinite angle has no direction. -/
theorem normalize_error {angle : Float} {f : Fault} (failed : normalize angle = .error f) :
    f.cause = .mathDomain ∧ Number.IsInfinite angle := by
  have turn : Number.parts fullTurn = .finite false 7074237752028440 (-50) := by decide +kernel
  rw [normalize_eq] at failed
  split at failed
  · next none =>
    cases failed
    refine ⟨rfl, ?_⟩
    unfold Number.remainder? at none
    rw [turn] at none
    cases size : Number.parts angle with
    | infinite negative => exact ⟨negative, size⟩
    | nan | finite =>
      rw [size] at none
      simp at none
  · cases failed

theorem difference_error {a b : Float} {f : Fault} (failed : difference a b = .error f) :
    f.cause = .mathDomain ∧ (Number.IsInfinite a ∨ Number.IsInfinite b) := by
  rw [difference_eq] at failed
  cases first : normalize a with
  | error g =>
    rw [first] at failed
    cases failed
    exact ⟨(normalize_error first).1, .inl (normalize_error first).2⟩
  | ok x =>
    cases second : normalize b with
    | error g =>
      rw [first, second] at failed
      cases failed
      exact ⟨(normalize_error second).1, .inr (normalize_error second).2⟩
    | ok y =>
      rw [first, second] at failed
      cases failed

end Angle

namespace Arena

/-- The ways to lack something: an entity lacks a capability, and a member of the world that is no entity lacks a
field. -/
inductive Lacks (a : Arena) : Cause → Prop
  | capability {cause : Cause} (kind : cause.kind = .capability) : Lacks a cause
  | field {id : EntityId} {name field : String} (rock : a.being id = .rock name) (placed : a.isPlaced id = true) :
    Lacks a (.noAttribute (Being.rock name).owner field)

variable {a : Arena}

theorem lacks_being {id : EntityId} (placed : a.isPlaced id = true) (capability field : String) :
    a.Lacks ((a.being id).lacks capability field).cause := by
  cases sort : a.being id with
  | rock name => exact .field sort placed
  | worm | food | bystander => exact .capability rfl

/-- Loose data in the place of a field is what a query cannot read a number off. -/
theorem number_fault {id : EntityId} {q : Query} {f : Fault} (failed : a.number id q = .error (.fault f)) :
    ∃ d, a.loose? id q.field = some d ∧ q.readOff a.names d = .error f := by
  unfold number at failed
  split at failed
  · next d found =>
    refine ⟨d, found, ?_⟩
    cases reads : q.readOff a.names d with
    | ok x =>
      rw [reads] at failed
      cases failed
    | error g =>
      rw [reads] at failed
      cases failed
      rfl
  · cases failed
  · cases failed

theorem team_error {id : EntityId} {lack : Lack} (failed : a.team id = .error lack) : lack = .capability := by
  unfold team at failed
  split at failed <;> cases failed
  rfl

theorem heading_error {id : EntityId} {lack : Lack} (failed : a.heading id = .error lack) : lack = .capability := by
  unfold heading at failed
  split at failed <;> cases failed
  rfl

/-- Loose data in the place of a direction is what cannot be turned from. -/
theorem heading_fault {id : EntityId} {f : Fault} (found : a.heading id = .ok (.error f)) :
    ∃ d, a.loose? id Query.direction.field = some d ∧ d.summand (·.owner a.names) = .error f := by
  unfold heading at found
  split at found
  · next d loose => exact ⟨d, loose, Except.ok.inj found⟩
  · cases found
  · cases found

/-- What a host put on a member of the world in the place of its position is no point. -/
inductive Displaces (a : Arena) : Fault → Prop
  | member {id : EntityId} {d : Datum} {f : Fault} (placed : a.isPlaced id = true)
    (put : a.loose? id "position" = some d) (unfit : d.toPoint (·.owner a.names) = .error f) : Displaces a f

theorem position_error {id : EntityId} (placed : a.isPlaced id = true) {f : Fault} (failed : a.position id = .error f) :
    a.Lacks f.cause ∨ a.Displaces f := by
  unfold position at failed
  split at failed
  · next d found => exact .inr (.member placed found failed)
  · dsimp only at failed
    split at failed <;> cases failed
    exact .inl (lacks_being placed _ _)

/-- The ways in which a search fails. The arctangent of a bearing is never infinite, but that is not known of the
function on doubles. -/
inductive LooksInVain (a : Arena) (angle : Float) : Cause → Prop
  | lacks {cause : Cause} (lacks : a.Lacks cause) : LooksInVain a angle cause
  | endless (infinite : Number.IsInfinite angle ∨ ∃ y x, Number.IsInfinite (Float.atan2 y x)) :
    LooksInVain a angle .mathDomain

theorem look_error {x y angle : Float} {nearest : Nearest} {id : EntityId}
    (placed : a.isPlaced id = true) {f : Fault} (failed : a.lookBy .standard x y angle nearest id = .error f) :
    a.LooksInVain angle f.cause ∨ a.Displaces f := by
  unfold lookBy Measures.standard at failed
  cases place : a.position id with
  | error g =>
    rw [place] at failed
    cases failed
    exact (position_error placed place).imp_left .lacks
  | ok p =>
    rw [place] at failed
    simp only [bind, Except.bind] at failed
    split at failed
    · cases failed
    · cases off : Angle.difference (Float.atan2 (p.2 - y) (p.1 - x)) angle with
      | error g =>
        rw [off] at failed
        cases failed
        obtain ⟨cause, bearing | direction⟩ := Angle.difference_error off
        · rw [cause]
          exact .inl (.endless (.inr ⟨_, _, bearing⟩))
        · rw [cause]
          exact .inl (.endless (.inl direction))
      | ok d =>
        rw [off] at failed
        simp only at failed
        split at failed <;> cases failed

theorem search_error (sandbox : a.isBare = false) {origin : Float × Float} {angle : Float} {f : Fault}
    (failed : a.search origin angle = .error f) : a.LooksInVain angle f.cause ∨ a.Displaces f := by
  have folded : ∀ (members : List EntityId) (nearest : Nearest), (∀ id ∈ members, a.isPlaced id = true) →
      members.foldlM (a.lookBy .standard origin.1 origin.2 angle) nearest = .error f →
      a.LooksInVain angle f.cause ∨ a.Displaces f := by
    intro members
    induction members with
    | nil =>
      intro nearest _ failed
      cases failed
    | cons id rest ih =>
      intro nearest placed failed
      rw [List.foldlM_cons] at failed
      cases seen : a.lookBy .standard origin.1 origin.2 angle nearest id with
      | error g =>
        rw [seen] at failed
        cases failed
        exact look_error (placed id List.mem_cons_self) seen
      | ok next =>
        rw [seen] at failed
        exact ih next (fun other member => placed other (List.mem_cons_of_mem _ member)) failed
  unfold search searchBy at failed
  rw [sandbox, if_neg (by simp)] at failed
  cases swept : a.members.foldlM (a.lookBy .standard origin.1 origin.2 angle) {} with
  | ok nearest =>
    rw [swept] at failed
    cases failed
  | error g =>
    rw [swept] at failed
    cases failed
    exact folded a.members {} (fun id member => List.contains_iff_mem.mpr member) swept

theorem searchFrom_error (sandbox : a.isBare = false) {id : EntityId} (placed : a.isPlaced id = true) {angle : Float}
    {f : Fault} (failed : a.searchFrom id angle = .error f) : a.LooksInVain angle f.cause ∨ a.Displaces f := by
  unfold searchFrom searchAt at failed
  rw [sandbox, if_neg (by simp)] at failed
  cases place : a.position id with
  | error g =>
    rw [place] at failed
    cases failed
    exact (position_error placed place).imp_left .lacks
  | ok origin =>
    cases seen : a.search origin angle with
    | error g =>
      rw [place] at failed
      simp only [bind, Except.bind, seen] at failed
      cases failed
      exact search_error sandbox seen
    | ok found =>
      rw [place] at failed
      simp only [bind, Except.bind, seen] at failed
      cases failed

/-- A loop over a kind of members fails only at a member that is no entity. -/
theorem collection_error (sandbox : a.isBare = false) {kind : LoopKind} {f : Fault}
    (failed : a.collection kind = .error f) : a.Lacks f.cause := by
  have filtered : ∀ (k : EntityKind) (members found : List EntityId), (∀ id ∈ members, a.isPlaced id = true) →
      members.filterAuxM (a.isKind · k) found = .error f → a.Lacks f.cause := by
    intro k members
    induction members with
    | nil =>
      intro _ _ failed
      cases failed
    | cons id rest ih =>
      intro found placed failed
      rw [List.filterAuxM] at failed
      cases told : a.isKind id k with
      | error g =>
        rw [told] at failed
        cases failed
        unfold isKind at told
        split at told
        · cases told
          exact lacks_being (placed id List.mem_cons_self) _ _
        · cases told
      | ok is =>
        rw [told] at failed
        exact ih _ (fun other member => placed other (List.mem_cons_of_mem _ member)) failed
  have ofKind : ∀ k, a.ofKind k = .error f → a.Lacks f.cause := by
    intro k failed
    unfold Arena.ofKind List.filterM at failed
    cases swept : a.members.filterAuxM (a.isKind · k) [] with
    | ok found =>
      rw [swept] at failed
      cases failed
    | error g =>
      rw [swept] at failed
      cases failed
      exact filtered k a.members [] (fun id member => List.contains_iff_mem.mpr member) swept
  unfold collection worms food entities at failed
  rw [sandbox] at failed
  cases kind with
  | worm => exact ofKind .worm failed
  | food => exact ofKind .food failed
  | any => cases failed

end Arena

namespace Evaluation

variable {α β : Type}

/-- On every log a computation gives a result of one kind or a fault of another. -/
def Meets (done : α → Prop) (failed : Fault → Prop) (x : Evaluation α) : Prop :=
  ∀ log, (∀ a log', EStateM.run x log = .ok a log' → done a) ∧ ∀ f log', EStateM.run x log = .error f log' → failed f

namespace Meets

variable {done : α → Prop} {failed : Fault → Prop}

theorem pure {a : α} (h : done a) : Meets done failed (Pure.pure a) := by
  refine fun log => ⟨fun b log' ran => ?_, fun f log' ran => ?_⟩
  · cases ran
    exact h
  · cases ran

theorem throw {f : Fault} (h : failed f) : Meets done failed (MonadExcept.throw f) := by
  refine fun log => ⟨fun b log' ran => ?_, fun g log' ran => ?_⟩
  · cases ran
  · cases ran
    exact h

theorem ofExcept {x : Except Fault α} (ok : ∀ a, x = .ok a → done a) (error : ∀ f, x = .error f → failed f) :
    Meets done failed (Evaluation.ofExcept x) := by
  cases x with
  | ok a => exact .pure (ok a rfl)
  | error f => exact .throw (error f rfl)

theorem bind {next : β → Prop} {x : Evaluation α} {f : α → Evaluation β} (first : Meets done failed x)
    (second : ∀ a, done a → Meets next failed (f a)) : Meets next failed (x >>= f) := by
  intro log
  rw [EStateM.run_bind]
  cases ran : EStateM.run x log with
  | ok a log' => exact second a ((first log).1 a log' ran) log'
  | error g log' =>
    refine ⟨fun b log'' stopped => ?_, fun h log'' stopped => ?_⟩
    · cases stopped
    · cases stopped
      exact (first log).2 g log' ran

theorem bind_ok {next : β → Prop} {a : α} {f : α → Evaluation β} (second : Meets next failed (f a)) :
    Meets next failed (Evaluation.ofExcept (.ok a) >>= f) := second

theorem mono {done' : α → Prop} {failed' : Fault → Prop} {x : Evaluation α} (meets : Meets done failed x)
    (ok : ∀ a, done a → done' a) (error : ∀ f, failed f → failed' f) : Meets done' failed' x :=
  fun log => ⟨fun a log' ran => ok a ((meets log).1 a log' ran), fun f log' ran => error f ((meets log).2 f log' ran)⟩

/-- A result comes out of a run. -/
theorem traced {x : Evaluation α} (meets : Meets done failed x) :
    Meets (fun a => done a ∧ ∃ log log', EStateM.run x log = .ok a log') failed x :=
  fun log => ⟨fun a log' ran => ⟨(meets log).1 a log' ran, log, log', ran⟩, (meets log).2⟩

end Meets

theorem meets_note (n : Note) {failed : Fault → Prop} : (Evaluation.note n).Meets (fun _ => True) failed :=
  fun log => ⟨fun _ _ _ => trivial, fun f log' ran => by cases ran⟩

end Evaluation

/-- A bound entity in the world is where it has to be. -/
theorem Context.resident_of_placed {σ : Type} {context : Context} {world : World σ} {host : σ} {me : EntityId}
    (bound : context.entity? = some me) (placed : world.isPlaced host me = true) :
    context.resident world host = .ok me := by
  rw [resident, entity, bound]
  simp [Bind.bind, Except.bind, placed]

namespace Env

variable {σ : Type}

/-- What an expression reads is in order: a sandbox with the bound entity in it, and variables with values of their
declared types. -/
structure Sound (globals : Table Variable) (arena : σ → Arena) (me : EntityId) (env : Env σ) : Prop where
  world : env.world = Arena.world.within arena
  bound : env.context.entity? = some me
  sandbox : (arena env.host).isBare = false
  placed : (arena env.host).isPlaced me = true
  fits : globals.Fits env.table

/-- How an operator can fail on operands of the right types. -/
inductive Raises (arena : σ → Arena) (env : Env σ) : Expr → Cause → Prop
  | query {at? : Option Position} {q : Query} {e : Expr} {cause : Cause} (kind : cause.kind = .capability) :
    Raises arena env (.query at? q e) cause
  | sameTeam {at? : Option Position} {e : Expr} {cause : Cause} (kind : cause.kind = .capability) :
    Raises arena env (.sameTeam at? e) cause
  | blind {at? : Option Position} {e : Expr} {cause : Cause} (kind : cause.kind = .capability) :
    Raises arena env (.search at? e) cause
  | search {at? : Option Position} {e : Expr} {v : Value} {log log' : Log} {me : EntityId} {heading : Float}
    {cause : Cause} (value : EStateM.run (env.eval e) log = .ok v log')
    (facing : env.world.heading env.host me = .ok (.ok heading))
    (vain : (arena env.host).LooksInVain (heading + v.toNumber) cause) : Raises arena env (.search at? e) cause

/-- A query reads what a host put in the place of a field of a being, and that is no number. -/
inductive Misreads (arena : σ → Arena) (env : Env σ) : Expr → Fault → Prop
  | query {at? : Option Position} {q : Query} {operand : Expr} {id : EntityId} {d : Datum} {f : Fault} {log log' : Log}
    (value : EStateM.run (env.eval operand) log = .ok (.entity (.being id)) log')
    (put : (arena env.host).loose? id q.field = some d)
    (unfit : q.readOff (arena env.host).names d = .error f) : Misreads arena env (.query at? q operand) f

/-- An operator trips over what a host put on a being in the place of a field: a query reads no number there, or a
search finds no direction to turn from, or no point. -/
inductive Trips (arena : σ → Arena) (env : Env σ) : Expr → Fault → Prop
  | query {e : Expr} {f : Fault} (misreads : env.Misreads arena e f) : Trips arena env e f
  | direction {at? : Option Position} {e : Expr} {me : EntityId} {d : Datum} {f : Fault}
    (bound : env.context.entity? = some me) (put : (arena env.host).loose? me Query.direction.field = some d)
    (unfit : d.summand (·.owner (arena env.host).names) = .error f) : Trips arena env (.search at? e) f
  | position {at? : Option Position} {e : Expr} {f : Fault} (displaces : (arena env.host).Displaces f) :
    Trips arena env (.search at? e) f

/-- What goes wrong when an operator trips is a value that cannot be stored, or host data. -/
theorem Trips.kind {arena : σ → Arena} {env : Env σ} {e : Expr} {f : Fault} (trips : env.Trips arena e f) :
    f.kind = .valueType ∨ f.kind.isLocated = false := by
  cases trips with
  | query misreads =>
    obtain ⟨-, -, unfit⟩ := misreads
    exact Query.unreadable_readOff _ _ _ f unfit
  | direction bound put unfit => exact .inr (Datum.unlocated_summand _ _ f unfit)
  | position displaces =>
    obtain ⟨-, -, unfit⟩ := displaces
    exact .inr (Datum.unlocated_toPoint _ _ f unfit)

/-- How an operator fails on operands of the right types: as it may, or over what a host put on a being. -/
def Fails (arena : σ → Arena) (env : Env σ) (e : Expr) (f : Fault) : Prop :=
  env.Raises arena e f.cause ∨ env.Trips arena e f

variable {globals : Table Variable} {arena : σ → Arena} {me : EntityId} {env : Env σ}

/-- Asking fails for want of a capability or with what the reading fails with. -/
theorem meets_ask_of_fault {α : Type} {read : EntityId → Except Lack α} {failed : Fault → Prop}
    {h : Handle} (capability : ∀ f : Fault, f.kind = .capability → failed f)
    (fault : ∀ id f, h = .being id → read id = .error (.fault f) → failed f) (at? : Option Position)
    (name : String) : (env.ask at? name read h).Meets (fun a => ∃ id, h = .being id ∧ read id = .ok a) failed := by
  cases h with
  | null => exact .throw (capability _ rfl)
  | thing t => exact .throw (capability _ rfl)
  | being id =>
    unfold ask
    dsimp only
    split
    · next a found => exact .pure ⟨id, rfl, found⟩
    · exact .throw (capability _ rfl)
    · next f broken => exact .throw (fault id f rfl broken)

/-- Asking fails for want of a capability only, if the reading does. -/
theorem meets_ask {α : Type} {read : EntityId → Except Lack α} {failed : Fault → Prop}
    (capability : ∀ f : Fault, f.kind = .capability → failed f)
    (lacks : ∀ id lack, read id = .error lack → lack = .capability) (at? : Option Position) (name : String)
    (h : Handle) : (env.ask at? name read h).Meets (fun a => ∃ id, h = .being id ∧ read id = .ok a) failed :=
  meets_ask_of_fault capability (fun id f _ broken => by cases lacks id _ broken) at? name

/-- Asking for a number fails for want of a capability, or with what is misread on a being. -/
theorem meets_askNumber (world : env.world = Arena.world.within arena) (at? : Option Position) (q : Query) {e : Expr}
    {v : Value} {log log' : Log} (value : EStateM.run (env.eval e) log = .ok v log') :
    (env.askNumber at? q v.toHandle).Meets (fun _ => True)
      fun f => f.kind = .capability ∨ env.Misreads arena (.query at? q e) f := by
  refine (meets_ask_of_fault (fun _ => .inl) (fun id f being failed => .inr ?_) at? _).mono (fun _ _ => trivial)
    fun _ h => h
  rw [world] at failed
  obtain ⟨d, put, unfit⟩ := Arena.number_fault failed
  have same : v = .entity (.being id) := by
    cases v with
    | entity h => exact congrArg Value.entity being
    | number | boolean => cases being
  exact .query (same ▸ value) put unfit

theorem Sound.meets_entity (sound : env.Sound globals arena me) {failed : Fault → Prop} :
    (Evaluation.ofExcept env.context.entity).Meets (me = ·) failed := by
  rw [Context.entity, sound.bound]
  exact .pure rfl

theorem Sound.meets_askTeam (sound : env.Sound globals arena me) (at? : Option Position) (h : Handle) :
    (env.askTeam at? h).Meets (fun _ => True) (fun f => f.kind = .capability) := by
  refine (meets_ask (fun _ => id) (fun id lack failed => ?_) at? _ h).mono (fun _ _ => trivial) fun _ => id
  rw [sound.world] at failed
  exact Arena.team_error failed

/-- Looking around fails as a search may. -/
theorem Sound.meets_lookAround (sound : env.Sound globals arena me) (at? : Option Position) {e : Expr} {v : Value}
    {log log' : Log} (value : EStateM.run (env.eval e) log = .ok v log') :
    (env.lookAround at? v.toNumber).Meets (fun _ => True) (env.Fails arena (.search at? e)) := by
  have blind : ∀ f : Fault, f.kind = .capability → env.Fails arena (.search at? e) f := fun f kind => .inl (.blind kind)
  refine sound.meets_entity.bind fun _ isMe => ?_
  subst isMe
  refine (meets_ask blind (fun id lack failed => ?_) at? _ _).bind fun _ _ => ?_
  · split at failed <;> cases failed
    rfl
  refine (meets_ask blind (fun id lack failed => ?_) at? _ _).bind fun angle? found => ?_
  · rw [sound.world] at failed
    exact Arena.heading_error failed
  obtain ⟨_, ⟨⟩, facing⟩ := found
  have resident : env.context.resident env.world env.host = .ok me :=
    Context.resident_of_placed sound.bound (by rw [sound.world]; exact sound.placed)
  rw [resident]
  refine .bind_ok ?_
  have turned : (Evaluation.ofExcept angle?).Meets (fun heading => env.world.heading env.host me = .ok (.ok heading))
      (env.Fails arena (.search at? e)) := by
    refine .ofExcept (fun heading same => same ▸ facing) fun f broken => .inr ?_
    rw [broken, sound.world] at facing
    obtain ⟨d, put, unfit⟩ := Arena.heading_fault facing
    exact .direction sound.bound put unfit
  refine turned.bind fun heading facing => ?_
  have searched : (Evaluation.ofExcept (env.world.search env.host me (heading + v.toNumber))).Meets (fun _ => True)
      (env.Fails arena (.search at? e)) := by
    refine .ofExcept (fun _ _ => trivial) fun f failed => ?_
    rw [sound.world] at failed
    exact (Arena.searchFrom_error sound.sandbox sound.placed failed).imp (.search value facing) .position
  refine searched.bind fun seen _ => ?_
  split <;> exact (Evaluation.meets_note _).bind fun _ _ => .pure trivial

/-- An expression whose value comes from those of its operands alone has a value of its static type if they have any. -/
theorem meets_eval_of_computes {e : Expr} (computes : e.computes = true) {given : Expr → Value → Prop}
    {failed : Fault → Prop} (inner : ∀ o ∈ e.operands, (env.eval o).Meets (given o) failed) :
    (env.eval e).Meets (fun v => e.ty? = some v.ty) failed := by
  cases e with
  | number | boolean | null => exact .pure rfl
  | arithmetic at? op l r | order at? op l r | equality at? op l r =>
    exact (inner l (by simp [Expr.operands])).bind fun _ _ =>
      (inner r (by simp [Expr.operands])).bind fun _ _ => .pure rfl
  | logical at? op l r =>
    refine (inner l (by simp [Expr.operands])).bind fun v _ => ?_
    dsimp only
    split
    · exact .pure rfl
    · exact .pure rfl
    · exact (inner r (by simp [Expr.operands])).bind fun _ _ => .pure rfl
  | math at? f e | negation at? e | isKind at? k e =>
    exact (inner e (by simp [Expr.operands])).bind fun _ _ => .pure rfl
  | self | access | query | sameTeam | search | placeholder => cases computes

/-- A well typed expression has a value of its type, or one of its operators fails on operands of the right types. -/
theorem Sound.meets_eval (sound : env.Sound globals arena me) {e : Expr} (typed : e.WellTyped globals) :
    (env.eval e).Meets (fun v => e.ty? = some v.ty) fun f => ∃ part ∈ e.walk, env.Fails arena part f := by
  induction e using Expr.operand_induction with
  | step e ih =>
    have inner : ∀ o ∈ e.operands, (env.eval o).Meets (fun v => o.ty? = some v.ty)
        fun f => ∃ part ∈ e.walk, env.Fails arena part f := by
      intro o inside
      refine (ih o inside (typed.operand inside)).mono (fun _ h => h) fun f failed => ?_
      obtain ⟨part, among, raises⟩ := failed
      exact ⟨part, Expr.mem_walk_of_operand inside among, raises⟩
    have own := e.mem_walk_self
    cases e with
    | number | boolean | null | arithmetic | order | equality | logical | math | negation | isKind =>
      exact meets_eval_of_computes rfl inner
    | self => exact sound.meets_entity.bind fun _ _ => .pure rfl
    | access at? name t =>
      obtain ⟨v, found, ty, holds⟩ := sound.fits.exists_get? typed
      show (env.readVariable at? name t).Meets _ _
      unfold readVariable
      rw [Table.lookup, found]
      refine (Evaluation.Meets.pure rfl).bind fun w same => ?_
      subst same
      rw [if_pos holds]
      exact .pure (congrArg some holds.symm)
    | query at? q e =>
      refine (inner e (by simp [Expr.operands])).traced.bind fun v found => ?_
      obtain ⟨-, log, log', value⟩ := found
      exact ((meets_askNumber sound.world at? q value).mono (fun _ h => h)
        fun f failed => ⟨_, own, failed.imp .query .query⟩).bind fun _ _ => .pure rfl
    | sameTeam at? e =>
      have asks : ∀ h, (env.askTeam at? h).Meets (fun _ => True) fun f => ∃ part ∈ (Expr.sameTeam at? e).walk,
          env.Fails arena part f := fun h =>
        (sound.meets_askTeam at? h).mono (fun _ h => h) fun f kind => ⟨_, own, .inl (.sameTeam kind)⟩
      exact (inner e (by simp [Expr.operands])).bind fun v _ => (asks _).bind fun _ _ =>
        sound.meets_entity.bind fun _ _ => (asks _).bind fun _ _ => .pure rfl
    | search at? e =>
      refine (inner e (by simp [Expr.operands])).traced.bind fun v found => ?_
      obtain ⟨-, log, log', value⟩ := found
      exact ((sound.meets_lookAround at? value).mono (fun _ h => h) fun f failed => ⟨_, own, failed⟩).bind
        fun _ _ => .pure rfl
    | placeholder fault => cases typed

end Env

end WormLang
