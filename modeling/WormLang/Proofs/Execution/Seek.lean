import WormLang.Proofs.Execution.Answer

/-!
Seeking. A run that looks for its cursor walks past every statement that does not hold it: nothing is charged,
performed or evaluated. What does change are loop variables. A foreach loop that the walk reaches binds its
variable to its first entity before it looks inside its body, and leaves it bound.
-/
namespace WormLang

open Answer

/-- The first entity of a collection, if there is one. -/
def World.first? {σ : Type} (world : World σ) (host : σ) (kind : LoopKind) : Option EntityId :=
  match world.members host kind with
  | .ok entities => entities.head?
  | .error _ => none

namespace Stmt

mutual

/-- The variables after a seeking run has walked past a statement, given the first entity of each collection: later
loops overwrite earlier ones, and the body of a loop is walked only if there is an entity. -/
def passed (first? : LoopKind → Option EntityId) : Stmt → Table Variable → Table Variable
  | sequence _ body, t => passedAll first? body t
  | branch _ _ _ yes no, t => no.passed first? (yes.passed first? t)
  | loop _ _ _ body, t => body.passed first? t
  | each _ _ kind name body, t =>
    match first? kind with
    | some e => body.passed first? (t.set name { ty := .entity, value := .entity (.being e) })
    | none => t
  | _, t => t

/-- The variables after a seeking run has walked past statements in order. -/
def passedAll (first? : LoopKind → Option EntityId) : List Stmt → Table Variable → Table Variable
  | [], t => t
  | s :: rest, t => passedAll first? rest (s.passed first? t)

end

mutual

/-- The conditional statements that a seeking run comes to when it walks past a statement, given the first entity of
each collection: the body of a foreach loop is walked only if there is an entity. -/
def reached (first? : LoopKind → Option EntityId) : Stmt → List NodeId
  | sequence _ body => reachedAll first? body
  | branch id _ _ yes no => id :: (yes.reached first? ++ no.reached first?)
  | loop id _ _ body => id :: body.reached first?
  | each id _ kind _ body => id :: if (first? kind).isSome then body.reached first? else []
  | _ => []

/-- The conditional statements that a seeking run comes to when it walks past statements in order. -/
def reachedAll (first? : LoopKind → Option EntityId) : List Stmt → List NodeId
  | [] => []
  | s :: rest => s.reached first? ++ reachedAll first? rest

end

theorem mem_reachedAll {first? : LoopKind → Option EntityId} {body : List Stmt} {id : NodeId} :
    id ∈ reachedAll first? body ↔ ∃ s ∈ body, id ∈ s.reached first? := by
  induction body with
  | nil => simp [reachedAll]
  | cons s rest ih => simp [reachedAll, ih]

/-- A seeking run comes only to statements that are there. -/
theorem reached_subset_ids (first? : LoopKind → Option EntityId) (s : Stmt) : s.reached first? ⊆ s.ids := by
  induction s using tree_induction with
  | sequence at? body ih =>
    intro id inside
    rw [reached, mem_reachedAll] at inside
    obtain ⟨s, member, inside⟩ := inside
    exact mem_ids_of_child member (ih s member inside)
  | branch own at? c yes no ihYes ihNo =>
    intro id inside
    rw [reached, List.mem_cons, List.mem_append] at inside
    obtain rfl | inYes | inNo := inside
    · exact mem_ids_self rfl
    · exact mem_ids_of_child (by simp [children]) (ihYes inYes)
    · exact mem_ids_of_child (by simp [children]) (ihNo inNo)
  | loop own at? c body ih =>
    intro id inside
    rw [reached, List.mem_cons] at inside
    obtain rfl | inside := inside
    · exact mem_ids_self rfl
    · exact mem_ids_of_child (by simp [children]) (ih inside)
  | each own at? kind name body ih =>
    intro id inside
    rw [reached, List.mem_cons] at inside
    obtain rfl | inside := inside
    · exact mem_ids_self rfl
    · split at inside
      · exact mem_ids_of_child (by simp [children]) (ih inside)
      · cases inside
  | leaf s isLeaf => cases s <;> simp_all [reached, Stmt.isLeaf]
  | placeholder fault => simp [reached]

end Stmt

namespace Table

/-- The same names are declared with the same types. -/
def SameTypes (t u : Table Variable) : Prop := ∀ name, (t.get? name).map Variable.ty = (u.get? name).map Variable.ty

theorem SameTypes.refl (t : Table Variable) : t.SameTypes t := fun _ => rfl

theorem SameTypes.trans {t u v : Table Variable} (tu : t.SameTypes u) (uv : u.SameTypes v) : t.SameTypes v :=
  fun name => (tu name).trans (uv name)

/-- A new value of the declared type keeps the types. -/
theorem sameTypes_set {t : Table Variable} {name : String} {v w : Variable} (declared : t.get? name = some v)
    (ty : w.ty = v.ty) : t.SameTypes (t.set name w) := by
  intro other
  rw [get?_set]
  split
  · next same =>
    subst same
    simp [declared, ty]
  · rfl

end Table

/-- A run with budget is looking for the conditional statement with the given identity. -/
structure Machine.Seeks {σ : Type} (id : NodeId) (m : Machine σ) : Prop where
  seeking : m.run.seeking = true
  paid : m.run.exhausted = false
  cursor : ∃ node, m.run.cursor = some node ∧ node.id? = some id

namespace Machine.Seeks

variable {σ : Type} {id : NodeId} {m : Machine σ}

theorem withTable (h : m.Seeks id) (t : Table Variable) : { m with table := t }.Seeks id :=
  ⟨h.seeking, h.paid, h.cursor⟩

theorem of_run (h : m.Seeks id) {m' : Machine σ} (run : m'.run = m.run) : m'.Seeks id :=
  ⟨by rw [run, h.seeking], by rw [run, h.paid], by rw [run]; exact h.cursor⟩

theorem isAt_self (h : m.Seeks id) : m.run.isAt id = true := by
  obtain ⟨node, cursor, at?⟩ := h.cursor
  simp [RunState.isAt, cursor, at?]

theorem isAt_other (h : m.Seeks id) {other : NodeId} (apart : other ≠ id) : m.run.isAt other = false := by
  obtain ⟨node, cursor, at?⟩ := h.cursor
  simp [RunState.isAt, cursor, at?, Ne.symm apart]

end Machine.Seeks

/-- A seeking run enters the conditional statements for free that are not its cursor. -/
theorem Machine.entered_elsewhere {σ : Type} {m : Machine σ} (seeking : m.run.seeking = true) {id : NodeId}
    (elsewhere : m.run.isAt id = false) : m.entered id = m := by
  simp [Machine.entered, seeking, elsewhere]

/-- A seeking run enters other conditional statements than its cursor for free. -/
theorem Machine.Seeks.entered_other {σ : Type} {id : NodeId} {m : Machine σ} (h : m.Seeks id) {other : NodeId}
    (apart : other ≠ id) : m.entered other = m :=
  entered_elsewhere h.seeking (h.isAt_other apart)

namespace Setting

variable {σ : Type} (setting : Setting σ)

mutual

/-- No foreach loop that a seeking run reaches inside a statement fails to fetch its entities. -/
def Passable (m : Machine σ) : Stmt → Prop
  | .sequence _ body => PassableAll m body
  | .branch _ _ _ yes no => Passable m yes ∧ Passable m no
  | .loop _ _ _ body => Passable m body
  | .each _ at? kind name body =>
    ∃ entities, setting.members at? kind name m = .ok entities ∧ (entities ≠ [] → Passable m body)
  | _ => True

/-- No foreach loop that a seeking run reaches inside statements fails to fetch its entities. -/
def PassableAll (m : Machine σ) : List Stmt → Prop
  | [] => True
  | s :: rest => Passable m s ∧ PassableAll m rest

end

/-- The machine after a seeking run has walked past statements. -/
def past (body : List Stmt) (m : Machine σ) : Machine σ :=
  { m with table := Stmt.passedAll (setting.game.world.first? m.host) body m.table }

/-- The machine after a seeking run has bound the variable of a loop and walked past its body. -/
theorem past_each {id : NodeId} {at? : Option Position} {kind : LoopKind} {name : String} {body : Stmt}
    {m : Machine σ} {e : EntityId} (first : setting.game.world.first? m.host kind = some e) :
    setting.past [.each id at? kind name body] m = setting.past [body] (m.bound name e) := by
  simp [past, Machine.bound, Stmt.passedAll, Stmt.passed, first]

theorem past_each_of_none {id : NodeId} {at? : Option Position} {kind : LoopKind} {name : String} {body : Stmt}
    {m : Machine σ} (none : setting.game.world.first? m.host kind = none) :
    setting.past [.each id at? kind name body] m = m := by
  simp [past, Stmt.passedAll, Stmt.passed, none]

theorem past_leaf {s : Stmt} (isLeaf : s.isLeaf = true) (m : Machine σ) : setting.past [s] m = m := by
  cases s with
  | assignment | print | action => simp [past, Stmt.passedAll, Stmt.passed]
  | _ => cases isLeaf

theorem past_cons (s : Stmt) (rest : List Stmt) (m : Machine σ) :
    setting.past (s :: rest) m = setting.past rest (setting.past [s] m) := rfl

/-- A loop that fetched its entities has a variable for entities. -/
theorem members_ok {at? : Option Position} {kind : LoopKind} {name : String} {m : Machine σ}
    {entities : List EntityId} (fetched : setting.members at? kind name m = .ok entities) :
    (∃ v, m.table.get? name = some v ∧ v.ty = .entity) ∧
      setting.game.world.members m.host kind = .ok entities := by
  unfold members at fetched
  split at fetched
  · cases fetched
  · next v declared =>
    split at fetched
    · next ty =>
      split at fetched
      · exact ⟨⟨v, declared, ty⟩, fetched⟩
      · cases fetched
    · cases fetched

/-- The first entity that a loop runs over. -/
theorem first?_of_members {at? : Option Position} {kind : LoopKind} {name : String} {m : Machine σ}
    {entities : List EntityId} (fetched : setting.members at? kind name m = .ok entities) :
    setting.game.world.first? m.host kind = entities.head? := by
  obtain ⟨-, collection⟩ := setting.members_ok fetched
  cases entities <;> simp [World.first?, collection]

/-- Which entities a loop runs over depends on the types of the variables only, not on their values. -/
theorem members_withTable {m : Machine σ} {t : Table Variable} (types : m.table.SameTypes t)
    (at? : Option Position) (kind : LoopKind) (name : String) :
    setting.members at? kind name { m with table := t } = setting.members at? kind name m := by
  have same := types name
  unfold members
  cases before : m.table.get? name with
  | none =>
    rw [before, Option.map_none, eq_comm, Option.map_eq_none_iff] at same
    rw [same]
  | some v =>
    rw [before, Option.map_some, eq_comm, Option.map_eq_some_iff] at same
    obtain ⟨w, after, ty⟩ := same
    rw [after]
    dsimp only
    rw [ty]

theorem passable_withTable {m : Machine σ} {t : Table Variable} (types : m.table.SameTypes t) (s : Stmt) :
    setting.Passable m s → setting.Passable { m with table := t } s := by
  induction s using Stmt.tree_induction with
  | sequence at? body ih =>
    simp only [Passable]
    induction body with
    | nil => exact id
    | cons s rest ihRest =>
      simp only [PassableAll]
      intro passable
      exact ⟨ih s List.mem_cons_self passable.1,
        ihRest (fun t member => ih t (List.mem_cons_of_mem _ member)) passable.2⟩
  | branch id at? c yes no ihYes ihNo =>
    simp only [Passable]
    exact fun passable => ⟨ihYes passable.1, ihNo passable.2⟩
  | loop id at? c body ih =>
    simp only [Passable]
    exact ih
  | each id at? kind name body ih =>
    simp only [Passable]
    rintro ⟨entities, fetched, inside⟩
    exact ⟨entities, by rw [members_withTable setting types]; exact fetched, fun some => ih (inside some)⟩
  | leaf s isLeaf => cases s <;> simp_all [Passable, Stmt.isLeaf]
  | placeholder fault => simp [Passable]

theorem passableAll_iff {m : Machine σ} {body : List Stmt} :
    setting.PassableAll m body ↔ ∀ s ∈ body, setting.Passable m s := by
  induction body with
  | nil => simp [PassableAll]
  | cons s rest ih => simp [PassableAll, ih]

/-- No foreach loop of a statement fails to fetch its entities. -/
def Fetches (m : Machine σ) (s : Stmt) : Prop :=
  ∀ id at? kind name body, .each id at? kind name body ∈ s.walk →
    ∃ entities, setting.members at? kind name m = .ok entities

theorem Fetches.child {setting : Setting σ} {m : Machine σ} {s t : Stmt} (fetches : setting.Fetches m s)
    (child : t ∈ s.children) : setting.Fetches m t :=
  fun id at? kind name body inside => fetches id at? kind name body (Stmt.mem_walk_of_child child inside)

theorem passable_of_fetches (m : Machine σ) (s : Stmt) : setting.Fetches m s → setting.Passable m s := by
  induction s using Stmt.tree_induction with
  | sequence at? body ih =>
    intro fetches
    rw [Passable, passableAll_iff]
    exact fun s member => ih s member (fetches.child member)
  | branch id at? c yes no ihYes ihNo =>
    intro fetches
    rw [Passable]
    exact ⟨ihYes (fetches.child (by simp [Stmt.children])), ihNo (fetches.child (by simp [Stmt.children]))⟩
  | loop id at? c body ih =>
    intro fetches
    rw [Passable]
    exact ih (fetches.child (by simp [Stmt.children]))
  | each id at? kind name body ih =>
    intro fetches
    obtain ⟨entities, fetched⟩ := fetches id at? kind name body (Stmt.mem_walk_self _)
    rw [Passable]
    exact ⟨entities, fetched, fun _ => ih (fetches.child (by simp [Stmt.children]))⟩
  | leaf s isLeaf =>
    intro _
    cases s <;> simp_all [Passable, Stmt.isLeaf]
  | placeholder fault => simp [Passable]

/-- A seeking run walks past the statement: it goes on seeking, and nothing but loop variables has changed. -/
def WalkedPast (s : Stmt) (m : Machine σ) : Prop :=
  setting.execute s m = .ok true (setting.past [s] m) ∧ m.table.SameTypes (setting.past [s] m).table

private theorem walkedPast_all (body : List Stmt) (m : Machine σ)
    (step : ∀ s ∈ body, ∀ m' : Machine σ, m'.run = m.run → m'.host = m.host → setting.Passable m' s →
      setting.WalkedPast s m') (passable : setting.PassableAll m body) :
    setting.executeAll body m = .ok true (setting.past body m) ∧
      m.table.SameTypes (setting.past body m).table := by
  induction body generalizing m with
  | nil => exact ⟨setting.executeAll_nil m, .refl _⟩
  | cons s rest ih =>
    obtain ⟨here, later⟩ := passable
    obtain ⟨walked, types⟩ := step s List.mem_cons_self m rfl rfl here
    have laterStill : setting.PassableAll (setting.past [s] m) rest :=
      setting.passableAll_iff.mpr fun t member =>
        setting.passable_withTable types t (setting.passableAll_iff.mp later t member)
    obtain ⟨walkedRest, typesRest⟩ := ih (setting.past [s] m)
      (fun t member => step t (List.mem_cons_of_mem _ member)) laterStill
    rw [executeAll_cons, walked, andThen_true, past_cons]
    exact ⟨walkedRest, types.trans typesRest⟩

/-- A seeking run that is not at its cursor enters a conditional statement for free and walks through it. -/
theorem execute_of_elsewhere {s : Stmt} {own : NodeId} (here : s.id? = some own) {m m' : Machine σ}
    (seeking : m.run.seeking = true) (paid : m.run.exhausted = false) (elsewhere : m.run.isAt own = false)
    (inside : setting.interior s m = .ok true m') : setting.execute s m = .ok true m' := by
  rw [setting.execute_of_paid here paid, m.entered_elsewhere seeking elsewhere, inside, leaving_true]

/-- Walking past a tree in which the walk does not come to the cursor, wherever the cursor is. The induction is on the
tree: a conditional statement that is not the cursor is walked through, whatever its condition says. -/
theorem walkedPast_of_elsewhere (s : Stmt) :
    ∀ m : Machine σ, m.run.seeking = true → m.run.exhausted = false →
      (∀ id ∈ s.reached (setting.game.world.first? m.host), m.run.isAt id = false) → s.Solid →
      setting.Passable m s → setting.WalkedPast s m := by
  induction s using Stmt.tree_induction with
  | sequence at? body ih =>
    intro m seeking paid elsewhere solid passable
    rw [WalkedPast, execute_sequence]
    refine setting.walkedPast_all body m (fun s member m' run host passable => ?_) passable
    refine ih s member m' (by rw [run, seeking]) (by rw [run, paid]) (fun id inside => ?_) (solid.child member) passable
    rw [run]
    rw [host] at inside
    exact elsewhere id (Stmt.mem_reachedAll.mpr ⟨s, member, inside⟩)
  | branch own at? c yes no ihYes ihNo =>
    intro m seeking paid elsewhere solid passable
    simp only [Stmt.reached, List.forall_mem_cons, List.forall_mem_append] at elsewhere
    obtain ⟨here, inYes, inNo⟩ := elsewhere
    obtain ⟨passYes, passNo⟩ := passable
    obtain ⟨walkedYes, typesYes⟩ := ihYes m seeking paid inYes (solid.child (by simp [Stmt.children])) passYes
    obtain ⟨walkedNo, typesNo⟩ := ihNo (setting.past [yes] m) seeking paid inNo
      (solid.child (by simp [Stmt.children])) (setting.passable_withTable typesYes no passNo)
    have stillSeeking : (setting.past [yes] m).run.seeking = true := seeking
    have through : setting.interior (.branch own at? c yes no) m = .ok true (setting.past [yes, no] m) := by
      rw [interior, if_pos seeking, walkedYes, andThen_true, if_pos stillSeeking, walkedNo]
      rfl
    exact ⟨setting.execute_of_elsewhere rfl seeking paid here through, typesYes.trans typesNo⟩
  | loop own at? c body ih =>
    intro m seeking paid elsewhere solid passable
    simp only [Stmt.reached, List.forall_mem_cons] at elsewhere
    obtain ⟨here, inside⟩ := elsewhere
    obtain ⟨walked, types⟩ := ih m seeking paid inside (solid.child (by simp [Stmt.children])) passable
    have stillSeeking : (setting.past [body] m).run.seeking = true := seeking
    have through : setting.interior (.loop own at? c body) m = .ok true (setting.past [body] m) := by
      rw [interior, if_pos seeking, walked, andThen_true, if_pos stillSeeking]
    exact ⟨setting.execute_of_elsewhere rfl seeking paid here through, types⟩
  | each own at? kind name body ih =>
    intro m seeking paid elsewhere solid passable
    simp only [Stmt.reached, List.forall_mem_cons] at elsewhere
    obtain ⟨here, elsewhere⟩ := elsewhere
    obtain ⟨entities, fetched, inside⟩ := passable
    obtain ⟨⟨v, declared, ty⟩, -⟩ := setting.members_ok fetched
    have first := setting.first?_of_members fetched
    have visits : setting.interior (.each own at? kind name body) m = setting.visits name body entities m := by
      rw [interior, fetched]
    cases entities with
    | nil =>
      rw [WalkedPast, setting.past_each_of_none first]
      exact ⟨setting.execute_of_elsewhere rfl seeking paid here visits, .refl _⟩
    | cons e rest =>
      rw [List.head?_cons] at first
      have binding : m.table.SameTypes (m.bound name e).table := Table.sameTypes_set declared ty.symm
      rw [first, Option.isSome_some, if_pos rfl] at elsewhere
      obtain ⟨walked, types⟩ := ih (m.bound name e) seeking paid elsewhere (solid.child (by simp [Stmt.children]))
        (setting.passable_withTable binding body (inside (by simp)))
      have stillSeeking : (setting.past [body] (m.bound name e)).run.seeking = true := seeking
      rw [visits_cons, paid, if_neg (by simp), if_pos seeking, walked, andThen_true, if_pos stillSeeking] at visits
      rw [WalkedPast, setting.past_each first]
      exact ⟨setting.execute_of_elsewhere rfl seeking paid here visits, binding.trans types⟩
  | leaf s isLeaf =>
    intro m seeking paid _ _ _
    rw [WalkedPast, setting.past_leaf isLeaf, setting.execute_leaf isLeaf, paid, seeking]
    exact ⟨rfl, .refl _⟩
  | placeholder fault =>
    intro m _ _ _ solid _
    cases solid _ (Stmt.mem_walk_self _)

/-- Walking past a tree in which the walk does not come to the cursor. -/
theorem walkedPast_of_missed {id : NodeId} (s : Stmt) (m : Machine σ) (seeks : m.Seeks id)
    (missed : id ∉ s.reached (setting.game.world.first? m.host)) (solid : s.Solid) (passable : setting.Passable m s) :
    setting.WalkedPast s m :=
  setting.walkedPast_of_elsewhere s m seeks.seeking seeks.paid
    (fun _ inside => seeks.isAt_other fun same => missed (same ▸ inside)) solid passable

/-- Walking past a tree that does not hold the cursor. -/
theorem walkedPast {id : NodeId} (s : Stmt) (m : Machine σ) (seeks : m.Seeks id) (absent : id ∉ s.ids) (solid : s.Solid)
    (passable : setting.Passable m s) : setting.WalkedPast s m :=
  setting.walkedPast_of_missed s m seeks (fun inside => absent (s.reached_subset_ids _ inside)) solid passable

/-- Walking past statements in order. -/
theorem executeAll_past {id : NodeId} {body : List Stmt} {m : Machine σ} (seeks : m.Seeks id)
    (apart : ∀ s ∈ body, id ∉ s.ids ∧ s.Solid) (passable : setting.PassableAll m body) :
    setting.executeAll body m = .ok true (setting.past body m) ∧
      m.table.SameTypes (setting.past body m).table :=
  setting.walkedPast_all body m (fun s member m' run _ passable =>
    setting.walkedPast s m' (seeks.of_run run) (apart s member).1 (apart s member).2 passable) passable

end Setting

end WormLang
