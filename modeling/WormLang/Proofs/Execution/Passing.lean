import WormLang.Proofs.Execution.Run
import WormLang.Proofs.Execution.Seek

/-!
What walking past a tree leaves behind. A seeking run that does not find its cursor in a tree comes out of it as it went
in, but for the variables of foreach loops: every loop that the walk comes to has bound its variable to the first entity
of its collection, if there is one. Neither the handler nor any expression has a say in this.
-/
namespace WormLang

/-- A seeking run comes to what is in the hole of a frame: a foreach loop is walked through only if it has an entity. -/
def Frame.Enters (first? : LoopKind → Option EntityId) : Frame → Prop
  | each _ _ kind _ => (first? kind).isSome = true
  | _ => True

namespace Stmt

variable (first? : LoopKind → Option EntityId)

mutual

/-- The statements that a seeking run comes to, in the order of the walk. -/
def visited : Stmt → List Stmt
  | sequence at? body => sequence at? body :: visitedAll body
  | branch id at? c yes no => branch id at? c yes no :: (yes.visited ++ no.visited)
  | loop id at? c body => loop id at? c body :: body.visited
  | each id at? kind name body => each id at? kind name body :: if (first? kind).isSome then body.visited else []
  | s => [s]

/-- The statements that a seeking run comes to inside statements in order. -/
def visitedAll : List Stmt → List Stmt
  | [] => []
  | s :: rest => s.visited ++ visitedAll rest

end

theorem visitedAll_eq_flatMap (body : List Stmt) : visitedAll first? body = body.flatMap (visited first?) := by
  induction body with
  | nil => rfl
  | cons s rest ih => rw [visitedAll, ih, List.flatMap_cons]

/-- The statements directly inside a statement that a seeking run comes to. -/
def entered : Stmt → List Stmt
  | each _ _ kind _ body => if (first? kind).isSome then [body] else []
  | s => s.children

theorem visited_eq (s : Stmt) : s.visited first? = s :: (s.entered first?).flatMap (visited first?) := by
  cases s with
  | each id at? kind name body =>
    rw [visited, entered]
    split <;> simp
  | _ => simp [visited, visitedAll_eq_flatMap, entered, children]

theorem entered_sublist_children (s : Stmt) : (s.entered first?).Sublist s.children := by
  cases s with
  | each id at? kind name body =>
    rw [entered, children]
    split
    · exact .refl _
    · exact List.nil_sublist _
  | _ => exact .refl _

/-- The order of the statements is that of the walk through all of them. -/
theorem visited_sublist_walk (s : Stmt) : (s.visited first?).Sublist s.walk := by
  induction s using child_induction with
  | step s ih =>
    have fewer := s.entered_sublist_children first?
    rw [visited_eq, walk_eq]
    exact .cons_cons _ ((List.Sublist.flatMap_right _ fun t member => ih t (fewer.subset member)).trans
      (fewer.flatMap walk))

theorem mem_entered_plug {f : Frame} {s : Stmt} : s ∈ (f.plug s).entered first? ↔ f.Enters first? := by
  cases f with
  | each id at? kind name => simp [Frame.plug, entered, Frame.Enters]
  | _ => simp [Frame.plug, entered, children, Frame.Enters]

/-- A seeking run comes to a statement exactly if every foreach loop around it has an entity. -/
theorem mem_visited_iff {s t : Stmt} :
    t ∈ s.visited first? ↔ ∃ frames, Frame.plugAll frames t = s ∧ ∀ f ∈ frames, f.Enters first? := by
  constructor
  · intro inside
    induction s using child_induction with
    | step s ih =>
      rw [visited_eq, List.mem_cons, List.mem_flatMap] at inside
      obtain rfl | ⟨c, entered, inside⟩ := inside
      · exact ⟨[], rfl, by simp⟩
      · have child := (s.entered_sublist_children first?).subset entered
        obtain ⟨frames, rfl, open'⟩ := ih c child inside
        obtain ⟨f, rfl⟩ := Frame.exists_plug_of_mem_children child
        exact ⟨f :: frames, rfl, List.forall_mem_cons.mpr ⟨(mem_entered_plug first?).mp entered, open'⟩⟩
  · rintro ⟨frames, rfl, enters⟩
    induction frames with
    | nil =>
      rw [Frame.plugAll, visited_eq]
      exact List.mem_cons_self
    | cons f frames ih =>
      rw [List.forall_mem_cons] at enters
      rw [Frame.plugAll, visited_eq]
      exact List.mem_cons_of_mem _
        (List.mem_flatMap.mpr ⟨_, (mem_entered_plug first?).mpr enters.1, ih enters.2⟩)

/-- The variable that a foreach loop binds on the way past it, and the entity. -/
def seat? : Stmt → Option (String × EntityId)
  | each _ _ kind name _ => (first? kind).map fun e => (name, e)
  | _ => none

/-- What the foreach loops bind that a seeking run comes to, in the order of the walk. -/
def seats (s : Stmt) : List (String × EntityId) := (s.visited first?).filterMap (seat? first?)

end Stmt

/-- Bind a variable to an entity. -/
def Table.seat (t : Table Variable) (b : String × EntityId) : Table Variable :=
  t.set b.1 { ty := .entity, value := .entity (.being b.2) }

namespace Stmt

variable (first? : LoopKind → Option EntityId)

theorem seats_eq (s : Stmt) :
    s.seats first? = (s.seat? first?).toList ++ (s.entered first?).flatMap (seats first?) := by
  unfold seats
  rw [visited_eq, List.filterMap_cons, List.filterMap_flatMap]
  cases s.seat? first? <;> rfl

/-- What walking past a statement changes is what the foreach loops bind that are on the way. -/
theorem passed_eq_foldl (s : Stmt) (t : Table Variable) : s.passed first? t = (s.seats first?).foldl Table.seat t := by
  induction s using tree_induction generalizing t with
  | sequence at? body ih =>
    rw [seats_eq, passed]
    show passedAll first? body t = (body.flatMap (seats first?)).foldl Table.seat t
    induction body generalizing t with
    | nil => rfl
    | cons s rest ihRest =>
      rw [passedAll, List.flatMap_cons, List.foldl_append, ih s List.mem_cons_self,
        ihRest fun u member => ih u (List.mem_cons_of_mem _ member)]
  | branch id at? c yes no ihYes ihNo =>
    rw [seats_eq, passed, ihYes, ihNo, ← List.foldl_append]
    simp [seat?, entered, children]
  | loop id at? c body ih =>
    rw [seats_eq, passed, ih]
    simp [seat?, entered, children]
  | each id at? kind name body ih =>
    rw [seats_eq, passed]
    cases first : first? kind with
    | none => simp [seat?, entered, first]
    | some e => simp [seat?, entered, first, ih, Table.seat]
  | leaf s isLeaf =>
    cases s with
    | assignment at? name e => rfl
    | print at? e => rfl
    | action at? a => rfl
    | _ => cases isLeaf
  | placeholder fault => rfl

end Stmt

/-! ### Other expressions -/

namespace Stmt

variable (f : Expr → Expr)

mutual

/-- The statement with other expressions in the place of its own. -/
def withExprs : Stmt → Stmt
  | sequence at? body => sequence at? (withExprsAll body)
  | assignment at? name e => assignment at? name (f e)
  | print at? e => print at? (f e)
  | action at? (.turn e) => action at? (.turn (f e))
  | action at? (.fire e) => action at? (.fire (f e))
  | action at? a => action at? a
  | branch id at? c yes no => branch id at? (f c) (yes.withExprs) (no.withExprs)
  | loop id at? c body => loop id at? (f c) (body.withExprs)
  | each id at? kind name body => each id at? kind name (body.withExprs)
  | placeholder fault => placeholder fault

def withExprsAll : List Stmt → List Stmt
  | [] => []
  | s :: rest => s.withExprs :: withExprsAll rest

end

theorem withExprsAll_eq_map (body : List Stmt) : withExprsAll f body = body.map (withExprs f) := by
  induction body with
  | nil => rfl
  | cons s rest ih => rw [withExprsAll, ih, List.map_cons]

theorem children_withExprs (s : Stmt) : (s.withExprs f).children = s.children.map (withExprs f) := by
  cases s with
  | sequence at? body => rw [withExprs, withExprsAll_eq_map]; rfl
  | action at? a => cases a <;> rfl
  | _ => rfl

theorem id?_withExprs (s : Stmt) : (s.withExprs f).id? = s.id? := by
  cases s with
  | action at? a => cases a <;> rfl
  | _ => rfl

theorem isPlaceholder_withExprs (s : Stmt) : (s.withExprs f).isPlaceholder = s.isPlaceholder := by
  cases s with
  | action at? a => cases a <;> rfl
  | _ => rfl

theorem seat?_withExprs (first? : LoopKind → Option EntityId) (s : Stmt) :
    (s.withExprs f).seat? first? = s.seat? first? := by
  cases s with
  | action at? a => cases a <;> rfl
  | _ => rfl

theorem entered_withExprs (first? : LoopKind → Option EntityId) (s : Stmt) :
    (s.withExprs f).entered first? = (s.entered first?).map (withExprs f) := by
  cases s with
  | sequence at? body => exact children_withExprs f (sequence at? body)
  | each id at? kind name body =>
    simp only [withExprs, entered]
    split <;> rfl
  | action at? a => cases a <;> rfl
  | _ => rfl

theorem walk_withExprs (s : Stmt) : (s.withExprs f).walk = s.walk.map (withExprs f) := by
  induction s using child_induction with
  | step s ih =>
    rw [walk_eq, walk_eq s, List.map_cons, children_withExprs, List.flatMap_map, List.map_flatMap]
    exact congrArg _ (List.flatMap_congr ih)

theorem visited_withExprs (first? : LoopKind → Option EntityId) (s : Stmt) :
    (s.withExprs f).visited first? = (s.visited first?).map (withExprs f) := by
  induction s using child_induction with
  | step s ih =>
    rw [visited_eq, visited_eq first? s, List.map_cons, entered_withExprs, List.flatMap_map, List.map_flatMap]
    exact congrArg _ (List.flatMap_congr fun t member => ih t ((s.entered_sublist_children first?).subset member))

theorem ids_withExprs (s : Stmt) : (s.withExprs f).ids = s.ids := by
  rw [ids, walk_withExprs, List.filterMap_map]
  exact congrArg (List.filterMap · s.walk) (funext (id?_withExprs f))

theorem seats_withExprs (first? : LoopKind → Option EntityId) (s : Stmt) :
    (s.withExprs f).seats first? = s.seats first? := by
  rw [seats, visited_withExprs, List.filterMap_map]
  exact congrArg (List.filterMap · (s.visited first?)) (funext (seat?_withExprs f first?))

theorem solid_withExprs {s : Stmt} (solid : s.Solid) : (s.withExprs f).Solid := by
  intro t inside
  rw [walk_withExprs, List.mem_map] at inside
  obtain ⟨u, inside, rfl⟩ := inside
  rw [isPlaceholder_withExprs, solid u inside]

end Stmt

namespace Setting

variable {σ : Type} (setting : Setting σ)

/-- No foreach loop raises that a seeking run comes to inside a statement. -/
def FetchesVisited (m : Machine σ) (s : Stmt) : Prop :=
  ∀ id at? kind name body, .each id at? kind name body ∈ s.visited (setting.game.world.first? m.host) →
    ∃ entities, setting.members at? kind name m = .ok entities

theorem passable_of_fetchesVisited (m : Machine σ) (s : Stmt) : setting.FetchesVisited m s → setting.Passable m s := by
  have inner : ∀ {s t : Stmt}, setting.FetchesVisited m s → t ∈ s.entered (setting.game.world.first? m.host) →
      setting.FetchesVisited m t := by
    intro s t fetches entered id at? kind name body inside
    refine fetches id at? kind name body ?_
    rw [Stmt.visited_eq]
    exact List.mem_cons_of_mem _ (List.mem_flatMap.mpr ⟨t, entered, inside⟩)
  induction s using Stmt.tree_induction with
  | sequence at? body ih =>
    intro fetches
    rw [Passable, passableAll_iff]
    exact fun s member => ih s member (inner fetches member)
  | branch id at? c yes no ihYes ihNo =>
    intro fetches
    rw [Passable]
    exact ⟨ihYes (inner fetches (by simp [Stmt.entered, Stmt.children])),
      ihNo (inner fetches (by simp [Stmt.entered, Stmt.children]))⟩
  | loop id at? c body ih =>
    intro fetches
    rw [Passable]
    exact ih (inner fetches (by simp [Stmt.entered, Stmt.children]))
  | each id at? kind name body ih =>
    intro fetches
    obtain ⟨entities, fetched⟩ := fetches id at? kind name body (by rw [Stmt.visited_eq]; exact List.mem_cons_self)
    rw [Passable]
    refine ⟨entities, fetched, fun some => ih (inner fetches ?_)⟩
    have collection := (setting.members_ok fetched).2
    cases entities with
    | nil => exact absurd rfl some
    | cons e rest => simp [Stmt.entered, World.first?, collection]
  | leaf s isLeaf =>
    intro _
    cases s <;> simp_all [Passable, Stmt.isLeaf]
  | placeholder fault => simp [Passable]

theorem fetchesVisited_withExprs {m : Machine σ} {s : Stmt} (fetches : setting.FetchesVisited m s) (f : Expr → Expr) :
    setting.FetchesVisited m (s.withExprs f) := by
  intro id at? kind name body inside
  rw [Stmt.visited_withExprs, List.mem_map] at inside
  obtain ⟨t, inside, same⟩ := inside
  cases t with
  | each id' at' kind' name' body' =>
    cases same
    exact fetches _ _ _ _ _ inside
  | action at' a => cases a <;> cases same
  | _ => cases same

theorem execute_past {s : Stmt} (solid : s.Solid) {m : Machine σ} (seeking : m.run.seeking = true)
    (paid : 1 ≤ m.run.budget) (elsewhere : ∀ id ∈ s.ids, m.run.isAt id = false)
    (fetches : setting.FetchesVisited m s) :
    setting.execute s m =
      .ok true { m with table := (s.seats (setting.game.world.first? m.host)).foldl Table.seat m.table } := by
  have walked := setting.walkedPast_of_elsewhere s m seeking (decide_eq_false (by omega))
    (fun id inside => elsewhere id (s.reached_subset_ids _ inside)) solid
    (setting.passable_of_fetchesVisited m s fetches)
  rw [walked.1, ← Stmt.passed_eq_foldl]
  rfl

/-- Walking past is harmless. A seeking run with budget whose cursor is not in a tree comes to the end of the tree. It
goes on seeking, with the same cursor and budget, and nothing has changed but the variables of foreach loops: every loop
that is not inside one without entities has bound its variable to its first entity, if it has one, in the order of the
walk. With other expressions in the tree, or with another handler, nothing comes out differently. -/
theorem execute_walks_past {s : Stmt} (solid : s.Solid) {m : Machine σ} (seeking : m.run.seeking = true)
    (paid : 1 ≤ m.run.budget) (elsewhere : ∀ id ∈ s.ids, m.run.isAt id = false)
    (fetches : setting.FetchesVisited m s) :
    setting.execute s m =
      .ok true { m with table := (s.seats (setting.game.world.first? m.host)).foldl Table.seat m.table } ∧
    ((s.visited (setting.game.world.first? m.host)).Sublist s.walk ∧
      ∀ t, t ∈ s.visited (setting.game.world.first? m.host) ↔
        ∃ frames, Frame.plugAll frames t = s ∧ ∀ f ∈ frames, f.Enters (setting.game.world.first? m.host)) ∧
    (∀ f, setting.execute (s.withExprs f) m = setting.execute s m) ∧
    ∀ handler : Handler σ,
      { setting with game := { setting.game with handler } }.execute s m = setting.execute s m := by
  have past := setting.execute_past solid seeking paid elsewhere fetches
  refine ⟨past, ⟨s.visited_sublist_walk _, fun t => Stmt.mem_visited_iff _⟩, fun f => ?_, fun handler => ?_⟩
  · rw [past, setting.execute_past (Stmt.solid_withExprs f solid) seeking paid (by rwa [Stmt.ids_withExprs])
      (setting.fetchesVisited_withExprs fetches f), Stmt.seats_withExprs]
  · rw [past]
    exact execute_past _ solid seeking paid elsewhere fetches

end Setting

namespace Parade

/-- Two worms and no food. -/
def game : Game (List String) :=
  { soloGame with
    world :=
      { soloGame.world with
        members := fun _ kind =>
          match kind with
          | .worm => .ok [⟨0⟩, ⟨1⟩]
          | .food => .ok []
          | .any => .ok [⟨1⟩, ⟨0⟩] } }

def setting : Setting (List String) := { game, context := { entity? := some ⟨0⟩ } }

def tree : Stmt :=
  .each ⟨3⟩ none .worm "w" (.sequence none
    [.each ⟨0⟩ none .food "f" (.sequence none []),
      .branch ⟨2⟩ none (.boolean none true) (.each ⟨1⟩ none .any "w" (.print none (.null none))) (.sequence none [])])

/-- A run that looks for a loop somewhere else. -/
def machine : Machine (List String) where
  table := { entries := [("w", .ofTy .entity), ("f", .ofTy .entity)] }
  run := { budget := 1, finished := false, cursor := some (.loop ⟨4⟩ none (.boolean none true) (.sequence none [])) }
  host := []
  log := #[]

theorem solid : tree.Solid := by
  simp [tree, Stmt.Solid, Stmt.walk, Stmt.walkAll, Stmt.isPlaceholder]

theorem fetches : setting.FetchesVisited machine tree := by
  intro id at? kind name body inside
  have inside := (tree.visited_sublist_walk _).subset inside
  simp only [tree, Stmt.walk, Stmt.walkAll, List.nil_append, List.append_nil, List.cons_append, List.mem_cons,
    List.not_mem_nil, or_false, reduceCtorEq, false_or, Stmt.each.injEq] at inside
  obtain ⟨-, rfl, rfl, rfl, -⟩ | ⟨-, rfl, rfl, rfl, -⟩ | ⟨-, rfl, rfl, rfl, -⟩ := inside <;> exact ⟨_, rfl⟩

end Parade

/-- The inner loop has the last word on the variable that it shares with the outer one. -/
theorem parade_walked_past :
    Parade.setting.execute Parade.tree Parade.machine =
      .ok true { Parade.machine with
        table := { entries := [("w", { ty := .entity, value := .entity (.being ⟨1⟩) }), ("f", .ofTy .entity)] } } :=
  (Parade.setting.execute_walks_past Parade.solid rfl (by decide) (by decide) Parade.fetches).1

end WormLang
