import WormLang.Stmt

/-!
Statements as trees. A frame is a statement with a hole in the place of one of the statements directly inside
it; a statement lies somewhere in a tree iff plugging it into a list of frames, outermost first, gives the tree.
The conditional statements of a tree are told apart by their identities.
-/
namespace WormLang

namespace Stmt

/-- Whether a statement can be the place where a suspended run goes on. -/
def isConditional (s : Stmt) : Bool := s.id?.isSome

/-- Whether a statement takes effect by itself, without statements inside. -/
def isLeaf : Stmt → Bool
  | assignment .. | print .. | action .. => true
  | _ => false

/-- Whether a statement is a placeholder for one that could not be built. -/
def isPlaceholder : Stmt → Bool
  | placeholder _ => true
  | _ => false

def condition? : Stmt → Option Expr
  | branch _ _ c _ _ | loop _ _ c _ => some c
  | _ => none

def expressions : Stmt → List Expr
  | assignment _ _ e | print _ e | action _ (.turn e) | action _ (.fire e) | branch _ _ e _ _ | loop _ _ e _ => [e]
  | _ => []

/-- The variable that a loop over entities binds. -/
def loopVariable? : Stmt → Option String
  | each _ _ _ name _ => some name
  | _ => none

/-- The identities of the conditional statements of a tree, depth first. -/
def ids (s : Stmt) : List NodeId := s.walk.filterMap id?

/-- No placeholder lies in the tree. -/
def Solid (s : Stmt) : Prop := ∀ t ∈ s.walk, t.isPlaceholder = false

theorem walkAll_eq_flatMap (body : List Stmt) : walkAll body = body.flatMap walk := by
  induction body with
  | nil => rfl
  | cons s rest ih => rw [walkAll, ih, List.flatMap_cons]

theorem hasActionAny_eq_any (body : List Stmt) : hasActionAny body = (body.map hasAction).any id := by
  induction body with
  | nil => rfl
  | cons s rest ih => rw [hasActionAny, ih, List.map_cons, List.any_cons, id]

/-- Induction over the tree of a statement, with the leaves in one case. -/
theorem tree_induction {motive : Stmt → Prop}
    (sequence : ∀ at? body, (∀ s ∈ body, motive s) → motive (.sequence at? body))
    (branch : ∀ id at? c yes no, motive yes → motive no → motive (.branch id at? c yes no))
    (loop : ∀ id at? c body, motive body → motive (.loop id at? c body))
    (each : ∀ id at? kind name body, motive body → motive (.each id at? kind name body))
    (leaf : ∀ s, s.isLeaf = true → motive s)
    (placeholder : ∀ fault, motive (.placeholder fault)) (s : Stmt) : motive s :=
  match s with
  | .sequence at? body =>
    sequence at? body fun s _ => tree_induction sequence branch loop each leaf placeholder s
  | .branch id at? c yes no =>
    branch id at? c yes no (tree_induction sequence branch loop each leaf placeholder yes)
      (tree_induction sequence branch loop each leaf placeholder no)
  | .loop id at? c body => loop id at? c body (tree_induction sequence branch loop each leaf placeholder body)
  | .each id at? kind name body =>
    each id at? kind name body (tree_induction sequence branch loop each leaf placeholder body)
  | .assignment _ _ _ => leaf _ rfl
  | .print _ _ => leaf _ rfl
  | .action _ _ => leaf _ rfl
  | .placeholder fault => placeholder fault

/-- The walk starts at the statement and goes on inside it. -/
theorem walk_eq (s : Stmt) : s.walk = s :: s.children.flatMap walk := by
  cases s <;> simp [walk, children, walkAll_eq_flatMap]

/-- What holds of a statement and of everything inside it. -/
theorem forall_walk_iff {motive : Stmt → Prop} {s : Stmt} :
    (∀ t ∈ s.walk, motive t) ↔ motive s ∧ ∀ t ∈ s.children, ∀ u ∈ t.walk, motive u := by
  rw [walk_eq s]
  simp only [List.mem_cons, List.mem_flatMap, forall_eq_or_imp, forall_exists_index, and_imp]
  constructor
  · rintro ⟨here, inside⟩
    exact ⟨here, fun t child u member => inside u t child member⟩
  · rintro ⟨here, inside⟩
    exact ⟨here, fun u t child member => inside t child u member⟩

/-- Induction over the tree of a statement by the statements directly inside. -/
theorem child_induction {motive : Stmt → Prop} (step : ∀ s, (∀ t ∈ s.children, motive t) → motive s)
    (s : Stmt) : motive s := by
  induction s using tree_induction with
  | sequence at? body ih => exact step _ ih
  | branch id at? c yes no ihYes ihNo => exact step _ (by simp [children, ihYes, ihNo])
  | loop id at? c body ih => exact step _ (by simp [children, ih])
  | each id at? kind name body ih => exact step _ (by simp [children, ih])
  | leaf s isLeaf => exact step _ (by cases s <;> simp_all [children, Stmt.isLeaf])
  | placeholder fault => exact step _ (by simp [children])

/-- Induction over the tree of a statement, with the conditional statements in one case and the leaves in another. -/
theorem conditional_induction {motive : Stmt → Prop}
    (sequence : ∀ at? body, (∀ s ∈ body, motive s) → motive (.sequence at? body))
    (conditional : ∀ s id, s.id? = some id → (∀ t ∈ s.children, motive t) → motive s)
    (leaf : ∀ s, s.isLeaf = true → motive s)
    (placeholder : ∀ fault, motive (.placeholder fault)) (s : Stmt) : motive s := by
  induction s using child_induction with
  | step s ih =>
    cases s with
    | sequence at? body => exact sequence at? body ih
    | branch id | loop id | each id => exact conditional _ id rfl ih
    | assignment | print | action => exact leaf _ rfl
    | placeholder fault => exact placeholder fault

theorem mem_walk_self (s : Stmt) : s ∈ s.walk := by
  rw [walk_eq]
  exact List.mem_cons_self

theorem mem_walk_of_child {s t u : Stmt} (child : t ∈ s.children) (inside : u ∈ t.walk) : u ∈ s.walk := by
  rw [walk_eq]
  exact List.mem_cons_of_mem _ (List.mem_flatMap.mpr ⟨t, child, inside⟩)

theorem mem_walk_trans {s t u : Stmt} (inside : t ∈ s.walk) (among : u ∈ t.walk) : u ∈ s.walk := by
  induction s using child_induction with
  | step s ih =>
    rw [walk_eq, List.mem_cons, List.mem_flatMap] at inside
    obtain rfl | ⟨child, directly, inside⟩ := inside
    · exact among
    · exact mem_walk_of_child directly (ih child directly inside)

theorem ids_eq (s : Stmt) : s.ids = s.id?.toList ++ s.children.flatMap ids := by
  unfold ids
  rw [walk_eq, List.filterMap_cons, List.filterMap_flatMap]
  cases s.id? <;> rfl

theorem mem_ids_of_child {s t : Stmt} {id : NodeId} (child : t ∈ s.children) (inside : id ∈ t.ids) :
    id ∈ s.ids := by
  rw [ids_eq]
  exact List.mem_append_right _ (List.mem_flatMap.mpr ⟨t, child, inside⟩)

theorem mem_ids_self {s : Stmt} {id : NodeId} (own : s.id? = some id) : id ∈ s.ids := by
  rw [ids_eq, own]
  exact List.mem_append_left _ (List.mem_singleton.mpr rfl)

theorem children_of_isLeaf {s : Stmt} (isLeaf : s.isLeaf = true) : s.children = [] := by
  cases s with
  | assignment at? name e => rfl
  | print at? e => rfl
  | action at? a => rfl
  | _ => cases isLeaf

theorem ids_of_isLeaf {s : Stmt} (isLeaf : s.isLeaf = true) : s.ids = [] := by
  cases s with
  | assignment at? name e => rfl
  | print at? e => rfl
  | action at? a => rfl
  | _ => cases isLeaf

theorem Solid.child {s t : Stmt} (solid : s.Solid) (child : t ∈ s.children) : t.Solid :=
  fun u inside => solid u (mem_walk_of_child child inside)

end Stmt

/-- A statement with a hole for one of the statements directly inside it. -/
inductive Frame where
  | sequence (at? : Option Position) (before after : List Stmt)
  | yes (id : NodeId) (at? : Option Position) (condition : Expr) (no : Stmt)
  | no (id : NodeId) (at? : Option Position) (condition : Expr) (yes : Stmt)
  | loop (id : NodeId) (at? : Option Position) (condition : Expr)
  | each (id : NodeId) (at? : Option Position) (kind : LoopKind) (name : String)

namespace Frame

def plug : Frame → Stmt → Stmt
  | sequence at? before after, s => .sequence at? (before ++ s :: after)
  | yes id at? c other, s => .branch id at? c s other
  | no id at? c other, s => .branch id at? c other s
  | loop id at? c, s => .loop id at? c s
  | each id at? kind name, s => .each id at? kind name s

/-- Fill the hole of the last frame, then the hole of the one before it, and so on: the path from the root of a
tree to one of its statements, as frames. -/
def plugAll : List Frame → Stmt → Stmt
  | [], s => s
  | f :: frames, s => f.plug (plugAll frames s)

theorem mem_children_plug (f : Frame) (s : Stmt) : s ∈ (f.plug s).children := by
  cases f <;> simp [plug, Stmt.children]

theorem exists_plug_of_mem_children {s t : Stmt} (child : s ∈ t.children) : ∃ f : Frame, f.plug s = t := by
  cases t with
  | sequence at? body =>
    obtain ⟨before, after, rfl⟩ := List.append_of_mem child
    exact ⟨.sequence at? before after, rfl⟩
  | branch id at? c yes no =>
    simp only [Stmt.children, List.mem_cons, List.not_mem_nil, or_false] at child
    obtain rfl | rfl := child
    · exact ⟨.yes id at? c no, rfl⟩
    · exact ⟨.no id at? c yes, rfl⟩
  | loop id at? c body =>
    simp only [Stmt.children, List.mem_cons, List.not_mem_nil, or_false] at child
    exact ⟨.loop id at? c, by rw [child]; rfl⟩
  | each id at? kind name body =>
    simp only [Stmt.children, List.mem_cons, List.not_mem_nil, or_false] at child
    exact ⟨.each id at? kind name, by rw [child]; rfl⟩
  | assignment at? name e => simp [Stmt.children] at child
  | print at? e => simp [Stmt.children] at child
  | action at? a => simp [Stmt.children] at child
  | placeholder fault => simp [Stmt.children] at child

/-- The statements of a tree are those that plug into frames to give the tree. -/
theorem mem_walk_iff_plugAll {s root : Stmt} : s ∈ root.walk ↔ ∃ frames, plugAll frames s = root := by
  constructor
  · intro inside
    induction root using Stmt.child_induction with
    | step root ih =>
      rw [Stmt.walk_eq, List.mem_cons, List.mem_flatMap] at inside
      obtain rfl | ⟨t, child, inside⟩ := inside
      · exact ⟨[], rfl⟩
      · obtain ⟨frames, rfl⟩ := ih t child inside
        obtain ⟨f, rfl⟩ := exists_plug_of_mem_children child
        exact ⟨f :: frames, rfl⟩
  · rintro ⟨frames, rfl⟩
    induction frames with
    | nil => exact s.mem_walk_self
    | cons f frames ih => exact Stmt.mem_walk_of_child (f.mem_children_plug _) ih

/-- A statement at the end of a path with the statements around it, innermost first. -/
def enclosing : List Frame → Stmt → List Stmt
  | [], s => [s]
  | f :: frames, s => enclosing frames s ++ [f.plug (plugAll frames s)]

theorem mem_walk_of_enclosing {frames : List Frame} {s t : Stmt} (member : t ∈ enclosing frames s) :
    t ∈ (plugAll frames s).walk := by
  induction frames with
  | nil =>
    rw [List.mem_singleton.mp member]
    exact s.mem_walk_self
  | cons f frames ih =>
    obtain inner | here := List.mem_append.mp member
    · exact Stmt.mem_walk_of_child (f.mem_children_plug _) (ih inner)
    · rw [List.mem_singleton.mp here]
      exact Stmt.mem_walk_self _

def id? : Frame → Option NodeId
  | yes id .. | no id .. | loop id .. | each id .. => some id
  | sequence .. => none

def before : Frame → List Stmt
  | sequence _ before _ => before
  | no _ _ _ other => [other]
  | _ => []

def after : Frame → List Stmt
  | sequence _ _ after => after
  | yes _ _ _ other => [other]
  | _ => []

theorem children_plug (f : Frame) (s : Stmt) : (f.plug s).children = f.before ++ s :: f.after := by
  cases f <;> rfl

theorem id?_plug (f : Frame) (s : Stmt) : (f.plug s).id? = f.id? := by
  cases f <;> rfl

theorem ids_plug (f : Frame) (s : Stmt) :
    (f.plug s).ids = f.id?.toList ++ (f.before.flatMap Stmt.ids ++ (s.ids ++ f.after.flatMap Stmt.ids)) := by
  rw [Stmt.ids_eq, id?_plug, children_plug, List.flatMap_append, List.flatMap_cons]

theorem ids_sublist_plug (f : Frame) (s : Stmt) : s.ids.Sublist (f.plug s).ids := by
  rw [ids_plug]
  exact (List.sublist_append_left _ _).trans
    ((List.sublist_append_right _ _).trans (List.sublist_append_right _ _))

theorem ids_subset_plugAll (frames : List Frame) {s : Stmt} {id : NodeId} (inside : id ∈ s.ids) :
    id ∈ (plugAll frames s).ids := by
  induction frames with
  | nil => exact inside
  | cons f frames ih => exact (ids_sublist_plug f _).subset ih

/-- A frame that the conditional statement with the given identity is not part of, except in the hole. -/
def Apart (id : NodeId) (f : Frame) : Prop := f.id? ≠ some id ∧ ∀ s ∈ f.before, id ∉ s.ids

theorem apart_of_nodup {f : Frame} {s : Stmt} {id : NodeId} (unique : (f.plug s).ids.Nodup)
    (inside : id ∈ s.ids) : f.Apart id := by
  rw [ids_plug] at unique
  constructor
  · intro own
    rw [own] at unique
    exact (List.nodup_cons.mp unique).1 (by simp [inside])
  · intro t member inT
    have split := (List.nodup_append.mp (List.nodup_append.mp unique).2.1).2.2
    exact split id (List.mem_flatMap.mpr ⟨t, member, inT⟩) id (List.mem_append_left _ inside) rfl

/-- In a tree whose identities are unique, the frames around a conditional statement do without it. -/
theorem apart_of_plugAll {frames : List Frame} {s : Stmt} {id : NodeId}
    (unique : (plugAll frames s).ids.Nodup) (inside : id ∈ s.ids) : ∀ f ∈ frames, f.Apart id := by
  induction frames with
  | nil => simp
  | cons f frames ih =>
    have uniqueInside := (ids_sublist_plug f (plugAll frames s)).nodup unique
    intro g member
    obtain rfl | member := List.mem_cons.mp member
    · exact apart_of_nodup unique (ids_subset_plugAll frames inside)
    · exact ih uniqueInside g member

/-- In a tree without placeholders, none lies beside the path to a statement. -/
theorem solid_of_plugAll {frames : List Frame} {s : Stmt} (solid : (plugAll frames s).Solid) :
    ∀ f ∈ frames, ∀ t ∈ f.before, t.Solid := by
  induction frames with
  | nil => simp
  | cons f frames ih =>
    intro g member
    obtain rfl | member := List.mem_cons.mp member
    · intro t before
      refine Stmt.Solid.child solid ?_
      rw [plugAll, children_plug]
      exact List.mem_append_left _ before
    · exact ih (Stmt.Solid.child solid (mem_children_plug f _)) g member

end Frame

end WormLang
