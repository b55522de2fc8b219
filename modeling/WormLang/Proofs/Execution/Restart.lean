import WormLang.Proofs.Execution.Logging
import WormLang.Proofs.Execution.Recording

/-!
Starting over. A run does not come to its cursor exactly if a loop over entities around the cursor has lost its
entities: nothing else on the way can hide a statement from a walk that tries both branches of an if and enters every
while loop. Such a run starts over, and then it is a fresh run: the walk has spent nothing and has left nothing behind
but the variables that it bound.
-/
namespace WormLang

open Answer

namespace Frame

/-- A loop over entities that has none. -/
def Closed {σ : Type} (world : World σ) (host : σ) (f : Frame) : Prop :=
  ∃ id at? kind name, f = .each id at? kind name ∧ world.members host kind = .ok []

/-- The conditional statements inside the hole of a frame are nowhere else in it. -/
theorem alone_of_nodup {f : Frame} {s : Stmt} {id : NodeId} (unique : (f.plug s).ids.Nodup) (inside : id ∈ s.ids) :
    f.id? ≠ some id ∧ ∀ t ∈ f.before ++ f.after, id ∉ t.ids := by
  obtain ⟨notHere, notBefore⟩ := apart_of_nodup unique inside
  refine ⟨notHere, fun t member => ?_⟩
  obtain before | after := List.mem_append.mp member
  · exact notBefore t before
  · intro inT
    rw [ids_plug] at unique
    have split := (List.nodup_append.mp (List.nodup_append.mp (List.nodup_append.mp unique).2.1).2.1).2.2
    exact split id inside id (List.mem_flatMap.mpr ⟨t, after, inT⟩) rfl

/-- A seeking run that comes to a statement of a frame comes to it beside the hole, or inside if there is a way in. -/
theorem mem_reached_plug {σ : Type} {world : World σ} {host : σ} {f : Frame} {s : Stmt} {id : NodeId}
    (inside : id ∈ (f.plug s).reached (world.first? host)) :
    f.id? = some id ∨ (∃ t ∈ f.before ++ f.after, id ∈ t.ids) ∨
      ¬ f.Closed world host ∧ id ∈ s.reached (world.first? host) := by
  have subset := fun t : Stmt => t.reached_subset_ids (world.first? host)
  cases f with
  | sequence at? before after =>
    rw [plug, Stmt.reached, Stmt.mem_reachedAll] at inside
    obtain ⟨t, member, reached⟩ := inside
    obtain before | member := List.mem_append.mp member
    · exact .inr (.inl ⟨t, List.mem_append_left _ before, subset t reached⟩)
    · obtain rfl | after := List.mem_cons.mp member
      · exact .inr (.inr ⟨by simp [Closed], reached⟩)
      · exact .inr (.inl ⟨t, List.mem_append_right _ after, subset t reached⟩)
  | yes own at? c other =>
    rw [plug, Stmt.reached, List.mem_cons, List.mem_append] at inside
    obtain rfl | reached | reached := inside
    · exact .inl rfl
    · exact .inr (.inr ⟨by simp [Closed], reached⟩)
    · exact .inr (.inl ⟨other, List.mem_singleton_self other, subset other reached⟩)
  | no own at? c other =>
    rw [plug, Stmt.reached, List.mem_cons, List.mem_append] at inside
    obtain rfl | reached | reached := inside
    · exact .inl rfl
    · exact .inr (.inl ⟨other, List.mem_singleton_self other, subset other reached⟩)
    · exact .inr (.inr ⟨by simp [Closed], reached⟩)
  | loop own at? c =>
    rw [plug, Stmt.reached, List.mem_cons] at inside
    obtain rfl | reached := inside
    · exact .inl rfl
    · exact .inr (.inr ⟨by simp [Closed], reached⟩)
  | each own at? kind name =>
    rw [plug, Stmt.reached, List.mem_cons] at inside
    obtain rfl | reached := inside
    · exact .inl rfl
    · split at reached
      · next entered =>
        refine .inr (.inr ⟨?_, reached⟩)
        rintro ⟨_, _, _, _, same, empty⟩
        cases same
        simp [World.first?, empty] at entered
      · cases reached

/-- A seeking run does not come to what lies inside a loop without entities. -/
theorem not_mem_reached_plugAll {σ : Type} {world : World σ} {host : σ} {frames : List Frame} {c : Stmt} {id : NodeId}
    (unique : (plugAll frames c).ids.Nodup) (inside : id ∈ c.ids) {f : Frame} (member : f ∈ frames)
    (closed : f.Closed world host) : id ∉ (plugAll frames c).reached (world.first? host) := by
  induction frames with
  | nil => cases member
  | cons g frames ih =>
    intro reached
    obtain ⟨notHere, notBeside⟩ := alone_of_nodup unique (ids_subset_plugAll frames inside)
    obtain here | ⟨t, beside, inT⟩ | ⟨isOpen, within⟩ := mem_reached_plug reached
    · exact notHere here
    · exact notBeside t beside inT
    · obtain rfl | member := List.mem_cons.mp member
      · exact isOpen closed
      · exact ih ((ids_sublist_plug g _).nodup unique) member within

end Frame

namespace Setting

variable {σ : Type} {setting : Setting σ}

/-- A seeking run gets through the frames of a path if no loop fails to fetch its entities and none of those around the
end of the path has lost them. -/
theorem admits_of_fetches {frames : List Frame} {c : Stmt} {m : Machine σ}
    (fetches : setting.Fetches m (Frame.plugAll frames c))
    (ways : ∀ f ∈ frames, ¬ f.Closed setting.game.world m.host) : ∀ f ∈ frames, setting.Admits m f := by
  induction frames with
  | nil => simp
  | cons g frames ih =>
    intro f member
    obtain rfl | later := List.mem_cons.mp member
    · refine ⟨setting.passableAll_iff.mpr fun t before => setting.passable_of_fetches m t (fetches.child ?_), ?_⟩
      · rw [Frame.plugAll, Frame.children_plug]
        exact List.mem_append_left _ before
      · cases f with
        | each id at? kind name =>
          obtain ⟨entities, fetched⟩ := fetches id at? kind name _ (Stmt.mem_walk_self _)
          cases entities with
          | nil =>
            have empty := (setting.members_ok fetched).2
            exact absurd ⟨id, at?, kind, name, rfl, empty⟩ (ways _ member)
          | cons e rest => exact ⟨e, rest, fetched⟩
        | _ => trivial
    · exact ih (fetches.child (Frame.mem_children_plug g _)) (fun f member => ways f (List.mem_cons_of_mem _ member))
        f later

end Setting

namespace Stage

variable {σ : Type}

/-- A program that can run and has to go on at a conditional statement, in a world and with variables where no loop of
it fails to fetch its entities. -/
structure LeftAt (game : Game σ) (frames : List Frame) (c : Stmt) (s : Stage σ) : Prop where
  ready : s.program.refusal? game.world s.host = none
  paid : 1 ≤ s.program.maxStatements
  path : Frame.plugAll frames c = s.program.root
  conditional : c.isConditional = true
  cursor : s.program.state.cursor = some c
  fetches : (s.setting game).Fetches s.started s.program.root

/-- The same stage with other variables and without a cursor. -/
def afresh (s : Stage σ) (table : Table Variable) : Stage σ :=
  { s with program := { s.program with globals := table, state := { s.program.state with cursor := none } } }

/-- What the walk to the cursor of a run leaves behind. -/
def walked (game : Game σ) (s : Stage σ) : Machine σ :=
  Exec.machineOf ((s.setting game).execute s.program.root s.started)

namespace LeftAt

variable {game : Game σ} {frames : List Frame} {c : Stmt} {s : Stage σ}

/-- If no loop around the cursor has lost its entities, the walk can reach the cursor. -/
theorem stoppedAt (left : s.LeftAt game frames c) (ways : ∀ f ∈ frames, ¬ f.Closed game.world s.host) :
    s.StoppedAt game frames c := by
  have fetches : (s.setting game).Fetches s.started (Frame.plugAll frames c) := left.path ▸ left.fetches
  exact ⟨left.ready, left.paid, left.path, left.conditional, left.cursor, Setting.admits_of_fetches fetches ways⟩

/-- If a loop around the cursor has lost its entities, the walk passes the whole program. -/
theorem walkedPast (left : s.LeftAt game frames c) (unique : s.program.root.ids.Nodup) (solid : s.program.root.Solid)
    {f : Frame} (member : f ∈ frames) (closed : f.Closed game.world s.host) :
    (s.setting game).execute s.program.root s.started =
      .ok true ((s.setting game).past [s.program.root] s.started) := by
  obtain ⟨id, own⟩ := Option.isSome_iff_exists.mp left.conditional
  have missed : id ∉ s.program.root.reached (game.world.first? s.host) := by
    rw [← left.path] at unique ⊢
    exact Frame.not_mem_reached_plugAll unique (Stmt.mem_ids_self own) member closed
  exact ((s.setting game).walkedPast_of_missed s.program.root s.started
    (seeks_of_cursor left.cursor left.paid own) missed solid ((s.setting game).passable_of_fetches _ _ left.fetches)).1

/-- With a record of the handler's calls nothing of this changes. -/
theorem recorded (left : s.LeftAt game frames c) : s.recorded.LeftAt game.recording frames c :=
  ⟨left.ready, left.paid, left.path, left.conditional, left.cursor, left.fetches⟩

end LeftAt

/-- A run that does not come to its cursor is a fresh run from then on. -/
theorem observe_afresh {game : Game σ} {s : Stage σ} (ready : s.program.refusal? game.world s.host = none)
    {table : Table Variable} (missed : (s.setting game).execute s.program.root s.started =
      .ok true { s.started with table }) (seeking : s.started.run.seeking = true) :
    observe (s.run game) = observe ((s.afresh table).run game) := by
  have again : s.answer game =
      (s.setting game).execute s.program.root ({ s.started with table } : Machine σ).restarted := by
    rw [answer, missed, andThen_true]
    exact if_pos seeking
  have fresh : (s.afresh table).answer game = (s.setting game).execute s.program.root (s.afresh table).started :=
    (andThen_of_live ((s.setting game).execute_live ⟨rfl, rfl⟩ s.program.root) _ _).trans (andThen_done _)
  rw [observe_run game s ready, observe_run game (s.afresh table) ready, again, fresh]
  exact (s.setting game).observe_execute s.program.root (s.afresh table).started _

/-- Starting over. For every program that comes out of its text and has a cursor, in a world and with variables where
no loop fails to fetch its entities, the walk of a run does not come to the cursor exactly if a loop over entities
around the cursor has none. In that case the run ends as a fresh run of the program does, without a cursor, with the
whole budget, on the variables as the walk left them: in the same way, with the same calls of the handler, host state,
variables, budget left and cursor. -/
theorem starts_over_iff {source : String} {file : Option String} {handler? : Option HandlerId}
    {budget : Except Fault Int} {p : Program} (parsed : Program.parse source file handler? budget = .ok p)
    (game : Game σ) (s : Stage σ) (root : s.program.root = p.root) (frames : List Frame) (c : Stmt)
    (left : s.LeftAt game frames c) :
    ((s.walked game).run.seeking = true ↔ ∃ f ∈ frames, f.Closed game.world s.host) ∧
    ((s.walked game).run.seeking = true →
      observe (s.run game) = observe ((s.afresh (s.walked game).table).run game) ∧
      s.calls game = (s.afresh (s.walked game).table).calls game) := by
  have unique : s.program.root.ids.Nodup := root ▸ Program.ids_nodup_of_parse parsed
  have solid : s.program.root.Solid := root ▸ (Program.wellTyped_of_parse parsed).solid
  have searching : s.started.run.seeking = true := by
    obtain ⟨id, own⟩ := Option.isSome_iff_exists.mp left.conditional
    exact (seeks_of_cursor left.cursor left.paid own).seeking
  by_cases lost : ∃ f ∈ frames, f.Closed game.world s.host
  · obtain ⟨f, member, closed⟩ := lost
    have missed := left.walkedPast unique solid member closed
    have walked : s.walked game = (s.setting game).past [s.program.root] s.started := by rw [walked, missed]; rfl
    rw [walked]
    refine ⟨iff_of_true searching ⟨f, member, closed⟩, fun _ => ⟨observe_afresh left.ready missed searching, ?_⟩⟩
    have missedRecorded := left.recorded.walkedPast unique solid member closed
    exact congrArg (fun o => o.host.2) (observe_afresh (s := s.recorded) left.ready missedRecorded searching)
  · have ways : ∀ f ∈ frames, ¬ f.Closed game.world s.host := fun f member closed => lost ⟨f, member, closed⟩
    have reached := (left.stoppedAt ways).execute_root unique solid
    have live := @Setting.continuation_live σ (s.setting game) (s.setting game).past (fun _ _ => rfl) frames c
      s.resumed ⟨rfl, rfl⟩
    have finished : (s.walked game).run.finished = true := by
      rw [walked, reached]
      exact Exec.of_within (live.mono (fun _ live => live.1) (fun _ live => live) fun _ live => live.1)
    have found : ¬ (s.walked game).run.seeking = true := by simp [RunState.seeking, finished]
    exact ⟨iff_of_false found lost, fun seeking => absurd seeking found⟩

end Stage

/-- The game with one worm, which has run out of food. -/
def hungryGame : Game (List String) :=
  { soloGame with
    world :=
      { soloGame.world with
        members := fun _ kind =>
          match kind with
          | .food => .ok []
          | _ => .ok [⟨0⟩] } }

namespace Larder

/-- A program that moves and then watches each piece of food. -/
def source : String := "entity f; move; foreach (food, f) do \x7b while true \x7b print f; \x7d \x7d"

def watch : Stmt :=
  .loop ⟨0⟩ (onFirstLine 40 63) (.boolean (onFirstLine 46 50) true)
    (.sequence (onFirstLine 51 63) [.print (onFirstLine 53 61) (.access (onFirstLine 59 60) "f" .entity)])

def path : List Frame :=
  [.sequence (onFirstLine 1 65) [.action (onFirstLine 11 16) .move] [],
    .each ⟨1⟩ (onFirstLine 17 65) .food "f",
    .sequence (onFirstLine 38 65) [] []]

def program : Program where
  root := Frame.plugAll path watch
  globals := { entries := [("f", .ofTy .entity)] }
  maxStatements := 9

/-- The program after a run that stopped while it was watching. -/
def stage : Stage (List String) where
  program :=
    { program with
      context := { entity? := some ⟨0⟩ }
      state := { budget := 0, finished := false, cursor := some watch } }
  host := []

set_option maxRecDepth 20000 in
theorem parse_source : Program.parse source none none (.ok 9) = .ok program := by
  cbv

theorem stage_leftAt : stage.LeftAt hungryGame path watch := by
  refine ⟨rfl, by decide, rfl, rfl, rfl, ?_⟩
  intro id at? kind name body inside
  simp only [stage, program, path, watch, Frame.plugAll, Frame.plug, List.cons_append, List.nil_append, Stmt.walk,
    Stmt.walkAll, List.append_nil, List.mem_cons, List.not_mem_nil, or_false, reduceCtorEq, false_or,
    Stmt.each.injEq] at inside
  obtain ⟨rfl, rfl, rfl, rfl, rfl⟩ := inside
  exact ⟨[], rfl⟩

end Larder

/-- The food is gone: the program that was watching it moves once more, which only a fresh run does. -/
theorem larder_starts_over :
    Program.parse Larder.source none none (.ok 9) = .ok Larder.program ∧
      Larder.stage.LeftAt hungryGame Larder.path Larder.watch ∧
      (Larder.stage.walked hungryGame).run.seeking = true ∧
      Stage.observe (Larder.stage.run hungryGame) =
        Stage.observe ((Larder.stage.afresh (Larder.stage.walked hungryGame).table).run hungryGame) ∧
      Larder.stage.calls hungryGame = (Larder.stage.afresh (Larder.stage.walked hungryGame).table).calls hungryGame ∧
      (Stage.observe (Larder.stage.run hungryGame)).host = ["move"] := by
  obtain ⟨unreachable, fresh⟩ := Stage.starts_over_iff Larder.parse_source hungryGame Larder.stage rfl Larder.path
    Larder.watch Larder.stage_leftAt
  have lost : (Larder.stage.walked hungryGame).run.seeking = true :=
    unreachable.mpr ⟨_, List.mem_cons_of_mem _ List.mem_cons_self, _, _, _, _, rfl, rfl⟩
  obtain ⟨observed, called⟩ := fresh lost
  exact ⟨Larder.parse_source, Larder.stage_leftAt, lost, observed, called, by decide +kernel⟩

end WormLang
