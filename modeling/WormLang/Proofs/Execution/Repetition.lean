import WormLang.Proofs.Execution.Order

/-!
Performing once. In a program without while loops a run performs every action at most once, and a suspended program
does not perform it again as long as it goes on behind it. The one thing that brings an action back is a resumption
around it: a conditional statement that a run resumes starts over from its own beginning, with the actions inside it
that were performed before the suspension.
-/
namespace WormLang

open Answer

namespace Stmt

/-- No while loop lies in the tree. -/
def Whileless (s : Stmt) : Prop := ∀ t ∈ s.walk, ∀ id at? c body, t ≠ .loop id at? c body

theorem Whileless.child {s t : Stmt} (whileless : s.Whileless) (child : t ∈ s.children) : t.Whileless :=
  fun u inside => whileless u (mem_walk_of_child child inside)

/-- What has no action has none in it, as loops over entities never have any. -/
theorem hasAction_of_mem_walk {globals : Table Variable} {s t : Stmt} (typed : s.WellTyped globals)
    (quiet : s.hasAction = false) (inside : t ∈ s.walk) : t.hasAction = false := by
  induction s using child_induction with
  | step s ih =>
    rw [walk_eq, List.mem_cons, List.mem_flatMap] at inside
    obtain rfl | ⟨u, child, inside⟩ := inside
    · exact quiet
    · refine ih u child ((wellTyped_iff.mp typed).2 u child) ?_ inside
      cases s with
      | sequence at? body =>
        rw [hasAction, hasActionAny_eq_any, List.any_map, List.any_eq_false] at quiet
        simpa using quiet u child
      | branch id at? c yes no =>
        rw [hasAction, Bool.or_eq_false_iff] at quiet
        simp only [children, List.mem_cons, List.not_mem_nil, or_false] at child
        obtain rfl | rfl := child
        · exact quiet.1
        · exact quiet.2
      | loop id at? c body =>
        rw [List.mem_singleton.mp child]
        exact quiet
      | each id at? kind name body =>
        rw [List.mem_singleton.mp child]
        exact typed _ (mem_walk_self _)
      | _ => cases child

end Stmt

/-- The path to an action goes through no foreach loop. -/
theorem Frame.eachless_of_action {globals : Table Variable} {frames : List Frame} {at? : Option Position} {a : Action}
    (typed : (Frame.plugAll frames (.action at? a)).WellTyped globals) : ∀ f ∈ frames, f.loopVariable? = none := by
  induction frames with
  | nil => simp
  | cons f frames ih =>
    have inner := (Stmt.wellTyped_iff.mp typed).2 _ (Frame.mem_children_plug f (Frame.plugAll frames (.action at? a)))
    intro g member
    obtain rfl | later := List.mem_cons.mp member
    · cases g with
      | each id at? kind name =>
        have quiet : (Frame.plugAll frames (.action _ a)).hasAction = false := typed _ (Stmt.mem_walk_self _)
        have acts := Stmt.hasAction_of_mem_walk inner quiet (Frame.mem_walk_iff_plugAll.mpr ⟨frames, rfl⟩)
        cases acts
      | _ => rfl
    · exact ih inner g later

/-- Without while loops the path to an action goes through no loop at all. -/
theorem Frame.straight_of_action {globals : Table Variable} {frames : List Frame} {at? : Option Position} {a : Action}
    (typed : (Frame.plugAll frames (.action at? a)).WellTyped globals)
    (whileless : (Frame.plugAll frames (.action at? a)).Whileless) : ∀ f ∈ frames, f.Straight := by
  have eachless := Frame.eachless_of_action typed
  clear typed
  induction frames with
  | nil => simp
  | cons f frames ih =>
    have child := Frame.mem_children_plug f (Frame.plugAll frames (.action at? a))
    intro g member
    obtain rfl | later := List.mem_cons.mp member
    · cases g with
      | loop id at? c => exact absurd rfl (whileless _ (Stmt.mem_walk_self _) _ _ _ _)
      | each id at? kind name => cases eachless _ member
      | _ => trivial
    · exact ih (whileless.child child) (fun g member => eachless g (List.mem_cons_of_mem _ member)) g later

namespace Stage

variable {σ : Type}

/-- A run performs the statement at the end of a path on a machine: it comes to it live and with budget, and brings it
to its end. -/
structure Performs (game : Game σ) (s : Stage σ) (frames : List Frame) (t : Stmt) (m : Machine σ) : Prop where
  path : Frame.plugAll frames t = s.program.root
  comes : ∃ start, s.Walks game start ∧ (s.setting game).Reaches t frames start m
  paid : m.run.exhausted = false
  live : m.run.seeking = false
  done : ∃ after, (s.setting game).execute t m = .ok true after

/-- A run starts over: the walk to its cursor has not come to it. -/
def StartsOver (game : Game σ) (s : Stage σ) : Prop :=
  ∃ lost, (s.setting game).execute s.program.root s.started = .ok true lost ∧ lost.run.seeking = true

/-- A run is suspended with a cursor, and the next one starts with that cursor. Whatever else the host changes in
between, it changes neither the cursor nor the statements. -/
structure Follows (game : Game σ) (s s' : Stage σ) : Prop where
  returned : (s.run game).1 = .ok ()
  root : s'.program.root = s.program.root
  cursor : s'.program.state.cursor = (s.run game).2.program.state.cursor
  suspended : s'.program.state.cursor ≠ none

/-- The program has to go on behind the end of a path. -/
def Behind (frames : List Frame) (s : Stage σ) : Prop :=
  ∃ qs c, Frame.plugAll qs c = s.program.root ∧ c.isConditional = true ∧ s.program.state.cursor = some c ∧
    Frame.Precedes frames qs

/-- The program has to go on around the statement at the end of a path. -/
def Around (frames : List Frame) (t : Stmt) (s : Stage σ) : Prop :=
  ∃ c ∈ Frame.enclosing frames t, s.program.state.cursor = some c

variable {game : Game σ} {s s' : Stage σ} {frames : List Frame} {a : Stmt} {m : Machine σ}

/-- A run that is followed by another one stopped, with the cursor that the other one starts with. -/
theorem Follows.answer (follows : s.Follows game s') :
    ∃ m, s.answer game = .ok false m ∧ s'.program.state.cursor = m.run.cursor := by
  obtain ⟨returned, -, cursor, suspended⟩ := follows
  cases ready : s.program.refusal? game.world s.host with
  | some cause =>
    unfold run at returned
    rw [ready] at returned
    cases returned
  | none =>
    rw [run_eq game s ready] at returned cursor
    obtain ⟨m, done⟩ | ⟨m, stopped⟩ | ⟨f, m, failed⟩ := (s.answer game).cases_on
    · rw [done] at cursor
      exact absurd cursor suspended
    · rw [stopped] at cursor
      exact ⟨m, stopped, cursor⟩
    · rw [failed] at returned
      cases returned

/-- Where a suspended run comes to live, it comes in the pass that stops, and the stop is live. -/
theorem Walks.stops {start : Machine σ} (walks : s.Walks game start) (path : Frame.plugAll frames a = s.program.root)
    (reaches : (s.setting game).Reaches a frames start m) (live : m.run.seeking = false) {m' : Machine σ}
    (stopped : s.answer game = .ok false m') :
    ∃ cursor, start.run.Mode cursor ∧ (s.setting game).execute s.program.root start = .ok false m' ∧
      m'.run.finished = true := by
  have ends := reaches.ends_live live
  rw [path] at ends
  cases walks with
  | first ready =>
    obtain stops | ⟨walked, done, again⟩ := andThen_eq_false.mp stopped
    · rw [stops] at ends
      exact ⟨_, s.mode_started, stops, ends⟩
    · rw [done] at ends
      have found : walked.run.seeking = false := by simp [RunState.seeking, show walked.run.finished = true from ends]
      rw [found, if_neg (by simp)] at again
      cases again
  | @again lost ready missed still =>
    obtain stops | ⟨walked, done, again⟩ := andThen_eq_false.mp stopped
    · rw [missed] at stops
      cases stops
    · rw [missed] at done
      cases done
      rw [still, if_pos rfl] at again
      rw [again] at ends
      exact ⟨_, mode_restarted lost, again, ends⟩

/-- An action is performed at most once in a run. A second time would be on another machine, with less budget left. -/
theorem Performs.once {m' : Machine σ} (performs : s.Performs game frames a m) (straight : ∀ f ∈ frames, f.Straight)
    (again : s.Performs game frames a m') : m = m' := by
  have missed : ∀ {m lost : Machine σ}, m.run.seeking = false →
      (s.setting game).Reaches a frames s.started m →
      (s.setting game).execute s.program.root s.started = .ok true lost → ¬ lost.run.seeking = true := by
    intro m lost live reaches done still
    have ends := reaches.ends_live live
    rw [performs.path] at ends
    exact Setting.not_seeking_of_within done still ends
  obtain ⟨start, walks, reaches⟩ := performs.comes
  obtain ⟨start', walks', reaches'⟩ := again.comes
  cases walks with
  | first ready =>
    cases walks' with
    | first ready' => exact reaches.unique straight reaches'
    | again ready' done' still' => exact absurd still' (missed performs.live reaches done')
  | again ready done still =>
    cases walks' with
    | first ready' => exact absurd still (missed again.live reaches' done)
    | again ready' done' still' =>
      rw [done] at done'
      cases done'
      exact reaches.unique straight reaches'

/-- Where the next run goes on after a pass that stops behind an action. -/
theorem behind_or_around {start m' : Machine σ} {cursor : Option Stmt} (path : Frame.plugAll frames a = s.program.root)
    (mode : start.run.Mode cursor) (stops : (s.setting game).execute s.program.root start = .ok false m')
    (live : m'.run.finished = true) (root : s'.program.root = s.program.root)
    (left : s'.program.state.cursor = m'.run.cursor) (suspended : s'.program.state.cursor ≠ none)
    (ahead : ∀ t rs, Frame.plugAll frames a = Frame.plugAll rs t → (s.setting game).StopsFirst t rs start →
      Frame.Precedes frames rs) : s'.Behind frames ∨ s'.Around frames a := by
  obtain ⟨rs, t, stop, first⟩ := (s.setting game).exists_stopsFirst ⟨m', stops⟩
  have same : Frame.plugAll frames a = Frame.plugAll rs t := path.trans stop.symm
  have innermost := first.cursor_eq mode (stop ▸ stops) live
  obtain ⟨c, at'⟩ := Option.ne_none_iff_exists'.mp suspended
  rw [← left, at'] at innermost
  have around := List.mem_of_find?_eq_some innermost.symm
  obtain ⟨qs, inside, precedes⟩ | encloses := (ahead t rs same first).enclosing same around
  · exact .inl ⟨qs, c, (inside.trans path).trans root.symm, List.find?_some innermost.symm, at', precedes⟩
  · exact .inr ⟨c, encloses, at'⟩

/-- After a run that performed an action the next one goes on behind it or around it. -/
theorem Performs.follows (performs : s.Performs game frames a m) (straight : ∀ f ∈ frames, f.Straight)
    (isLeaf : a.isLeaf = true) (follows : s.Follows game s') : s'.Behind frames ∨ s'.Around frames a := by
  obtain ⟨m', stopped, left⟩ := follows.answer
  obtain ⟨start, walks, reaches⟩ := performs.comes
  obtain ⟨cursor, mode, stops, live⟩ := walks.stops performs.path reaches performs.live stopped
  obtain ⟨after, done⟩ := performs.done
  exact behind_or_around performs.path mode stops live follows.root left follows.suspended
    fun t rs same first => reaches.precedes_of_stops straight isLeaf done first same

/-- A run that goes on behind a place starts by looking for the conditional statement there. -/
theorem Behind.looksFor (behind : s.Behind frames) : ∃ qs c id, Frame.plugAll qs c = s.program.root ∧ c.id? = some id ∧
    s.program.state.cursor = some c ∧ Frame.Precedes frames qs ∧ s.started.LooksFor id := by
  obtain ⟨qs, c, path, conditional, cursor, precedes⟩ := behind
  obtain ⟨id, own⟩ := Option.isSome_iff_exists.mp conditional
  refine ⟨qs, c, id, path, own, cursor, precedes, ?_, c, cursor, own⟩
  simp [started, RunState.start, RunState.seeking, cursor]

/-- A run that goes on behind an action does not perform it, unless it starts over. -/
theorem Behind.not_performs (behind : s.Behind frames) (unique : s.program.root.ids.Nodup)
    (straight : ∀ f ∈ frames, f.Straight) (found : ¬ s.StartsOver game) : ¬ s.Performs game frames a m := by
  obtain ⟨qs, c, id, path, own, -, precedes, looks⟩ := behind.looksFor
  rintro ⟨route, ⟨start, walks, reaches⟩, -, live, -⟩
  cases walks with
  | first ready =>
    have looking := reaches.looksFor_of_precedes straight own (route.trans path.symm) (path ▸ unique) precedes looks
    rw [looking.seeking] at live
    cases live
  | @again lost ready missed still => exact found ⟨lost, missed, still⟩

/-- After a run that went on behind an action the next one goes on behind it or around it, unless it starts over. -/
theorem Behind.follows (behind : s.Behind frames) (path : Frame.plugAll frames a = s.program.root)
    (unique : s.program.root.ids.Nodup) (straight : ∀ f ∈ frames, f.Straight) (found : ¬ s.StartsOver game)
    (follows : s.Follows game s') : s'.Behind frames ∨ s'.Around frames a := by
  obtain ⟨m', stopped, left⟩ := follows.answer
  obtain stops | ⟨lost, missed, again⟩ := andThen_eq_false.mp stopped
  · cases live : m'.run.finished with
    | true =>
      obtain ⟨qs, c, id, place, own, -, precedes, looks⟩ := behind.looksFor
      refine behind_or_around path s.mode_started stops live follows.root left follows.suspended
        fun t rs same first => ?_
      have route : Frame.plugAll rs t = s.program.root := same.symm.trans path
      exact first.precedes straight own (path.trans place.symm) (place ▸ unique) precedes same looks (route ▸ stops) live
    | false =>
      -- a walk that stops on its way leaves the cursor where it is
      have kept := ((s.setting game).keeps_mode s.program.state.cursor).execute s.program.root s.started s.mode_started
      rw [stops] at kept
      obtain ⟨qs, c, place, conditional, cursor, precedes⟩ := behind
      exact .inl ⟨qs, c, place.trans follows.root.symm, conditional, (left.trans (kept live).1).trans cursor, precedes⟩
  · split at again
    · next still => exact absurd ⟨lost, missed, still⟩ found
    · cases again

/-- As long as no run starts over or goes on around an action, all runs go on behind it. -/
theorem Behind.isChain {later : List (Stage σ)} (behind : s.Behind frames)
    (path : Frame.plugAll frames a = s.program.root) (unique : s.program.root.ids.Nodup)
    (straight : ∀ f ∈ frames, f.Straight) (chain : (s :: later).IsChain (Follows game))
    (beside : ∀ t ∈ s :: later, ¬ t.StartsOver game ∧ ¬ t.Around frames a) :
    ∀ t ∈ s :: later, t.Behind frames ∧ t.program.root = s.program.root := by
  induction later generalizing s with
  | nil =>
    intro t member
    rw [List.mem_singleton.mp member]
    exact ⟨behind, rfl⟩
  | cons s' later ih =>
    obtain ⟨follows, chain⟩ := List.isChain_cons_cons.mp chain
    have root := follows.root
    intro t member
    obtain rfl | member := List.mem_cons.mp member
    · exact ⟨behind, rfl⟩
    · obtain next | around := behind.follows path unique straight (beside _ List.mem_cons_self).1 follows
      · obtain ⟨there, same⟩ := ih next (path.trans root.symm) (root ▸ unique) chain
          (fun t member => beside t (List.mem_cons_of_mem _ member)) t member
        exact ⟨there, same.trans root⟩
      · exact absurd around (beside s' (by simp)).2

/-- Performing once. In a program without while loops that comes out of its text, a run performs every action at most
once. If a later run of a sequence of suspended runs performs it again, then some run in between, or that one, went on
at a conditional statement around the action, which so started over from its own beginning, or it did not come to its
cursor any more and started over as a whole. -/
theorem performed_once_beside_cursors {source : String} {file : Option String} {handler? : Option HandlerId}
    {budget : Except Fault Int} {p : Program} (parsed : Program.parse source file handler? budget = .ok p)
    (whileless : p.root.Whileless) (game : Game σ) (s : Stage σ) (root : s.program.root = p.root)
    (frames : List Frame) (at? : Option Position) (a : Action) (m : Machine σ)
    (performs : s.Performs game frames (.action at? a) m) :
    (∀ m', s.Performs game frames (.action at? a) m' → m' = m) ∧
    ∀ (later : List (Stage σ)) (s' : Stage σ), (s :: (later ++ [s'])).IsChain (Follows game) →
      ∀ m', s'.Performs game frames (.action at? a) m' →
        ∃ t ∈ later ++ [s'], t.Around frames (.action at? a) ∨ t.StartsOver game := by
  have path : Frame.plugAll frames (.action at? a) = p.root := performs.path.trans root
  have straight : ∀ f ∈ frames, f.Straight :=
    Frame.straight_of_action (path ▸ Program.wellTyped_of_parse parsed) (path ▸ whileless)
  refine ⟨fun m' again => again.once straight performs, fun later s' chain m' again => ?_⟩
  by_contra beside
  simp only [not_exists, not_and, not_or] at beside
  obtain ⟨next, rest, split⟩ : ∃ next rest, later ++ [s'] = next :: rest := List.exists_cons_of_ne_nil (by simp)
  have last : s' ∈ next :: rest := split ▸ List.mem_append_right _ (List.mem_singleton_self s')
  rw [split] at chain beside
  obtain ⟨follows, chain⟩ := List.isChain_cons_cons.mp chain
  have rooted : next.program.root = p.root := follows.root.trans root
  have unique : next.program.root.ids.Nodup := rooted ▸ Program.ids_nodup_of_parse parsed
  obtain behind | around := performs.follows straight rfl follows
  · obtain ⟨there, same⟩ := behind.isChain (path.trans rooted.symm) unique straight chain
      (fun t member => (beside t member).symm) s' last
    exact there.not_performs (same ▸ unique) straight (beside s' last).2 again
  · exact (beside next List.mem_cons_self).1 around

end Stage

/-- The game with one worm, which refuses the second thing that it is asked to do. -/
def moodyGame : Game (List String) :=
  { soloGame with
    handler :=
      { soloGame.handler with perform := fun _ deed record => (.ok (record.length != 1), record ++ [deed.word]) } }

namespace Leap

/-- A program that moves and jumps inside of an if. -/
def source : String := "if true then \x7b move; jump; \x7d"

def both : Stmt :=
  .branch ⟨0⟩ (onFirstLine 1 29) (.boolean (onFirstLine 4 8) true)
    (.sequence (onFirstLine 14 29) [.action (onFirstLine 16 21) .move, .action (onFirstLine 22 27) .jump])
    (.sequence (onFirstLine 1 29) [])

def program : Program where
  root := .sequence (onFirstLine 1 29) [both]
  globals := {}
  maxStatements := 9

set_option maxRecDepth 20000 in
theorem parse_source : Program.parse source none none (.ok 9) = .ok program := by
  cbv

def move : Stmt := .action (onFirstLine 16 21) .move

def path : List Frame :=
  [.sequence (onFirstLine 1 29) [] [],
    .yes ⟨0⟩ (onFirstLine 1 29) (.boolean (onFirstLine 4 8) true) (.sequence (onFirstLine 1 29) []),
    .sequence (onFirstLine 14 29) [] [.action (onFirstLine 22 27) .jump]]

def bound : Stage (List String) where
  program := { program with handler? := some ⟨0⟩, context := { entity? := some ⟨0⟩ } }
  host := []

/-- The program after its first run, which moved and was refused the jump. -/
def refused : Stage (List String) := (bound.run moodyGame).2

theorem whileless : program.root.Whileless := by
  intro t inside id at? c body
  simp only [program, both, Stmt.walk, Stmt.walkAll, List.append_nil, List.cons_append, List.nil_append,
    List.mem_cons, List.not_mem_nil, or_false] at inside
  obtain rfl | rfl | rfl | rfl | rfl | rfl := inside <;> simp

theorem cursor_refused : refused.program.state.cursor = some both := by
  have fresh : bound.CursorInside program.root := ⟨rfl, fun c (absent : none = some c) => nomatch absent⟩
  have inside : refused.CursorInside program.root := fresh.run moodyGame
  obtain ⟨c, cursor⟩ := Option.isSome_iff_exists.mp (by decide +kernel : refused.program.state.cursor.isSome = true)
  obtain ⟨member, conditional⟩ := inside.2 c cursor
  simp only [program, both, Stmt.walk, Stmt.walkAll, List.append_nil, List.cons_append, List.nil_append,
    List.mem_cons, List.not_mem_nil, or_false] at member
  rw [cursor]
  obtain rfl | rfl | rfl | rfl | rfl | rfl := member
  all_goals first | rfl | cases conditional

theorem follows : bound.Follows moodyGame refused where
  returned := ok_of_toOption (by decide +kernel)
  root := rfl
  cursor := rfl
  suspended := by rw [cursor_refused]; simp

/-- The first run moves inside the if. -/
theorem bound_performs : ∃ m, bound.Performs moodyGame path move m :=
  ⟨_, rfl, ⟨_, .first rfl, .inside (.sequence rfl) (.inside (.yesLive rfl rfl rfl) (.inside (.sequence rfl) .here))⟩,
    rfl, rfl, _, rfl⟩

/-- The second run comes to the same place: it has reached the if, where it goes on from the beginning. -/
theorem refused_performs : ∃ m, refused.Performs moodyGame path move m :=
  ⟨_, rfl, ⟨_, .first rfl, .inside (.sequence rfl) (.inside (.yesLive rfl rfl rfl) (.inside (.sequence rfl) .here))⟩,
    rfl, rfl, _, rfl⟩

/-- The second run comes to its cursor. -/
theorem refused_found : ¬ refused.StartsOver moodyGame := by
  rintro ⟨lost, missed, still⟩
  have found : (Exec.machineOf ((refused.setting moodyGame).execute refused.program.root refused.started)).run.seeking
      = false := by decide +kernel
  rw [missed] at found
  rw [show lost.run.seeking = false from found] at still
  cases still

end Leap

/-- The move is performed again in the second run, which goes on around it: at the if that was refused its jump. -/
theorem leap_performed_again :
    Program.parse Leap.source none none (.ok 9) = .ok Leap.program ∧ Leap.program.root.Whileless ∧
      ∃ m m', Leap.bound.Performs moodyGame Leap.path Leap.move m ∧
        (∀ other, Leap.bound.Performs moodyGame Leap.path Leap.move other → other = m) ∧
        Leap.refused.Performs moodyGame Leap.path Leap.move m' ∧ Leap.bound.Follows moodyGame Leap.refused ∧
        Leap.refused.Around Leap.path Leap.move := by
  obtain ⟨m, first⟩ := Leap.bound_performs
  obtain ⟨m', second⟩ := Leap.refused_performs
  obtain ⟨once, again⟩ := Stage.performed_once_beside_cursors Leap.parse_source Leap.whileless moodyGame Leap.bound rfl
    Leap.path _ _ m first
  obtain ⟨t, member, around | anew⟩ := again [] Leap.refused (by simpa using Leap.follows) m' second
  · rw [List.mem_singleton.mp member] at around
    exact ⟨Leap.parse_source, Leap.whileless, m, m', first, once, second, Leap.follows, around⟩
  · rw [List.mem_singleton.mp member] at anew
    exact absurd anew Leap.refused_found

/-- A suspension makes a program perform an action twice: the jump was refused, and the next run, which completes the
program, moves again before it jumps. -/
theorem suspension_repeats_actions :
    ¬ ∀ (source : String) (file : Option String) (handler? : Option HandlerId) (budget : Except Fault Int)
      (p : Program), Program.parse source file handler? budget = .ok p → p.root.Whileless →
      ∀ (game : Game (List String)) (s : Stage (List String)) (entity : Option EntityId) (given? : Option HandlerId),
      p.bind entity given? = .ok s.program →
      ∀ (later : List (Stage (List String))) (last : Stage (List String)),
      (s :: (later ++ [last])).IsChain (Stage.Follows game) → (last.run game).1 = .ok () →
      (last.run game).2.program.isFinished = true →
      ∀ (frames : List Frame) (at? : Option Position) (a : Action) (m m' : Machine (List String)),
      s.Performs game frames (.action at? a) m → ¬ last.Performs game frames (.action at? a) m' := by
  intro never
  obtain ⟨m, first⟩ := Leap.bound_performs
  obtain ⟨m', second⟩ := Leap.refused_performs
  exact never _ _ _ _ _ Leap.parse_source Leap.whileless moodyGame Leap.bound (some ⟨0⟩) (some ⟨0⟩) rfl []
    Leap.refused (by simpa using Leap.follows) (ok_of_toOption (by decide +kernel)) (by decide +kernel) Leap.path _ _
    m m' first second

end WormLang
