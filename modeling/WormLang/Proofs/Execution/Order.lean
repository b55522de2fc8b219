import WormLang.Proofs.Execution.Arrival

/-!
The order in which one pass through a tree comes to its statements. Where two paths part at a statement, the one that
goes on to an earlier statement inside it comes first. In parts of a tree without loops a pass never goes back: when it
stops, everything that it performed lies before the place where it stopped. And a pass that seeks its cursor passes
everything that lies before the cursor, without performing it.
-/
namespace WormLang

open Answer

namespace Frame

/-- A frame that is no loop: its hole is executed at most once in a pass. -/
def Straight : Frame → Prop
  | sequence .. | yes .. | no .. => True
  | loop .. | each .. => False

/-- The end of one path lies before the end of another: where they part, it goes on to an earlier statement. -/
inductive Precedes : List Frame → List Frame → Prop
  | here {f g : Frame} {ps qs : List Frame} (earlier : f.before.length < g.before.length) :
    Precedes (f :: ps) (g :: qs)
  | inside {f : Frame} {ps qs : List Frame} (later : Precedes ps qs) : Precedes (f :: ps) (f :: qs)

/-- What lies before the end of a path lies before every end that the path goes through on its way, or inside it. -/
theorem Precedes.of_append {ps qs rest : List Frame} (precedes : Precedes ps (qs ++ rest)) :
    Precedes ps qs ∨ qs <+: ps := by
  induction qs generalizing ps with
  | nil => exact .inr List.nil_prefix
  | cons g qs ih =>
    cases precedes with
    | here earlier => exact .inl (.here earlier)
    | inside later =>
      obtain before | inside := ih later
      · exact .inl (.inside before)
      · exact .inr (List.cons_prefix_cons.mpr ⟨rfl, inside⟩)

section

variable {f g : Frame} {x y : Stmt}

theorem id?_eq_of_plug (same : f.plug x = g.plug y) : f.id? = g.id? := by
  rw [← id?_plug f x, same, id?_plug]

/-- A frame is told by its statement and by the place of its hole among the statements inside. -/
theorem eq_of_plug (same : f.plug x = g.plug y) (place : f.before.length = g.before.length) : f = g ∧ x = y := by
  cases f with
  | sequence at? before after =>
    cases g with
    | sequence at' before' after' =>
      rw [plug, plug, Stmt.sequence.injEq] at same
      obtain ⟨rfl, body⟩ := same
      obtain ⟨rfl, behind⟩ := List.append_inj body place
      cases behind
      exact ⟨rfl, rfl⟩
    | _ => cases same
  | yes id at? c other =>
    cases g with
    | yes => cases same; exact ⟨rfl, rfl⟩
    | no => simp [before] at place
    | _ => cases same
  | no id at? c other =>
    cases g with
    | no => cases same; exact ⟨rfl, rfl⟩
    | yes => simp [before] at place
    | _ => cases same
  | loop id at? c =>
    cases g with
    | loop => cases same; exact ⟨rfl, rfl⟩
    | _ => cases same
  | each id at? kind name =>
    cases g with
    | each => cases same; exact ⟨rfl, rfl⟩
    | _ => cases same

/-- Two holes of a statement at the same place hold the same. -/
theorem plug_injective (same : f.plug x = f.plug y) : x = y := (eq_of_plug same rfl).2

/-- An earlier hole of a statement lies before a later one, with all that is before it. -/
theorem prefix_of_plug (same : f.plug x = g.plug y) (earlier : f.before.length < g.before.length) :
    f.before ++ [x] <+: g.before := by
  have children : f.before ++ x :: f.after = g.before ++ y :: g.after := by
    rw [← children_plug, ← children_plug, same]
  have first : f.before ++ [x] <+: f.before ++ x :: f.after := ⟨f.after, by simp⟩
  have second : g.before <+: f.before ++ x :: f.after := children ▸ List.prefix_append _ _
  exact List.prefix_of_prefix_length_le first second (by simpa using earlier)

end

theorem plugAll_injective {frames : List Frame} {x y : Stmt} (same : plugAll frames x = plugAll frames y) : x = y := by
  induction frames with
  | nil => exact same
  | cons f frames ih => exact ih (plug_injective same)

/-- The statements around the end of a path, and the one at the end, are what the path goes through. -/
theorem mem_enclosing_iff {frames : List Frame} {s t : Stmt} :
    t ∈ enclosing frames s ↔ ∃ outer inner, frames = outer ++ inner ∧ plugAll inner s = t := by
  induction frames with
  | nil =>
    rw [enclosing, List.mem_singleton]
    constructor
    · rintro rfl
      exact ⟨[], [], rfl, rfl⟩
    · rintro ⟨outer, inner, nothing, rfl⟩
      obtain ⟨rfl, rfl⟩ := List.append_eq_nil_iff.mp nothing.symm
      rfl
  | cons f frames ih =>
    rw [enclosing, List.mem_append, List.mem_singleton, ih]
    constructor
    · rintro (⟨outer, inner, rfl, rfl⟩ | rfl)
      · exact ⟨f :: outer, inner, rfl, rfl⟩
      · exact ⟨[], f :: frames, rfl, rfl⟩
    · rintro ⟨outer, inner, split, rfl⟩
      cases outer with
      | nil =>
        rw [List.nil_append] at split
        rw [← split]
        exact .inr rfl
      | cons g outer =>
        rw [List.cons_append, List.cons.injEq] at split
        obtain ⟨rfl, rfl⟩ := split
        exact .inl ⟨outer, inner, rfl, rfl⟩

/-- What is around a later statement either lies behind an earlier one as well or is around that one, too. -/
theorem Precedes.enclosing {ps rs : List Frame} {a t c : Stmt} (precedes : Precedes ps rs)
    (same : plugAll ps a = plugAll rs t) (around : c ∈ enclosing rs t) :
    (∃ qs, plugAll qs c = plugAll ps a ∧ Precedes ps qs) ∨ c ∈ enclosing ps a := by
  obtain ⟨outer, inner, rfl, rfl⟩ := mem_enclosing_iff.mp around
  rw [plugAll_append] at same
  obtain before | ⟨more, rfl⟩ := precedes.of_append
  · exact .inl ⟨outer, same.symm, before⟩
  · rw [plugAll_append] at same
    exact .inr (mem_enclosing_iff.mpr ⟨outer, more, rfl, plugAll_injective same⟩)

theorem apart_of_absent {f : Frame} {s : Stmt} {id : NodeId} (absent : id ∉ (f.plug s).ids) :
    f.Apart id ∧ id ∉ s.ids := by
  rw [ids_plug] at absent
  simp only [List.mem_append, not_or] at absent
  obtain ⟨notHere, notBefore, notInside, -⟩ := absent
  refine ⟨⟨fun own => notHere (by simp [own]), fun t before inT => ?_⟩, notInside⟩
  exact notBefore (List.mem_flatMap.mpr ⟨t, before, inT⟩)

/-- What is not before a later hole is neither before an earlier one nor in it. -/
theorem apart_of_earlier {f g : Frame} {x y : Stmt} {id : NodeId} (apart : g.Apart id) (same : f.plug x = g.plug y)
    (earlier : f.before.length < g.before.length) : f.Apart id ∧ id ∉ x.ids := by
  obtain ⟨notHere, notBefore⟩ := apart
  have before := prefix_of_plug same earlier
  refine ⟨⟨id?_eq_of_plug same ▸ notHere, fun s member => notBefore s ?_⟩, notBefore x ?_⟩
  · exact before.subset (List.mem_append_left _ member)
  · exact before.subset (by simp)

end Frame

/-- Whatever becomes of it, execution ends live. -/
def Answer.EndsLive {σ : Type} (a : Answer σ) : Prop :=
  a.Within (·.run.finished = true) (·.run.finished = true) (·.run.finished = true)

/-- A run is looking for the conditional statement with the given identity, with budget or without. -/
structure Machine.LooksFor {σ : Type} (id : NodeId) (m : Machine σ) : Prop where
  seeking : m.run.seeking = true
  cursor : ∃ node, m.run.cursor = some node ∧ node.id? = some id

namespace Machine.LooksFor

variable {σ : Type} {id : NodeId} {m : Machine σ}

theorem entered_other (looks : m.LooksFor id) {other : NodeId} (apart : other ≠ id) : m.entered other = m := by
  obtain ⟨node, cursor, own⟩ := looks.cursor
  have away : m.run.isAt other = false := by simp [RunState.isAt, cursor, own, Ne.symm apart]
  simp [entered, looks.seeking, away]

/-- A run that has a cursor keeps it when it stops. -/
theorem suspendAt (looks : m.LooksFor id) (node : Stmt) : (m.onRun (·.suspendAt node)).LooksFor id := by
  obtain ⟨seeking, c, cursor, own⟩ := looks
  have same : m.onRun (·.suspendAt node) = m := by simp [onRun, RunState.suspendAt, cursor]
  rw [same]
  exact ⟨seeking, c, cursor, own⟩

theorem bound (looks : m.LooksFor id) (name : String) (e : EntityId) : (m.bound name e).LooksFor id :=
  ⟨looks.seeking, looks.cursor⟩

end Machine.LooksFor

namespace Setting

variable {σ : Type} (setting : Setting σ) {id : NodeId}

/-- Whatever becomes of it, execution goes on looking for the conditional statement. -/
def KeepsLooking (id : NodeId) (a : Answer σ) : Prop :=
  a.Within (·.LooksFor id) (·.LooksFor id) (·.LooksFor id)

theorem keepsLooking_executeAll {body : List Stmt}
    (inside : ∀ s ∈ body, ∀ m : Machine σ, m.LooksFor id → KeepsLooking id (setting.execute s m)) (m : Machine σ)
    (looks : m.LooksFor id) : KeepsLooking id (setting.executeAll body m) := by
  induction body generalizing m with
  | nil =>
    rw [executeAll_nil]
    exact looks
  | cons s rest ih =>
    rw [executeAll_cons]
    exact (inside s List.mem_cons_self m looks).andThen
      (ih fun t member => inside t (List.mem_cons_of_mem _ member))

theorem keepsLooking_visits (name : String) {body : Stmt}
    (inside : ∀ m : Machine σ, m.LooksFor id → KeepsLooking id (setting.execute body m)) (entities : List EntityId)
    (m : Machine σ) (looks : m.LooksFor id) : KeepsLooking id (setting.visits name body entities m) := by
  cases entities with
  | nil => exact looks
  | cons e rest =>
    rw [visits_cons]
    split
    · exact looks
    · rw [if_pos looks.seeking]
      refine (inside _ (looks.bound name e)).andThen fun m' looks' => ?_
      rw [if_pos looks'.seeking]
      exact looks'

theorem keepsLooking_interior {s : Stmt}
    (inside : ∀ t ∈ s.children, ∀ m : Machine σ, m.LooksFor id → KeepsLooking id (setting.execute t m)) (m : Machine σ)
    (looks : m.LooksFor id) : KeepsLooking id (setting.interior s m) := by
  cases s with
  | branch other at? c yes no =>
    rw [interior, if_pos looks.seeking]
    refine (inside yes (by simp [Stmt.children]) m looks).andThen fun m' looks' => ?_
    rw [if_pos looks'.seeking]
    exact inside no (by simp [Stmt.children]) m' looks'
  | loop other at? c body =>
    rw [interior, if_pos looks.seeking]
    refine (inside body (by simp [Stmt.children]) m looks).andThen fun m' looks' => ?_
    rw [if_pos looks'.seeking]
    exact looks'
  | each other at? kind name body =>
    rw [interior]
    split
    · exact setting.keepsLooking_visits name (inside body (by simp [Stmt.children])) _ m looks
    · exact looks
  | sequence | assignment | print | action | placeholder => exact looks

/-- A run that looks for a conditional statement does not find it where it is not. The induction is on the tree. -/
theorem keepsLooking_execute (s : Stmt) :
    id ∉ s.ids → ∀ m : Machine σ, m.LooksFor id → KeepsLooking id (setting.execute s m) := by
  induction s using Stmt.conditional_induction with
  | sequence at? body ih =>
    intro absent m looks
    rw [execute_sequence]
    exact setting.keepsLooking_executeAll
      (fun s member => ih s member fun inS => absent (Stmt.mem_ids_of_child member inS)) m looks
  | conditional s other own ih =>
    intro absent m looks
    have apart : other ≠ id := fun same => absent (Stmt.mem_ids_self (own.trans (congrArg some same)))
    have inside := setting.keepsLooking_interior fun t child =>
      ih t child fun inT => absent (Stmt.mem_ids_of_child child inT)
    rw [setting.execute_conditional own, looks.entered_other apart]
    split
    · exact looks.suspendAt s
    · exact (inside m looks).leaving fun m' looks' => looks'.suspendAt s
  | leaf s isLeaf =>
    intro _ m looks
    rw [setting.execute_leaf isLeaf, if_pos looks.seeking]
    split <;> exact looks
  | placeholder fault =>
    intro _ m looks
    rw [execute_placeholder]
    exact looks

variable {setting} {hole : Stmt} {f : Frame} {m at' : Machine σ}

/-- A run that looks for a conditional statement goes on looking when it executes the hole of a frame that holds it
nowhere but in the hole. -/
theorem Calls.looksFor (straight : f.Straight) (apart : f.Apart id) (calls : setting.Calls hole m f at')
    (looks : m.LooksFor id) : at'.LooksFor id := by
  obtain ⟨notHere, notBefore⟩ := apart
  have free : ∀ {other : NodeId}, f.id? = some other → m.entered other = m := fun own =>
    looks.entered_other fun same => notHere (own.trans (congrArg some same))
  cases calls with
  | @sequence _ before _ _ done =>
    have kept : KeepsLooking id (setting.executeAll before m) := setting.keepsLooking_executeAll
      (fun s member => setting.keepsLooking_execute s (notBefore s member)) m looks
    rw [done] at kept
    exact kept
  | yesSeeking paid seeking =>
    rw [free rfl]
    exact looks
  | @noSeeking _ _ _ yes _ paid seeking done still =>
    rw [free rfl] at done
    have kept := setting.keepsLooking_execute yes (notBefore yes (List.mem_singleton_self yes)) m looks
    rw [done] at kept
    exact kept
  | yesLive paid live | noLive paid live =>
    rw [free rfl, looks.seeking] at live
    cases live
  | loopSeeking | loopResumed | loopLive | each => cases straight

/-- In a tree without the conditional statement a run that looks for it goes on looking, wherever it comes to. -/
theorem Reaches.looksFor {t : Stmt} {frames : List Frame} (straight : ∀ f ∈ frames, f.Straight)
    (reaches : setting.Reaches t frames m at') (absent : id ∉ (Frame.plugAll frames t).ids) (looks : m.LooksFor id) :
    at'.LooksFor id := by
  induction reaches with
  | here => exact looks
  | @inside f frames m m' at' calls rest ih =>
    obtain ⟨apart, inside⟩ := Frame.apart_of_absent absent
    exact ih (fun g member => straight g (List.mem_cons_of_mem _ member)) inside
      (calls.looksFor (straight f List.mem_cons_self) apart looks)

/-- A run that looks for a conditional statement comes to nothing that lies before it other than looking. -/
theorem Reaches.looksFor_of_precedes {t c : Stmt} {ps qs : List Frame} (straight : ∀ f ∈ ps, f.Straight)
    (own : c.id? = some id) (same : Frame.plugAll ps t = Frame.plugAll qs c) (unique : (Frame.plugAll qs c).ids.Nodup)
    (precedes : Frame.Precedes ps qs) (reaches : setting.Reaches t ps m at') (looks : m.LooksFor id) :
    at'.LooksFor id := by
  induction precedes generalizing m with
  | @here f g ps qs earlier =>
    obtain ⟨apart, absent⟩ := Frame.apart_of_earlier
      (Frame.apart_of_nodup unique (Frame.ids_subset_plugAll qs (Stmt.mem_ids_self own))) same earlier
    cases reaches with
    | inside calls rest =>
      exact rest.looksFor (fun g member => straight g (List.mem_cons_of_mem _ member)) absent
        (calls.looksFor (straight f List.mem_cons_self) apart looks)
  | @inside f ps qs later ih =>
    have apart := Frame.apart_of_nodup unique (Frame.ids_subset_plugAll qs (Stmt.mem_ids_self own))
    cases reaches with
    | inside calls rest =>
      exact ih (fun g member => straight g (List.mem_cons_of_mem _ member)) (Frame.plug_injective same)
        ((Frame.ids_sublist_plug f _).nodup unique) rest (calls.looksFor (straight f List.mem_cons_self) apart looks)

/-- The hole of a frame that is no loop is executed on one machine only. -/
theorem Calls.unique {at'' : Machine σ} (straight : f.Straight) (calls : setting.Calls hole m f at')
    (again : setting.Calls hole m f at'') : at' = at'' := by
  cases calls with
  | sequence done =>
    cases again with
    | sequence done' =>
      rw [done] at done'
      cases done'
      rfl
  | yesSeeking paid seeking =>
    cases again with
    | yesSeeking => rfl
    | yesLive paid' live => simp [seeking] at live
  | noSeeking paid seeking done still =>
    cases again with
    | noSeeking paid' seeking' done' still' =>
      rw [done] at done'
      cases done'
      rfl
    | noLive paid' live => simp [seeking] at live
  | yesLive paid live holds =>
    cases again with
    | yesSeeking paid' seeking => simp [seeking] at live
    | yesLive paid' live' holds' =>
      rw [holds] at holds'
      cases holds'
      rfl
  | noLive paid live fails =>
    cases again with
    | noSeeking paid' seeking => simp [seeking] at live
    | noLive paid' live' fails' =>
      rw [fails] at fails'
      cases fails'
      rfl
  | loopSeeking | loopResumed | loopLive | each => cases straight

/-- A statement is reached on one machine only in a pass along frames that are no loops. -/
theorem Reaches.unique {t : Stmt} {frames : List Frame} {at'' : Machine σ} (straight : ∀ f ∈ frames, f.Straight)
    (reaches : setting.Reaches t frames m at') (again : setting.Reaches t frames m at'') : at' = at'' := by
  induction reaches with
  | here =>
    cases again with
    | here => rfl
  | inside calls rest ih =>
    cases again with
    | inside calls' rest' =>
      cases calls.unique (straight _ List.mem_cons_self) calls'
      exact ih (fun g member => straight g (List.mem_cons_of_mem _ member)) rest'

/-- Before a later statement is executed, the earlier ones that were have come to their end. -/
theorem Calls.passed {g : Frame} {other : Stmt} {at'' : Machine σ} (straight : f.Straight)
    (same : f.plug hole = g.plug other) (earlier : g.before.length < f.before.length)
    (calls : setting.Calls hole m f at') (before : setting.Calls other m g at'') :
    ∃ m', setting.execute other at'' = .ok true m' := by
  cases calls with
  | @sequence _ prior _ _ done =>
    cases g with
    | sequence at? prior' after' =>
      cases before with
      | sequence done' =>
        obtain ⟨between, split⟩ := Frame.prefix_of_plug same.symm earlier
        simp only [Frame.before] at split
        rw [← split, List.append_assoc, executeAll_append, done', andThen_true, List.singleton_append, executeAll_cons]
          at done
        obtain ⟨m', here, -⟩ := andThen_eq_true.mp done
        exact ⟨m', here⟩
    | _ => cases same
  | yesSeeking | yesLive => simp [Frame.before] at earlier
  | noSeeking paid seeking done still =>
    cases g with
    | yes =>
      cases same
      cases before with
      | yesSeeking => exact ⟨_, done⟩
      | yesLive paid' live => simp [seeking] at live
    | no => simp [Frame.before] at earlier
    | _ => cases same
  | noLive paid live fails =>
    cases g with
    | yes =>
      cases same
      cases before with
      | yesSeeking paid' seeking => simp [seeking] at live
      | yesLive paid' live' holds =>
        rw [fails] at holds
        cases holds
    | no => simp [Frame.before] at earlier
    | _ => cases same
  | loopSeeking | loopResumed | loopLive | each => cases straight

/-- A statement that is no loop and stops by itself has nothing executed inside it: its budget was used up on entry. -/
theorem exhausted_of_alone (straight : f.Straight) (falls : setting.Falls (f.plug hole) m)
    (alone : setting.Alone (f.plug hole) m) : (f.plug hole).isConditional = true ∧ m.run.exhausted = true := by
  obtain ⟨m', stops⟩ := falls
  cases f with
  | sequence at? before after =>
    rw [Frame.plug, execute_sequence] at stops
    obtain ⟨prior, u, later, at', split, walked, fallsInside⟩ := setting.executeAll_stops stops
    refine absurd fallsInside (alone (.sequence at? prior later) u at' ?_ (.sequence walked))
    rw [Frame.plug, Frame.plug, split]
  | yes | no => exact ⟨rfl, setting.exhausted_of_branch_alone alone stops⟩
  | loop | each => cases straight

theorem straight_of_plug {g : Frame} {other : Stmt} (straight : f.Straight) (same : f.plug hole = g.plug other) :
    g.Straight := by
  cases f with
  | loop | each => cases straight
  | _ =>
    cases g with
    | loop | each => cases same
    | _ => trivial

/-- What a pass has brought to its end lies before the place where the pass stops. -/
theorem Reaches.precedes_of_stops {a t : Stmt} {ps rs : List Frame} {after : Machine σ}
    (straight : ∀ f ∈ ps, f.Straight) (isLeaf : a.isLeaf = true) (reaches : setting.Reaches a ps m at')
    (done : setting.execute a at' = .ok true after) (first : setting.StopsFirst t rs m)
    (same : Frame.plugAll ps a = Frame.plugAll rs t) : Frame.Precedes ps rs := by
  induction reaches generalizing rs with
  | here =>
    cases first with
    | self falls alone =>
      obtain ⟨m', stops⟩ := falls
      rw [show a = t from same, stops] at done
      cases done
    | @inside g rs _ _ calls first =>
      have child := Frame.mem_children_plug g (Frame.plugAll rs t)
      rw [show g.plug (Frame.plugAll rs t) = a from same.symm, Stmt.children_of_isLeaf isLeaf] at child
      cases child
  | @inside f ps m m' at' calls rest ih =>
    have here := straight f List.mem_cons_self
    cases first with
    | self falls alone =>
      rw [show t = f.plug (Frame.plugAll ps a) from same.symm] at falls alone
      obtain ⟨conditional, exhausted⟩ := exhausted_of_alone here falls alone
      cases calls with
      | sequence walked => cases conditional
      | yesSeeking paid | noSeeking paid | yesLive paid | noLive paid =>
        rw [exhausted] at paid
        cases paid
      | loopSeeking | loopResumed | loopLive | each => cases here
    | @inside g rs _ m'' calls' first =>
      obtain earlier | place | later := Nat.lt_trichotomy f.before.length g.before.length
      · exact .here earlier
      · obtain ⟨rfl, inside⟩ := Frame.eq_of_plug same place
        rw [inside] at calls
        cases calls.unique here calls'
        exact .inside (ih (fun h member => straight h (List.mem_cons_of_mem _ member)) done first inside)
      · obtain ⟨m3, passed⟩ := calls.passed here same later calls'
        obtain ⟨m4, stops⟩ := first.falls
        rw [passed] at stops
        cases stops

/-- A run that looks for a conditional statement is still looking when it stops where that statement is not. -/
theorem Calls.stops_looking (straight : f.Straight) (apart : f.Apart id) (absent : id ∉ hole.ids)
    (calls : setting.Calls hole m f at') (falls : setting.Falls hole at') (looks : m.LooksFor id) {m' : Machine σ}
    (stops : setting.execute (f.plug hole) m = .ok false m') : m'.run.finished = false := by
  obtain ⟨inner, stopsInside⟩ := falls
  have kept := setting.keepsLooking_execute hole absent at' (calls.looksFor straight apart looks)
  rw [stopsInside] at kept
  have left := setting.execute_of_calls calls stopsInside
  rw [stops] at left
  cases left
  rw [Stmt.finished_leave]
  simpa [RunState.seeking] using kept.seeking

/-- Where the stop of a run comes from that has found the conditional statement it was looking for: from inside the
frame that the statement is in, or from behind it. -/
theorem StopsFirst.ahead {t : Stmt} {rs : List Frame} (straight : f.Straight) (apart : f.Apart id)
    (first : setting.StopsFirst t rs m) (path : f.plug hole = Frame.plugAll rs t) (looks : m.LooksFor id)
    {m' : Machine σ} (stops : setting.execute (Frame.plugAll rs t) m = .ok false m') (live : m'.run.finished = true) :
    (∃ g rest, rs = g :: rest ∧ f.before.length < g.before.length) ∨
      ∃ rest at', rs = f :: rest ∧ hole = Frame.plugAll rest t ∧ setting.Calls hole m f at' ∧
        setting.StopsFirst t rest at' := by
  cases first with
  | self falls alone =>
    rw [Frame.plugAll] at path stops
    rw [← path] at falls alone stops
    obtain ⟨conditional, exhausted⟩ := exhausted_of_alone straight falls alone
    obtain ⟨own, here⟩ := Option.isSome_iff_exists.mp conditional
    rw [setting.execute_of_exhausted here exhausted] at stops
    cases stops
    have looking := (looks.suspendAt (f.plug hole)).seeking
    rw [RunState.seeking, live] at looking
    cases looking
  | @inside g rest _ at' calls first =>
    obtain ahead | place | behind := Nat.lt_trichotomy f.before.length g.before.length
    · exact .inl ⟨g, rest, rfl, ahead⟩
    · obtain ⟨rfl, inside⟩ := Frame.eq_of_plug path place
      rw [← inside] at calls
      exact .inr ⟨rest, at', rfl, inside, calls, first⟩
    · obtain ⟨elsewhere, absent⟩ := Frame.apart_of_earlier apart path.symm behind
      rw [calls.stops_looking (straight_of_plug straight path) elsewhere absent first.falls looks stops] at live
      cases live

/-- A run that looks for a conditional statement and stops after it found it stops behind everything that lies before
that statement. -/
theorem StopsFirst.precedes {a t c : Stmt} {ps qs rs : List Frame} (straight : ∀ f ∈ ps, f.Straight)
    (own : c.id? = some id) (same : Frame.plugAll ps a = Frame.plugAll qs c) (unique : (Frame.plugAll qs c).ids.Nodup)
    (precedes : Frame.Precedes ps qs) (first : setting.StopsFirst t rs m)
    (path : Frame.plugAll ps a = Frame.plugAll rs t) (looks : m.LooksFor id) {m' : Machine σ}
    (stops : setting.execute (Frame.plugAll rs t) m = .ok false m') (live : m'.run.finished = true) :
    Frame.Precedes ps rs := by
  induction precedes generalizing rs m m' with
  | @here f g ps qs earlier =>
    have here := straight f List.mem_cons_self
    obtain ⟨apart, absent⟩ := Frame.apart_of_earlier
      (Frame.apart_of_nodup unique (Frame.ids_subset_plugAll qs (Stmt.mem_ids_self own))) same earlier
    obtain ⟨h, rest, rfl, ahead⟩ | ⟨rest, at', rfl, inside, calls, first⟩ :=
      first.ahead here apart path looks stops live
    · exact .here ahead
    · rw [Frame.plugAll, ← inside] at stops
      rw [calls.stops_looking here apart absent (inside ▸ first.falls) looks stops] at live
      cases live
  | @inside f ps qs later ih =>
    have here := straight f List.mem_cons_self
    have apart := Frame.apart_of_nodup unique (Frame.ids_subset_plugAll qs (Stmt.mem_ids_self own))
    obtain ⟨h, rest, rfl, ahead⟩ | ⟨rest, at', rfl, inside, calls, first⟩ :=
      first.ahead here apart path looks stops live
    · exact .here ahead
    · obtain ⟨inner, stopsInside⟩ := first.falls
      have left := setting.execute_of_calls calls (inside ▸ stopsInside)
      rw [Frame.plugAll, ← inside, left] at stops
      cases stops
      rw [Stmt.finished_leave] at live
      exact .inside (ih (fun g member => straight g (List.mem_cons_of_mem _ member)) (Frame.plug_injective same)
        ((Frame.ids_sublist_plug f _).nodup unique) first inside (calls.looksFor here apart looks) stopsInside live)

/-- A pass that is live somewhere is live at its end, whatever its end is. -/
theorem Reaches.ends_live {t : Stmt} {frames : List Frame} (reaches : setting.Reaches t frames m at')
    (live : at'.run.seeking = false) : (setting.execute (Frame.plugAll frames t) m).EndsLive :=
  reaches.ends setting.keeps_finished
    (setting.keeps_finished.execute t at' (finished_of_not_seeking (by simp [live])))

end Setting

end WormLang
