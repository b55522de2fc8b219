import WormLang.Proofs.Sandbox.Angle
import WormLang.Proofs.Sandbox.Atomicity

/-!
Directions of worms. However sums are rounded, a worm that was made with a finite direction has one within one turn,
whatever finite angles it has faced and turned by since. So it does in a sandbox, among everything else that a host can
do there from outside.
-/
namespace WormLang

open Angle (Arithmetic InTurn)

/-! ### Worms that are steered -/

/-- What changes the direction of a worm: an angle that it faces, or a turn that it performs. -/
inductive Steering where
  | face (angle : Float)
  | turn (angle : Float)

/-- An angle to face is finite; so is one to turn by, as it has a cost. -/
def Steering.IsFinite : Steering → Prop
  | face angle => angle.isFinite = true
  | turn angle => ∃ points, Angle.turnCost angle = .ok (some points)

namespace Worm

def steerBy (arithmetic : Arithmetic) (w : Worm) : Steering → Except Fault Worm
  | .face angle => w.faceBy arithmetic angle
  | .turn angle => w.turnBy arithmetic angle

section

variable {arithmetic : Arithmetic} {ρ : Number.Rounding} (rounds : arithmetic.RoundsBy ρ) {w : Worm}

include rounds

theorem exists_faceBy (w : Worm) {angle : Float} (finite : angle.isFinite = true) :
    ∃ w', w.faceBy arithmetic angle = .ok w' ∧ InTurn w'.direction := by
  obtain ⟨d, normal, turn⟩ := Angle.exists_normalizeBy rounds finite
  refine ⟨{ w with direction := d }, ?_, turn⟩
  unfold faceBy
  rw [normal]
  rfl

/-- A worm that is steered gets another direction within one turn. -/
theorem exists_steerBy (turn : InTurn w.direction) {steering : Steering} (finite : steering.IsFinite) :
    ∃ w', w.steerBy arithmetic steering = .ok w' ∧ InTurn w'.direction := by
  cases steering with
  | face angle => exact w.exists_faceBy rounds finite
  | turn angle =>
    obtain ⟨points, cost⟩ := finite
    exact w.exists_faceBy rounds (turn.isFinite_add rounds cost)

/-- So does one that is steered any number of times. -/
theorem exists_foldlM_steerBy (turn : InTurn w.direction) {route : List Steering}
    (finite : ∀ steering ∈ route, steering.IsFinite) :
    ∃ w', route.foldlM (steerBy arithmetic) w = .ok w' ∧ InTurn w'.direction := by
  induction route generalizing w with
  | nil => exact ⟨w, rfl, turn⟩
  | cons steering route ih =>
    obtain ⟨next, steered, turn'⟩ := exists_steerBy rounds turn (finite steering List.mem_cons_self)
    obtain ⟨w', arrived, turn''⟩ := ih turn' fun later member => finite later (List.mem_cons_of_mem _ member)
    refine ⟨w', ?_, turn''⟩
    rw [List.foldlM_cons, steered]
    exact arrived

theorem exists_makeBy {direction : Float} (finite : direction.isFinite = true)
    (x y radius hitPoints actionPoints : Float) (team : Option String) (name : String) :
    ∃ w, makeBy arithmetic x y direction radius hitPoints actionPoints team name = .ok w ∧ InTurn w.direction := by
  obtain ⟨d, normal, turn⟩ := Angle.exists_normalizeBy rounds finite
  unfold makeBy
  rw [normal]
  exact ⟨_, rfl, turn⟩

end

end Worm

/-! ### Worms in a sandbox -/

namespace Sandbox

open Number (infinity)

/-- A host gives a worm finite angles: those of the turns that it asks for, and those that it writes as directions. A
worm with points below infinity performs no turn by another angle, and may be asked for it. -/
structure Act.IsDirected (me : EntityId) (points : Float) (act : Act) : Prop where
  turn : ∀ record angle, act = ask record → record.entity = me → record.deed = .turn angle →
    angle.isFinite = true ∨ points < infinity false
  write : ∀ angle, act = change (.write me "direction" (.float angle)) → angle.isFinite = true

variable {me : EntityId} {points : Float}

/-- The angle that an act gives a worm is finite then. -/
theorem Act.Aims.isFinite {w : Worm} {act : Act} {angle : Float} (aims : act.Aims me w angle)
    (proper : w.Proper points) (turn : InTurn w.direction) (directed : act.IsDirected me points) :
    angle.isFinite = true := by
  cases aims with
  | @turn _ angle count own deed counts affords =>
    obtain ⟨n, rfl⟩ : ∃ n, count = some n := by
      cases count with
      | some n => exact ⟨n, rfl⟩
      | none =>
        obtain finite | below := directed.turn _ angle rfl own deed
        · rw [Angle.turnCost_none_iff.mp counts] at finite
          cases finite
        · exact absurd (proper.bounded below) affords
    have finite := turn.isFinite_add Arithmetic.standard_roundsBy counts
    rwa [Arithmetic.standard_add] at finite
  | @write d q angle number double =>
    cases d with
    | float x =>
      cases number
      cases double
      exact directed.write _ rfl
    | truth | int =>
      cases number
      unfold Quantity.toDouble at double
      dsimp only at double
      split at double
      · next whole =>
        cases double
        exact Number.isFinite_ofInt? whole
      · cases double
    | _ => cases number

/-- An act leads a worm to a direction within one turn. -/
theorem Act.Leads.inTurn {w w' : Worm} {act : Act} (leads : act.Leads me w w') (proper : w.Proper points)
    (turn : InTurn w.direction) (directed : act.IsDirected me points) : InTurn w'.direction := by
  obtain same | ⟨angle, aims, normal⟩ := leads
  · rwa [same]
  · obtain ⟨d, normal', turn'⟩ :=
      Angle.exists_normalizeBy Arithmetic.standard_roundsBy (aims.isFinite proper turn directed)
    obtain rfl : d = w'.direction := Except.ok.inj (normal'.symm.trans normal)
    exact turn'

/-- A recording handler in a world with a proper worm that has a direction within one turn. -/
structure Directs (me : EntityId) (points : Float) (s : Sandbox) : Prop where
  keeper : ∃ r, s.keeper = .recording r
  arena : ∃ w, s.arena.Houses me points w ∧ InTurn w.direction

namespace Directs

variable {s : Sandbox}

theorem apply (directs : s.Directs me points) {act : Act} (isPublic : act.IsPublic)
    (directed : act.IsDirected me points) : (act.apply s).Directs me points := by
  obtain ⟨⟨r, recording⟩, w, houses, turn⟩ := directs
  obtain ⟨keeper, w', houses', leads⟩ := exists_houses_apply recording houses isPublic
  exact ⟨keeper, w', houses', leads.inTurn houses.proper turn directed⟩

theorem foldl (directs : s.Directs me points) {acts : List Act}
    (allowed : ∀ act ∈ acts, act.IsPublic ∧ act.IsDirected me points) :
    (acts.foldl Act.apply s).Directs me points := by
  induction acts generalizing s with
  | nil => exact directs
  | cons act acts ih =>
    obtain ⟨isPublic, directed⟩ := allowed act List.mem_cons_self
    exact ih (directs.apply isPublic directed) fun later member => allowed later (List.mem_cons_of_mem _ member)

end Directs

end Sandbox

/-- However angles are rounded when they are added and subtracted: every finite angle has a direction within one turn,
which is its own direction; two finite angles have a difference from zero to a full turn, which is the same the other
way round; and a worm that is made with a finite direction, then faces finite angles and turns by angles that have a
cost, in any order, has a direction within one turn. It has one in a sandbox too, where doubles are rounded to the
nearest, whatever a host does there from outside, as long as the worm is given finite angles. -/
theorem directions_in_turn {arithmetic : Arithmetic} {ρ : Number.Rounding} (rounds : arithmetic.RoundsBy ρ) :
    (∀ angle : Float, angle.isFinite = true →
      ∃ d, Angle.normalizeBy arithmetic angle = .ok d ∧ InTurn d ∧ Angle.normalizeBy arithmetic d = .ok d) ∧
    (∀ a b : Float, a.isFinite = true → b.isFinite = true →
      ∃ d, Angle.differenceBy arithmetic a b = .ok d ∧ 0.0 ≤ d ∧ d ≤ Angle.fullTurn ∧
        Angle.differenceBy arithmetic b a = .ok d) ∧
    (∀ (x y direction radius hitPoints points : Float) (team : Option String) (name : String) (route : List Steering),
      direction.isFinite = true → (∀ steering ∈ route, steering.IsFinite) →
        ∃ w w', Worm.makeBy arithmetic x y direction radius hitPoints points team name = .ok w ∧
          route.foldlM (Worm.steerBy arithmetic) w = .ok w' ∧ InTurn w'.direction) ∧
    ∀ (x y direction radius hitPoints points : Float) (team : Option String) (name : String) (w : Worm)
      (me : EntityId) (start : Sandbox) (records : Records) (acts : List Sandbox.Act),
      direction.isFinite = true → Worm.make x y direction radius hitPoints points team name = .ok w →
      start.keeper = .recording records → start.arena.beings[me.index]? = some (.worm w) → start.arena.Tight me →
      (∀ act ∈ acts, act.IsPublic ∧ act.IsDirected me points) →
        ∃ w', (acts.foldl Sandbox.Act.apply start).arena.beings[me.index]? = some (.worm w') ∧
          InTurn w'.direction := by
  refine ⟨fun angle finite => ?_, fun a b first second => Angle.exists_differenceBy rounds first second,
    fun x y direction radius hitPoints points team name route finite steers => ?_,
    fun x y direction radius hitPoints points team name w me start records acts finite made recording found tight
      allowed => ?_⟩
  · obtain ⟨d, normal, turn⟩ := Angle.exists_normalizeBy rounds finite
    exact ⟨d, normal, turn, turn.normalizeBy arithmetic⟩
  · obtain ⟨w, made, turn⟩ := Worm.exists_makeBy rounds finite x y radius hitPoints points team name
    obtain ⟨w', steered, turn'⟩ := Worm.exists_foldlM_steerBy rounds turn steers
    exact ⟨w, w', made, steered, turn'⟩
  · obtain ⟨same, made', turn⟩ :=
      Worm.exists_makeBy Arithmetic.standard_roundsBy finite x y radius hitPoints points team name
    obtain rfl : same = w := Except.ok.inj (made'.symm.trans made)
    have directs : start.Directs me points := ⟨⟨records, recording⟩, same, ⟨found, tight, .make made⟩, turn⟩
    obtain ⟨-, w', houses, turn'⟩ := directs.foldl allowed
    exact ⟨w', houses.found, turn'⟩

namespace Drifter

/-- A slight angle to the right: it makes a full turn when a full turn is added. -/
def slight : Float := -1e-17

theorem slight_rounds_up : slight + Angle.fullTurn ≥ Angle.fullTurn := by decide +kernel

def alone (w : Worm) : Sandbox where
  arena := { beings := #[.worm w], members := [⟨0⟩] }

/-- It faces the slight angle, turns by it, and turns round fifteen times. -/
def route : List Steering := [.face slight, .turn slight, .turn 100.0]

theorem finite : ∀ steering ∈ route, steering.IsFinite := by
  have once : ∃ points, Angle.turnCost slight = .ok (some points) := ⟨1, ok_of_toOption (by decide +kernel)⟩
  have often : ∃ points, Angle.turnCost 100.0 = .ok (some points) := ⟨955, ok_of_toOption (by decide +kernel)⟩
  simpa [route, Steering.IsFinite] using ⟨by decide, once, often⟩

/-- It turns by the slight angle, is refused an infinite turn, and is given two directions by its host. -/
def acts : List Sandbox.Act :=
  [.ask { deed := .turn slight, entity := ⟨0⟩ }, .ask { deed := .turn (Number.infinity false), entity := ⟨0⟩ },
    .change (.write ⟨0⟩ "direction" (.int (-4))), .change (.write ⟨0⟩ "direction" (.float slight))]

theorem allowed : ∀ act ∈ acts, act.IsPublic ∧ act.IsDirected ⟨0⟩ 100.0 := by
  have below : (100.0 : Float) < Number.infinity false := by decide
  have ends : slight.isFinite = true := by decide
  intro act member
  simp only [acts, List.mem_cons, List.not_mem_nil, or_false] at member
  obtain rfl | rfl | rfl | rfl := member
  · exact ⟨trivial, fun _ _ _ _ _ => .inr below, fun _ same => by cases same⟩
  · exact ⟨trivial, fun _ _ _ _ _ => .inr below, fun _ same => by cases same⟩
  · exact ⟨by simp [Sandbox.Act.IsPublic], fun _ _ same => (by cases same), fun _ same => by cases same⟩
  · refine ⟨by simp [Sandbox.Act.IsPublic], fun _ _ same => (by cases same), fun angle same => ?_⟩
    cases same
    exact ends

end Drifter

/-- A slight angle has a direction, though the sum that it starts from is a full turn; and worms that face it and turn
by it keep a direction. -/
theorem drifter_in_turn :
    Arithmetic.standard.RoundsBy .nearest ∧ Drifter.slight + Angle.fullTurn ≥ Angle.fullTurn ∧
      (∃ d, Angle.normalize Drifter.slight = .ok d ∧ InTurn d ∧ Angle.normalize d = .ok d) ∧
      (∃ d, Angle.difference Drifter.slight 6.0 = .ok d ∧ 0.0 ≤ d ∧ d ≤ Angle.fullTurn ∧
        Angle.difference 6.0 Drifter.slight = .ok d) ∧
      ∃ w w' w'', Worm.make 0.0 0.0 Drifter.slight 0.5 100.0 100.0 none "drifter" = .ok w ∧
        Drifter.route.foldlM (Worm.steerBy .standard) w = .ok w' ∧ InTurn w'.direction ∧
        (Drifter.acts.foldl Sandbox.Act.apply (Drifter.alone w)).arena.beings[0]? = some (.worm w'') ∧
        InTurn w''.direction := by
  have ends : Drifter.slight.isFinite = true := by decide
  obtain ⟨normal, difference, steered, housed⟩ := directions_in_turn Arithmetic.standard_roundsBy
  obtain ⟨w, w', made, routed, turn⟩ := steered 0.0 0.0 _ 0.5 100.0 100.0 none "drifter" _ ends Drifter.finite
  obtain ⟨w'', found, turn'⟩ := housed 0.0 0.0 _ 0.5 100.0 100.0 none "drifter" w ⟨0⟩ (Drifter.alone w) {} _ ends made
    rfl rfl (Arena.tight_of_extras rfl _) Drifter.allowed
  exact ⟨Arithmetic.standard_roundsBy, Drifter.slight_rounds_up, normal _ ends, difference _ _ ends (by decide),
    w, w', w'', made, routed, turn, found, turn'⟩

end WormLang
