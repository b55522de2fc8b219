import WormLang.Proofs.Number.Size
import WormLang.Proofs.Soundness.Statement
import WormLang.Session

/-!
Programs in the sandbox. In a world of worms and food with a recording handler, whatever a program asks for leaves the
world as it is, but for its own worm: that keeps finite action points and a direction within one turn. A deed can fail
in one way only, a turn that is so large that its cost has no number.
-/
namespace WormLang

namespace Angle

open Number

theorem parts_fullTurn : parts fullTurn = .finite false 7074237752028440 (-50) := by decide +kernel

/-- A remainder by a full turn is small, or is no number because the angle is none. -/
theorem within_remainder {angle r : Float} (remains : remainder? angle fullTurn = some r) :
    r.toModel.unpack = .notANumber ∨ Within (-49) r.toModel.unpack := by
  unfold remainder? at remains
  rw [parts_fullTurn] at remains
  cases size : parts angle with
  | nan =>
    rw [size] at remains
    cases remains
    exact .inl (unpack_of_nan size)
  | infinite negative =>
    rw [size] at remains
    cases remains
  | finite negative m q =>
    rw [size] at remains
    dsimp only at remains
    rw [if_neg (by decide)] at remains
    cases remains
    have small : m * Nat.pow 2 (q - min q (-50)).toNat % (7074237752028440 * Nat.pow 2 (-50 - min q (-50)).toNat) <
        2 ^ (53 + (-50 - min q (-50)).toNat) := by
      refine Nat.lt_of_lt_of_le (Nat.mod_lt _ (Nat.mul_pos (by decide) (Nat.two_pow_pos _))) ?_
      rw [Nat.pow_add]
      exact Nat.mul_le_mul_right _ (by decide)
    have digits := bitLength_le small
    refine .inr (Within.mono ?_ (show (-50 + 1 : Int) ≤ -49 by decide))
    exact within_nearest negative (by omega) (by decide) (by decide)

/-- A direction is small, or no number. -/
theorem within_normalize {angle direction : Float} (normal : normalize angle = .ok direction) :
    direction.toModel.unpack = .notANumber ∨ Within (-47) direction.toModel.unpack := by
  have turn : Within (-49) fullTurn.toModel.unpack := by
    rw [unpack_eq, parts_fullTurn]
    exact (by decide : (-50 : Int) ≤ -49)
  have zero : Within (-47) (0.0 : Float).toModel.unpack := trivial
  rw [normalize_eq] at normal
  split at normal
  · cases normal
  · next r remains =>
    have turned : (if r < 0.0 then r + fullTurn else r).toModel.unpack = .notANumber ∨
        Within (-47) (if r < 0.0 then r + fullTurn else r).toModel.unpack := by
      obtain undefined | small := within_remainder remains
      · split
        · exact .inl (unpack_add_nan undefined _)
        · exact .inl undefined
      · split
        · exact .inr (within_add small turn (by decide) (by decide))
        · exact .inr (small.mono (by decide))
    cases normal
    generalize (if r < 0.0 then r + fullTurn else r) = r' at turned
    split
    · exact .inr zero
    · exact turned

theorem isFinite_of_cost {turn : Float} {points : Nat} (cost : turnCost turn = .ok (some points)) :
    turn.isFinite = true := by
  by_contra endless
  unfold turnCost at cost
  rw [if_neg endless] at cost
  cases cost

/-- A turn that has a cost is by an angle that is far from the limits of doubles: sixty times as much is a double. -/
theorem within_of_cost {turn : Float} {points : Nat} (cost : turnCost turn = .ok (some points)) :
    Within 967 turn.toModel.unpack := by
  have finite := isFinite_of_cost cost
  obtain small | large := within_or_beyond finite (show -1074 ≤ 967 by decide)
  · exact small
  have sixty : Beyond (-48) (60.0 : Float).toModel.unpack := ⟨by decide, by decide⟩
  have endless := infinite_div (infinite_mul sixty (large.abs (by decide)) (by decide))
    (show fullTurn.isFinite = true by decide)
  obtain ⟨negative, size⟩ := infinite_of_unpack endless
  unfold turnCost at cost
  rw [if_pos finite] at cost
  unfold ceiling at cost
  rw [size] at cost
  cases cost

/-- A turn that has a cost is to an angle that has a direction. -/
theorem exists_normalize_add {angle direction turn : Float} {points : Nat} (normal : normalize angle = .ok direction)
    (cost : turnCost turn = .ok (some points)) : ∃ next, normalize (direction + turn) = .ok next := by
  have small := within_of_cost cost
  cases next : normalize (direction + turn) with
  | ok d => exact ⟨d, rfl⟩
  | error f =>
    obtain ⟨negative, infinite⟩ := (normalize_error next).2
    obtain undefined | modest := within_normalize normal
    · have size := unpack_add_nan undefined turn
      rw [unpack_eq, infinite] at size
      cases size
    · exact absurd infinite (parts_ne_infinite
        (within_add (modest.mono (show (-47 : Int) ≤ 967 by decide)) small (by decide) (by decide)) negative)

theorem normalize_undefined {angle : Float} (undefined : angle.toModel.unpack = .notANumber) :
    normalize angle = .ok angle := by
  have remains : remainder? angle fullTurn = some angle := by
    unfold remainder?
    rw [parts_of_undefined undefined]
  have above : ¬ fullTurn ≤ angle := by
    show ¬ decide (fullTurn.toModel ≤ angle.toModel) = true
    rw [decide_eq_true_iff]
    show ¬ (fullTurn.toModel.unpack.compare angle.toModel.unpack).any (·.isLE) = true
    rw [undefined]
    cases fullTurn.toModel.unpack <;> exact nofun
  rw [normalize_eq, remains]
  dsimp only
  rw [if_neg (not_undefined_lt undefined), if_neg above]

theorem normalize_infinite {angle : Float} (infinite : IsInfinite angle) :
    normalize angle = .error { cause := .mathDomain } := by
  obtain ⟨negative, size⟩ := infinite
  rw [normalize_eq]
  unfold remainder?
  rw [size, parts_fullTurn]

/-- No points are enough for a turn if and only if its angle is not finite. -/
theorem turnCost_none_iff {angle : Float} : turnCost angle = .ok none ↔ angle.isFinite = false := by
  unfold turnCost
  split
  · next finite =>
    rw [finite]
    split <;> exact ⟨nofun, nofun⟩
  · next endless => simpa using endless

/-- A turn has no cost if and only if it is finite, but too large to count sixtieths of a turn. -/
theorem turnCost_error_iff {angle : Float} {f : Fault} :
    turnCost angle = .error f ↔
      angle.isFinite = true ∧ IsInfinite (60.0 * angle.abs / fullTurn) ∧ f = { cause := .infinityToInteger } := by
  unfold turnCost
  by_cases finite : angle.isFinite = true
  · rw [if_pos finite]
    have sixty : (60.0 : Float).toModel.unpack = .finite .positive 8444249301319680 (-47) (by decide) := rfl
    have turn : fullTurn.toModel.unpack = .finite .positive 7074237752028440 (-50) (by decide) := by
      rw [unpack_eq, parts_fullTurn]
      rfl
    have defined := defined_div (defined_mul sixty (defined_abs finite)) turn
    unfold ceiling
    cases size : parts (60.0 * angle.abs / fullTurn) with
    | nan => exact absurd (unpack_of_nan size) defined
    | infinite negative => simp [finite, IsInfinite, size, eq_comm]
    | finite negative m e => simp [IsInfinite, size]
  · rw [if_neg finite]
    simp [finite]

end Angle

/-- A worm that can pay: its action points are finite, and its direction is one. -/
structure Worm.Sturdy (w : Worm) : Prop where
  points : w.actionPoints.isFinite = true
  maxPoints : w.maxActionPoints.isFinite = true
  direction : ∃ angle, Angle.normalize angle = .ok w.direction

namespace Worm.Sturdy

variable {w w' : Worm}

theorem make {x y direction radius hitPoints actionPoints : Float} {team : Option String} {name : String}
    (finite : actionPoints.isFinite = true)
    (made : Worm.make x y direction radius hitPoints actionPoints team name = .ok w) : w.Sturdy := by
  obtain ⟨d, normal, same⟩ := bind_eq_ok.mp made
  cases same
  exact ⟨finite, finite, direction, normal⟩

theorem withPoints (sturdy : w.Sturdy) (points : Float) : (w.withPoints points).Sturdy :=
  ⟨Number.isFinite_larger_smaller points sturdy.maxPoints, sturdy.maxPoints, sturdy.direction⟩

theorem startTurn (sturdy : w.Sturdy) : w.startTurn.Sturdy :=
  ⟨sturdy.maxPoints, sturdy.maxPoints, sturdy.direction⟩

theorem stepAhead (sturdy : w.Sturdy) : w.stepAhead.Sturdy :=
  ⟨sturdy.points, sturdy.maxPoints, sturdy.direction⟩

theorem face (sturdy : w.Sturdy) {angle : Float} (turned : w.face angle = .ok w') : w'.Sturdy := by
  obtain ⟨d, normal, same⟩ := bind_eq_ok.mp turned
  cases same
  exact ⟨sturdy.points, sturdy.maxPoints, angle, normal⟩

theorem effect (sturdy : w.Sturdy) {deed : Deed} (done : Sandbox.effect w deed = .ok w') : w'.Sturdy := by
  cases deed with
  | turn angle => exact sturdy.face done
  | move =>
    cases done
    exact sturdy.stepAhead
  | jump | toggleWeapon | fire =>
    cases done
    exact sturdy

end Worm.Sturdy

namespace Arena

/-- No host put data of its own where a being keeps a field. -/
def Tight (me : EntityId) (a : Arena) : Prop := ∀ field, a.loose? me field = none

theorem tight_of_extras {a : Arena} (extras : a.extras = []) (me : EntityId) : a.Tight me := by
  intro field
  unfold loose? extra?
  rw [extras]
  cases a.being me <;> simp

/-- Where nothing is loose, keeping a field of a worm changes the worm only. -/
theorem Tight.setKept_eq {me : EntityId} {a : Arena} {w : Worm} {field : String} (tight : a.Tight me)
    (worm : a.being me = .worm w) (keeps : (Being.worm w).keeps field = true) (b : Being) :
    a.setKept me field b = a.setBeing me b := by
  have absent : a.extras.lookup (me, "_" ++ field) = none := by
    have nothing := tight field
    unfold loose? at nothing
    rw [worm] at nothing
    dsimp only at nothing
    rwa [if_pos keeps] at nothing
  have same : a.dropExtra me ("_" ++ field) = a := by
    unfold dropExtra
    rw [List.filter_eq_self.mpr]
    intro entry member
    simpa [bne_comm] using List.lookup_eq_none_iff.mp absent entry member
  unfold setKept
  rw [same]

/-- A world of worms and food, in which no host gave a being a field of its own. -/
structure Natural (a : Arena) : Prop where
  sandbox : a.isBare = false
  extras : a.extras = []
  members : ∀ id, a.isPlaced id = true → (∃ w, a.being id = .worm w) ∨ ∃ f, a.being id = .food f

namespace Natural

variable {a : Arena}

theorem tight (natural : a.Natural) (id : EntityId) : a.Tight id := tight_of_extras natural.extras id

theorem renamed? (natural : a.Natural) (id : EntityId) : a.renamed? id = none := by
  unfold Arena.renamed? extra?
  rw [natural.extras]
  cases a.being id <;> rfl

/-- What worms and food lack is a capability. -/
theorem capability_of_lacks (natural : a.Natural) {cause : Cause} (lacks : a.Lacks cause) :
    cause.kind = .capability := by
  cases lacks with
  | capability kind => exact kind
  | field rock placed =>
    obtain ⟨w, worm⟩ | ⟨f, food⟩ := natural.members _ placed
    · cases rock.symm.trans worm
    · cases rock.symm.trans food

end Natural

theorem Natural.dropExtra_eq {a : Arena} (natural : a.Natural) (id : EntityId) (field : String) :
    a.dropExtra id field = a := by
  obtain ⟨-, extras, -⟩ := natural
  obtain ⟨beings, members, _, isBare⟩ := a
  cases extras
  rfl

theorem being_of_getElem? {a : Arena} {id : EntityId} {b : Being} (found : a.beings[id.index]? = some b) :
    a.being id = b := by
  unfold being
  rw [Array.getD_eq_getD_getElem?, found]
  rfl

/-- Changing a being changes no other. -/
theorem being_setBeing (a : Arena) (id other : EntityId) (b : Being) :
    (a.setBeing id b).being other = b ∨ (a.setBeing id b).being other = a.being other := by
  unfold being setBeing
  simp only [Array.getD_eq_getD_getElem?, Array.getElem?_setIfInBounds]
  split_ifs with same inside
  · exact .inl rfl
  · right
    rw [← same, Array.getElem?_eq_none (by omega)]
  · exact .inr rfl

theorem getElem?_setBeing {a : Arena} {id : EntityId} {b : Being} (found : a.beings[id.index]? = some b) (b' : Being) :
    (a.setBeing id b').beings[id.index]? = some b' := by
  obtain ⟨inside, -⟩ := Array.getElem?_eq_some_iff.mp found
  simp [setBeing, inside]

@[simp]
theorem setBeing_setBeing (a : Arena) (id : EntityId) (b b' : Being) :
    (a.setBeing id b).setBeing id b' = a.setBeing id b' := by
  simp [setBeing]

/-- Nothing becomes loose when a worm changes. -/
theorem Tight.setBeing {me : EntityId} {a : Arena} {w : Worm} (tight : a.Tight me) (worm : a.being me = .worm w)
    (w' : Worm) : (a.setBeing me (.worm w')).Tight me := by
  intro field
  have before := tight field
  unfold loose? at before ⊢
  rw [worm] at before
  obtain changed | kept := a.being_setBeing me me (.worm w')
  · rw [changed]
    exact before
  · rw [kept, worm]
    exact before

/-- A natural world with a sturdy worm. -/
structure Homely (me : EntityId) (a : Arena) : Prop where
  natural : a.Natural
  worm : ∃ w, a.beings[me.index]? = some (.worm w) ∧ w.Sturdy

namespace Homely

variable {me : EntityId} {a : Arena}

/-- A natural world stays one when its worm changes. -/
theorem setBeing (homely : a.Homely me) {w : Worm} (sturdy : w.Sturdy) : (a.setBeing me (.worm w)).Homely me := by
  obtain ⟨before, found, -⟩ := homely.worm
  refine ⟨⟨homely.natural.sandbox, homely.natural.extras, fun id placed => ?_⟩, w, getElem?_setBeing found _, sturdy⟩
  obtain changed | kept := a.being_setBeing me id (.worm w)
  · exact .inl ⟨w, changed⟩
  · rw [kept]
    exact homely.natural.members id placed

theorem setKept (homely : a.Homely me) {w : Worm} (sturdy : w.Sturdy) (field : String) :
    (a.setKept me field (.worm w)).Homely me := by
  unfold Arena.setKept
  rw [homely.natural.dropExtra_eq]
  exact homely.setBeing sturdy

/-- The worm can begin another turn. -/
theorem exists_startTurn (homely : a.Homely me) :
    ∃ a', a.startTurn me = .ok a' ∧ a'.Homely me ∧ a'.members = a.members := by
  obtain ⟨w, worm, sturdy⟩ := homely.worm
  refine ⟨a.setKept me "action_points" (.worm w.startTurn), ?_, homely.setKept sturdy.startTurn _, rfl⟩
  unfold Arena.startTurn Arena.worm
  rw [being_of_getElem? worm, homely.natural.tight]
  rfl

end Homely

end Arena

namespace Sandbox

variable {me : EntityId} {a : Arena} {w : Worm}

/-- Only a turn can lead to no direction, and none does whose points can be counted. -/
theorem exists_effect (facing : ∃ angle, Angle.normalize angle = .ok w.direction) {deed : Deed}
    (counted : ∀ angle, deed = .turn angle → ∃ n, Angle.turnCost angle = .ok (some n)) :
    ∃ w', effect w deed = .ok w' := by
  cases deed with
  | turn angle =>
    obtain ⟨start, normal⟩ := facing
    obtain ⟨n, counts⟩ := counted angle rfl
    obtain ⟨d, turned⟩ := Angle.exists_normalize_add normal counts
    refine ⟨{ w with direction := d }, ?_⟩
    unfold effect
    dsimp only
    rw [Worm.turnBy_standard, Worm.face_eq, turned]
    rfl
  | move | jump | toggleWeapon | fire => exact ⟨_, rfl⟩

/-- A deed that has a finite cost is no turn, or one whose points can be counted. -/
theorem counted_of_cost {cost : Float} {deed : Deed} (costs : Sandbox.cost a me deed = .ok cost)
    (finite : cost ≠ Number.infinity false) (angle : Float) (turn : deed = .turn angle) :
    ∃ n, Angle.turnCost angle = .ok (some n) := by
  subst turn
  obtain ⟨number?, counts, same⟩ := bind_eq_ok.mp costs
  cases same
  cases number? with
  | none => exact absurd rfl finite
  | some n => exact ⟨n, counts⟩

section

variable (tight : a.Tight me) (worm : a.being me = .worm w)

include tight worm

theorem points_eq (symbol sort : String) : points a me symbol sort = .ok w.actionPoints := by
  unfold points
  rw [worm, tight]
  rfl

/-- The cost of a deed has no number only if the deed is a turn. -/
theorem cost_error {deed : Deed} {f : Fault} (failed : cost a me deed = .error f) :
    ∃ angle, deed = .turn angle ∧ Angle.turnCost angle = .error f := by
  cases deed with
  | turn angle =>
    refine ⟨angle, rfl, ?_⟩
    replace failed : (do return costOf (← Angle.turnCost angle)) = (.error f : Except Fault Float) := failed
    cases counts : Angle.turnCost angle with
    | ok n =>
      rw [counts] at failed
      cases failed
    | error g =>
      rw [counts] at failed
      cases failed
      rfl
  | jump => cases (points_eq tight worm _ _).symm.trans failed
  | _ => cases failed

/-- A deed is refused for want of points, or it is paid for. -/
theorem pay_eq (r : Records) (cost : Float) {record : Record} (own : record.entity = me) :
    pay a r cost record =
      .ok (if w.actionPoints < cost then (false, a, r.addRefused record)
        else (true, a.setBeing me (.worm (w.withPoints (w.actionPoints - cost))), r.addAction record)) := by
  subst own
  have set : withPoints a record.entity (w.actionPoints - cost) =
      .ok (a.setBeing record.entity (.worm (w.withPoints (w.actionPoints - cost)))) := by
    unfold withPoints Arena.setPoints
    rw [worm]
    dsimp only
    rw [tight, tight.setKept_eq worm (by rfl)]
  unfold pay
  rw [points_eq tight worm]
  simp only [bind, Except.bind, set]
  split <;> rfl

theorem takeEffect_eq (deed : Deed) :
    takeEffect a me deed = (effect w deed).map fun w' => a.setBeing me (.worm w') := by
  have tight : movesLoosely a me = false := by simp [movesLoosely, tight _]
  unfold takeEffect
  rw [worm]
  dsimp only
  rw [tight]
  cases effect w deed <;> rfl

end

/-- A deed of a worm has a cost, is refused, or is paid for and then takes effect. -/
theorem perform_eq (tight : a.Tight me) (found : a.beings[me.index]? = some (.worm w)) (r : Records) {record : Record}
    (own : record.entity = me) :
    perform a r record =
      match cost a me record.deed with
      | .error f => (.error f, a, r)
      | .ok c =>
        if isHopeless c record.deed ∨ w.actionPoints < c then (.ok false, a, r.addRefused record)
        else
          match effect (w.withPoints (w.actionPoints - c)) record.deed with
          | .ok w' => (.ok true, a.setBeing me (.worm w'), r.addAction record)
          | .error f => (.error f, a.setBeing me (.worm (w.withPoints (w.actionPoints - c))), r.addAction record) := by
  subst own
  have worm := Arena.being_of_getElem? found
  unfold perform
  cases cost a record.entity record.deed with
  | error f => rfl
  | ok c =>
    dsimp only
    by_cases hopeless : isHopeless c record.deed
    · rw [if_pos hopeless, if_pos (.inl hopeless)]
    · rw [if_neg hopeless, pay_eq tight worm _ _ rfl]
      by_cases poor : w.actionPoints < c
      · rw [if_pos poor, if_pos (.inr poor)]
      · rw [if_neg poor, if_neg (by simp [hopeless, poor])]
        dsimp only
        rw [takeEffect_eq (tight.setBeing worm _) (Arena.being_of_getElem? (Arena.getElem?_setBeing found _))]
        cases effect (w.withPoints (w.actionPoints - c)) record.deed with
        | error f => rfl
        | ok w' => simp [Except.map]

/-- A deed that is not a turn without a cost is done or refused, and leaves the world natural and the worm sturdy. -/
theorem perform_cases (homely : a.Homely me) (r : Records) (deed : Deed) :
    (∃ angle f, deed = .turn angle ∧ Angle.turnCost angle = .error f ∧
      perform a r { deed, entity := me } = (.error f, a, r)) ∨
    ∃ done a' r', perform a r { deed, entity := me } = (.ok done, a', r') ∧ a'.Homely me ∧ a'.members = a.members := by
  obtain ⟨w, found, sturdy⟩ := homely.worm
  have tight := homely.natural.tight me
  rw [perform_eq tight found r rfl]
  dsimp only
  cases costs : cost a me deed with
  | error f =>
    obtain ⟨angle, turn, endless⟩ := cost_error tight (Arena.being_of_getElem? found) costs
    exact .inl ⟨angle, f, turn, endless, rfl⟩
  | ok c =>
    right
    dsimp only
    split
    · exact ⟨_, _, _, rfl, homely, rfl⟩
    · next affords =>
      have finite : c ≠ Number.infinity false := by
        rintro rfl
        exact affords (.inr (Number.lt_of_infinity sturdy.points Number.unpack_infinity))
      have paid := sturdy.withPoints (w.actionPoints - c)
      obtain ⟨w', takes⟩ := exists_effect paid.direction (counted_of_cost costs finite)
      rw [takes]
      exact ⟨_, _, _, rfl, homely.setBeing (paid.effect takes), rfl⟩

/-- A recording handler in a natural world with a sturdy worm. -/
structure Homely (me : EntityId) (s : Sandbox) : Prop where
  keeper : ∃ records, s.keeper = .recording records
  arena : s.arena.Homely me

/-- The handler is asked for a deed: it does or refuses it, or the deed is a turn without a cost. -/
theorem Homely.perform_cases {s : Sandbox} (homely : s.Homely me) (deed : Deed) :
    (∃ angle f, deed = .turn angle ∧ Angle.turnCost angle = .error f ∧
      game.handler.perform me deed s = (.error f, s)) ∨
    ∃ done s', game.handler.perform me deed s = (.ok done, s') ∧ s'.Homely me ∧ s'.arena.members = s.arena.members := by
  obtain ⟨⟨records, keeper⟩, home⟩ := homely
  have asked : game.handler.perform me deed s = attempt { deed, entity := me } s := rfl
  rw [asked, attempt, handle, keeper]
  dsimp only
  obtain ⟨angle, f, turn, endless, performed⟩ | ⟨done, a', r', performed, home', members⟩ :=
    Sandbox.perform_cases home records deed
  · left
    refine ⟨angle, f, turn, endless, ?_⟩
    rw [performed, ← keeper]
    rfl
  · right
    rw [performed]
    exact ⟨_, _, rfl, ⟨⟨_, rfl⟩, home'⟩, members⟩

/-- A recording handler keeps programs in order. -/
theorem orderly_homely (me : EntityId) : game.Orderly arena me (Homely me) where
  world := rfl
  sandbox _ homely := homely.arena.natural.sandbox
  perform s deed homely placed := by
    obtain ⟨angle, f, -, -, performed⟩ | ⟨done, s', performed, homely', members⟩ := homely.perform_cases deed
    · rw [performed]
      exact ⟨homely, placed⟩
    · rw [performed]
      refine ⟨homely', ?_⟩
      show s'.arena.members.contains me = true
      rw [members]
      exact placed
  print s text homely placed := by
    obtain ⟨⟨records, keeper⟩, home⟩ := homely
    have printed : game.handler.print text s = print (.text text) s := rfl
    rw [printed, print, keeper]
    exact ⟨_, rfl, ⟨⟨_, rfl⟩, home⟩, placed⟩

/-- A sandbox at the start of a turn: its worm has all points again. -/
def startTurn (me : EntityId) (s : Sandbox) : Sandbox :=
  match s.arena.startTurn me with
  | .ok arena => { s with arena }
  | .error _ => s

theorem Homely.startTurn {s : Sandbox} (homely : s.Homely me) : (s.startTurn me).Homely me := by
  obtain ⟨a', started, home, -⟩ := homely.arena.exists_startTurn
  unfold Sandbox.startTurn
  rw [started]
  exact ⟨homely.keeper, home⟩

end Sandbox

end WormLang
