import WormLang.Proofs.Execution.Run
import WormLang.Proofs.Sandbox.Frame

/-!
A recording handler does a deed and records it, or refuses it and records that, or fails and leaves no trace. A deed is
paid for before it takes effect; what keeps the two together is that a turn which is paid for leads to a direction. A
turn by no finite angle has an infinite cost, so that it is refused, but not to a worm with boundless points: that pays,
then the turn fails or leaves the worm without a direction.
-/
namespace WormLang

/-! ### Worms -/

/-- A worm whose points are a number, and not infinitely many: it cannot pay an infinite cost. -/
def Worm.IsBounded (w : Worm) : Prop := w.actionPoints < Number.infinity false

/-- A worm that was made with a number of action points, as its methods leave it. -/
structure Worm.Proper (points : Float) (w : Worm) : Prop where
  maxPoints : w.maxActionPoints = points
  bounded : points < Number.infinity false → w.IsBounded
  direction : ∃ angle, Angle.normalize angle = .ok w.direction

namespace Worm.Proper

variable {points : Float} {w w' : Worm}

theorem make {x y direction radius hitPoints : Float} {team : Option String} {name : String}
    (made : Worm.make x y direction radius hitPoints points team name = .ok w) : w.Proper points := by
  obtain ⟨d, normal, same⟩ := bind_eq_ok.mp made
  cases same
  exact ⟨rfl, id, direction, normal⟩

theorem withPoints (proper : w.Proper points) (left : Float) : (w.withPoints left).Proper points := by
  refine ⟨proper.maxPoints, fun bounded => ?_, proper.direction⟩
  rw [← proper.maxPoints] at bounded
  exact Number.larger_smaller_lt_infinity left bounded

theorem startTurn (proper : w.Proper points) : w.startTurn.Proper points := by
  refine ⟨proper.maxPoints, fun bounded => ?_, proper.direction⟩
  rwa [← proper.maxPoints] at bounded

theorem place (proper : w.Proper points) (x y : Float) : Worm.Proper points { w with x, y } :=
  ⟨proper.maxPoints, proper.bounded, proper.direction⟩

theorem face (proper : w.Proper points) {angle : Float} (turned : w.face angle = .ok w') : w'.Proper points := by
  obtain ⟨d, normal, same⟩ := bind_eq_ok.mp turned
  cases same
  exact ⟨proper.maxPoints, proper.bounded, angle, normal⟩

theorem effect (proper : w.Proper points) {deed : Deed} (done : Sandbox.effect w deed = .ok w') : w'.Proper points := by
  cases deed with
  | turn angle => exact proper.face done
  | move =>
    cases done
    exact proper.place _ _
  | jump | toggleWeapon | fire =>
    cases done
    exact proper

end Worm.Proper

namespace Sandbox

/-! ### What hosts do -/

/-- What a host can do with a sandbox. -/
inductive Act where
  | ask (record : Record)
  | print (d : Datum)
  | clear
  | change (step : WorldStep)

namespace Act

/-- The sandbox after an act of its host; what fails changes nothing, except for a deed. -/
def apply (s : Sandbox) : Act → Sandbox
  | ask record => (handle record s).2
  | print d => (Sandbox.print d s).2
  | clear =>
    match s.keeper.clear with
    | .ok keeper => { s with keeper }
    | .error _ => s
  | change step =>
    match s.arena.change step with
    | .ok arena => { s with arena }
    | .error _ => s

/-- A host keeps to the outside of beings if it writes no field with an underscore in front. -/
def IsPublic : Act → Prop
  | change (.write _ field _) => field.toList.head? ≠ some '_'
  | _ => True

/-- The angle that an act gives a worm for its direction: where a turn leads that the worm can pay for, or what a host
writes. -/
inductive Aims (me : EntityId) (w : Worm) : Act → Float → Prop
  | turn {record : Record} {angle : Float} {points : Option Nat} (own : record.entity = me)
    (deed : record.deed = .turn angle) (counts : Angle.turnCost angle = .ok points)
    (affords : ¬ w.actionPoints < costOf points) : Aims me w (ask record) (w.direction + angle)
  | write {d : Datum} {q : Quantity} {angle : Float} (number : d.quantity? = some q) (double : q.toDouble = .ok angle) :
    Aims me w (change (.write me "direction" d)) angle

/-- An act leaves a worm its direction, or gives it another one. -/
def Leads (me : EntityId) (act : Act) (w w' : Worm) : Prop :=
  w'.direction = w.direction ∨ ∃ angle, act.Aims me w angle ∧ Angle.normalize angle = .ok w'.direction

/-- A deed that a worm can pay for leads it on, once it has paid. -/
theorem leads_effect {me : EntityId} {a : Arena} {w w' : Worm} {record : Record} {c left : Float}
    (own : record.entity = me) (costs : Sandbox.cost a me record.deed = .ok c) (affords : ¬ w.actionPoints < c)
    (done : Sandbox.effect (w.withPoints left) record.deed = .ok w') : (ask record).Leads me w w' := by
  cases deed : record.deed with
  | turn angle =>
    rw [deed] at costs done
    obtain ⟨points, counts, same⟩ := bind_eq_ok.mp costs
    cases same
    obtain ⟨direction, normal, same⟩ := bind_eq_ok.mp done
    cases same
    exact .inr ⟨_, .turn own deed counts affords, normal⟩
  | move | jump | toggleWeapon | fire =>
    rw [deed] at done
    cases done
    exact .inl rfl

end Act

end Sandbox

/-! ### Worms in a world -/

theorem Being.kept?_of_public (b : Being) {field : String} (isPublic : field.toList.head? ≠ some '_') :
    b.kept? field = none := by
  unfold kept?
  split
  · next rest same =>
    rw [same] at isPublic
    exact absurd rfl isPublic
  · rfl

/-- A world with a proper worm, in which no host put data of its own where the worm keeps a field. -/
structure Arena.Houses (me : EntityId) (points : Float) (a : Arena) (w : Worm) : Prop where
  found : a.beings[me.index]? = some (.worm w)
  tight : a.Tight me
  proper : w.Proper points

namespace Arena.Houses

variable {me : EntityId} {points : Float} {a a' : Arena} {w w' : Worm}

theorem being (houses : a.Houses me points w) : a.being me = .worm w := being_of_getElem? houses.found

theorem spares (houses : a.Houses me points w) (spares : a.Spares me a') : a'.Houses me points w :=
  ⟨spares.being.trans houses.found, spares.tight houses.tight, houses.proper⟩

theorem setBeing (houses : a.Houses me points w) (proper : w'.Proper points) :
    (a.setBeing me (.worm w')).Houses me points w' :=
  ⟨getElem?_setBeing houses.found _, houses.tight.setBeing houses.being w', proper⟩

theorem setKept (houses : a.Houses me points w) {field : String} (keeps : (Being.worm w).keeps field = true)
    (proper : w'.Proper points) : (a.setKept me field (.worm w')).Houses me points w' := by
  rw [houses.tight.setKept_eq houses.being keeps]
  exact houses.setBeing proper

/-- A field with a name that has no underscore in front is none that a worm keeps. -/
theorem setExtra (houses : a.Houses me points w) {field : String} (isPublic : field.toList.head? ≠ some '_')
    (d : Datum) : (a.setExtra me field d).Houses me points w := by
  refine ⟨houses.found, fun field' => ?_, houses.proper⟩
  have before := houses.tight field'
  have elsewhere : ((me, "_" ++ field') == (me, field)) = false := by
    have different : "_" ++ field' ≠ field := by
      rintro rfl
      exact isPublic (by rw [String.toList_append]; rfl)
    simpa using different
  have same : (a.setExtra me field d).being me = .worm w := houses.being
  unfold loose? extra? at before ⊢
  rw [houses.being] at before
  rw [same]
  dsimp only [Arena.setExtra] at before ⊢
  rw [List.lookup_cons, elsewhere]
  exact before

/-- The worm can begin another turn. -/
theorem exists_startTurn (houses : a.Houses me points w) :
    ∃ a', a.startTurn me = .ok a' ∧ a'.Houses me points w.startTurn := by
  refine ⟨a.setKept me "action_points" (.worm w.startTurn), ?_, houses.setKept rfl houses.proper.startTurn⟩
  unfold Arena.startTurn Arena.worm
  rw [houses.being, houses.tight]
  rfl

open Sandbox (Act)

/-- A host that writes a field of a worm leaves it proper. -/
theorem write (houses : a.Houses me points w) {field : String} {d : Datum} (isPublic : field.toList.head? ≠ some '_')
    (written : a.write me field d = .ok a') :
    ∃ w', a'.Houses me points w' ∧ (Act.change (.write me field d)).Leads me w w' := by
  unfold Arena.write at written
  rw [houses.being] at written
  dsimp only at written
  split at written
  · next same =>
    cases same
    obtain ⟨place, -, same⟩ := bind_eq_ok.mp written
    cases same
    exact ⟨_, houses.setKept rfl (houses.proper.place _ _), .inl rfl⟩
  · next same => cases same
  · next same =>
    cases same
    obtain ⟨quantity, reads, written⟩ := bind_eq_ok.mp written
    obtain ⟨angle, double, written⟩ := bind_eq_ok.mp written
    obtain ⟨w', turned, same⟩ := bind_eq_ok.mp written
    cases same
    have number : d.quantity? = some quantity := by
      unfold Datum.toQuantity at reads
      split at reads
      · next number =>
        cases reads
        exact number
      · cases reads
    obtain ⟨direction, normal, faced⟩ := bind_eq_ok.mp turned
    cases faced
    exact ⟨_, houses.setKept rfl (houses.proper.face turned), .inr ⟨angle, .write number double, normal⟩⟩
  · next same =>
    cases same
    obtain ⟨left, -, set⟩ := bind_eq_ok.mp written
    unfold setPoints at set
    rw [houses.tight] at set
    cases set
    exact ⟨_, houses.setKept rfl (houses.proper.withPoints left), .inl rfl⟩
  · split at written
    · cases written
    · rw [Being.kept?_of_public _ isPublic] at written
      cases written
      exact ⟨w, houses.setExtra isPublic d, .inl rfl⟩

/-- Whoever is asked for a deed, the worm stays proper. -/
theorem perform (houses : a.Houses me points w) (r : Records) (record : Record) :
    ∃ w', (Sandbox.perform a r record).2.1.Houses me points w' ∧ (Act.ask record).Leads me w w' := by
  by_cases own : record.entity = me
  · rw [Sandbox.perform_eq houses.tight houses.found r own]
    split
    · exact ⟨w, houses, .inl rfl⟩
    · next c costs =>
      split
      · exact ⟨w, houses, .inl rfl⟩
      · next affords =>
        have paid := houses.proper.withPoints (w.actionPoints - c)
        split
        · next w' done =>
          exact ⟨w', houses.setBeing (paid.effect done), Act.leads_effect own costs (affords ∘ .inr) done⟩
        · exact ⟨_, houses.setBeing paid, .inl rfl⟩
  · exact ⟨w, houses.spares (Sandbox.spares_perform r own), .inl rfl⟩

/-- So it does whatever a host changes, as long as it writes no field with an underscore in front. -/
theorem change (houses : a.Houses me points w) {step : WorldStep}
    (isPublic : ∀ id field d, step = .write id field d → field.toList.head? ≠ some '_')
    (changed : a.change step = .ok a') : ∃ w', a'.Houses me points w' ∧ (Act.change step).Leads me w w' := by
  cases step with
  | add id =>
    refine ⟨w, houses.spares ?_, .inl rfl⟩
    unfold Arena.change Arena.add at changed
    dsimp only at changed
    split at changed
    · cases changed
    · split at changed
      · cases changed
      · cases changed
        exact .members a _
  | remove id =>
    refine ⟨w, houses.spares ?_, .inl rfl⟩
    unfold Arena.change Arena.remove at changed
    dsimp only at changed
    split at changed
    · cases changed
    · split at changed
      · cases changed
        exact .members a _
      · cases changed
  | startTurn id =>
    by_cases own : id = me
    · subst own
      obtain ⟨after, started, kept⟩ := houses.exists_startTurn
      cases started.symm.trans changed
      exact ⟨_, kept, .inl rfl⟩
    · exact ⟨w, houses.spares (.startTurn own changed), .inl rfl⟩
  | write id field d =>
    by_cases own : id = me
    · subst own
      exact houses.write (isPublic id field d rfl) changed
    · exact ⟨w, houses.spares (.write own changed), .inl rfl⟩

end Arena.Houses

namespace Sandbox

/-! ### Sandboxes with a worm -/

/-- A recording handler in a world with a proper worm. -/
structure Houses (me : EntityId) (points : Float) (s : Sandbox) : Prop where
  keeper : ∃ r, s.keeper = .recording r
  arena : ∃ w, s.arena.Houses me points w

variable {me : EntityId} {points : Float} {s : Sandbox}

/-- A worm stays proper in an act, and heads where the act leads. -/
theorem exists_houses_apply {r : Records} (recording : s.keeper = .recording r) {w : Worm}
    (arena : s.arena.Houses me points w) {act : Act} (isPublic : act.IsPublic) :
    (∃ r', (act.apply s).keeper = .recording r') ∧
      ∃ w', (act.apply s).arena.Houses me points w' ∧ act.Leads me w w' := by
  cases act with
  | ask record =>
    unfold Act.apply handle
    rw [recording]
    exact ⟨⟨_, rfl⟩, arena.perform r record⟩
  | print d =>
    unfold Act.apply Sandbox.print
    rw [recording]
    exact ⟨⟨_, rfl⟩, w, arena, .inl rfl⟩
  | clear =>
    unfold Act.apply
    rw [recording]
    exact ⟨⟨_, rfl⟩, w, arena, .inl rfl⟩
  | change step =>
    unfold Act.apply
    dsimp only
    split
    · next changed =>
      refine ⟨⟨r, recording⟩, arena.change (fun id field d same => ?_) changed⟩
      subst same
      exact isPublic
    · exact ⟨⟨r, recording⟩, w, arena, .inl rfl⟩

theorem Houses.apply (houses : s.Houses me points) {act : Act} (isPublic : act.IsPublic) :
    (act.apply s).Houses me points := by
  obtain ⟨⟨r, recording⟩, w, arena⟩ := houses
  obtain ⟨keeper, w', arena', -⟩ := exists_houses_apply recording arena isPublic
  exact ⟨keeper, w', arena'⟩

theorem Houses.foldl (houses : s.Houses me points) {acts : List Act} (isPublic : ∀ act ∈ acts, act.IsPublic) :
    (acts.foldl Act.apply s).Houses me points := by
  induction acts generalizing s with
  | nil => exact houses
  | cons act acts ih =>
    exact ih (houses.apply (isPublic act List.mem_cons_self)) fun later member =>
      isPublic later (List.mem_cons_of_mem _ member)

/-! ### Answers -/

/-- What a whole deed leaves behind: it is recorded as an action, or as refused while the world is as it was, or there
is no trace of it. -/
inductive Atomic (a : Arena) (r : Records) (record : Record) : Except Fault Datum × Sandbox → Prop
  | performed (a' : Arena) :
    Atomic a r record (.ok (.truth true), { arena := a', keeper := .recording (r.addAction record) })
  | refused : Atomic a r record (.ok (.truth false), { arena := a, keeper := .recording (r.addRefused record) })
  | raised (f : Fault) : Atomic a r record (.error f, { arena := a, keeper := .recording r })

end Sandbox

/-- A deed that a worm pays for though no points are enough: a turn by no finite angle, with points without bound. -/
def Worm.Overdraws (w : Worm) : Deed → Prop
  | .turn angle => angle.isFinite = false ∧ ¬ w.IsBounded
  | _ => False

/-- What becomes of a worm that has paid for a turn by no finite angle: it has no points left, and the turn fails, or
leads to no direction. -/
inductive Worm.Overdrawn (w : Worm) (angle : Float) : Except Fault Datum → Worm → Prop
  | stuck (endless : Number.IsInfinite angle) (facing : Number.parts w.direction ≠ .nan) :
    Overdrawn w angle (.error { cause := .mathDomain }) { w with actionPoints := 0.0 }
  | lost (undefined : Number.parts angle = .nan ∨ Number.parts w.direction = .nan)
    (nowhere : Number.parts (w.direction + angle) = .nan) :
    Overdrawn w angle (.ok (.truth true)) { w with actionPoints := 0.0, direction := w.direction + angle }

namespace Arena.Houses

variable {me : EntityId} {points : Float} {a : Arena} {w : Worm}

open Sandbox

theorem handle_eq (houses : a.Houses me points w) (r : Records) {record : Record} (own : record.entity = me) :
    handle record { arena := a, keeper := .recording r } =
      match Sandbox.cost a me record.deed with
      | .error f => (.error f, { arena := a, keeper := .recording r })
      | .ok c =>
        if isHopeless c record.deed ∨ w.actionPoints < c then
          (.ok (.truth false), { arena := a, keeper := .recording (r.addRefused record) })
        else
          match effect (w.withPoints (w.actionPoints - c)) record.deed with
          | .ok w' =>
            (.ok (.truth true), { arena := a.setBeing me (.worm w'), keeper := .recording (r.addAction record) })
          | .error f =>
            (.error f, { arena := a.setBeing me (.worm (w.withPoints (w.actionPoints - c)))
                         keeper := .recording (r.addAction record) }) := by
  unfold handle
  dsimp only
  rw [perform_eq houses.tight houses.found r own]
  cases Sandbox.cost a me record.deed with
  | error f => rfl
  | ok c =>
    dsimp only
    split
    · rfl
    · cases effect (w.withPoints (w.actionPoints - c)) record.deed <;> rfl

/-- A turn by no finite angle has an infinite cost. -/
theorem cost_endless {angle : Float} (endless : angle.isFinite = false) :
    Sandbox.cost a me (.turn angle) = .ok (Number.infinity false) := by
  unfold Sandbox.cost
  dsimp only
  rw [Angle.turnCost_none_iff.mpr endless]
  rfl

/-- A deed that does not overdraw is whole. -/
theorem atomic_handle (houses : a.Houses me points w) (r : Records) {record : Record} (own : record.entity = me)
    (within : ¬ w.Overdraws record.deed) :
    Atomic a r record (handle record { arena := a, keeper := .recording r }) := by
  rw [houses.handle_eq r own]
  cases costs : Sandbox.cost a me record.deed with
  | error f => exact .raised f
  | ok c =>
    dsimp only
    split
    · exact .refused
    · next affords =>
      have counted : ∀ angle, record.deed = .turn angle → ∃ n, Angle.turnCost angle = .ok (some n) := by
        intro angle turn
        rw [turn] at costs within
        obtain ⟨n?, counts, same⟩ := bind_eq_ok.mp costs
        cases same
        cases n? with
        | none => exact absurd ⟨Angle.turnCost_none_iff.mp counts, fun bounded => affords (.inr bounded)⟩ within
        | some n => exact ⟨n, counts⟩
      obtain ⟨w', takes⟩ := exists_effect (houses.proper.withPoints (w.actionPoints - c)).direction counted
      rw [takes]
      exact .performed _

/-- A turn by no finite angle is refused to a worm with bounded points. -/
theorem handle_endless (houses : a.Houses me points w) (r : Records) {record : Record} (own : record.entity = me)
    {angle : Float} (turn : record.deed = .turn angle) (endless : angle.isFinite = false) (bounded : w.IsBounded) :
    handle record { arena := a, keeper := .recording r } =
      (.ok (.truth false), { arena := a, keeper := .recording (r.addRefused record) }) := by
  rw [houses.handle_eq r own, turn, cost_endless endless]
  exact if_pos (.inr bounded)

/-- A turn that overdraws is paid for, but is no turn. -/
theorem handle_overdraws (houses : a.Houses me points w) (r : Records) {record : Record} (own : record.entity = me)
    {angle : Float} (turn : record.deed = .turn angle) (overdraws : w.Overdraws (.turn angle)) :
    ∃ answer w', w.Overdrawn angle answer w' ∧ handle record { arena := a, keeper := .recording r } =
      (answer, { arena := a.setBeing me (.worm w'), keeper := .recording (r.addAction record) }) := by
  obtain ⟨endless, boundless⟩ := overdraws
  have poor : ¬ (isHopeless (Number.infinity false) (.turn angle) ∨ w.actionPoints < Number.infinity false) := by
    rintro (hopeless | poor)
    · cases hopeless
    · exact boundless poor
  have paid : w.withPoints (w.actionPoints - Number.infinity false) = { w with actionPoints := 0.0 } := by
    unfold Worm.withPoints
    rw [Number.larger_smaller_sub_infinity boundless]
  rw [houses.handle_eq r own, turn, cost_endless endless]
  dsimp only
  rw [if_neg poor, paid]
  unfold effect
  dsimp only
  rw [Worm.turnBy_standard, Worm.face_eq]
  obtain ⟨start, normal⟩ := houses.proper.direction
  by_cases lost : Number.parts angle = .nan ∨ Number.parts w.direction = .nan
  · have nowhere : (w.direction + angle).toModel.unpack = .notANumber := by
      obtain undefined | undefined := lost
      · exact Number.unpack_add_nan_right (Number.unpack_of_nan undefined) _
      · exact Number.unpack_add_nan (Number.unpack_of_nan undefined) _
    rw [Angle.normalize_undefined nowhere]
    exact ⟨_, _, .lost lost (Number.parts_of_undefined nowhere), rfl⟩
  · rw [not_or] at lost
    obtain ⟨defined, facing⟩ := lost
    obtain undefined | ⟨s, infinite⟩ := Number.undefined_or_infinite endless
    · exact absurd (Number.parts_of_undefined undefined) defined
    obtain undefined | small := Angle.within_normalize normal
    · exact absurd (Number.parts_of_undefined undefined) facing
    have sum := Number.infinite_of_unpack ⟨s, Number.unpack_add_infinity small infinite⟩
    rw [Angle.normalize_infinite sum]
    exact ⟨_, _, .stuck (Number.infinite_of_unpack ⟨s, infinite⟩) facing, rfl⟩

end Arena.Houses

namespace Sandbox

/-- However its host has used a worm and a recording handler from outside, every deed of the worm is whole, unless it
overdraws; a turn by no finite angle is refused, unless it overdraws. What overdraws is recorded as an action and takes
all points, but fails or leads to no direction. A worm that was made with a number of points below infinity never
overdraws. -/
theorem handle_atomic {x y direction radius hitPoints points : Float} {team : Option String} {name : String} {w : Worm}
    (made : Worm.make x y direction radius hitPoints points team name = .ok w) {me : EntityId} {start : Sandbox}
    {records : Records} (recording : start.keeper = .recording records)
    (found : start.arena.beings[me.index]? = some (.worm w)) (tight : start.arena.Tight me) {acts : List Act}
    (isPublic : ∀ act ∈ acts, act.IsPublic) :
    ∃ w' a r, acts.foldl Act.apply start = { arena := a, keeper := .recording r } ∧
      a.beings[me.index]? = some (.worm w') ∧
      (points < Number.infinity false → ∀ deed, ¬ w'.Overdraws deed) ∧
      ∀ record, record.entity = me →
        (¬ w'.Overdraws record.deed → Atomic a r record (handle record { arena := a, keeper := .recording r })) ∧
        ∀ angle, record.deed = .turn angle → angle.isFinite = false →
          (w'.IsBounded → handle record { arena := a, keeper := .recording r } =
            (.ok (.truth false), { arena := a, keeper := .recording (r.addRefused record) })) ∧
          (¬ w'.IsBounded → ∃ answer w'', w'.Overdrawn angle answer w'' ∧
            handle record { arena := a, keeper := .recording r } =
              (answer, { arena := a.setBeing me (.worm w''), keeper := .recording (r.addAction record) })) := by
  have housed : start.Houses me points := ⟨⟨records, recording⟩, w, found, tight, .make made⟩
  obtain ⟨⟨r, kept⟩, w', houses⟩ := housed.foldl isPublic
  refine ⟨w', (acts.foldl Act.apply start).arena, r, ?_, houses.found, fun below deed overdraws => ?_,
    fun record own => ⟨houses.atomic_handle r own, fun angle turn endless =>
      ⟨houses.handle_endless r own turn endless,
        fun boundless => houses.handle_overdraws r own turn ⟨endless, boundless⟩⟩⟩⟩
  · rw [← kept]
  · cases deed with
    | turn angle => exact overdraws.2 (houses.proper.bounded below)
    | move | jump | toggleWeapon | fire => exact overdraws

end Sandbox

namespace Giant

/-- A worm with infinitely many action points. -/
def worm : Worm :=
  (Worm.make 0.0 0.0 0.0 0.5 100.0 (Number.infinity false) none "giant").toOption.getD default

theorem make_worm : Worm.make 0.0 0.0 0.0 0.5 100.0 (Number.infinity false) none "giant" = .ok worm := by
  have accepted : (Worm.make 0.0 0.0 0.0 0.5 100.0 (Number.infinity false) none "giant").toOption.isSome = true := by
    decide +kernel
  obtain ⟨w, made⟩ := Option.isSome_iff_exists.mp accepted
  rw [worm, made]
  exact ok_of_toOption made

def sandbox : Sandbox where
  arena := { beings := #[.worm worm], members := [⟨0⟩] }

theorem tight : sandbox.arena.Tight ⟨0⟩ := Arena.tight_of_extras rfl _

theorem found : sandbox.arena.beings[(⟨0⟩ : EntityId).index]? = some (.worm worm) := rfl

theorem recording : sandbox.keeper = .recording {} := rfl

def turn (angle : Float) : Record := { deed := .turn angle, entity := ⟨0⟩ }

/-- The giant has moved, then begun another turn. -/
def acts : List Sandbox.Act := [.ask { deed := .move, entity := ⟨0⟩ }, .change (.startTurn ⟨0⟩)]

theorem isPublic : ∀ act ∈ acts, act.IsPublic := by simp [acts, Sandbox.Act.IsPublic]

/-- It is boundless, and has a direction. -/
theorem boundless {w : Worm} (found : (acts.foldl Sandbox.Act.apply sandbox).arena.beings[0]? = some (.worm w)) :
    ¬ w.IsBounded ∧ Number.parts w.direction ≠ .nan := by
  have facts : ((acts.foldl Sandbox.Act.apply sandbox).arena.beings[0]?.any fun b =>
      (b.number? .actionPoints).any (fun points => !decide (points < Number.infinity false)) &&
        (b.number? .direction).any fun angle => decide (Number.parts angle ≠ .nan)) = true := by decide +kernel
  rw [found] at facts
  simpa [Being.number?, Worm.number, Worm.IsBounded] using facts

end Giant

/-- The giant pays for an infinite turn, which fails then. -/
theorem giant_turns :
    Worm.make 0.0 0.0 0.0 0.5 100.0 (Number.infinity false) none "giant" = .ok Giant.worm ∧
      ∃ w a r, Giant.acts.foldl Sandbox.Act.apply Giant.sandbox = { arena := a, keeper := .recording r } ∧
        a.beings[0]? = some (.worm w) ∧
        Sandbox.Atomic a r { deed := .jump, entity := ⟨0⟩ }
          (Sandbox.handle { deed := .jump, entity := ⟨0⟩ } { arena := a, keeper := .recording r }) ∧
        Sandbox.handle (Giant.turn (Number.infinity false)) { arena := a, keeper := .recording r } =
          (.error { cause := .mathDomain }, {
            arena := a.setBeing ⟨0⟩ (.worm { w with actionPoints := 0.0 })
            keeper := .recording (r.addAction (Giant.turn (Number.infinity false))) }) := by
  obtain ⟨w, a, r, after, found, -, answers⟩ :=
    Sandbox.handle_atomic Giant.make_worm Giant.recording Giant.found Giant.tight Giant.isPublic
  obtain ⟨boundless, facing⟩ := Giant.boundless (by rw [after]; exact found)
  have jumps := (answers { deed := .jump, entity := ⟨0⟩ } rfl).1 id
  obtain ⟨answer, w', overdrawn, turned⟩ :=
    ((answers (Giant.turn (Number.infinity false)) rfl).2 _ rfl (by decide)).2 boundless
  refine ⟨Giant.make_worm, w, a, r, after, found, jumps, ?_⟩
  cases overdrawn with
  | stuck => exact turned
  | lost undefined =>
    obtain undefined | undefined := undefined
    · exact absurd undefined (by decide)
    · exact absurd undefined facing

/-- Deeds are not always whole, and turns by no finite angle are performed: a giant at the very start pays for an
infinite turn that fails, and is told that it has turned by an angle that is no number. -/
theorem giant_overdraws :
    Worm.make 0.0 0.0 0.0 0.5 100.0 (Number.infinity false) none "giant" = .ok Giant.worm ∧
      Giant.sandbox.arena.beings[0]? = some (.worm Giant.worm) ∧ Giant.sandbox.arena.Tight ⟨0⟩ ∧
      ¬ Sandbox.Atomic Giant.sandbox.arena {} (Giant.turn (Number.infinity false))
        (Sandbox.handle (Giant.turn (Number.infinity false)) Giant.sandbox) ∧
      (Sandbox.handle (Giant.turn (0.0 / 0.0)) Giant.sandbox).1 = .ok (.truth true) := by
  refine ⟨Giant.make_worm, Giant.found, Giant.tight, fun whole => ?_, ?_⟩
  · have failed : (Sandbox.handle (Giant.turn (Number.infinity false)) Giant.sandbox).1.toOption.isNone = true := by
      decide +kernel
    have recorded : ((Sandbox.handle (Giant.turn (Number.infinity false)) Giant.sandbox).2.keeper.records?.map
        (·.actions.size)) = some 1 := by decide +kernel
    generalize Sandbox.handle (Giant.turn (Number.infinity false)) Giant.sandbox = outcome at whole failed recorded
    cases whole with
    | performed | refused => cases failed
    | raised => cases recorded
  · have told : (Sandbox.perform Giant.sandbox.arena {} (Giant.turn (0.0 / 0.0))).1.toOption = some true := by
      decide +kernel
    unfold Sandbox.handle
    rw [Giant.recording]
    dsimp only
    rw [ok_of_toOption told]
    rfl

end WormLang
