import WormLang.Proofs.Number.Whole
import WormLang.Proofs.Sandbox.Atomicity

/-!
Action points as an account of whole numbers. A worm with at most `2 ^ 53` points has exactly what its deeds since the
beginning of its turn have left of them, and a deed is refused if and only if that is less than it costs. The limits that
a worm keeps its points in never hide anything.
-/
namespace WormLang

/-! ### Costs as whole numbers -/

/-- A turn must have a number of points as its cost. -/
def Deed.IsCounted : Deed → Prop
  | .turn angle => ∃ n, Angle.turnCost angle = .ok (some n)
  | _ => True

/-- What a deed costs a worm that has some points left; a jump costs all of them. -/
def Deed.price (left : Nat) : Deed → Nat
  | .turn angle =>
    match Angle.turnCost angle with
    | .ok (some n) => n
    | _ => 0
  | .move => 1
  | .jump => left
  | .toggleWeapon => 0
  | .fire _ => 10

/-- Whether a deed is refused to a worm that has some points left: it costs more, or it is a jump without any. -/
def Deed.isRefused (left : Nat) (deed : Deed) : Bool :=
  decide (left < deed.price left) ||
    match deed with
    | .jump => left == 0
    | _ => false

/-! ### Ledgers -/

/-- A line in the ledger of a worm. -/
inductive Line where
  /-- A turn has begun. -/
  | begun
  /-- A deed was done at a price. -/
  | done (record : Record) (price : Nat)
  | refused (record : Record)

namespace Line

def record? : Line → Option Record
  | begun => none
  | done record _ | refused record => some record

def action? : Line → Option Record
  | done record _ => some record
  | _ => none

def refusal? : Line → Option Record
  | refused record => some record
  | _ => none

/-- What has been spent since a turn began, with a line more. -/
def add (spent : Nat) : Line → Nat
  | begun => 0
  | done _ price => spent + price
  | refused _ => spent

end Line

/-- The ledger of a worm, in the order of what it was asked for. -/
abbrev Ledger := List Line

namespace Ledger

/-- What the deeds have cost since the last turn began, or from the start. -/
def spent (ledger : Ledger) : Nat := ledger.foldl Line.add 0

def left (points : Nat) (ledger : Ledger) : Nat := points - ledger.spent

/-- The ledger after an act of the host. -/
def enter (points : Nat) (ledger : Ledger) : Sandbox.Act → Ledger
  | .ask record =>
    ledger ++ [if record.deed.isRefused (ledger.left points) then .refused record
      else .done record (record.deed.price (ledger.left points))]
  | .change (.startTurn _) => ledger ++ [.begun]
  | _ => ledger

theorem spent_append (ledger : Ledger) (line : Line) : spent (ledger ++ [line]) = line.add ledger.spent := by
  simp [spent]

end Ledger

namespace Sandbox.Act

def record? : Act → Option Record
  | ask record => some record
  | _ => none

/-- A turn of a worm begins, or it is asked for a deed whose cost can be counted. -/
def IsCounted (me : EntityId) : Act → Prop
  | ask record => record.entity = me ∧ record.deed.IsCounted
  | change (.startTurn id) => id = me
  | _ => False

end Sandbox.Act

/-! ### Costs as doubles -/

open Number (IsWhole)

theorem Sandbox.isWhole_costOf {angle : Float} {n : Nat} (counts : Angle.turnCost angle = .ok (some n)) :
    IsWhole n (costOf (some n)) := by
  unfold Angle.turnCost at counts
  split at counts
  · split at counts
    · next z rounds =>
      cases counts
      obtain zero | ⟨m, j, digits, fits⟩ := Number.digits_of_ceiling rounds
      · rw [zero]
        exact (by decide +kernel : IsWhole 0 (costOf (some 0)))
      · exact digits.isWhole_nearest fits
    · cases counts
  · cases counts

namespace Arena.Houses

variable {me : EntityId} {points : Float} {a : Arena} {w : Worm} {left : Nat}

/-- A deed costs its price. -/
theorem isWhole_cost (houses : a.Houses me points w) (whole : IsWhole left w.actionPoints) {deed : Deed}
    (counted : deed.IsCounted) : ∃ c, Sandbox.cost a me deed = .ok c ∧ IsWhole (deed.price left) c := by
  cases deed with
  | turn angle =>
    obtain ⟨n, counts⟩ := counted
    have price : (Deed.turn angle).price left = n := by
      unfold Deed.price
      dsimp only
      rw [counts]
    refine ⟨Sandbox.costOf (some n), ?_, ?_⟩
    · unfold Sandbox.cost
      dsimp only
      rw [counts]
      rfl
    · rw [price]
      exact Sandbox.isWhole_costOf counts
  | jump => exact ⟨w.actionPoints, Sandbox.points_eq houses.tight houses.being _ _, whole⟩
  | move => exact ⟨1.0, rfl, (by decide +kernel : IsWhole 1 1.0)⟩
  | toggleWeapon => exact ⟨0.0, rfl, Number.isWhole_zero⟩
  | fire => exact ⟨10.0, rfl, (by decide +kernel : IsWhole 10 10.0)⟩

end Arena.Houses

/-- A deed is refused as its price says. -/
theorem Deed.isRefused_iff {w : Worm} {left : Nat} (whole : IsWhole left w.actionPoints) {deed : Deed} {c : Float}
    (price : IsWhole (deed.price left) c) :
    deed.isRefused left = true ↔ Sandbox.isHopeless c deed ∨ w.actionPoints < c := by
  rw [whole.lt_iff price]
  unfold isRefused Sandbox.isHopeless
  cases deed with
  | jump =>
    have none : c ≤ 0.0 ↔ left ≤ 0 := Number.IsWhole.le_iff price Number.isWhole_zero
    simp [none, or_comm]
  | turn | move | toggleWeapon | fire => simp

theorem Deed.price_le {left : Nat} {deed : Deed} (done : ¬ deed.isRefused left = true) : deed.price left ≤ left := by
  unfold isRefused at done
  simp at done
  exact done.1

/-- What a deed does once it is paid for changes no points. -/
theorem Sandbox.actionPoints_effect {w w' : Worm} {deed : Deed} (done : effect w deed = .ok w') :
    w'.actionPoints = w.actionPoints := by
  cases deed with
  | turn angle =>
    obtain ⟨d, -, same⟩ := bind_eq_ok.mp done
    cases same
    rfl
  | move | jump | toggleWeapon | fire =>
    cases done
    rfl

/-- Paying leaves the difference, which is within the limits of the worm. -/
theorem Worm.isWhole_withPoints {w : Worm} {points left price : Nat} {c : Float}
    (most : IsWhole points w.maxActionPoints) (small : points ≤ 2 ^ 53) (whole : IsWhole left w.actionPoints)
    (within : left ≤ points) (costs : IsWhole price c) (affords : price ≤ left) :
    IsWhole (left - price) (w.withPoints (w.actionPoints - c)).actionPoints :=
  (whole.sub costs affords (within.trans small)).clamp most (by omega)

/-- Asked for a deed, a handler refuses it or does it at its price, as the whole numbers say. -/
theorem Arena.Houses.handle_counted {me : EntityId} {M : Float} {a : Arena} {w : Worm} (houses : a.Houses me M w)
    {points left : Nat} (most : IsWhole points M) (small : points ≤ 2 ^ 53) (whole : IsWhole left w.actionPoints)
    (within : left ≤ points) (r : Records) {record : Record} (own : record.entity = me)
    (counted : record.deed.IsCounted) :
    (record.deed.isRefused left = true ∧ Sandbox.handle record { arena := a, keeper := .recording r } =
      (.ok (.truth false), { arena := a, keeper := .recording (r.addRefused record) })) ∨
    (record.deed.isRefused left = false ∧ ∃ w', w'.Proper M ∧
      IsWhole (left - record.deed.price left) w'.actionPoints ∧
      Sandbox.handle record { arena := a, keeper := .recording r } =
        (.ok (.truth true), { arena := a.setBeing me (.worm w'), keeper := .recording (r.addAction record) })) := by
  obtain ⟨c, costs, price⟩ := houses.isWhole_cost whole counted
  rw [houses.handle_eq r own, costs]
  dsimp only
  by_cases refused : record.deed.isRefused left = true
  · exact .inl ⟨refused, if_pos ((Deed.isRefused_iff whole price).mp refused)⟩
  · right
    have paid := houses.proper.withPoints (w.actionPoints - c)
    have turns : ∀ angle, record.deed = .turn angle → ∃ n, Angle.turnCost angle = .ok (some n) := by
      intro angle turn
      rw [turn] at counted
      exact counted
    obtain ⟨w', takes⟩ := Sandbox.exists_effect paid.direction turns
    refine ⟨by simpa using refused, w', paid.effect takes, ?_, ?_⟩
    · rw [Sandbox.actionPoints_effect takes]
      rw [← houses.proper.maxPoints] at most
      exact Worm.isWhole_withPoints most small whole within price (Deed.price_le refused)
    · rw [if_neg (mt (Deed.isRefused_iff whole price).mpr refused), takes]

/-! ### Accounts -/

/-- A sandbox as the ledger of its worm says, from the records that its handler had at first. -/
structure Sandbox.Accords (me : EntityId) (M : Float) (points : Nat) (first : Records) (ledger : Ledger) (s : Sandbox) :
    Prop where
  balance : ledger.left points + ledger.spent = points
  arena : ∃ w, s.arena.Houses me M w ∧ IsWhole (ledger.left points) w.actionPoints
  keeper : ∃ r, s.keeper = .recording r ∧ r.printed = first.printed ∧
    r.actions.toList = first.actions.toList ++ ledger.filterMap Line.action? ∧
    r.refused.toList = first.refused.toList ++ ledger.filterMap Line.refusal?

namespace Sandbox.Accords

variable {me : EntityId} {M : Float} {points : Nat} {first : Records} {ledger : Ledger} {s : Sandbox}

theorem enter (accords : s.Accords me M points first ledger) (most : IsWhole points M) (small : points ≤ 2 ^ 53)
    {act : Act} (counted : act.IsCounted me) : (act.apply s).Accords me M points first (ledger.enter points act) := by
  obtain ⟨balance, ⟨w, houses, whole⟩, r, recording, printed, actions, refused⟩ := accords
  obtain ⟨a, keeper⟩ := s
  cases recording
  dsimp only at houses
  cases act with
  | ask record =>
    obtain ⟨own, counted⟩ := counted
    unfold Ledger.enter Sandbox.Act.apply
    dsimp only
    obtain ⟨refuses, handled⟩ | ⟨does, w', proper, rest, handled⟩ :=
      houses.handle_counted most small whole (by omega) r own counted
    · have same : Ledger.spent (ledger ++ [.refused record]) = ledger.spent := Ledger.spent_append ledger _
      have kept : Ledger.left points (ledger ++ [.refused record]) = ledger.left points := congrArg (points - ·) same
      rw [handled, if_pos refuses]
      refine ⟨by rw [kept, same, balance], ⟨w, houses, by rwa [kept]⟩, _, rfl, printed, ?_, ?_⟩
      · simpa [Records.addRefused, List.filterMap_cons, Line.action?] using actions
      · simp [Records.addRefused, Line.refusal?, refused]
    · have more : Ledger.spent (ledger ++ [.done record (record.deed.price (ledger.left points))]) =
          ledger.spent + record.deed.price (ledger.left points) := Ledger.spent_append ledger _
      have less : Ledger.left points (ledger ++ [.done record (record.deed.price (ledger.left points))]) =
          ledger.left points - record.deed.price (ledger.left points) := by
        unfold Ledger.left at more ⊢
        omega
      have affords := Deed.price_le (by simp [does] : ¬ record.deed.isRefused (ledger.left points) = true)
      rw [handled, if_neg (by simp [does])]
      refine ⟨by omega, ⟨w', houses.setBeing proper, by rwa [less]⟩, _, rfl, printed, ?_, ?_⟩
      · simp [Records.addAction, Line.action?, actions]
      · simpa [Records.addAction, List.filterMap_cons, Line.refusal?] using refused
  | change step =>
    cases step with
    | startTurn id =>
      cases counted
      have begins : Ledger.spent (ledger ++ [.begun]) = 0 := Ledger.spent_append ledger _
      have full : Ledger.left points (ledger ++ [.begun]) = points := by
        unfold Ledger.left
        omega
      obtain ⟨a', started, houses'⟩ := houses.exists_startTurn
      unfold Ledger.enter Sandbox.Act.apply Arena.change
      dsimp only
      rw [started]
      refine ⟨by omega, ⟨_, houses', ?_⟩, r, rfl, printed, ?_, ?_⟩
      · rw [full]
        rwa [← houses.proper.maxPoints] at most
      · simpa [List.filterMap_cons, Line.action?] using actions
      · simpa [List.filterMap_cons, Line.refusal?] using refused
    | add | remove | write => exact counted.elim
  | print | clear => exact counted.elim

/-- So it is after any number of acts. -/
theorem foldl (accords : s.Accords me M points first ledger) (most : IsWhole points M) (small : points ≤ 2 ^ 53)
    {acts : List Act} (counted : ∀ act ∈ acts, act.IsCounted me) :
    (acts.foldl Act.apply s).Accords me M points first (acts.foldl (Ledger.enter points) ledger) := by
  induction acts generalizing s ledger with
  | nil => exact accords
  | cons act acts ih =>
    exact ih (accords.enter most small (counted act List.mem_cons_self)) fun later member =>
      counted later (List.mem_cons_of_mem _ member)

end Sandbox.Accords

theorem Ledger.record?_enter (points : Nat) (ledger : Ledger) {me : EntityId} {act : Sandbox.Act}
    (counted : act.IsCounted me) :
    (ledger.enter points act).filterMap Line.record? = ledger.filterMap Line.record? ++ act.record?.toList := by
  cases act with
  | ask record =>
    unfold enter
    dsimp only
    split <;> simp [Line.record?, Sandbox.Act.record?]
  | change step =>
    cases step with
    | startTurn id => simp [enter, List.filterMap_cons, Line.record?, Sandbox.Act.record?]
    | add | remove | write => exact counted.elim
  | print | clear => exact counted.elim

/-- Every deed that was asked for is in the ledger once, in order. -/
theorem Ledger.record?_foldl (points : Nat) (ledger : Ledger) {me : EntityId} {acts : List Sandbox.Act}
    (counted : ∀ act ∈ acts, act.IsCounted me) :
    (acts.foldl (enter points) ledger).filterMap Line.record? =
      ledger.filterMap Line.record? ++ acts.filterMap Sandbox.Act.record? := by
  induction acts generalizing ledger with
  | nil => simp
  | cons act acts ih =>
    rw [List.foldl_cons, ih _ fun later member => counted later (List.mem_cons_of_mem _ member),
      record?_enter points ledger (counted act List.mem_cons_self)]
    cases asked : act.record? <;> simp [asked]

namespace Sandbox

/-- A worm that was made with a whole number of points, `2 ^ 53` at most, has exactly what is left of them by its ledger,
whatever turns it has begun and whatever deeds it was asked for: the points that it was made with, without the prices of
the deeds that it has done since its turn began. The handler has the deeds that were done and those that were refused,
in order, every one once. A deed is refused if and only if the points are below its price, or it is a jump without
points. -/
theorem ledger_exact {x y direction radius hitPoints M : Float} {team : Option String} {name : String} {w : Worm}
    (made : Worm.make x y direction radius hitPoints M team name = .ok w) {points : Nat} (whole : IsWhole points M)
    (small : points ≤ 2 ^ 53) {me : EntityId} {start : Sandbox} {first : Records}
    (recording : start.keeper = .recording first) (found : start.arena.beings[me.index]? = some (.worm w))
    (tight : start.arena.Tight me) {acts : List Act} (counted : ∀ act ∈ acts, act.IsCounted me) :
    ∃ (ledger : Ledger) (w' : Worm) (a : Arena) (r : Records), ledger = acts.foldl (Ledger.enter points) [] ∧
      ledger.filterMap Line.record? = acts.filterMap Act.record? ∧
      acts.foldl Act.apply start = { arena := a, keeper := .recording r } ∧
      a.beings[me.index]? = some (.worm w') ∧ IsWhole (ledger.left points) w'.actionPoints ∧
      ledger.left points + ledger.spent = points ∧
      r.actions.toList = first.actions.toList ++ ledger.filterMap Line.action? ∧
      r.refused.toList = first.refused.toList ++ ledger.filterMap Line.refusal? ∧
      ∀ record, record.entity = me → record.deed.IsCounted →
        (handle record { arena := a, keeper := .recording r }).1 =
          .ok (.truth (!record.deed.isRefused (ledger.left points))) := by
  have full : IsWhole points w.actionPoints := by
    obtain ⟨d, -, same⟩ := bind_eq_ok.mp made
    cases same
    exact whole
  have accords : start.Accords me M points first [] :=
    ⟨by simp [Ledger.left, Ledger.spent], ⟨w, ⟨found, tight, .make made⟩, full⟩, first, recording, rfl, by simp,
      by simp⟩
  obtain ⟨balance, ⟨w', houses, whole'⟩, r, kept, -, actions, refused⟩ := accords.foldl whole small counted
  refine ⟨_, w', (acts.foldl Act.apply start).arena, r, rfl, Ledger.record?_foldl points [] counted, by rw [← kept],
    houses.found, whole', balance, actions, refused, fun record own countable => ?_⟩
  obtain ⟨refuses, handled⟩ | ⟨does, _, -, -, handled⟩ :=
    houses.handle_counted whole small whole' (by omega) r own countable
  · rw [handled, refuses]
    rfl
  · rw [handled, does]
    rfl

end Sandbox

namespace Rover

def worm : Worm := (Worm.make 0.0 0.0 0.0 0.5 100.0 13.0 none "rover").toOption.getD default

theorem make_worm : Worm.make 0.0 0.0 0.0 0.5 100.0 13.0 none "rover" = .ok worm := by
  have accepted : (Worm.make 0.0 0.0 0.0 0.5 100.0 13.0 none "rover").toOption.isSome = true := by decide +kernel
  obtain ⟨w, made⟩ := Option.isSome_iff_exists.mp accepted
  rw [worm, made]
  exact ok_of_toOption made

def sandbox : Sandbox where
  arena := { beings := #[.worm worm], members := [⟨0⟩] }

theorem tight : sandbox.arena.Tight ⟨0⟩ := Arena.tight_of_extras rfl _

theorem found : sandbox.arena.beings[(⟨0⟩ : EntityId).index]? = some (.worm worm) := rfl

theorem recording : sandbox.keeper = .recording {} := rfl

def ask (deed : Deed) : Sandbox.Act := .ask { deed, entity := ⟨0⟩ }

/-- It fires twice, for want of points only once, moves and jumps with what is left, then turns in another turn. -/
def acts : List Sandbox.Act :=
  [ask (.fire 1), ask .move, ask (.fire 2), ask .jump, ask .jump, .change (.startTurn ⟨0⟩), ask (.turn 0.2)]

theorem counted : ∀ act ∈ acts, act.IsCounted ⟨0⟩ := by
  have turn : ∃ n, Angle.turnCost 0.2 = .ok (some n) := ⟨2, ok_of_toOption (by decide +kernel)⟩
  simpa [acts, ask, Sandbox.Act.IsCounted, Deed.IsCounted] using turn

end Rover

/-- The rover has eleven points left of thirteen. -/
theorem rover_ledger_exact :
    Worm.make 0.0 0.0 0.0 0.5 100.0 13.0 none "rover" = .ok Rover.worm ∧
      ∃ w a r, Rover.acts.foldl Sandbox.Act.apply Rover.sandbox = { arena := a, keeper := .recording r } ∧
        a.beings[0]? = some (.worm w) ∧ IsWhole 11 w.actionPoints ∧
        r.actions.toList.map (·.deed.word) = ["fire", "move", "jump", "turn"] ∧
        r.refused.toList.map (·.deed.word) = ["fire", "jump"] := by
  obtain ⟨ledger, w, a, r, rfl, -, after, found, whole, -, actions, refused, -⟩ :=
    Sandbox.ledger_exact Rover.make_worm (by decide +kernel : IsWhole 13 13.0) (by decide) Rover.recording Rover.found
      Rover.tight Rover.counted
  have left : Ledger.left 13 (Rover.acts.foldl (Ledger.enter 13) []) = 11 := by decide +kernel
  rw [left] at whole
  refine ⟨Rover.make_worm, w, a, r, after, found, whole, ?_, ?_⟩
  · rw [actions]
    decide +kernel
  · rw [refused]
    decide +kernel

end WormLang
