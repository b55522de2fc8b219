import WormLang.Proofs.Number.Sum
import WormLang.Proofs.Soundness.Sandbox

/-!
Angles within one turn. However sums and differences are rounded, a finite angle has a direction from zero up to a full
turn, without the latter, which is its own direction; and two finite angles have one difference, whichever comes first.
-/
namespace WormLang.Angle

open Number

/-- Angles are added and subtracted exactly and the result is rounded, wherever it is in the range of doubles. -/
structure Arithmetic.RoundsBy (arithmetic : Arithmetic) (ρ : Rounding) : Prop where
  add : ∀ {x y top : Float}, x.isFinite = true → y.isFinite = true → top.isFinite = true →
    |value x + value y| ≤ value top →
      (arithmetic.add x y).isFinite = true ∧ value (arithmetic.add x y) = ρ.round (value x + value y)
  sub : ∀ {x y top : Float}, x.isFinite = true → y.isFinite = true → top.isFinite = true →
    |value x - value y| ≤ value top →
      (arithmetic.sub x y).isFinite = true ∧ value (arithmetic.sub x y) = ρ.round (value x - value y)

theorem Arithmetic.standard_add (x y : Float) : Arithmetic.standard.add x y = x + y := rfl

/-- Doubles are rounded to the nearest. -/
theorem Arithmetic.standard_roundsBy : Arithmetic.standard.RoundsBy .nearest := ⟨value_add, value_sub⟩

/-- A direction within one turn: zero is one, a full turn is none. -/
structure InTurn (direction : Float) : Prop where
  low : 0.0 ≤ direction
  high : direction < fullTurn

theorem isFinite_fullTurn : fullTurn.isFinite = true := by decide

theorem value_fullTurn_pos : 0 < value fullTurn := by
  rw [value_of_parts parts_fullTurn]
  exact magnitude_pos (by decide) _

variable {angle direction other : Float}

theorem inTurn_iff (finite : direction.isFinite = true) :
    InTurn direction ↔ 0 ≤ value direction ∧ value direction < value fullTurn := by
  rw [← value_zero, ← le_iff_value (by decide) finite, ← lt_iff_value finite isFinite_fullTurn]
  exact ⟨fun turn => ⟨turn.low, turn.high⟩, fun within => ⟨within.1, within.2⟩⟩

theorem InTurn.isFinite (turn : InTurn direction) : direction.isFinite = true :=
  isFinite_of_lt_of_lt (lt_of_lt_of_le (by decide : (-1.0 : Float) < 0.0) turn.low) turn.high

theorem InTurn.value (turn : InTurn direction) : 0 ≤ value direction ∧ value direction < value fullTurn :=
  (inTurn_iff turn.isFinite).mp turn

theorem inTurn_zero : InTurn 0.0 := ⟨by decide, by decide⟩

/-! ### Directions -/

/-- The remainder by a full turn is smaller than one. -/
theorem exists_remainder_fullTurn (finite : angle.isFinite = true) :
    ∃ r, remainder? angle fullTurn = some r ∧ r.isFinite = true ∧ |value r| < value fullTurn := by
  obtain ⟨negative, m, q, size⟩ := isFinite_iff.mp finite
  obtain ⟨r, k, l, -, remains, rest, small, -⟩ := exists_remainder size parts_fullTurn (by decide)
  refine ⟨r, remains, isFinite_iff.mpr ⟨negative, k, l, rest⟩, ?_⟩
  rw [value_of_parts rest, abs_signed, value_of_parts parts_fullTurn]
  exact small

/-- A finite angle has a direction within one turn. -/
theorem exists_normalizeBy {arithmetic : Arithmetic} {ρ : Rounding} (rounds : arithmetic.RoundsBy ρ)
    (finite : angle.isFinite = true) : ∃ d, normalizeBy arithmetic angle = .ok d ∧ InTurn d := by
  obtain ⟨r, remains, finite, small⟩ := exists_remainder_fullTurn finite
  obtain ⟨low, high⟩ := abs_lt.mp small
  unfold normalizeBy
  rw [remains]
  -- A negative remainder and a full turn have a positive sum, which rounding takes no further than a full turn.
  have turned : (if r < 0.0 then arithmetic.add r fullTurn else r).isFinite = true ∧
      0 ≤ value (if r < 0.0 then arithmetic.add r fullTurn else r) := by
    split
    · next negative =>
      rw [lt_iff_value finite (by decide), value_zero] at negative
      have sum : 0 ≤ value r + value fullTurn := by linarith
      have within : |value r + value fullTurn| ≤ value fullTurn := by
        rw [abs_of_nonneg sum]
        linarith
      obtain ⟨ends, rounded⟩ := rounds.add finite isFinite_fullTurn isFinite_fullTurn within
      rw [rounded]
      exact ⟨ends, ρ.nonneg sum⟩
    · next nonnegative =>
      rw [lt_iff_value finite (by decide), value_zero, not_lt] at nonnegative
      exact ⟨finite, nonnegative⟩
  dsimp only
  generalize (if r < 0.0 then arithmetic.add r fullTurn else r) = r' at turned ⊢
  obtain ⟨ends, nonneg⟩ := turned
  refine ⟨_, rfl, ?_⟩
  split
  · exact inTurn_zero
  · next below =>
    refine (inTurn_iff ends).mpr ⟨nonneg, ?_⟩
    rwa [ge_iff_le, le_iff_value isFinite_fullTurn ends, not_le] at below

/-- A direction within one turn is its own. -/
theorem InTurn.normalizeBy (turn : InTurn direction) (arithmetic : Arithmetic) :
    normalizeBy arithmetic direction = .ok direction := by
  have finite := turn.isFinite
  obtain ⟨low, high⟩ := turn.value
  have remains : remainder? direction fullTurn = some direction := by
    refine remainder?_of_lt finite isFinite_fullTurn ?_
    rwa [abs_of_nonneg low, abs_of_pos value_fullTurn_pos]
  have positive : ¬ direction < 0.0 := not_lt_of_le turn.low
  have below : ¬ direction ≥ fullTurn := fun above => not_lt_of_le above turn.high
  unfold Angle.normalizeBy
  rw [remains]
  dsimp only
  rw [if_neg positive, if_neg below]

/-! ### Differences -/

section

variable {arithmetic : Arithmetic} {ρ : Rounding} (rounds : arithmetic.RoundsBy ρ)

include rounds

/-- The gap between two directions is less than a full turn before it is rounded, and at most one after. It is the
same from both sides, as rounding is. -/
theorem InTurn.gap (first : InTurn direction) (second : InTurn other) :
    (arithmetic.sub direction other).abs.isFinite = true ∧ 0 ≤ Number.value (arithmetic.sub direction other).abs ∧
      Number.value (arithmetic.sub direction other).abs ≤ Number.value fullTurn ∧
      (arithmetic.sub other direction).abs = (arithmetic.sub direction other).abs := by
  obtain ⟨low, high⟩ := first.value
  obtain ⟨low', high'⟩ := second.value
  have within : |Number.value direction - Number.value other| ≤ Number.value fullTurn :=
    abs_le.mpr ⟨by linarith, by linarith⟩
  obtain ⟨ends, rounded⟩ := rounds.sub first.isFinite second.isFinite isFinite_fullTurn within
  obtain ⟨ends', rounded'⟩ :=
    rounds.sub second.isFinite first.isFinite isFinite_fullTurn (by rwa [abs_sub_comm] at within)
  have opposite : Number.value (arithmetic.sub other direction) = -Number.value (arithmetic.sub direction other) := by
    rw [rounded, rounded', ← ρ.neg, neg_sub]
  refine ⟨isFinite_abs ends, ?_, ?_, abs_eq_of_value ends' ends (by rw [opposite, abs_neg])⟩
  · rw [value_abs ends]
    exact abs_nonneg _
  · rw [value_abs ends, rounded]
    exact ρ.abs_le_value isFinite_fullTurn within

/-- What a gap leaves of a full turn. -/
theorem rest_of_gap {gap : Float} (finite : gap.isFinite = true) (low : 0 ≤ value gap)
    (high : value gap ≤ value fullTurn) :
    (arithmetic.sub fullTurn gap).isFinite = true ∧ 0 ≤ value (arithmetic.sub fullTurn gap) ∧
      value (arithmetic.sub fullTurn gap) ≤ value fullTurn := by
  have rest : 0 ≤ value fullTurn - value gap := by linarith
  obtain ⟨ends, rounded⟩ := rounds.sub isFinite_fullTurn finite isFinite_fullTurn (by
    rw [abs_of_nonneg rest]
    linarith)
  rw [rounded]
  exact ⟨ends, ρ.nonneg rest, ρ.le_value isFinite_fullTurn (by linarith)⟩

/-- Two finite angles have a difference from zero to a full turn, which is the same the other way round. -/
theorem exists_differenceBy (first : angle.isFinite = true) (second : other.isFinite = true) :
    ∃ d, differenceBy arithmetic angle other = .ok d ∧ 0.0 ≤ d ∧ d ≤ fullTurn ∧
      differenceBy arithmetic other angle = .ok d := by
  obtain ⟨a, normal, turn⟩ := exists_normalizeBy rounds first
  obtain ⟨b, normal', turn'⟩ := exists_normalizeBy rounds second
  obtain ⟨finite, low, high, same⟩ := turn.gap rounds turn'
  unfold differenceBy
  rw [normal, normal']
  refine ⟨_, rfl, ?_⟩
  simp only [bind, Except.bind, pure, Except.pure, same, and_true]
  generalize (arithmetic.sub a b).abs = gap at finite low high
  obtain ⟨finite', low', high'⟩ := rest_of_gap rounds finite low high
  unfold smaller
  rw [← value_zero] at low low'
  split
  · exact ⟨(le_iff_value (by decide) finite').mpr low', (le_iff_value finite' isFinite_fullTurn).mpr high'⟩
  · exact ⟨(le_iff_value (by decide) finite).mpr low, (le_iff_value finite isFinite_fullTurn).mpr high⟩

/-! ### Turns -/

/-- A turn that has a cost, from a direction within one turn, is to a finite angle. -/
theorem InTurn.isFinite_add (turn : InTurn direction) {points : Nat} (cost : turnCost angle = .ok (some points)) :
    (arithmetic.add direction angle).isFinite = true := by
  obtain ⟨low, high⟩ := turn.value
  have small := abs_value_le_of_within (within_of_cost cost)
  have modest : Within 967 fullTurn.toModel.unpack := by
    rw [unpack_eq, parts_fullTurn]
    exact (by decide : (-50 : ℤ) ≤ 967)
  have full := (le_abs_self _).trans (abs_value_le_of_within modest)
  have within : |Number.value direction + Number.value angle| ≤ Number.value largest := calc
    |Number.value direction + Number.value angle| ≤ |Number.value direction| + |Number.value angle| := abs_add_le _ _
    _ ≤ 2 ^ (53 + 967 : ℤ) + 2 ^ (53 + 967 : ℤ) := add_le_add (by rw [abs_of_nonneg low]; linarith) small
    _ = 2 ^ (50 : ℤ) * 2 ^ (971 : ℤ) := by
      rw [← two_mul, ← zpow_add₀ (by norm_num), ← zpow_one_add₀ (by norm_num)]
      norm_num
    _ ≤ Number.value largest := by
      rw [value_largest]
      exact mul_le_mul_of_nonneg_right (by norm_num) (two_zpow_pos _).le
  exact (rounds.add turn.isFinite (isFinite_of_cost cost) (by decide +kernel) within).1

end

end WormLang.Angle
