import WormLang.Proofs.Number.Value

/-!
Sums of doubles. A way of rounding is monotone, leaves doubles alone, and treats both signs alike. One of them takes
the nearest number with 53 binary digits, an even one if there are two. Adding and subtracting doubles is exact and
then rounded this way, unless the result is out of the range of doubles.
-/
namespace WormLang.Number

open Float.Model (Format UnpackedFloat)
open Float.Model.UnpackedFloat

/-- A way of rounding to doubles, taken as rational numbers. -/
structure Rounding where
  round : ℚ → ℚ
  monotone : Monotone round
  /-- Doubles are left alone. -/
  fixes : ∀ {x : Float}, x.isFinite = true → round (value x) = value x
  /-- Both signs are treated alike. -/
  neg : ∀ v, round (-v) = -round v

namespace Rounding

variable (ρ : Rounding) {x y : Float} {v : ℚ}

theorem zero : ρ.round 0 = 0 := by
  rw [← value_zero]
  exact ρ.fixes (by decide)

theorem nonneg (low : 0 ≤ v) : 0 ≤ ρ.round v := by
  rw [← ρ.zero]
  exact ρ.monotone low

/-- What is not above a double is not rounded above it. -/
theorem le_value (finite : y.isFinite = true) (high : v ≤ value y) : ρ.round v ≤ value y := by
  rw [← ρ.fixes finite]
  exact ρ.monotone high

theorem abs_le_value (finite : y.isFinite = true) (within : |v| ≤ value y) : |ρ.round v| ≤ value y := by
  obtain ⟨low, high⟩ := abs_le.mp within
  refine abs_le.mpr ⟨?_, ρ.le_value finite high⟩
  have below := ρ.le_value finite (neg_le.mp low)
  rw [ρ.neg] at below
  exact neg_le.mp below

end Rounding

/-! ### Whole numbers -/

def nearestWhole (v : ℚ) : ℤ :=
  if v - ⌊v⌋ < 1 / 2 then ⌊v⌋ else if 1 / 2 < v - ⌊v⌋ then ⌊v⌋ + 1 else ⌊v⌋ + ⌊v⌋ % 2

theorem nearestWhole_near (v : ℚ) : |(nearestWhole v : ℚ) - v| ≤ 1 / 2 := by
  have low := Int.floor_le v
  have high := Int.lt_floor_add_one v
  unfold nearestWhole
  split
  · rw [abs_le]
    constructor <;> linarith
  · split
    · push_cast
      rw [abs_le]
      constructor <;> linarith
    · obtain even | odd : ⌊v⌋ % 2 = 0 ∨ ⌊v⌋ % 2 = 1 := by omega
      · rw [even, abs_le]
        push_cast
        constructor <;> linarith
      · rw [odd, abs_le]
        push_cast
        constructor <;> linarith

theorem nearestWhole_cast (n : ℤ) : nearestWhole n = n := by simp [nearestWhole]

/-- Two numbers that are rounded the wrong way round would have to be halfway between, and the same. -/
theorem nearestWhole_monotone : Monotone nearestWhole := by
  intro v w le
  by_contra less
  have apart : (nearestWhole w : ℚ) + 1 ≤ nearestWhole v := by exact_mod_cast not_le.mp less
  have nearV := abs_le.mp (nearestWhole_near v)
  have nearW := abs_le.mp (nearestWhole_near w)
  obtain rfl : v = w := by linarith
  exact less le_rfl

theorem nearestWhole_le {v : ℚ} {n : ℤ} (le : v ≤ n) : nearestWhole v ≤ n := by
  rw [← nearestWhole_cast n]
  exact nearestWhole_monotone le

theorem le_nearestWhole {v : ℚ} {n : ℤ} (le : n ≤ v) : n ≤ nearestWhole v := by
  rw [← nearestWhole_cast n]
  exact nearestWhole_monotone le

/-! ### Numbers with 53 digits -/

/-- The exponent of the last digit that a double has room for. -/
def lastPlace (v : ℚ) : ℤ := max (Int.log 2 v - 52) (-1074)

/-- The nearest number with 53 digits, for what is not negative. -/
def nearestMagnitude (v : ℚ) : ℚ := nearestWhole (v / 2 ^ lastPlace v) * 2 ^ lastPlace v

/-- The nearest number with 53 digits. -/
def nearestValue (v : ℚ) : ℚ := if v < 0 then -nearestMagnitude (-v) else nearestMagnitude v

/-- Where the last digit of a number stands: the number has at most 53 digits up to there, and exactly 53 if this
is not the last place of all. -/
structure EndsAt (v : ℚ) (e : ℤ) : Prop where
  least : -1074 ≤ e
  small : v < 2 ^ (53 + e)
  full : 2 ^ (52 + e) ≤ v ∨ e = -1074

theorem log_bounds {v : ℚ} (positive : 0 < v) : (2 : ℚ) ^ Int.log 2 v ≤ v ∧ v < 2 ^ (Int.log 2 v + 1) :=
  ⟨Int.zpow_log_le_self (by decide) positive, Int.lt_zpow_succ_log_self (by decide) v⟩

theorem endsAt_lastPlace {v : ℚ} (positive : 0 < v) : EndsAt v (lastPlace v) := by
  obtain ⟨low, high⟩ := log_bounds positive
  refine ⟨le_max_right _ _, high.trans_le (zpow_le_zpow_right₀ (by norm_num) ?_), ?_⟩
  · unfold lastPlace
    omega
  · by_cases least : lastPlace v = -1074
    · exact .inr least
    · left
      have place : 52 + lastPlace v = Int.log 2 v := by
        unfold lastPlace at least ⊢
        omega
      rwa [place]

/-- There is one such place. -/
theorem EndsAt.eq {v : ℚ} {e f : ℤ} (first : EndsAt v e) (second : EndsAt v f) : e = f := by
  have le : ∀ {e f : ℤ}, EndsAt v e → EndsAt v f → e ≤ f := by
    intro e f first second
    obtain full | least := first.full
    · have less := two_zpow_lt_iff.mp (full.trans_lt second.small)
      omega
    · have low := second.least
      omega
  exact le_antisymm (le first second) (le second first)

theorem EndsAt.nearestMagnitude_eq {v : ℚ} {e : ℤ} (positive : 0 < v) (ends : EndsAt v e) :
    nearestMagnitude v = nearestWhole (v / 2 ^ e) * 2 ^ e := by
  unfold nearestMagnitude
  rw [(endsAt_lastPlace positive).eq ends]

/-- A number that has its last digit further to the front is larger, and is rounded to a larger number. -/
theorem nearestMagnitude_mono {v w : ℚ} (positive : 0 < v) (le : v ≤ w) : nearestMagnitude v ≤ nearestMagnitude w := by
  have first := endsAt_lastPlace positive
  have second := endsAt_lastPlace (positive.trans_le le)
  unfold nearestMagnitude
  generalize lastPlace v = e at first ⊢
  generalize lastPlace w = f at second ⊢
  have unit := two_zpow_pos e
  obtain less | rfl | more := lt_trichotomy e f
  · have carry : nearestWhole (v / 2 ^ e) ≤ 2 ^ 53 := by
      refine nearestWhole_le ((div_le_iff₀ unit).mpr ?_)
      have small := first.small.le
      rw [zpow_add₀ (by norm_num)] at small
      exact_mod_cast small
    have full : 2 ^ 52 ≤ nearestWhole (w / 2 ^ f) := by
      obtain full | least := second.full
      · refine le_nearestWhole ((le_div_iff₀ (two_zpow_pos f)).mpr ?_)
        rw [zpow_add₀ (by norm_num)] at full
        exact_mod_cast full
      · have low := first.least
        omega
    calc (nearestWhole (v / 2 ^ e) * 2 ^ e : ℚ) ≤ 2 ^ (53 : ℤ) * 2 ^ e :=
          mul_le_mul_of_nonneg_right (by exact_mod_cast carry) unit.le
      _ ≤ 2 ^ (52 : ℤ) * 2 ^ f := two_pow_mul_le less
      _ ≤ nearestWhole (w / 2 ^ f) * 2 ^ f :=
          mul_le_mul_of_nonneg_right (by exact_mod_cast full) (two_zpow_pos f).le
  · refine mul_le_mul_of_nonneg_right ?_ unit.le
    exact_mod_cast nearestWhole_monotone (div_le_div_of_nonneg_right le unit.le)
  · obtain full | least := first.full
    · have less := two_zpow_lt_iff.mp ((full.trans le).trans_lt second.small)
      omega
    · have low := second.least
      omega

theorem nearestMagnitude_zero : nearestMagnitude 0 = 0 := by simp [nearestMagnitude, nearestWhole]

theorem nearestMagnitude_nonneg {v : ℚ} (nonneg : 0 ≤ v) : 0 ≤ nearestMagnitude v := by
  refine mul_nonneg ?_ (two_zpow_pos _).le
  have whole : (0 : ℤ) ≤ nearestWhole (v / 2 ^ lastPlace v) :=
    le_nearestWhole (by simpa using div_nonneg nonneg (two_zpow_pos _).le)
  exact_mod_cast whole

theorem nearestValue_of_nonneg {v : ℚ} (nonneg : 0 ≤ v) : nearestValue v = nearestMagnitude v := if_neg (not_lt.mpr nonneg)

theorem nearestValue_neg (v : ℚ) : nearestValue (-v) = -nearestValue v := by
  obtain less | rfl | more := lt_trichotomy v 0
  · rw [nearestValue_of_nonneg (by linarith), nearestValue, if_pos less, neg_neg]
  · simp [nearestValue, nearestMagnitude_zero]
  · rw [nearestValue_of_nonneg more.le, nearestValue, if_pos (by linarith), neg_neg]

theorem nearestValue_withSign (s : Sign) {v : ℚ} (nonneg : 0 ≤ v) :
    nearestValue (withSign s v) = withSign s (nearestMagnitude v) := by
  cases s
  · exact (nearestValue_neg v).trans (congrArg Neg.neg (nearestValue_of_nonneg nonneg))
  · exact nearestValue_of_nonneg nonneg

theorem nearestValue_monotone : Monotone nearestValue := by
  refine monotone_of_odd_of_monotoneOn_nonneg nearestValue_neg fun v nonneg w nonneg' le => ?_
  rw [nearestValue_of_nonneg nonneg, nearestValue_of_nonneg nonneg']
  obtain positive | rfl := (show 0 ≤ v from nonneg).lt_or_eq
  · exact nearestMagnitude_mono positive le
  · rw [nearestMagnitude_zero]
    exact nearestMagnitude_nonneg nonneg'

/-! ### Doubles are left alone -/

theorem endsAt_magnitude {m : Nat} {q : ℤ} (small : m < 2 ^ 53) (least : -1074 ≤ q) (full : 2 ^ 52 ≤ m ∨ q = -1074) :
    EndsAt (m * 2 ^ q) q := by
  refine ⟨least, ?_, ?_⟩
  · rw [zpow_add₀ (by norm_num)]
    exact mul_lt_mul_of_pos_right (by exact_mod_cast small) (two_zpow_pos q)
  · refine full.imp_left fun full => ?_
    rw [zpow_add₀ (by norm_num)]
    exact mul_le_mul_of_nonneg_right (by exact_mod_cast full) (two_zpow_pos q).le

theorem nearestMagnitude_magnitude {m : Nat} {q : ℤ} (small : m < 2 ^ 53) (least : -1074 ≤ q)
    (full : 2 ^ 52 ≤ m ∨ q = -1074) : nearestMagnitude (m * 2 ^ q) = m * 2 ^ q := by
  obtain rfl | positive := Nat.eq_zero_or_pos m
  · simp [nearestMagnitude_zero]
  · rw [(endsAt_magnitude small least full).nearestMagnitude_eq (magnitude_pos positive q),
      mul_div_cancel_right₀ _ (two_zpow_pos q).ne']
    exact congrArg (· * (2 : ℚ) ^ q) (by exact_mod_cast nearestWhole_cast m)

/-- A number of the logical model with digits and an exponent as a double has them, or with too large an exponent. -/
def Shaped : UnpackedFloat → Prop
  | .zero _ => True
  | .finite _ m e _ => m < 2 ^ 53 ∧ -1074 ≤ e ∧ (2 ^ 52 ≤ m ∨ e = -1074)
  | _ => False

theorem shaped_unpack {x : Float} (finite : x.isFinite = true) : Shaped x.toModel.unpack := by
  replace finite : x.toModel.unpack.isFinite = true := finite
  cases size : x.toModel.unpack with
  | notANumber | infinity =>
    rw [size] at finite
    cases finite
  | zero => trivial
  | finite s m e positive =>
    obtain ⟨small, least, -, full⟩ := fits_of_unpack size
    exact ⟨small, least, full⟩

theorem nearestValue_worth {u : UnpackedFloat} (shaped : Shaped u) : nearestValue (worth u) = worth u := by
  cases u with
  | notANumber | infinity => cases shaped
  | zero => exact (nearestValue_of_nonneg le_rfl).trans nearestMagnitude_zero
  | finite s m e positive =>
    obtain ⟨small, least, full⟩ := shaped
    show nearestValue (withSign s (m * 2 ^ e)) = withSign s (m * 2 ^ e)
    rw [nearestValue_withSign s (magnitude_nonneg m e), nearestMagnitude_magnitude small least full]

/-- Rounding to the nearest double, without a limit for the exponent. -/
def Rounding.nearest : Rounding where
  round := nearestValue
  monotone := nearestValue_monotone
  fixes finite := by
    rw [value_eq_worth]
    exact nearestValue_worth (shaped_unpack finite)
  neg := nearestValue_neg

/-! ### Rounding in the logical model -/

/-- What a mantissa with two more bits stands for: the first bit behind it, and whether there is any other. -/
def Keeps (em : ExtendedMantissa) (v : ℚ) : Prop :=
  match em with
  | ⟨m, false, false⟩ => v = m
  | ⟨m, false, true⟩ => m < v ∧ v < m + 1 / 2
  | ⟨m, true, false⟩ => v = m + 1 / 2
  | ⟨m, true, true⟩ => m + 1 / 2 < v ∧ v < m + 1

namespace Keeps

variable {em : ExtendedMantissa} {v : ℚ}

theorem floor (keeps : Keeps em v) : ⌊v⌋ = em.mantissa := by
  obtain ⟨m, half, rest⟩ := em
  refine Int.floor_eq_iff.mpr ?_
  cases half <;> cases rest <;> simp only [Keeps] at keeps <;> push_cast <;> constructor <;> linarith

theorem roundedMantissa (keeps : Keeps em v) : (em.roundedMantissa : ℤ) = nearestWhole v := by
  unfold nearestWhole
  rw [keeps.floor]
  obtain ⟨m, half, rest⟩ := em
  cases half <;> cases rest <;> simp only [Keeps] at keeps
  · rw [if_pos (by push_cast; linarith)]
    rfl
  · rw [if_pos (by push_cast; linarith)]
    rfl
  · rw [if_neg (by push_cast; linarith), if_neg (by push_cast; linarith)]
    rfl
  · rw [if_neg (by push_cast; linarith), if_pos (by push_cast; linarith)]
    rfl

/-- A bit that is shifted out is kept as the first one, and the one that was first counts among the others. -/
theorem shiftRightOne (keeps : Keeps em v) : Keeps em.shiftRightOne (v / 2) := by
  obtain ⟨m, half, rest⟩ := em
  have whole : ((m / 2 : ℕ) : ℚ) * 2 + (m % 2 : ℕ) = m := by exact_mod_cast Nat.div_add_mod' m 2
  have next : (⟨m, half, rest⟩ : ExtendedMantissa).shiftRightOne = ⟨m / 2, m % 2 != 0, half || rest⟩ := rfl
  rw [next]
  obtain even | odd := Nat.mod_two_eq_zero_or_one m
  · have bit : (m % 2 != 0) = false := by rw [even]; rfl
    rw [even] at whole
    push_cast at whole
    rw [bit]
    cases half <;> cases rest <;> simp only [Keeps, Bool.or_false, Bool.or_true] at keeps ⊢
    · linarith
    · constructor <;> linarith
    · constructor <;> linarith
    · constructor <;> linarith
  · have bit : (m % 2 != 0) = true := by rw [odd]; rfl
    rw [odd] at whole
    push_cast at whole
    rw [bit]
    cases half <;> cases rest <;> simp only [Keeps, Bool.or_false, Bool.or_true] at keeps ⊢
    · linarith
    · constructor <;> linarith
    · constructor <;> linarith
    · constructor <;> linarith

theorem shiftRight (keeps : Keeps em v) (k : Nat) : Keeps (em >>> k) (v / 2 ^ k) := by
  show Keeps (k.repeat ExtendedMantissa.shiftRightOne em) _
  induction k with
  | zero => simpa [Nat.repeat] using keeps
  | succ k ih =>
    rw [pow_succ, ← div_div]
    exact ih.shiftRightOne

end Keeps

variable {m : Nat}

theorem endsAt_target (positive : 0 < m) (e : ℤ) : EndsAt (m * 2 ^ e) (target m e) := by
  have above : m < 2 ^ (m.log2 + 1) := Nat.lt_log2_self
  have below : 2 ^ m.log2 ≤ m := Nat.log2_self_le positive.ne'
  refine ⟨le_max_right _ _, ?_, ?_⟩
  · calc (m * 2 ^ e : ℚ) < 2 ^ ((m.log2 + 1 : ℕ) : ℤ) * 2 ^ e :=
          mul_lt_mul_of_pos_right (by exact_mod_cast above) (two_zpow_pos e)
      _ = 2 ^ (((m.log2 + 1 : ℕ) : ℤ) + e) := (zpow_add₀ (by norm_num) _ _).symm
      _ ≤ 2 ^ (53 + target m e) := zpow_le_zpow_right₀ (by norm_num) (by unfold target; omega)
  · by_cases least : target m e = -1074
    · exact .inr least
    · left
      calc (2 : ℚ) ^ (52 + target m e) = 2 ^ ((m.log2 : ℤ) + e) := by
            congr 1
            unfold target at least ⊢
            omega
        _ = 2 ^ (m.log2 : ℤ) * 2 ^ e := zpow_add₀ (by norm_num) _ _
        _ ≤ m * 2 ^ e := mul_le_mul_of_nonneg_right (by exact_mod_cast below) (two_zpow_pos e).le

/-- A mantissa that rounding made one digit too long is shifted by that digit, which is zero. -/
theorem carry_worth {r : Nat} {e : ℤ} (small : r ≤ 2 ^ 53) (least : -1074 ≤ e) (full : 2 ^ 52 ≤ r ∨ e = -1074) :
    r / 2 ^ (target r e - e).toNat < 2 ^ 53 ∧ -1074 ≤ max e (target r e) ∧
      (2 ^ 52 ≤ r / 2 ^ (target r e - e).toNat ∨ max e (target r e) = -1074) ∧
      ((r / 2 ^ (target r e - e).toNat : ℕ) * 2 ^ max e (target r e) : ℚ) = r * 2 ^ e := by
  obtain rfl | less := Nat.eq_or_lt_of_le small
  · have aim : target (2 ^ 53) e = e + 1 := by
      unfold target
      rw [Nat.log2_two_pow]
      omega
    have shift : (e + 1 - e).toNat = 1 := by omega
    rw [aim, shift, max_eq_right (by omega)]
    refine ⟨by decide, by omega, .inl (by decide), ?_⟩
    rw [zpow_add₀ (by norm_num)]
    norm_num
    ring
  · have aim : target r e ≤ e := by
      have digits : r.log2 < 53 := by
        obtain rfl | positive := Nat.eq_zero_or_pos r
        · decide
        · exact (Nat.log2_lt positive.ne').mpr less
      unfold target
      omega
    have shift : (target r e - e).toNat = 0 := by omega
    rw [shift, max_eq_left aim, pow_zero, Nat.div_one]
    exact ⟨less, least, full, rfl⟩

/-- A number is rounded to the nearest double. -/
theorem roundWithAccuracy_worth (s : Sign) {e : ℤ} (positive : 0 < m) (low : e ≤ target m e) :
    Shaped (roundWithAccuracy Format.binary64 s m e .exact) ∧
      worth (roundWithAccuracy Format.binary64 s m e .exact) = withSign s (nearestMagnitude (m * 2 ^ e)) := by
  have ends := endsAt_target positive e
  obtain ⟨first, exponent⟩ := shiftToTargetExponent_binary64 m e .exact
  rw [max_eq_right low] at exponent
  have scaled : (m : ℚ) / 2 ^ (target m e - e).toNat = m * 2 ^ e / 2 ^ target m e := by
    rw [← zpow_natCast, Int.toNat_of_nonneg (by omega), zpow_sub₀ (by norm_num)]
    field_simp
  have keeps : Keeps (shiftToTargetExponent Format.binary64 m e .exact).1 (m * 2 ^ e / 2 ^ target m e) := by
    rw [← scaled]
    exact Keeps.shiftRight (show Keeps ⟨m, false, false⟩ m from rfl) _
  have whole := keeps.roundedMantissa
  have above := (roundedMantissa_bounds (shiftToTargetExponent Format.binary64 m e .exact).1).2
  rw [first] at above
  unfold roundWithAccuracy
  simp only [exponent]
  generalize (shiftToTargetExponent Format.binary64 m e .exact).1.roundedMantissa = r at whole above ⊢
  have full : 2 ^ 52 ≤ r ∨ target m e = -1074 := by
    refine ends.full.imp_left fun full => ?_
    rw [zpow_add₀ (by norm_num), ← le_div_iff₀ (two_zpow_pos _)] at full
    have digits : 2 ^ 52 ≤ nearestWhole (m * 2 ^ e / 2 ^ target m e) := le_nearestWhole (by exact_mod_cast full)
    omega
  have rounded : (r * 2 ^ target m e : ℚ) = nearestMagnitude (m * 2 ^ e) := by
    rw [ends.nearestMagnitude_eq (magnitude_pos positive e), ← whole]
    rfl
  obtain ⟨mantissa, exponent'⟩ := shiftToTargetExponent_binary64 r (target m e) .exact
  simp only [mantissa, exponent']
  obtain ⟨small, least, full', same⟩ := carry_worth (above.trans (div_shift_lt m e)) ends.least full
  rw [rounded] at same
  split
  · next none =>
    rw [none, Nat.cast_zero, zero_mul] at same
    rw [← same]
    exact ⟨trivial, by cases s <;> simp [worth, withSign]⟩
  · exact ⟨⟨small, least, full'⟩, congrArg (withSign s) same⟩

/-- The same from any exponent. -/
theorem round_worth (s : Sign) {e : ℤ} (positive : 0 < m) :
    Shaped (UnpackedFloat.round Format.binary64 s m e) ∧
      worth (UnpackedFloat.round Format.binary64 s m e) = withSign s (nearestMagnitude (m * 2 ^ e)) := by
  generalize shift : (e - target m e).toNat = k
  have same : target (m <<< k) (e - k) = target m e := by
    unfold target
    rw [log2_shiftLeft positive]
    omega
  have moved : ((m <<< k : ℕ) * 2 ^ (e - k) : ℚ) = m * 2 ^ e := by
    rw [Nat.shiftLeft_eq, Nat.cast_mul, Nat.cast_pow, Nat.cast_ofNat, ← zpow_natCast, mul_assoc,
      ← zpow_add₀ (by norm_num)]
    congr 2
    omega
  have rounded := roundWithAccuracy_worth s (m := m <<< k) (e := e - k)
    (by rw [Nat.shiftLeft_eq]; exact Nat.mul_pos positive (Nat.two_pow_pos k)) (by omega)
  rw [moved, ← shift] at rounded
  exact rounded

/-- A whole number of units is rounded to the nearest double. -/
theorem normalize_worth (n : ℤ) (e : ℤ) (s : Sign) :
    Shaped (UnpackedFloat.normalize Format.binary64 n e s) ∧
      worth (UnpackedFloat.normalize Format.binary64 n e s) = nearestValue (n * 2 ^ e) := by
  unfold UnpackedFloat.normalize
  split
  · next below =>
    have negative := Int.compare_eq_lt.mp below
    obtain ⟨shaped, rounded⟩ := round_worth .negative (m := (-n).toNat) (e := e) (by omega)
    refine ⟨shaped, rounded.trans ?_⟩
    have size : (n * 2 ^ e : ℚ) = withSign .negative ((-n).toNat * 2 ^ e) := by
      have cast : (((-n).toNat : ℤ) : ℚ) = -n := by exact_mod_cast Int.toNat_of_nonneg (show 0 ≤ -n by omega)
      show (n * 2 ^ e : ℚ) = -(((-n).toNat : ℤ) * 2 ^ e)
      rw [cast]
      ring
    rw [size, nearestValue_withSign _ (magnitude_nonneg _ _)]
  · next none =>
    rw [Int.compare_eq_eq.mp none, Int.cast_zero, zero_mul, nearestValue_of_nonneg le_rfl, nearestMagnitude_zero]
    exact ⟨trivial, rfl⟩
  · next above =>
    have positive := Int.compare_eq_gt.mp above
    obtain ⟨shaped, rounded⟩ := round_worth .positive (m := n.toNat) (e := e) (by omega)
    refine ⟨shaped, rounded.trans ?_⟩
    have size : (n * 2 ^ e : ℚ) = withSign .positive (n.toNat * 2 ^ e) := by
      have cast : ((n.toNat : ℤ) : ℚ) = n := by exact_mod_cast Int.toNat_of_nonneg positive.le
      show (n * 2 ^ e : ℚ) = (n.toNat : ℤ) * 2 ^ e
      rw [cast]
    rw [size, nearestValue_withSign _ (magnitude_nonneg _ _)]

/-! ### Sums and differences -/

theorem worth_finite (s : Sign) (m : Nat) (e : ℤ) (positive : 0 < m) :
    worth (.finite s m e positive) = (s.apply m : ℤ) * 2 ^ e := by
  cases s <;> simp [worth, withSign, Sign.apply]

/-- A number in units of a lower exponent. -/
theorem worth_shiftLeft (s : Sign) (m : Nat) {e f : ℤ} (positive : 0 < m) (low : f ≤ e) :
    ((s.apply ((m <<< (e - f).toNat : ℕ) : ℤ) : ℤ) * 2 ^ f : ℚ) = worth (.finite s m e positive) := by
  have moved := magnitude_shift m low
  rw [show m <<< (e - f).toNat = m * Nat.pow 2 (e - f).toNat from Nat.shiftLeft_eq ..]
  rw [worth_finite]
  cases s
  · simpa [Sign.apply] using moved
  · simpa [Sign.apply] using moved

/-- A sum is exact, and then rounded. -/
theorem add_worth {u v : UnpackedFloat} (first : Shaped u) (second : Shaped v) :
    Shaped (add Format.binary64 u v) ∧ worth (add Format.binary64 u v) = nearestValue (worth u + worth v) := by
  cases u with
  | notANumber | infinity => cases first
  | zero s =>
    have none : worth (.zero s) = 0 := rfl
    cases v with
    | notANumber | infinity => cases second
    | zero s' =>
      have sum : ∃ t, add Format.binary64 (.zero s) (.zero s') = .zero t := by
        cases s <;> cases s' <;> exact ⟨_, rfl⟩
      obtain ⟨t, sum⟩ := sum
      rw [sum]
      exact ⟨trivial, (nearestValue_worth (u := .zero t) trivial).symm.trans (by simp [worth])⟩
    | finite s' m e positive =>
      rw [none, zero_add]
      exact ⟨second, (nearestValue_worth second).symm⟩
  | finite s m e positive =>
    cases v with
    | notANumber | infinity => cases second
    | zero s' =>
      have none : worth (.zero s') = 0 := rfl
      rw [none, add_zero]
      exact ⟨first, (nearestValue_worth first).symm⟩
    | finite s' m' e' positive' =>
      have sum : (worth (.finite s m e positive) + worth (.finite s' m' e' positive') : ℚ) =
          ((s.apply ((m <<< (e - min e e').toNat : ℕ) : ℤ) + s'.apply ((m' <<< (e' - min e e').toNat : ℕ) : ℤ) : ℤ) : ℚ) *
            2 ^ min e e' := by
        rw [Int.cast_add, add_mul, worth_shiftLeft s m positive (min_le_left e e'),
          worth_shiftLeft s' m' positive' (min_le_right e e')]
      rw [sum]
      exact normalize_worth _ _ .positive

/-- To subtract is to add the opposite. -/
theorem sub_eq_add_opposite (u v : UnpackedFloat) : sub Format.binary64 u v = add Format.binary64 u v.neg := by
  cases u with
  | notANumber => cases v <;> rfl
  | infinity | zero => cases v <;> rfl
  | finite s m e positive =>
    cases v with
    | notANumber | infinity | zero => rfl
    | finite s' m' e' positive' =>
      have opposite : ∀ n : ℤ, (-s').apply n = -s'.apply n := fun n => by cases s' <;> simp [Sign.apply]
      simp only [sub, add, neg, opposite, Int.sub_eq_add_neg]

theorem shaped_neg {u : UnpackedFloat} (shaped : Shaped u) : Shaped u.neg := by
  cases u with
  | notANumber | infinity => cases shaped
  | zero => trivial
  | finite => exact shaped

theorem worth_neg {u : UnpackedFloat} : worth u.neg = -worth u := by
  cases u with
  | notANumber | infinity | zero => exact neg_zero.symm
  | finite s m e positive =>
    cases s
    · exact (neg_neg _).symm
    · rfl

/-- A number that is no larger than a double is packed without loss. -/
theorem unpack_pack_of_le {u : UnpackedFloat} (shaped : Shaped u) {top : Float} (finite : top.isFinite = true)
    (within : |worth u| ≤ value top) : (Float.Model.pack u).unpack = u := by
  cases u with
  | notANumber | infinity => cases shaped
  | zero s => cases s <;> rfl
  | finite s m e positive =>
    obtain ⟨small, least, full⟩ := shaped
    have greatest : e ≤ 971 := by
      by_contra large
      obtain ⟨negative, n, f, size⟩ := isFinite_iff.mp finite
      have fits := fits_of_parts size
      have above : f < e := by
        have limit := fits.greatest
        omega
      have less : (n * 2 ^ f : ℚ) < m * 2 ^ e := magnitude_lt_of_lt fits.small (by omega) above
      have most : value top ≤ n * 2 ^ f := by
        rw [← abs_signed negative n f, ← value_of_parts size]
        exact le_abs_self _
      rw [abs_worth] at within
      linarith
    exact unpack_pack_canonical ⟨positive, small, least, greatest, full⟩ s

/-- A number that is no larger than a double is packed as a finite double with the same value. -/
theorem value_pack {x : Float} {u : UnpackedFloat} (packed : x.toModel = .pack u) (shaped : Shaped u) {top : Float}
    (finite : top.isFinite = true) (within : |worth u| ≤ value top) : x.isFinite = true ∧ value x = worth u := by
  have unpacked : x.toModel.unpack = u := by rw [packed, unpack_pack_of_le shaped finite within]
  refine ⟨?_, by rw [value_eq_worth, unpacked]⟩
  show x.toModel.unpack.isFinite = true
  rw [unpacked]
  cases u with
  | notANumber | infinity => cases shaped
  | zero | finite => rfl

variable {x y top : Float} (first : x.isFinite = true) (second : y.isFinite = true) (finite : top.isFinite = true)

include first second finite

/-- Doubles are added exactly, and the sum is rounded to the nearest double. -/
theorem value_add (within : |value x + value y| ≤ value top) :
    (x + y).isFinite = true ∧ value (x + y) = nearestValue (value x + value y) := by
  obtain ⟨shaped, rounded⟩ := add_worth (shaped_unpack first) (shaped_unpack second)
  rw [← value_eq_worth, ← value_eq_worth] at rounded
  have packed := value_pack (x := x + y) rfl shaped finite (by
    rw [rounded]
    exact Rounding.nearest.abs_le_value finite within)
  rwa [rounded] at packed

/-- Doubles are subtracted exactly, and the difference is rounded to the nearest double. -/
theorem value_sub (within : |value x - value y| ≤ value top) :
    (x - y).isFinite = true ∧ value (x - y) = nearestValue (value x - value y) := by
  obtain ⟨shaped, rounded⟩ := add_worth (shaped_unpack first) (shaped_neg (shaped_unpack second))
  rw [← sub_eq_add_opposite] at shaped rounded
  rw [worth_neg, ← sub_eq_add_neg, ← value_eq_worth, ← value_eq_worth] at rounded
  have packed := value_pack (x := x - y) rfl shaped finite (by
    rw [rounded]
    exact Rounding.nearest.abs_le_value finite within)
  rwa [rounded] at packed

end WormLang.Number
