import WormLang.Proofs.Number.Order
import WormLang.Proofs.Number.Rounding

/-!
Doubles as rational numbers. A finite double is worth its mantissa times a power of two, with its sign. Comparing finite
doubles compares what they are worth, and a finite double is known by its sign and by what it is worth. The remainder of
a division is exact.
-/
namespace WormLang.Number

open Float.Model (UnpackedFloat)
open Float.Model.UnpackedFloat

/-- The rational number that a finite double is; any other double is worth nothing. -/
def value (x : Float) : ℚ :=
  match parts x with
  | .finite negative m q => signed negative m * 2 ^ q
  | _ => 0

variable {x y : Float} {negative : Bool} {m n : Nat} {q e : ℤ}

theorem value_of_parts (size : parts x = .finite negative m q) : value x = signed negative m * 2 ^ q := by
  unfold value
  rw [size]

theorem isFinite_iff : x.isFinite = true ↔ ∃ negative m q, parts x = .finite negative m q := by
  show x.toModel.unpack.isFinite = true ↔ _
  rw [unpack_eq]
  cases parts x with
  | nan | infinite => exact ⟨nofun, nofun⟩
  | finite negative m q =>
    refine ⟨fun _ => ⟨negative, m, q, rfl⟩, fun _ => ?_⟩
    dsimp only [Parts.unpacked]
    split <;> rfl

theorem value_zero : value 0.0 = 0 := by
  rw [value_of_parts (show parts 0.0 = .finite false 0 (-1074) by decide)]
  simp [signed]

def largest : Float := 1.7976931348623157e308

theorem value_largest : value largest = 9007199254740991 * 2 ^ (971 : ℤ) :=
  value_of_parts (by decide +kernel : parts largest = .finite false 9007199254740991 971)

/-! ### Magnitudes -/

/-- A mantissa with an exponent as a finite double has them, or zero. -/
structure Fits (m : Nat) (q : ℤ) : Prop where
  small : m < 2 ^ 53
  least : -1074 ≤ q
  greatest : q ≤ 971
  full : 2 ^ 52 ≤ m ∨ q = -1074

theorem fits_of_parts (size : parts x = .finite negative m q) : Fits m q := by
  obtain ⟨small, least, greatest, full⟩ := bounds_of_parts size
  exact ⟨small, least, greatest, full⟩

theorem Fits.canonical (fits : Fits m q) (positive : 0 < m) : Canonical m q :=
  ⟨positive, fits.small, fits.least, fits.greatest, fits.full⟩

theorem magnitude_nonneg (m : Nat) (q : ℤ) : (0 : ℚ) ≤ m * 2 ^ q := mul_nonneg m.cast_nonneg (two_zpow_pos q).le

theorem magnitude_pos (positive : 0 < m) (q : ℤ) : (0 : ℚ) < m * 2 ^ q :=
  mul_pos (by exact_mod_cast positive) (two_zpow_pos q)

/-- Where mantissas with one exponent end, those of 53 digits with a larger one begin. -/
theorem two_pow_mul_le (less : q < e) : (2 ^ (53 : ℤ) * 2 ^ q : ℚ) ≤ 2 ^ (52 : ℤ) * 2 ^ e := by
  rw [← zpow_add₀ (by norm_num), ← zpow_add₀ (by norm_num)]
  exact zpow_le_zpow_right₀ (by norm_num) (by omega)

/-- A mantissa of at most 53 digits stays below one of 53 digits with a larger exponent. -/
theorem magnitude_lt_of_lt (small : m < 2 ^ 53) (full : 2 ^ 52 ≤ n) (less : q < e) : (m * 2 ^ q : ℚ) < n * 2 ^ e :=
  calc (m * 2 ^ q : ℚ) < 2 ^ (53 : ℤ) * 2 ^ q := mul_lt_mul_of_pos_right (by exact_mod_cast small) (two_zpow_pos q)
    _ ≤ 2 ^ (52 : ℤ) * 2 ^ e := two_pow_mul_le less
    _ ≤ n * 2 ^ e := mul_le_mul_of_nonneg_right (by exact_mod_cast full) (two_zpow_pos e).le

/-- A magnitude grows with the exponent, and with the mantissa where the exponents are the same. -/
theorem Fits.magnitude_lt (first : Fits m q) (second : Fits n e) (less : q < e ∨ q = e ∧ m < n) :
    (m * 2 ^ q : ℚ) < n * 2 ^ e := by
  obtain less | ⟨rfl, less⟩ := less
  · obtain full | least := second.full
    · exact magnitude_lt_of_lt first.small full less
    · have low := first.least
      omega
  · exact mul_lt_mul_of_pos_right (by exact_mod_cast less) (two_zpow_pos q)

/-- A magnitude has one mantissa and one exponent. -/
theorem Fits.eq_of_magnitude (first : Fits m q) (second : Fits n e) (same : (m * 2 ^ q : ℚ) = n * 2 ^ e) :
    m = n ∧ q = e := by
  by_contra different
  obtain less | more : (q < e ∨ q = e ∧ m < n) ∨ e < q ∨ e = q ∧ n < m := by omega
  · exact (first.magnitude_lt second less).ne same
  · exact (second.magnitude_lt first more).ne same.symm

/-- Finite doubles of one sign that are worth the same are the same. -/
theorem eq_of_magnitude (first : parts x = .finite negative m q) (second : parts y = .finite negative n e)
    (same : (m * 2 ^ q : ℚ) = n * 2 ^ e) : x = y := by
  obtain ⟨rfl, rfl⟩ := (fits_of_parts first).eq_of_magnitude (fits_of_parts second) same
  exact eq_of_parts first second

/-! ### Order -/

def withSign : Sign → ℚ → ℚ
  | .negative, v => -v
  | .positive, v => v

/-- What an unpacked double is worth. -/
def worth : UnpackedFloat → ℚ
  | .finite s m e _ => withSign s (m * 2 ^ e)
  | _ => 0

theorem value_eq_worth (x : Float) : value x = worth x.toModel.unpack := by
  unfold value
  rw [unpack_eq]
  cases parts x with
  | nan => rfl
  | infinite negative => cases negative <;> rfl
  | finite negative m q =>
    dsimp only [Parts.unpacked]
    split
    · cases negative <;> simp [worth, withSign, signOf, signed]
    · next zero =>
      obtain rfl : m = 0 := by omega
      cases negative <;> simp [worth, signed]

theorem fits_of_unpack {s : Sign} {positive : 0 < m} (size : x.toModel.unpack = .finite s m e positive) : Fits m e := by
  obtain ⟨small, least, greatest, full⟩ := bounds_of_unpack size
  exact ⟨small, least, greatest, full⟩

theorem value_lt_of_rank_lt (first : x.isFinite = true) (second : y.isFinite = true)
    (less : rank x.toModel.unpack < rank y.toModel.unpack) : value x < value y := by
  replace first : x.toModel.unpack.isFinite = true := first
  replace second : y.toModel.unpack.isFinite = true := second
  rw [value_eq_worth, value_eq_worth]
  cases sizeX : x.toModel.unpack with
  | notANumber | infinity =>
    rw [sizeX] at first
    cases first
  | zero s =>
    cases sizeY : y.toModel.unpack with
    | notANumber | infinity =>
      rw [sizeY] at second
      cases second
    | zero s' => simp [sizeX, sizeY, rank] at less
    | finite s' n e' positive' =>
      cases s'
      · simp [sizeX, sizeY, rank, Prod.Lex.toLex_lt_toLex] at less
      · exact magnitude_pos positive' e'
  | finite s m e positive =>
    cases sizeY : y.toModel.unpack with
    | notANumber | infinity =>
      rw [sizeY] at second
      cases second
    | zero s' =>
      cases s
      · exact neg_lt_zero.mpr (magnitude_pos positive e)
      · simp [sizeX, sizeY, rank, Prod.Lex.toLex_lt_toLex] at less
    | finite s' n e' positive' =>
      have fits := fits_of_unpack sizeX
      have fits' := fits_of_unpack sizeY
      cases s <;> cases s' <;> simp [sizeX, sizeY, rank, Prod.Lex.toLex_lt_toLex] at less
      · exact neg_lt_neg (fits'.magnitude_lt fits (by omega))
      · exact (neg_lt_zero.mpr (magnitude_pos positive e)).trans (magnitude_pos positive' e')
      · exact fits.magnitude_lt fits' (by omega)

theorem worth_eq_of_rank_eq {u v : UnpackedFloat} (first : u.isFinite = true) (second : v.isFinite = true)
    (same : rank u = rank v) : worth u = worth v := by
  cases u with
  | notANumber | infinity => cases first
  | zero s =>
    cases v with
    | notANumber | infinity => cases second
    | zero s' => rfl
    | finite s' => cases s' <;> simp [rank] at same
  | finite s m e =>
    cases v with
    | notANumber | infinity => cases second
    | zero s' => cases s <;> simp [rank] at same
    | finite s' n e' =>
      cases s <;> cases s' <;> simp [rank] at same
      · obtain ⟨rfl, rfl⟩ := same
        rfl
      · obtain ⟨rfl, rfl⟩ := same
        rfl

theorem defined_of_isFinite (finite : x.isFinite = true) : Defined x := by
  intro undefined
  replace finite : x.toModel.unpack.isFinite = true := finite
  rw [undefined] at finite
  cases finite

/-- Less is less in value. -/
theorem lt_iff_value (first : x.isFinite = true) (second : y.isFinite = true) : x < y ↔ value x < value y := by
  rw [lt_iff_rank]
  constructor
  · rintro ⟨-, -, less⟩
    exact value_lt_of_rank_lt first second less
  · intro less
    refine ⟨defined_of_isFinite first, defined_of_isFinite second, ?_⟩
    obtain below | same | above := lt_trichotomy (rank x.toModel.unpack) (rank y.toModel.unpack)
    · exact below
    · rw [value_eq_worth, value_eq_worth, worth_eq_of_rank_eq first second same] at less
      exact absurd less (lt_irrefl _)
    · exact absurd less (value_lt_of_rank_lt second first above).asymm

/-- At most is at most in value. -/
theorem le_iff_value (first : x.isFinite = true) (second : y.isFinite = true) : x ≤ y ↔ value x ≤ value y := by
  rw [← not_lt, ← lt_iff_value second first]
  exact ⟨not_lt_of_le, fun above => by_contra fun below =>
    above (lt_of_not_le (defined_of_isFinite first) (defined_of_isFinite second) below)⟩

/-! ### Signs -/

/-- A mantissa and an exponent of a double are unpacked as they were packed. -/
theorem unpack_pack_canonical (canonical : Canonical m q) (s : Sign) :
    (Float.Model.pack (.finite s m q canonical.positive)).unpack = .finite s m q canonical.positive := by
  obtain ⟨positive, small, least, greatest, full⟩ := canonical
  by_cases normal : 2 ^ 52 ≤ m
  · exact unpack_pack_normal s positive normal small least greatest
  · obtain rfl : q = -1074 := by omega
    exact unpack_pack_subnormal s positive (by omega)

/-- What is unpacked as zero has these parts. -/
theorem parts_of_unpack_zero (size : x.toModel.unpack = .zero (signOf negative)) :
    parts x = .finite negative 0 (-1074) := by
  rw [unpack_eq] at size
  cases parted : parts x with
  | nan | infinite =>
    rw [parted] at size
    cases size
  | finite negative' m q =>
    rw [parted] at size
    dsimp only [Parts.unpacked] at size
    split at size
    · cases size
    · next zero =>
      obtain rfl : m = 0 := by omega
      obtain rfl : q = -1074 := by simpa using (fits_of_parts parted).full
      rw [signOf_inj (UnpackedFloat.zero.inj size)]

/-- The size of a finite double has its mantissa and its exponent, without the sign. -/
theorem parts_abs (size : parts x = .finite negative m q) : parts x.abs = .finite false m q := by
  have fits := fits_of_parts size
  have unpacked : x.abs.toModel.unpack = (Float.Model.pack (parts x).unpacked.abs).unpack := by
    rw [← unpack_eq]
    rfl
  rw [size] at unpacked
  dsimp only [Parts.unpacked] at unpacked
  split at unpacked
  · next positive => exact parts_of_unpack (unpacked.trans (unpack_pack_canonical (fits.canonical positive) _))
  · next zero =>
    obtain rfl : m = 0 := by omega
    obtain rfl : q = -1074 := by simpa using fits.full
    have none : (Float.Model.pack (.zero .positive)).unpack = .zero (signOf false) := rfl
    exact parts_of_unpack_zero (unpacked.trans none)

theorem isFinite_abs (finite : x.isFinite = true) : x.abs.isFinite = true := by
  obtain ⟨negative, m, q, size⟩ := isFinite_iff.mp finite
  exact isFinite_iff.mpr ⟨false, m, q, parts_abs size⟩

theorem abs_signed (negative : Bool) (m : Nat) (q : ℤ) : |(signed negative m : ℚ) * 2 ^ q| = m * 2 ^ q := by
  rw [abs_mul, abs_of_pos (two_zpow_pos q)]
  cases negative <;> simp [signed]

theorem value_abs (finite : x.isFinite = true) : value x.abs = |value x| := by
  obtain ⟨negative, m, q, size⟩ := isFinite_iff.mp finite
  rw [value_of_parts (parts_abs size), value_of_parts size, abs_signed]
  simp [signed]

theorem abs_worth (s : Sign) (positive : 0 < m) : |worth (.finite s m e positive)| = m * 2 ^ e := by
  cases s
  · exact (abs_neg _).trans (abs_of_nonneg (magnitude_nonneg m e))
  · exact abs_of_nonneg (magnitude_nonneg m e)

theorem abs_value_le_of_within {top : ℤ} (within : Within top x.toModel.unpack) : |value x| ≤ 2 ^ (53 + top) := by
  rw [value_eq_worth]
  cases size : x.toModel.unpack with
  | notANumber | infinity =>
    rw [size] at within
    cases within
  | zero s => exact abs_zero.trans_le (two_zpow_pos _).le
  | finite s m e positive =>
    rw [size] at within
    have small := (fits_of_unpack size).small
    calc |worth (.finite s m e positive)| = m * 2 ^ e := abs_worth s positive
      _ ≤ 2 ^ (53 : ℤ) * 2 ^ top :=
          mul_le_mul (by exact_mod_cast small.le) (zpow_le_zpow_right₀ (by norm_num) within) (two_zpow_pos e).le
            (two_zpow_pos 53).le
      _ = 2 ^ (53 + top) := (zpow_add₀ (by norm_num) ..).symm

/-- Finite doubles whose values are the same but for the sign have the same size. -/
theorem abs_eq_of_value (first : x.isFinite = true) (second : y.isFinite = true) (same : |value x| = |value y|) :
    x.abs = y.abs := by
  obtain ⟨negative, m, q, size⟩ := isFinite_iff.mp first
  obtain ⟨negative', n, e, size'⟩ := isFinite_iff.mp second
  rw [value_of_parts size, value_of_parts size', abs_signed, abs_signed] at same
  exact eq_of_magnitude (parts_abs size) (parts_abs size') same

/-! ### Remainders -/

theorem cast_pow_toNat (nonneg : 0 ≤ e) : ((Nat.pow 2 e.toNat : ℕ) : ℚ) = 2 ^ e := by
  rw [← zpow_toNat 2 e, Int.toNat_of_nonpos (show -e ≤ 0 by omega), pow_zero, div_one]
  exact Nat.cast_pow 2 _

/-- A magnitude with its mantissa moved to a lower exponent. -/
theorem magnitude_shift (m : Nat) (low : e ≤ q) :
    (((m * Nat.pow 2 (q - e).toNat : ℕ) : ℚ) * 2 ^ e : ℚ) = m * 2 ^ q := by
  rw [Nat.cast_mul, cast_pow_toNat (by omega), mul_assoc, ← zpow_add₀ (by norm_num), sub_add_cancel]

/-- A number with at most 53 digits is not changed by rounding. -/
theorem parts_nearest (negative : Bool) (small : m < 2 ^ 53) (least : -1074 ≤ q) (greatest : q ≤ 971) :
    ∃ n e, parts (nearest negative m q) = .finite negative n e ∧ (n * 2 ^ e : ℚ) = m * 2 ^ q := by
  have start : leastExponent = -1074 := rfl
  have length := bitLength_le small
  unfold nearest
  dsimp only
  generalize exponent : max (q + bitLength m - 53) leastExponent = e
  have low : e ≤ q := by omega
  rw [if_pos low]
  obtain rfl | positive := Nat.eq_zero_or_pos m
  · have none : assemble negative 0 e = ofFields negative 0 0 := rfl
    refine ⟨0, -1074, ?_, by simp⟩
    rw [Nat.zero_mul, none]
    cases negative <;> decide
  · refine ⟨_, _, parts_assemble negative ⟨?_, ?_, by omega, by omega, ?_⟩, magnitude_shift m low⟩
    · exact Nat.mul_pos positive (Nat.two_pow_pos _)
    · calc m * Nat.pow 2 (q - e).toNat < 2 ^ bitLength m * 2 ^ (q - e).toNat :=
            Nat.mul_lt_mul_of_pos_right (lt_two_pow_bitLength m) (Nat.two_pow_pos _)
        _ = 2 ^ (bitLength m + (q - e).toNat) := (Nat.pow_add ..).symm
        _ ≤ 2 ^ 53 := Nat.pow_le_pow_right (by decide) (by omega)
    · by_cases full : e = -1074
      · exact .inr full
      · left
        have digits : bitLength m = m.log2 + 1 := if_neg positive.ne'
        calc 2 ^ 52 = 2 ^ (m.log2 + (q - e).toNat) := by
              congr 1
              omega
          _ = 2 ^ m.log2 * 2 ^ (q - e).toNat := Nat.pow_add ..
          _ ≤ m * Nat.pow 2 (q - e).toNat := Nat.mul_le_mul_right _ (Nat.log2_self_le positive.ne')

/-- The remainder of a division is exact: it is what is left when the divisor is taken away as often as it goes into
the dividend, and has the sign of the dividend. -/
theorem exists_remainder {negative' : Bool} (dividend : parts x = .finite negative m q)
    (divisor : parts y = .finite negative' n e) (positive : 0 < n) :
    ∃ r k l, ∃ t : ℕ, remainder? x y = some r ∧ parts r = .finite negative k l ∧
      (k * 2 ^ l : ℚ) < n * 2 ^ e ∧ (m * 2 ^ q : ℚ) = t * (n * 2 ^ e) + k * 2 ^ l := by
  have fits := fits_of_parts dividend
  have fits' := fits_of_parts divisor
  unfold remainder?
  rw [dividend, divisor]
  dsimp only
  rw [if_neg positive.ne']
  generalize least : min q e = f
  have first := magnitude_shift m (show f ≤ q by omega)
  have second := magnitude_shift n (show f ≤ e by omega)
  have unit : ∀ d : ℤ, d ≤ 0 → Nat.pow 2 d.toNat = 1 := by
    intro d le
    rw [Int.toNat_of_nonpos le]
  have digits : m * Nat.pow 2 (q - f).toNat % (n * Nat.pow 2 (e - f).toNat) < 2 ^ 53 := by
    obtain low | low : f = q ∨ f = e := by omega
    · rw [unit (q - f) (by omega), Nat.mul_one]
      exact Nat.lt_of_le_of_lt (Nat.mod_le _ _) fits.small
    · rw [unit (e - f) (by omega), Nat.mul_one]
      exact Nat.lt_trans (Nat.mod_lt _ positive) fits'.small
  generalize m * Nat.pow 2 (q - f).toNat = a at first digits ⊢
  have product : 0 < n * Nat.pow 2 (e - f).toNat := Nat.mul_pos positive (Nat.two_pow_pos _)
  generalize n * Nat.pow 2 (e - f).toNat = b at second digits product ⊢
  obtain ⟨k, l, rest, same⟩ := parts_nearest negative digits (q := f)
    (by have := fits.least; have := fits'.least; omega) (by have := fits.greatest; omega)
  refine ⟨_, k, l, a / b, rfl, rest, ?_, ?_⟩
  · rw [same, ← second]
    exact mul_lt_mul_of_pos_right (by exact_mod_cast Nat.mod_lt a product) (two_zpow_pos f)
  · rw [same, ← first, ← second, ← mul_assoc, ← add_mul]
    congr 1
    exact_mod_cast (Nat.div_add_mod' a b).symm

/-- A number that is smaller than the divisor is its own remainder. -/
theorem remainder?_of_lt (first : x.isFinite = true) (second : y.isFinite = true) (small : |value x| < |value y|) :
    remainder? x y = some x := by
  obtain ⟨negative, m, q, dividend⟩ := isFinite_iff.mp first
  obtain ⟨negative', n, e, divisor⟩ := isFinite_iff.mp second
  rw [value_of_parts dividend, value_of_parts divisor, abs_signed, abs_signed] at small
  have positive : 0 < n := by
    by_contra zero
    obtain rfl : n = 0 := by omega
    rw [Nat.cast_zero, zero_mul] at small
    exact absurd small (magnitude_nonneg m q).not_gt
  obtain ⟨r, k, l, t, remains, rest, -, whole⟩ := exists_remainder dividend divisor positive
  have none : t = 0 := by
    by_contra some
    have once : (1 : ℚ) ≤ t := by exact_mod_cast Nat.one_le_iff_ne_zero.mpr some
    have size := mul_le_mul_of_nonneg_right once (magnitude_nonneg n e)
    linarith [magnitude_nonneg k l]
  rw [none, Nat.cast_zero, zero_mul, zero_add] at whole
  rw [remains, eq_of_magnitude rest dividend whole.symm]

end WormLang.Number
