import WormLang.Number.Reading
import WormLang.Number.Shortest
import WormLang.Proofs.Number.Whole

/-!
Rounding to doubles. The reals that round to a double form an interval around it that reaches halfway to the doubles
beside it, ends included if its mantissa is even. A fraction in this interval is rounded to this double, and so is a
decimal when it is read.
-/
namespace WormLang.Number

/-! ### Powers and fractions -/

theorem zpow_toNat (b : ℚ) (e : ℤ) : b ^ e.toNat / b ^ (-e).toNat = b ^ e := by
  obtain ⟨k, rfl | rfl⟩ := e.eq_nat_or_neg
  · simp
  · simp

theorem two_zpow_pos (e : ℤ) : (0 : ℚ) < 2 ^ e := zpow_pos (by norm_num) e

theorem two_zpow_lt_iff {e f : ℤ} : (2 : ℚ) ^ e < 2 ^ f ↔ e < f := zpow_lt_zpow_iff_right₀ (by norm_num)

/-- A fraction that is shifted by a power of two. -/
theorem shifted_div (n d : Nat) (e : ℤ) :
    ((n * Nat.pow 2 (-e).toNat : ℕ) : ℚ) / (d * Nat.pow 2 e.toNat : ℕ) = n / d / 2 ^ e := by
  have power : ∀ k, ((Nat.pow 2 k : ℕ) : ℚ) = 2 ^ k := fun k => Nat.cast_pow 2 k
  rw [Nat.cast_mul, Nat.cast_mul, power, power, ← zpow_toNat 2 e]
  field_simp

theorem shifted_lt_iff {n d : Nat} (positive : 0 < d) (e : ℤ) :
    n * Nat.pow 2 (-e).toNat < d * Nat.pow 2 e.toNat ↔ (n : ℚ) / d < 2 ^ e := by
  have below : (0 : ℚ) < (d * Nat.pow 2 e.toNat : ℕ) := by
    exact_mod_cast Nat.mul_pos positive (Nat.two_pow_pos _)
  rw [← div_lt_one (two_zpow_pos e), ← shifted_div, div_lt_one below, Nat.cast_lt]

theorem bitLength_bounds {n : Nat} (positive : 0 < n) :
    (2 : ℚ) ^ ((bitLength n : ℤ) - 1) ≤ n ∧ (n : ℚ) < 2 ^ (bitLength n : ℤ) := by
  have above : n < 2 ^ bitLength n := lt_two_pow_bitLength n
  have length : bitLength n = n.log2 + 1 := if_neg positive.ne'
  have below : 2 ^ n.log2 ≤ n := Nat.log2_self_le positive.ne'
  rw [length, Nat.cast_add, Nat.cast_one, Int.add_sub_cancel, zpow_natCast]
  rw [length] at above
  exact ⟨by exact_mod_cast below, by exact_mod_cast above⟩

/-- The binary point of a fraction stands where it should. -/
theorem binaryPoint_bounds {n d : Nat} (numerator : 0 < n) (denominator : 0 < d) :
    (2 : ℚ) ^ (binaryPoint n d - 1) ≤ n / d ∧ (n : ℚ) / d < 2 ^ binaryPoint n d := by
  obtain ⟨lowN, highN⟩ := bitLength_bounds numerator
  obtain ⟨lowD, highD⟩ := bitLength_bounds denominator
  have positive : (0 : ℚ) < d := by exact_mod_cast denominator
  have two : (2 : ℚ) ≠ 0 := by norm_num
  have above : (n : ℚ) / d < 2 ^ ((bitLength n : ℤ) - bitLength d + 1) := by
    rw [div_lt_iff₀ positive]
    calc (n : ℚ) < 2 ^ (bitLength n : ℤ) := highN
      _ = 2 ^ ((bitLength n : ℤ) - bitLength d + 1) * 2 ^ ((bitLength d : ℤ) - 1) := by
        rw [← zpow_add₀ two]
        congr 1
        omega
      _ ≤ 2 ^ ((bitLength n : ℤ) - bitLength d + 1) * d := mul_le_mul_of_nonneg_left lowD (two_zpow_pos _).le
  have below : (2 : ℚ) ^ ((bitLength n : ℤ) - bitLength d - 1) ≤ n / d := by
    rw [le_div_iff₀ positive]
    calc (2 : ℚ) ^ ((bitLength n : ℤ) - bitLength d - 1) * d
        ≤ 2 ^ ((bitLength n : ℤ) - bitLength d - 1) * 2 ^ (bitLength d : ℤ) :=
          mul_le_mul_of_nonneg_left highD.le (two_zpow_pos _).le
      _ = 2 ^ ((bitLength n : ℤ) - 1) := by
        rw [← zpow_add₀ two]
        congr 1
        omega
      _ ≤ n := lowN
  unfold binaryPoint
  dsimp only
  split
  · next less => exact ⟨below, (shifted_lt_iff denominator _).mp less⟩
  · next more =>
    rw [shifted_lt_iff denominator, not_lt] at more
    exact ⟨by simpa using more, above⟩

/-- How large a fraction is after a shift, by where its binary point stands. -/
theorem add_lt_binaryPoint_iff {n d : Nat} (numerator : 0 < n) (denominator : 0 < d) (e f : ℤ) :
    f + e < binaryPoint n d ↔ (2 : ℚ) ^ f ≤ n / d / 2 ^ e := by
  obtain ⟨low, high⟩ := binaryPoint_bounds numerator denominator
  rw [le_div_iff₀ (two_zpow_pos e), ← zpow_add₀ (by norm_num)]
  constructor
  · intro less
    exact (zpow_le_zpow_right₀ (by norm_num) (by omega)).trans low
  · intro below
    exact two_zpow_lt_iff.mp (below.trans_lt high)

/-! ### Intervals -/

/-- The first number is below the second; for an even mantissa they can be the same. -/
def UpTo (m : Nat) (a b : ℚ) : Prop := a < b ∨ m % 2 = 0 ∧ a = b

namespace UpTo

variable {m : Nat} {a b c : ℚ}

theorem le (upTo : UpTo m a b) : a ≤ b := by
  obtain less | ⟨-, same⟩ := upTo
  · exact less.le
  · exact same.le

theorem trans_le (upTo : UpTo m a b) (le : b ≤ c) : UpTo m a c := by
  obtain less | ⟨even, rfl⟩ := upTo
  · exact .inl (less.trans_le le)
  · obtain less | rfl := le.lt_or_eq
    · exact .inl less
    · exact .inr ⟨even, rfl⟩

theorem le_trans (le : a ≤ b) (upTo : UpTo m b c) : UpTo m a c := by
  obtain less | ⟨even, rfl⟩ := upTo
  · exact .inl (le.trans_lt less)
  · obtain less | rfl := le.lt_or_eq
    · exact .inl less
    · exact .inr ⟨even, rfl⟩

theorem div_iff (positive : 0 < c) : UpTo m (a / c) (b / c) ↔ UpTo m a b := by
  unfold UpTo
  rw [div_lt_div_iff_of_pos_right positive, div_left_inj' positive.ne']

end UpTo

/-- A number rounds to the double with a mantissa and an exponent. -/
def Rounds (m : Nat) (q : ℤ) (v : ℚ) : Prop :=
  UpTo m (lowerEnd m q * 2 ^ (q - 2)) v ∧ UpTo m v (upperEnd m * 2 ^ (q - 2))

/-- A mantissa and an exponent of a finite double that is not zero. -/
structure Canonical (m : Nat) (q : ℤ) : Prop where
  positive : 0 < m
  small : m < 2 ^ 53
  least : -1074 ≤ q
  greatest : q ≤ 971
  full : 2 ^ 52 ≤ m ∨ q = -1074

theorem canonical_of_parts {x : Float} {negative : Bool} {m : Nat} {q : ℤ} (size : parts x = .finite negative m q)
    (positive : 0 < m) : Canonical m q := by
  obtain ⟨small, least, greatest, full⟩ := bounds_of_parts size
  exact ⟨positive, small, least, greatest, full⟩

variable {m n d : Nat} {q : ℤ} {v : ℚ}

/-- The interval in units of the last digit. -/
theorem rounds_iff : Rounds m q v ↔ UpTo m (lowerEnd m q / 4) (v / 2 ^ q) ∧ UpTo m (v / 2 ^ q) (m + 1 / 2) := by
  have unit := two_zpow_pos q
  have quarter : (2 : ℚ) ^ (q - 2) = 2 ^ q / 4 := by
    rw [zpow_sub₀ (by norm_num)]
    norm_num
  have low : (lowerEnd m q * 2 ^ (q - 2) : ℚ) / 2 ^ q = lowerEnd m q / 4 := by
    rw [quarter]
    field_simp
  have high : (upperEnd m * 2 ^ (q - 2) : ℚ) / 2 ^ q = m + 1 / 2 := by
    rw [quarter, upperEnd]
    push_cast
    field_simp
    ring
  unfold Rounds
  rw [← UpTo.div_iff unit, low, ← UpTo.div_iff (a := v) unit, high]

theorem lowerEnd_bounds (positive : 0 < m) : (m : ℚ) - 1 / 2 ≤ lowerEnd m q / 4 ∧ (lowerEnd m q : ℚ) / 4 ≤ m := by
  unfold lowerEnd
  split
  · rw [Nat.cast_sub (by omega)]
    push_cast
    constructor <;> linarith
  · rw [Nat.cast_sub (by omega)]
    push_cast
    constructor <;> linarith

/-- A quotient that is nearest to a whole number, or halfway from it if that is even, is rounded to it. -/
theorem roundDiv_eq {a b : Nat} (positive : 0 < b) (low : UpTo m (m - 1 / 2) (a / b))
    (high : UpTo m (a / b) (m + 1 / 2)) : roundDiv a b = m := by
  have divisor : (0 : ℚ) < b := by exact_mod_cast positive
  have low : 2 * (m * b) < 2 * a + b ∨ m % 2 = 0 ∧ 2 * (m * b) = 2 * a + b := by
    obtain less | ⟨even, same⟩ := low
    · rw [lt_div_iff₀ divisor] at less
      have less : (2 * (m * b) : ℚ) < 2 * a + b := by linarith
      exact .inl (by exact_mod_cast less)
    · rw [eq_div_iff divisor.ne'] at same
      have same : (2 * (m * b) : ℚ) = 2 * a + b := by linarith
      exact .inr ⟨even, by exact_mod_cast same⟩
  have high : 2 * a < 2 * (m * b) + b ∨ m % 2 = 0 ∧ 2 * a = 2 * (m * b) + b := by
    obtain less | ⟨even, same⟩ := high
    · rw [div_lt_iff₀ divisor] at less
      have less : (2 * a : ℚ) < 2 * (m * b) + b := by linarith
      exact .inl (by exact_mod_cast less)
    · rw [div_eq_iff divisor.ne'] at same
      have same : (2 * a : ℚ) = 2 * (m * b) + b := by linarith
      exact .inr ⟨even, by exact_mod_cast same⟩
  have whole : b * (a / b) + a % b = a := Nat.div_add_mod a b
  have rest : a % b < b := Nat.mod_lt a positive
  unfold roundDiv
  generalize a / b = t at whole ⊢
  generalize a % b = r at whole rest ⊢
  dsimp only
  obtain below | near | above : t + 2 ≤ m ∨ (m = t ∨ m = t + 1) ∨ m + 1 ≤ t := by omega
  · have product : (t + 2) * b ≤ m * b := Nat.mul_le_mul_right b below
    rw [Nat.add_mul, Nat.mul_comm t b] at product
    omega
  · obtain rfl | rfl := near
    · rw [Nat.mul_comm m b] at low high
      split_ifs <;> omega
    · rw [Nat.add_mul, Nat.mul_comm t b] at low high
      split_ifs <;> omega
  · have product : (m + 1) * b ≤ t * b := Nat.mul_le_mul_right b above
    rw [Nat.add_mul, Nat.mul_comm t b] at product
    omega

/-! ### The nearest double -/

theorem assemble_carry (q : ℤ) : assemble false (2 ^ 53) q = assemble false (2 ^ 52) (q + 1) := by
  unfold assemble
  rfl

/-- A fraction is rounded to the mantissa that it is nearest to at its exponent. -/
theorem nearestFraction_eq_assemble (denominator : 0 < d) (exponent : max (binaryPoint n d - 53) leastExponent = q)
    (low : UpTo m (m - 1 / 2) (n / d / 2 ^ q)) (high : UpTo m (n / d / 2 ^ q) (m + 1 / 2)) :
    nearestFraction n d = assemble false m q := by
  have divisor : 0 < d * Nat.pow 2 q.toNat := Nat.mul_pos denominator (Nat.two_pow_pos _)
  rw [← shifted_div] at low high
  unfold nearestFraction
  dsimp only
  rw [exponent, roundDiv_eq divisor low high]

/-- A fraction in the interval of a double is rounded to its mantissa at its exponent. Just below a power of two, a
digit more is looked at first, and rounding carries into the power of two. -/
theorem nearestFraction_eq (canonical : Canonical m q) (numerator : 0 < n) (denominator : 0 < d)
    (rounds : Rounds m q (n / d)) : nearestFraction n d = assemble false m q := by
  obtain ⟨positive, small, least, greatest, full⟩ := canonical
  obtain ⟨low, high⟩ := rounds_iff.mp rounds
  have near := lowerEnd_bounds (q := q) positive
  have limit : (m : ℚ) + 1 ≤ 2 ^ (53 : ℤ) := by exact_mod_cast small
  have start : leastExponent = -1074 := rfl
  have point := add_lt_binaryPoint_iff numerator denominator q
  have top := (point 53).not.mpr (by linarith [high.le])
  by_cases digits : (2 : ℚ) ^ (52 : ℤ) ≤ n / d / 2 ^ q ∨ q = -1074
  · have exponent : max (binaryPoint n d - 53) leastExponent = q := by
      obtain normal | subnormal := digits
      · have bottom := (point 52).mpr normal
        omega
      · omega
    exact nearestFraction_eq_assemble denominator exponent (.le_trans near.1 low) high
  · rw [not_or, not_le] at digits
    obtain ⟨less, above⟩ := digits
    have lowest : m = 2 ^ 52 := by
      by_contra more
      have whole : (2 : ℚ) ^ (52 : ℤ) + 1 ≤ m := by exact_mod_cast (show 2 ^ 52 + 1 ≤ m by omega)
      linarith [low.le]
    subst lowest
    have quarter : ((lowerEnd (2 ^ 52) q : ℕ) : ℚ) / 4 = 2 ^ (52 : ℤ) - 1 / 4 := by
      unfold lowerEnd
      rw [if_pos ⟨rfl, by omega⟩]
      norm_num
    rw [quarter] at low
    have bottom := (point 51).mpr (le_trans (by norm_num) low.le)
    have under := (point 52).not.mpr (not_le.mpr less)
    have twice : (n : ℚ) / d / 2 ^ (q - 1) = 2 * (n / d / 2 ^ q) := by
      rw [zpow_sub₀ (by norm_num)]
      field_simp
    generalize (n : ℚ) / d / 2 ^ q = w at low less twice
    rw [nearestFraction_eq_assemble (m := 2 ^ 53) denominator (show _ = q - 1 by omega), assemble_carry, sub_add_cancel]
    · rw [twice]
      push_cast
      norm_num at low ⊢
      obtain less | ⟨-, same⟩ := low
      · exact .inl (by linarith)
      · exact .inr ⟨by decide, by linarith⟩
    · rw [twice]
      push_cast
      norm_num at less ⊢
      exact .inl (by linarith)

/-! ### Doubles from their parts -/

open Float.Model (Format UnpackedFloat)
open Float.Model.UnpackedFloat

/-- The bits of a finite double are those of its fields. -/
theorem toNat_toBits {x : Float} {negative : Bool} (size : parts x = .finite negative m q) :
    x.toBits.toNat = (if negative then 2 ^ 63 else 0) +
      if m < 2 ^ 52 then m else (q + 1075).toNat * 2 ^ 52 + (m - 2 ^ 52) := by
  have carry : Nat.pow 2 52 = 2 ^ 52 := rfl
  have top : Nat.pow 2 63 = 2 ^ 63 := rfl
  have fields : Nat.pow 2 11 = 2 ^ 11 := rfl
  have bits : x.toBits.toNat < 2 ^ 64 := x.toBits.toNat_lt
  unfold parts at size
  simp only [leastExponent, carry, top, fields] at size
  split_ifs at size with infinite undefined least
  · obtain ⟨sign, mantissa, exponent⟩ := Parts.finite.inj size
    cases negative <;> simp at sign ⊢ <;> split <;> omega
  · obtain ⟨sign, mantissa, exponent⟩ := Parts.finite.inj size
    cases negative <;> simp at sign ⊢ <;> split <;> omega

/-- Finite doubles with the same parts are the same. -/
theorem eq_of_parts {x y : Float} {negative : Bool} (first : parts x = .finite negative m q)
    (second : parts y = .finite negative m q) : x = y := by
  have bits : x.toModel.toBits = y.toModel.toBits :=
    UInt64.toNat_inj.mp ((toNat_toBits first).trans (toNat_toBits second).symm)
  obtain ⟨⟨a, valid⟩⟩ := x
  obtain ⟨⟨b, valid'⟩⟩ := y
  obtain rfl : a = b := bits
  rfl

theorem signOf_inj {negative negative' : Bool} (same : signOf negative = signOf negative') : negative = negative' := by
  cases negative <;> cases negative' <;> first | rfl | cases same

/-- What is unpacked as finite has these parts. -/
theorem parts_of_unpack {x : Float} {negative : Bool} {positive : 0 < m}
    (size : x.toModel.unpack = .finite (signOf negative) m q positive) : parts x = .finite negative m q := by
  rw [unpack_eq] at size
  cases parted : parts x with
  | nan | infinite =>
    rw [parted] at size
    cases size
  | finite negative' m' q' =>
    rw [parted] at size
    dsimp only [Parts.unpacked] at size
    split at size
    · obtain ⟨sign, rfl, rfl⟩ := UnpackedFloat.finite.inj size
      rw [signOf_inj sign]
    · cases size

/-- A mantissa with less than 53 digits is unpacked as it was packed. -/
theorem unpack_pack_subnormal (s : Sign) {m : Nat} (positive : 0 < m) (small : m < 2 ^ 52) :
    (Float.Model.pack (.finite s m (-1074) positive)).unpack = .finite s m (-1074) positive := by
  have digits : ¬ m.log2 + 1 = 53 := by
    have less : m.log2 < 52 := (Nat.log2_lt positive.ne').mpr small
    omega
  have rest : (BitVec.ofNat 52 m).toNat = m := by rw [BitVec.toNat_ofNat, Nat.mod_eq_of_lt small]
  show unpack Format.binary64 (pack Format.binary64 (.finite s m (-1074) positive)) = _
  rw [pack_finite, if_neg (by decide), if_neg digits]
  unfold unpack
  dsimp only
  simp only [unpackMantissa_packComponents, unpackExponent_packComponents, sign_unpackSign_packComponents]
  have digit : BitVec.ofNat 52 m ≠ 0#52 := by
    intro zero
    rw [zero] at rest
    exact positive.ne rest
  rw [if_neg (by decide), if_pos trivial, dif_neg digit, finite.injEq]
  exact ⟨rfl, rest, by decide⟩

/-- Bits with an empty field for the exponent are those of a number with less than 53 digits. -/
theorem unpack_subnormal {b : BitVec Format.binary64.numBits} {negative : Bool} (positive : 0 < m) (small : m < 2 ^ 52)
    (size : b.toNat = (if negative then 2 ^ 63 else 0) + 0 * 2 ^ 52 + m) :
    unpack Format.binary64 b = .finite (signOf negative) m (-1074) positive := by
  obtain ⟨sign, exponent, mantissa⟩ := fields_of_toNat (by decide) small size
  have empty : unpackExponent b = 0#11 := BitVec.eq_of_toNat_eq exponent
  have digit : unpackMantissa b ≠ 0#52 := by
    intro zero
    rw [zero] at mantissa
    exact positive.ne mantissa
  unfold unpack
  dsimp only
  rw [empty, if_neg (by decide), if_pos rfl, sign, dif_neg digit, finite.injEq]
  exact ⟨rfl, mantissa, by decide⟩

/-- A double is assembled from its mantissa and its exponent. -/
theorem parts_assemble (negative : Bool) (canonical : Canonical m q) :
    parts (assemble negative m q) = .finite negative m q := by
  obtain ⟨positive, small, least, greatest, full⟩ := canonical
  have carry : Nat.pow 2 52 = 2 ^ 52 := rfl
  have twice : Nat.pow 2 53 = 2 ^ 53 := rfl
  have limit : greatestExponent = 971 := rfl
  unfold assemble
  rw [if_neg (by omega)]
  dsimp only
  by_cases normal : 2 ^ 52 ≤ m
  · rw [if_neg (by omega), if_neg (by omega), carry]
    refine parts_of_unpack (?_ : _ = UnpackedFloat.finite (signOf negative) m q positive)
    rw [unpack_ofFields negative (by omega) (by omega) (by omega), finite.injEq]
    exact ⟨rfl, by omega, by omega⟩
  · obtain rfl : q = -1074 := by omega
    rw [if_pos (by omega)]
    refine parts_of_unpack (?_ : _ = UnpackedFloat.finite (signOf negative) m (-1074) positive)
    have sign : Nat.pow 2 63 = 2 ^ 63 := rfl
    have bits : (UInt64.ofNat ((if negative then 2 ^ 63 else 0) + 0 * 2 ^ 52 + m)).toBitVec.toNat =
        (if negative then 2 ^ 63 else 0) + 0 * 2 ^ 52 + m := Nat.mod_eq_of_lt (by split <;> omega)
    have packed : (ofFields negative 0 m).toModel.unpack = (Float.Model.pack (unpack Format.binary64
        (UInt64.ofNat ((if negative then 2 ^ 63 else 0) + 0 * 2 ^ 52 + m)).toBitVec)).unpack := by
      unfold ofFields
      rw [sign, carry]
      rfl
    rw [packed, unpack_subnormal positive (by omega) bits, unpack_pack_subnormal _ positive (by omega)]

/-- A fraction in the interval of a double is rounded to this double. -/
theorem nearestFraction_of_rounds {x : Float} (size : parts x = .finite false m q) (positive : 0 < m)
    (numerator : 0 < n) (denominator : 0 < d) (rounds : Rounds m q (n / d)) : nearestFraction n d = x := by
  have canonical := canonical_of_parts size positive
  rw [nearestFraction_eq canonical numerator denominator rounds]
  exact eq_of_parts (parts_assemble false canonical) size

/-! ### Decimals -/

theorem ten_zpow_pos (e : ℤ) : (0 : ℚ) < 10 ^ e := zpow_pos (by norm_num) e

theorem ten_zpow_lt_iff {e f : ℤ} : (10 : ℚ) ^ e < 10 ^ f ↔ e < f := zpow_lt_zpow_iff_right₀ (by norm_num)

/-- A decimal lies between two powers of ten. -/
theorem decimal_bounds {digits : Nat} (positive : 0 < digits) (e : ℤ) :
    (10 : ℚ) ^ (e + (Nat.toDigits 10 digits).length - 1) ≤ digits * 10 ^ e ∧
      (digits * 10 ^ e : ℚ) < 10 ^ (e + (Nat.toDigits 10 digits).length) := by
  have some : 0 < (Nat.toDigits 10 digits).length := Nat.length_toDigits_pos
  have above : digits < 10 ^ (Nat.toDigits 10 digits).length :=
    (Nat.length_toDigits_le_iff (by decide) some).mp le_rfl
  have below : 10 ^ ((Nat.toDigits 10 digits).length - 1) ≤ digits := by
    by_cases single : (Nat.toDigits 10 digits).length = 1
    · rw [single]
      exact positive
    · by_contra less
      have fewer := (Nat.length_toDigits_le_iff (by decide) (by omega)).mpr (Nat.not_le.mp less)
      omega
  generalize (Nat.toDigits 10 digits).length = k at some above below ⊢
  have ten : (10 : ℚ) ≠ 0 := by norm_num
  constructor
  · have place : e + k - 1 = ((k - 1 : ℕ) : ℤ) + e := by omega
    rw [place, zpow_add₀ ten, zpow_natCast]
    exact mul_le_mul_of_nonneg_right (by exact_mod_cast below) (ten_zpow_pos e).le
  · rw [add_comm, zpow_add₀ ten, zpow_natCast]
    exact mul_lt_mul_of_pos_right (by exact_mod_cast above) (ten_zpow_pos e)

theorem ten_zpow_lt_two_zpow : (10 : ℚ) ^ (-324 : ℤ) < 2 ^ (-1075 : ℤ) := by
  have powers : 2 ^ 1075 < 10 ^ 324 := by decide +kernel
  have less : ((2 ^ 1075 : ℕ) : ℚ) < (10 ^ 324 : ℕ) := Nat.cast_lt.mpr powers
  rw [Nat.cast_pow, Nat.cast_pow] at less
  exact inv_strictAnti₀ (pow_pos (by norm_num) _) less

theorem two_zpow_lt_ten_zpow : (2 : ℚ) ^ (1024 : ℤ) < 10 ^ (309 : ℤ) := by
  have powers : 2 ^ 1024 < 10 ^ 309 := by decide +kernel
  have less : ((2 ^ 1024 : ℕ) : ℚ) < (10 ^ 309 : ℕ) := Nat.cast_lt.mpr powers
  rw [Nat.cast_pow, Nat.cast_pow] at less
  exact less

/-- What rounds to a finite double is neither too large nor too small to be read. -/
theorem Rounds.bounds (canonical : Canonical m q) (rounds : Rounds m q v) :
    (10 : ℚ) ^ (-324 : ℤ) < v ∧ v < 10 ^ (309 : ℤ) := by
  obtain ⟨positive, small, least, greatest, -⟩ := canonical
  obtain ⟨low, high⟩ := rounds_iff.mp rounds
  have unit := two_zpow_pos q
  have near := lowerEnd_bounds (q := q) positive
  have one : (1 : ℚ) ≤ m := by exact_mod_cast positive
  have limit : (m : ℚ) + 1 ≤ 2 ^ (53 : ℤ) := by exact_mod_cast small
  have value : v = v / 2 ^ q * 2 ^ q := by rw [div_mul_cancel₀ _ unit.ne']
  have half : (2 : ℚ) ^ (-1 : ℤ) = 1 / 2 := by norm_num
  generalize v / 2 ^ q = w at low high value
  constructor
  · calc (10 : ℚ) ^ (-324 : ℤ) < 2 ^ (-1 + -1074 : ℤ) := ten_zpow_lt_two_zpow
      _ = 2 ^ (-1 : ℤ) * 2 ^ (-1074 : ℤ) := zpow_add₀ (by norm_num) _ _
      _ ≤ w * 2 ^ q := by
        rw [half]
        refine mul_le_mul (by linarith [low.le]) ?_ (two_zpow_pos _).le (by linarith [low.le])
        exact zpow_le_zpow_right₀ (by norm_num) least
      _ = v := value.symm
  · calc v = w * 2 ^ q := value
      _ < 2 ^ (53 : ℤ) * 2 ^ q := mul_lt_mul_of_pos_right (by linarith [high.le]) unit
      _ ≤ 2 ^ (53 : ℤ) * 2 ^ (971 : ℤ) := by
        refine mul_le_mul_of_nonneg_left ?_ (two_zpow_pos _).le
        exact zpow_le_zpow_right₀ (by norm_num) greatest
      _ = 2 ^ (53 + 971 : ℤ) := (zpow_add₀ (by norm_num) _ _).symm
      _ < 10 ^ (309 : ℤ) := two_zpow_lt_ten_zpow

/-- A decimal in the interval of a double is read as this double. -/
theorem ofDecimal_of_rounds {x : Float} (size : parts x = .finite false m q) (positive : 0 < m) {digits : Nat} {e : ℤ}
    (rounds : Rounds m q (digits * 10 ^ e)) : ofDecimal digits e = x := by
  obtain ⟨above, below⟩ := rounds.bounds (canonical_of_parts size positive)
  have some : 0 < digits := by
    have more : (0 : ℚ) < digits * 10 ^ e := (ten_zpow_pos _).trans above
    exact_mod_cast (pos_iff_pos_of_mul_pos more).mpr (ten_zpow_pos e)
  obtain ⟨low, high⟩ := decimal_bounds some e
  have large : e + (Nat.toDigits 10 digits).length - 1 < 309 := ten_zpow_lt_iff.mp (low.trans_lt below)
  have small : -324 < e + (Nat.toDigits 10 digits).length := ten_zpow_lt_iff.mp (above.trans high)
  have power : ∀ k, ((Nat.pow 10 k : ℕ) : ℚ) = 10 ^ k := fun k => Nat.cast_pow 10 k
  have value : ((digits * Nat.pow 10 e.toNat : ℕ) : ℚ) / (Nat.pow 10 (-e).toNat : ℕ) = digits * 10 ^ e := by
    rw [Nat.cast_mul, power, power, mul_div_assoc, zpow_toNat]
  unfold ofDecimal
  dsimp only
  rw [if_neg some.ne', if_neg (by omega), if_neg (by omega)]
  refine nearestFraction_of_rounds size positive (Nat.mul_pos some ?_) ?_ (value ▸ rounds)
  · exact Nat.pow_pos (by decide)
  · exact Nat.pow_pos (by decide)

/-! ### What decimals can be read as -/

def Unsigned (x : Float) : Prop := parts x = .infinite false ∨ ∃ m q, parts x = .finite false m q

theorem unsigned_assemble {e : ℤ} (small : m ≤ 2 ^ 53) (least : -1074 ≤ e) (full : 2 ^ 52 ≤ m ∨ e = -1074) :
    Unsigned (assemble false m e) := by
  have normal : ∀ {m : Nat} {e : ℤ}, 2 ^ 52 ≤ m → m < 2 ^ 53 → -1074 ≤ e → Unsigned (assemble false m e) := by
    intro m e digits small least
    by_cases greatest : e ≤ 971
    · exact .inr ⟨m, e, parts_assemble false ⟨by omega, small, least, greatest, .inl digits⟩⟩
    · have infinite : assemble false m e = infinity false := by
        have carry : Nat.pow 2 52 = 2 ^ 52 := rfl
        have twice : Nat.pow 2 53 = 2 ^ 53 := rfl
        have limit : greatestExponent = 971 := rfl
        unfold assemble
        rw [if_neg (by omega)]
        dsimp only
        rw [if_neg (by omega), if_pos (by omega)]
      rw [infinite]
      exact .inl (by decide)
  obtain rfl | less := Nat.eq_or_lt_of_le small
  · rw [assemble_carry]
    exact normal le_rfl (by decide) (by omega)
  · by_cases digits : 2 ^ 52 ≤ m
    · exact normal digits less least
    · obtain rfl : e = -1074 := by omega
      obtain rfl | positive := Nat.eq_zero_or_pos m
      · exact .inr ⟨0, -1074, by decide⟩
      · exact .inr ⟨m, -1074, parts_assemble false ⟨positive, less, least, by decide, .inr rfl⟩⟩

theorem le_roundDiv (a b : Nat) : a / b ≤ roundDiv a b := by
  unfold roundDiv
  dsimp only
  split_ifs <;> omega

theorem unsigned_nearestFraction (numerator : 0 < n) (denominator : 0 < d) : Unsigned (nearestFraction n d) := by
  have start : leastExponent = -1074 := rfl
  unfold nearestFraction
  dsimp only
  generalize exponent : max (binaryPoint n d - 53) leastExponent = e
  have point := add_lt_binaryPoint_iff numerator denominator e
  have divisor : 0 < d * Nat.pow 2 e.toNat := Nat.mul_pos denominator (Nat.two_pow_pos _)
  rw [← shifted_div] at point
  generalize n * Nat.pow 2 (-e).toNat = a at point ⊢
  generalize d * Nat.pow 2 e.toNat = b at point divisor ⊢
  have positive : (0 : ℚ) < b := by exact_mod_cast divisor
  refine unsigned_assemble ?_ (by omega) ?_
  · have below : (a : ℚ) / b < 2 ^ (53 : ℤ) := not_le.mp ((point 53).not.mp (by omega))
    rw [div_lt_iff₀ positive] at below
    have less : a / b < 2 ^ 53 := (Nat.div_lt_iff_lt_mul divisor).mpr (by exact_mod_cast below)
    exact (roundDiv_le a b).trans less
  · obtain normal | least : e = binaryPoint n d - 53 ∨ e = -1074 := by omega
    · have above : (2 : ℚ) ^ (52 : ℤ) ≤ a / b := (point 52).mp (by omega)
      rw [le_div_iff₀ positive] at above
      have digits : 2 ^ 52 ≤ a / b := (Nat.le_div_iff_mul_le divisor).mpr (by exact_mod_cast above)
      exact .inl (digits.trans (le_roundDiv a b))
    · exact .inr least

theorem unsigned_ofDecimal (digits : Nat) (e : ℤ) : Unsigned (ofDecimal digits e) := by
  unfold ofDecimal
  dsimp only
  split_ifs with zero large small
  · exact .inr ⟨0, -1074, by decide⟩
  · exact .inl (by decide)
  · exact .inr ⟨0, -1074, by decide⟩
  · exact unsigned_nearestFraction (Nat.mul_pos (Nat.pos_of_ne_zero zero) (Nat.pow_pos (by decide)))
      (Nat.pow_pos (by decide))

end WormLang.Number
