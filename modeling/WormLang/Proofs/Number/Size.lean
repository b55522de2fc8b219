import Mathlib
import WormLang.Number.Arithmetic

/-!
How large doubles are. In Lean's logical model a double is unpacked into a sign, a mantissa and an exponent, as `parts`
takes it apart; an operation is exact on what is unpacked, then rounded and packed. Rounding makes an exponent at most
one larger than it aims at, so that a sum of doubles that are not too large is finite. What aims at too large an
exponent becomes infinite.
-/
namespace WormLang.Number

open Float.Model (Format UnpackedFloat)
open Float.Model.UnpackedFloat

/-! ### Unpacking -/

theorem toNat_unpackExponent (b : BitVec Format.binary64.numBits) :
    (unpackExponent b).toNat = b.toNat / 2 ^ 52 % 2 ^ 11 := by
  simp [unpackExponent, BitVec.extractLsb_toNat, Nat.shiftRight_eq_div_pow]

theorem toNat_unpackMantissa (b : BitVec Format.binary64.numBits) :
    (unpackMantissa b).toNat = b.toNat % 2 ^ 52 := by
  simp [unpackMantissa, BitVec.extractLsb_toNat]

theorem toNat_unpackSign (b : BitVec Format.binary64.numBits) : (unpackSign b).toNat = b.toNat / 2 ^ 63 := by
  have small : b.toNat < 2 ^ 64 := b.isLt
  simp [unpackSign, BitVec.extractLsb_toNat, Nat.shiftRight_eq_div_pow]
  omega

def signOf (negative : Bool) : Sign := if negative then .negative else .positive

def Parts.unpacked : Parts → UnpackedFloat
  | .nan => .notANumber
  | .infinite negative => .infinity (signOf negative)
  | .finite negative m e => if h : 0 < m then .finite (signOf negative) m e h else .zero (signOf negative)

theorem ofBitVec_unpackSign (b : BitVec Format.binary64.numBits) :
    Sign.ofBitVec (unpackSign b) = signOf (decide (Nat.pow 2 63 ≤ b.toNat)) := by
  have bit : (unpackSign b).toNat = b.toNat / 2 ^ 63 := toNat_unpackSign b
  have small : b.toNat < 2 ^ 64 := b.isLt
  unfold Sign.ofBitVec signOf
  by_cases low : b.toNat < 2 ^ 63
  · rw [if_pos (BitVec.eq_of_toNat_eq (by rw [bit, Nat.div_eq_of_lt low]; rfl)), if_neg (by simpa using low)]
  · rw [if_neg, if_pos (by simpa using low)]
    intro zero
    rw [zero] at bit
    simp at bit
    omega

theorem toNat_one_append (v : BitVec 52) : (1#1 ++ v).toNat = v.toNat + 2 ^ 52 := by
  rw [BitVec.toNat_append, ← Nat.shiftLeft_add_eq_or_of_lt v.isLt]
  simp [Nat.shiftLeft_eq, Nat.add_comm]

/-- The bits of a double in the logical model. -/
def bitsOf (x : Float) : BitVec Format.binary64.numBits := x.toModel.toBits.toBitVec

/-- The logical model reads a double as the parts of it say. -/
theorem unpack_eq (x : Float) : x.toModel.unpack = (parts x).unpacked := by
  have exponent : (unpackExponent (bitsOf x)).toNat = x.toBits.toNat / Nat.pow 2 52 % Nat.pow 2 11 :=
    toNat_unpackExponent _
  have mantissa : (unpackMantissa (bitsOf x)).toNat = x.toBits.toNat % Nat.pow 2 52 := toNat_unpackMantissa _
  have sign : Sign.ofBitVec (unpackSign (bitsOf x)) = signOf (decide (Nat.pow 2 63 ≤ x.toBits.toNat)) :=
    ofBitVec_unpackSign _
  have full : unpackExponent (bitsOf x) = -1#11 ↔ (unpackExponent (bitsOf x)).toNat = 2047 := by
    rw [← BitVec.toNat_inj]
    rfl
  have empty : unpackExponent (bitsOf x) = 0#11 ↔ (unpackExponent (bitsOf x)).toNat = 0 := by
    rw [← BitVec.toNat_inj]
    rfl
  have none : unpackMantissa (bitsOf x) = 0#52 ↔ (unpackMantissa (bitsOf x)).toNat = 0 := by
    rw [← BitVec.toNat_inj]
    rfl
  have whole := toNat_one_append (unpackMantissa (bitsOf x))
  rw [exponent] at full empty
  rw [mantissa] at none whole
  show unpack Format.binary64 (bitsOf x) = _
  unfold parts unpack
  simp only [full, empty, none, sign, exponent, mantissa, whole]
  split_ifs with infinite undefined least zero
  · rfl
  · rfl
  · simp [Parts.unpacked, zero]
  · simp [Parts.unpacked, Nat.pos_of_ne_zero zero, leastExponent, least, Format.exponentBias]
  · simp [Parts.unpacked, Format.exponentBias]

/-- What is known of the mantissa and the exponent of a finite double: a mantissa with less than 53 binary digits has
the least exponent. -/
theorem bounds_of_parts {x : Float} {negative : Bool} {m : Nat} {e : Int} (size : parts x = .finite negative m e) :
    m < 2 ^ 53 ∧ -1074 ≤ e ∧ e ≤ 971 ∧ (2 ^ 52 ≤ m ∨ e = -1074) := by
  have field : x.toBits.toNat / Nat.pow 2 52 % Nat.pow 2 11 < 2 ^ 11 := Nat.mod_lt _ (by decide)
  have fraction : x.toBits.toNat % Nat.pow 2 52 < 2 ^ 52 := Nat.mod_lt _ (by decide)
  have carry : Nat.pow 2 52 = 2 ^ 52 := rfl
  unfold parts at size
  simp only [leastExponent] at size
  split_ifs at size with infinite undefined least
  · cases size
    omega
  · cases size
    omega

theorem bounds_of_unpack {x : Float} {s : Sign} {m : Nat} {e : Int} {positive : 0 < m}
    (size : x.toModel.unpack = .finite s m e positive) :
    m < 2 ^ 53 ∧ -1074 ≤ e ∧ e ≤ 971 ∧ (2 ^ 52 ≤ m ∨ e = -1074) := by
  rw [unpack_eq] at size
  cases parted : parts x with
  | nan | infinite =>
    rw [parted] at size
    cases size
  | finite negative m' e' =>
    rw [parted] at size
    dsimp only [Parts.unpacked] at size
    split at size
    · cases size
      exact bounds_of_parts parted
    · cases size

/-! ### Packing -/

/-- The bits of a finite number. -/
theorem pack_finite (s : Sign) (m : Nat) (e : Int) (positive : 0 < m) :
    pack Format.binary64 (.finite s m e positive) =
      if 2 ^ 11 ≤ (e + 1023 + 52).toNat + 1 then packedInfinity Format.binary64 s
      else if m.log2 + 1 = 53 then
        packComponents Format.binary64 s (BitVec.ofNat 11 (e + 1023 + 52).toNat) (BitVec.ofNat 52 m)
      else packComponents Format.binary64 s 0#11 (BitVec.ofNat 52 m) :=
  rfl

theorem toNat_field {e : Int} (fits : e ≤ 971) :
    (BitVec.ofNat 11 (e + 1023 + 52).toNat).toNat = (e + 1023 + 52).toNat := by
  rw [BitVec.toNat_ofNat, Nat.mod_eq_of_lt (by omega)]

/-- A number that overflows is packed as infinite. -/
theorem unpack_pack_large {s : Sign} {m : Nat} {e : Int} (positive : 0 < m) (large : 971 < e) :
    (Float.Model.pack (.finite s m e positive)).unpack = .infinity s := by
  show unpack Format.binary64 (pack Format.binary64 (.finite s m e positive)) = _
  rw [pack_finite, if_pos (by omega)]
  cases s <;> rfl

/-- A number of the logical model that is zero, or finite with an exponent up to a limit. -/
def Within (top : Int) : UnpackedFloat → Prop
  | .zero _ => True
  | .finite _ _ e _ => e ≤ top
  | _ => False

theorem Within.mono {top top' : Int} {u : UnpackedFloat} (within : Within top u) (le : top ≤ top') : Within top' u := by
  cases u with
  | notANumber | infinity => cases within
  | zero => trivial
  | finite s m e positive => exact le_trans (show e ≤ top from within) le

/-- Bits with a field for the exponent that is not full are those of a finite number. -/
theorem within_unpack {b : BitVec Format.binary64.numBits} {top : Int} (finite : (unpackExponent b).toNat < 2047)
    (small : ((unpackExponent b).toNat : Int) - 1075 ≤ top) (least : -1074 ≤ top) :
    Within top (unpack Format.binary64 b) := by
  unfold unpack
  dsimp only
  split_ifs with infinite undefined subnormal zero
  · rw [infinite] at finite
    exact absurd finite (by decide)
  · rw [infinite] at finite
    exact absurd finite (by decide)
  · trivial
  · show ((unpackExponent b).toNat : Int) - (1023 + 52) + 1 ≤ top
    rw [subnormal]
    simpa using least
  · show ((unpackExponent b).toNat : Int) - (1023 + 52) ≤ top
    omega

/-- Packing a number that does not overflow keeps its exponent within a limit. -/
theorem Within.unpack_pack {top : Int} {u : UnpackedFloat} (within : Within top u) (least : -1074 ≤ top)
    (greatest : top ≤ 971) : Within top (Float.Model.pack u).unpack := by
  cases u with
  | notANumber | infinity => cases within
  | zero s => cases s <;> trivial
  | finite s m e positive =>
    replace within : e ≤ top := within
    show Within top (unpack Format.binary64 (pack Format.binary64 (.finite s m e positive)))
    rw [pack_finite, if_neg (by omega)]
    split
    · have field := toNat_field (e := e) (by omega)
      refine within_unpack ?_ ?_ least
      all_goals
        rw [unpackExponent_packComponents]
        omega
    · refine within_unpack ?_ ?_ least
      all_goals
        rw [unpackExponent_packComponents]
        simp <;> omega

/-! ### Rounding -/

theorem mantissa_shiftRight (em : ExtendedMantissa) (n : Nat) : (em >>> n).mantissa = em.mantissa / 2 ^ n := by
  show (n.repeat ExtendedMantissa.shiftRightOne em).mantissa = _
  induction n with
  | zero => simp [Nat.repeat]
  | succ n ih =>
    show (n.repeat ExtendedMantissa.shiftRightOne em).mantissa / 2 = _
    rw [ih, Nat.div_div_eq_div_mul, ← Nat.pow_succ]

/-- Rounding takes the mantissa, or the one above it. -/
theorem roundedMantissa_bounds (em : ExtendedMantissa) :
    em.mantissa ≤ em.roundedMantissa ∧ em.roundedMantissa ≤ em.mantissa + 1 := by
  obtain ⟨m, half, rest⟩ := em
  cases half <;> cases rest <;>
    simp [ExtendedMantissa.roundedMantissa, ExtendedMantissa.accuracy, Accuracy.roundToNearestEven]
  omega

theorem mantissa_ofMantissaAndAccuracy (m : Nat) (accuracy : Accuracy) :
    (ExtendedMantissa.ofMantissaAndAccuracy m accuracy).mantissa = m := by
  unfold ExtendedMantissa.ofMantissaAndAccuracy
  split <;> rfl

/-- The exponent that a finite number is rounded to. -/
def target (m : Nat) (e : Int) : Int := max (m.log2 + 1 + e - 53) (-1074)

theorem shiftToTargetExponent_binary64 (m : Nat) (e : Int) (accuracy : Accuracy) :
    (shiftToTargetExponent Format.binary64 m e accuracy).1.mantissa = m / 2 ^ (target m e - e).toNat ∧
      (shiftToTargetExponent Format.binary64 m e accuracy).2 = max e (target m e) := by
  refine ⟨(mantissa_shiftRight _ _).trans ?_, ?_⟩
  · rw [mantissa_ofMantissaAndAccuracy]
    rfl
  · show e + ((target m e - e).toNat : Int) = _
    omega

theorem div_shift_lt (m : Nat) (e : Int) : m / 2 ^ (target m e - e).toNat < 2 ^ 53 := by
  obtain rfl | positive := Nat.eq_zero_or_pos m
  · simp
  refine Nat.div_lt_of_lt_mul (Nat.lt_of_lt_of_le Nat.lt_log2_self ?_)
  rw [← Nat.pow_add]
  refine Nat.pow_le_pow_right (by decide) ?_
  unfold target
  omega

theorem div_shift_pos {m : Nat} {e : Int} (positive : 0 < m) (normal : -1074 ≤ max e (m.log2 + 1 + e - 53)) :
    0 < m / 2 ^ (target m e - e).toNat := by
  refine Nat.div_pos (le_trans (Nat.pow_le_pow_right (by decide) ?_) (Nat.log2_self_le positive.ne'))
    (Nat.two_pow_pos _)
  unfold target
  omega

/-- Rounding shifts, rounds the mantissa to one of its neighbours, and shifts again if that has one digit more. -/
theorem exists_rounded (s : Sign) (m : Nat) (e : Int) (accuracy : Accuracy) :
    ∃ r, m / 2 ^ (target m e - e).toNat ≤ r ∧ r ≤ m / 2 ^ (target m e - e).toNat + 1 ∧
      roundWithAccuracy Format.binary64 s m e accuracy =
        if h : r / 2 ^ (target r (max e (target m e)) - max e (target m e)).toNat = 0 then .zero s
        else .finite s (r / 2 ^ (target r (max e (target m e)) - max e (target m e)).toNat)
          (max (max e (target m e)) (target r (max e (target m e)))) (Nat.pos_of_ne_zero h) := by
  obtain ⟨first, exponent⟩ := shiftToTargetExponent_binary64 m e accuracy
  obtain ⟨low, high⟩ := roundedMantissa_bounds (shiftToTargetExponent Format.binary64 m e accuracy).1
  refine ⟨(shiftToTargetExponent Format.binary64 m e accuracy).1.roundedMantissa, first ▸ low, first ▸ high, ?_⟩
  have again := shiftToTargetExponent_binary64
    (shiftToTargetExponent Format.binary64 m e accuracy).1.roundedMantissa (max e (target m e)) .exact
  unfold roundWithAccuracy
  simp only [exponent, again.1, again.2]

/-- Rounding makes an exponent at most one larger than it aims at. -/
theorem within_roundWithAccuracy (s : Sign) (m : Nat) (e : Int) (accuracy : Accuracy) :
    Within (max e (target m e) + 1) (roundWithAccuracy Format.binary64 s m e accuracy) := by
  obtain ⟨r, -, high, rounded⟩ := exists_rounded s m e accuracy
  have digits : r.log2 ≤ 53 := by
    have small := div_shift_lt m e
    obtain rfl | positive := Nat.eq_zero_or_pos r
    · decide
    · exact Nat.le_of_lt_succ ((Nat.log2_lt positive.ne').mpr (by omega))
  rw [rounded]
  split
  · trivial
  · show max (max e (target m e)) (target r (max e (target m e))) ≤ _
    unfold target at *
    omega

/-- What is too large for a finite double is rounded to something that is. -/
theorem roundWithAccuracy_large (s : Sign) {m : Nat} {e : Int} (accuracy : Accuracy) (positive : 0 < m)
    (large : 971 < target m e) :
    ∃ m' e' positive', roundWithAccuracy Format.binary64 s m e accuracy = .finite s m' e' positive' ∧ 971 < e' := by
  obtain ⟨r, low, -, rounded⟩ := exists_rounded s m e accuracy
  have kept : 0 < r := Nat.lt_of_lt_of_le (div_shift_pos positive (by unfold target at large; omega)) low
  rw [dif_neg (div_shift_pos kept (by omega)).ne'] at rounded
  exact ⟨_, _, _, rounded, by omega⟩

theorem log2_shiftLeft {m : Nat} (positive : 0 < m) (k : Nat) : (m <<< k).log2 = m.log2 + k := by
  have shifted : m <<< k ≠ 0 := by
    rw [Nat.shiftLeft_eq]
    positivity
  rw [Nat.log2_eq_iff shifted, Nat.shiftLeft_eq, Nat.add_right_comm, Nat.pow_add, Nat.pow_add _ _ k]
  exact ⟨Nat.mul_le_mul_right _ (Nat.log2_self_le positive.ne'),
    Nat.mul_lt_mul_of_pos_right Nat.lt_log2_self (Nat.two_pow_pos k)⟩

/-- Rounding makes an exponent at most one larger than it aims at, from whatever exponent it starts. -/
theorem within_round (s : Sign) {m : Nat} (positive : 0 < m) (e : Int) :
    Within (target m e + 1) (UnpackedFloat.round Format.binary64 s m e) := by
  have same : target (m <<< (e - target m e).toNat) (e - (e - target m e).toNat) = target m e := by
    unfold target
    rw [log2_shiftLeft positive]
    omega
  have rounded := within_roundWithAccuracy s (m <<< (e - target m e).toNat) (e - (e - target m e).toNat) .exact
  rwa [same, max_eq_right (by omega)] at rounded

/-! ### Sums -/

theorem natAbs_apply (s : Sign) (n : Int) : (s.apply n).natAbs = n.natAbs := by
  cases s
  · exact Int.natAbs_neg n
  · rfl

/-- A sum of finite numbers needs at most two more binary digits in front of the point. -/
theorem within_add_finite (s₁ s₂ : Sign) {m₁ m₂ : Nat} {e₁ e₂ top : Int} (positive₁ : 0 < m₁) (positive₂ : 0 < m₂)
    (small₁ : m₁ < 2 ^ 53) (small₂ : m₂ < 2 ^ 53) (within₁ : e₁ ≤ top) (within₂ : e₂ ≤ top) (least : -1074 ≤ top) :
    Within (top + 2) (add Format.binary64 (.finite s₁ m₁ e₁ positive₁) (.finite s₂ m₂ e₂ positive₂)) := by
  show Within (top + 2) (UnpackedFloat.normalize Format.binary64 (s₁.apply ↑(m₁ <<< (e₁ - min e₁ e₂).toNat) +
    s₂.apply ↑(m₂ <<< (e₂ - min e₁ e₂).toNat)) (min e₁ e₂) .positive)
  generalize sum : s₁.apply ↑(m₁ <<< (e₁ - min e₁ e₂).toNat) + s₂.apply ↑(m₂ <<< (e₂ - min e₁ e₂).toNat) = n
  have shifted : ∀ {m : Nat} {e : Int}, m < 2 ^ 53 → e ≤ top →
      m <<< (e - min e₁ e₂).toNat < 2 ^ (53 + (top - min e₁ e₂).toNat) := by
    intro m e small within
    rw [Nat.shiftLeft_eq, Nat.pow_add]
    exact Nat.mul_lt_mul_of_lt_of_le small (Nat.pow_le_pow_right (by decide) (by omega)) (Nat.two_pow_pos _)
  have size : n.natAbs < 2 ^ (53 + (top - min e₁ e₂).toNat + 1) := by
    rw [← sum, Nat.pow_succ, Nat.mul_two]
    refine Nat.lt_of_le_of_lt (Int.natAbs_add_le _ _) ?_
    rw [natAbs_apply, natAbs_apply]
    exact Nat.add_lt_add (shifted small₁ within₁) (shifted small₂ within₂)
  have rounded : ∀ s, 0 < n.natAbs → Within (top + 2) (UnpackedFloat.round Format.binary64 s n.natAbs (min e₁ e₂)) := by
    intro s positive
    refine (within_round s positive (min e₁ e₂)).mono ?_
    have digits := (Nat.log2_lt positive.ne').mpr size
    unfold target
    omega
  unfold UnpackedFloat.normalize
  split
  · next below =>
    rw [show (-n).toNat = n.natAbs by have := Int.compare_eq_lt.mp below; omega]
    exact rounded _ (by have := Int.compare_eq_lt.mp below; omega)
  · trivial
  · next above =>
    rw [show n.toNat = n.natAbs by have := Int.compare_eq_gt.mp above; omega]
    exact rounded _ (by have := Int.compare_eq_gt.mp above; omega)

/-- A sum of doubles whose exponents are within a limit is finite if the limit leaves two more. -/
theorem within_add {x y : Float} {top : Int} (withinX : Within top x.toModel.unpack)
    (withinY : Within top y.toModel.unpack) (least : -1074 ≤ top) (greatest : top + 2 ≤ 971) :
    Within (top + 2) (x + y).toModel.unpack := by
  refine Within.unpack_pack (u := add Format.binary64 x.toModel.unpack y.toModel.unpack) ?_ (by omega) greatest
  cases sizeX : x.toModel.unpack with
  | notANumber | infinity =>
    rw [sizeX] at withinX
    cases withinX
  | zero s =>
    cases sizeY : y.toModel.unpack with
    | notANumber | infinity =>
      rw [sizeY] at withinY
      cases withinY
    | zero s' =>
      unfold add
      dsimp only
      split <;> trivial
    | finite s' m' e' positive' =>
      rw [sizeY] at withinY
      exact withinY.mono (by omega)
  | finite s m e positive =>
    rw [sizeX] at withinX
    cases sizeY : y.toModel.unpack with
    | notANumber | infinity =>
      rw [sizeY] at withinY
      cases withinY
    | zero s' => exact withinX.mono (by omega)
    | finite s' m' e' positive' =>
      rw [sizeY] at withinY
      exact within_add_finite s s' positive positive' (bounds_of_unpack sizeX).1 (bounds_of_unpack sizeY).1 withinX
        withinY least

/-! ### Products and quotients -/

/-- A number of the logical model that is finite with a full mantissa and an exponent beyond a limit. -/
def Beyond (limit : Int) : UnpackedFloat → Prop
  | .finite _ m e _ => 2 ^ 52 ≤ m ∧ limit < e
  | _ => False

theorem beyond_unpack {b : BitVec Format.binary64.numBits} {limit : Int} (finite : (unpackExponent b).toNat < 2047)
    (large : limit < ((unpackExponent b).toNat : Int) - 1075) (least : -1075 ≤ limit) :
    Beyond limit (unpack Format.binary64 b) := by
  unfold unpack
  dsimp only
  split_ifs with infinite undefined subnormal zero
  · rw [infinite] at finite
    exact absurd finite (by decide)
  · rw [infinite] at finite
    exact absurd finite (by decide)
  · rw [subnormal] at large
    simp at large
    omega
  · rw [subnormal] at large
    simp at large
    omega
  · refine ⟨?_, ?_⟩
    · rw [toNat_one_append]
      omega
    · show limit < ((unpackExponent b).toNat : Int) - (1023 + 52)
      omega

theorem Beyond.abs {x : Float} {limit : Int} (beyond : Beyond limit x.toModel.unpack) (least : -1075 ≤ limit) :
    Beyond limit x.abs.toModel.unpack := by
  show Beyond limit (Float.Model.pack x.toModel.unpack.abs).unpack
  cases size : x.toModel.unpack with
  | notANumber | zero | infinity =>
    rw [size] at beyond
    cases beyond
  | finite s m e positive =>
    rw [size] at beyond
    obtain ⟨full, large⟩ := beyond
    obtain ⟨small, -, fits, -⟩ := bounds_of_unpack size
    have digits : m.log2 = 52 := (Nat.log2_eq_iff positive.ne').mpr ⟨full, small⟩
    have field := toNat_field fits
    show Beyond limit (unpack Format.binary64 (pack Format.binary64 (.finite .positive m e positive)))
    rw [pack_finite, if_neg (by omega), if_pos (by omega)]
    refine beyond_unpack ?_ ?_ least
    all_goals
      rw [unpackExponent_packComponents]
      omega

/-- The exponent of a finite double is within a limit or beyond it. -/
theorem within_or_beyond {x : Float} (finite : x.isFinite = true) {limit : Int} (least : -1074 ≤ limit) :
    Within limit x.toModel.unpack ∨ Beyond limit x.toModel.unpack := by
  replace finite : x.toModel.unpack.isFinite = true := finite
  cases size : x.toModel.unpack with
  | notANumber | infinity =>
    rw [size] at finite
    cases finite
  | zero => exact .inl trivial
  | finite s m e positive =>
    obtain ⟨-, -, -, full⟩ := bounds_of_unpack size
    by_cases small : e ≤ limit
    · exact .inl small
    · exact .inr ⟨by omega, by omega⟩

theorem unpack_pack_infinity (s : Sign) : (Float.Model.pack (.infinity s)).unpack = .infinity s := by
  cases s <;> rfl

/-- A product of two large numbers is infinite. -/
theorem infinite_mul {x y : Float} {limit limit' : Int} (beyondX : Beyond limit x.toModel.unpack)
    (beyondY : Beyond limit' y.toModel.unpack) (large : 918 ≤ limit + limit') :
    ∃ s, (x * y).toModel.unpack = .infinity s := by
  show ∃ s, (Float.Model.pack (mul Format.binary64 x.toModel.unpack y.toModel.unpack)).unpack = .infinity s
  cases sizeX : x.toModel.unpack with
  | notANumber | zero | infinity =>
    rw [sizeX] at beyondX
    cases beyondX
  | finite s m e positive =>
    cases sizeY : y.toModel.unpack with
    | notANumber | zero | infinity =>
      rw [sizeY] at beyondY
      cases beyondY
    | finite s' m' e' positive' =>
      rw [sizeX] at beyondX
      rw [sizeY] at beyondY
      obtain ⟨full, beyondX⟩ := beyondX
      obtain ⟨full', beyondY⟩ := beyondY
      have product : 0 < m * m' := Nat.mul_pos positive positive'
      have digits : 104 ≤ (m * m').log2 := (Nat.le_log2 product.ne').mpr <| calc
        2 ^ 104 = 2 ^ 52 * 2 ^ 52 := rfl
        _ ≤ m * m' := Nat.mul_le_mul full full'
      obtain ⟨m'', e'', positive'', rounded, overflows⟩ := roundWithAccuracy_large (s * s') .exact product
        (e := e + e') (by unfold target; omega)
      refine ⟨s * s', ?_⟩
      show (Float.Model.pack (roundWithAccuracy Format.binary64 (s * s') (m * m') (e + e') .exact)).unpack = _
      rw [rounded]
      exact unpack_pack_large positive'' overflows

theorem infinite_div {x y : Float} (infinite : ∃ s, x.toModel.unpack = .infinity s) (finite : y.isFinite = true) :
    ∃ s, (x / y).toModel.unpack = .infinity s := by
  obtain ⟨s, infinite⟩ := infinite
  replace finite : y.toModel.unpack.isFinite = true := finite
  show ∃ s, (Float.Model.pack (div Format.binary64 x.toModel.unpack y.toModel.unpack)).unpack = .infinity s
  rw [infinite]
  cases size : y.toModel.unpack with
  | notANumber | infinity =>
    rw [size] at finite
    cases finite
  | zero s' | finite s' => exact ⟨_, unpack_pack_infinity _⟩

theorem Within.defined {top : Int} {u : UnpackedFloat} (within : Within top u) : u ≠ .notANumber := by
  rintro rfl
  exact within

/-- Packing makes no number undefined. -/
theorem unpack_pack_defined {u : UnpackedFloat} (defined : u ≠ .notANumber) :
    (Float.Model.pack u).unpack ≠ .notANumber := by
  cases u with
  | notANumber => exact absurd rfl defined
  | infinity s =>
    rw [unpack_pack_infinity]
    simp
  | zero s => exact (Within.unpack_pack (show Within 0 (.zero s) from trivial) (by decide) (by decide)).defined
  | finite s m e positive =>
    by_cases fits : e ≤ 971
    · have within : Within (max e (-1074)) (.finite s m e positive) := le_max_left e _
      exact (within.unpack_pack (le_max_right e _) (by omega)).defined
    · rw [unpack_pack_large positive (by omega)]
      simp

theorem defined_mul {x y : Float} {s : Sign} {m : Nat} {e : Int} {positive : 0 < m}
    (finite : x.toModel.unpack = .finite s m e positive) (defined : y.toModel.unpack ≠ .notANumber) :
    (x * y).toModel.unpack ≠ .notANumber := by
  refine unpack_pack_defined (u := mul Format.binary64 x.toModel.unpack y.toModel.unpack) ?_
  rw [finite]
  cases size : y.toModel.unpack with
  | notANumber => exact absurd size defined
  | infinity | zero => exact UnpackedFloat.noConfusion
  | finite s' m' e' positive' => exact (within_roundWithAccuracy _ _ _ _).defined

theorem defined_div {x y : Float} {s : Sign} {m : Nat} {e : Int} {positive : 0 < m}
    (defined : x.toModel.unpack ≠ .notANumber) (finite : y.toModel.unpack = .finite s m e positive) :
    (x / y).toModel.unpack ≠ .notANumber := by
  refine unpack_pack_defined (u := div Format.binary64 x.toModel.unpack y.toModel.unpack) ?_
  rw [finite]
  cases size : x.toModel.unpack with
  | notANumber => exact absurd size defined
  | infinity | zero => exact UnpackedFloat.noConfusion
  | finite s' m' e' positive' => exact (within_roundWithAccuracy _ _ _ _).defined

theorem defined_abs {x : Float} (finite : x.isFinite = true) : x.abs.toModel.unpack ≠ .notANumber := by
  replace finite : x.toModel.unpack.isFinite = true := finite
  refine unpack_pack_defined (u := x.toModel.unpack.abs) ?_
  cases size : x.toModel.unpack with
  | notANumber | infinity =>
    rw [size] at finite
    cases finite
  | zero | finite => exact UnpackedFloat.noConfusion

/-! ### Rounding to doubles -/

theorem within_ofBits {n : Nat} {top : Int} (size : n < 2 ^ 64) (finite : n / 2 ^ 52 % 2 ^ 11 < 2047)
    (small : ((n / 2 ^ 52 % 2 ^ 11 : Nat) : Int) - 1075 ≤ top) (least : -1074 ≤ top) (greatest : top ≤ 971) :
    Within top (Float.ofBits (UInt64.ofNat n)).toModel.unpack := by
  have bits : (UInt64.ofNat n).toBitVec.toNat = n := Nat.mod_eq_of_lt size
  have exponent : ∀ b : BitVec Format.binary64.numBits, b.toNat = n →
      (unpackExponent b).toNat = n / 2 ^ 52 % 2 ^ 11 := by
    rintro b rfl
    exact toNat_unpackExponent b
  have field := exponent _ bits
  exact (within_unpack (by omega) (by omega) least).unpack_pack least greatest

theorem within_ofFields (negative : Bool) {field fraction : Nat} {top : Int} (finite : field < 2047)
    (small : (field : Int) - 1075 ≤ top) (digits : fraction < 2 ^ 52) (least : -1074 ≤ top) (greatest : top ≤ 971) :
    Within top (ofFields negative field fraction).toModel.unpack := by
  have sign : Nat.pow 2 63 = 2 ^ 63 := rfl
  have unit : Nat.pow 2 52 = 2 ^ 52 := rfl
  unfold ofFields
  rw [sign, unit]
  cases negative <;> exact within_ofBits (by simp; omega) (by simp; omega) (by simp; omega) least greatest

theorem roundDiv_le (n d : Nat) : roundDiv n d ≤ n / d + 1 := by
  unfold roundDiv
  dsimp only
  split_ifs <;> omega

theorem bitLength_le {m n : Nat} (small : m < 2 ^ n) : bitLength m ≤ n := by
  unfold bitLength
  split
  · exact Nat.zero_le n
  · next nonzero => exact (Nat.log2_lt nonzero).mpr small

theorem lt_two_pow_bitLength (m : Nat) : m < 2 ^ bitLength m := by
  unfold bitLength
  split
  · next zero => simp [zero]
  · exact Nat.lt_log2_self

/-- The mantissa that a number is rounded to has 53 digits, or is the next power of two. -/
theorem rounded_le (m : Nat) (q : Int) {e : Int} (digits : q + bitLength m - 53 ≤ e) :
    (if e ≤ q then m * Nat.pow 2 (q - e).toNat else roundDiv m (Nat.pow 2 (e - q).toNat)) ≤ 2 ^ 53 := by
  have small := lt_two_pow_bitLength m
  split
  · refine Nat.le_of_lt (Nat.lt_of_lt_of_le (Nat.mul_lt_mul_of_pos_right small (Nat.two_pow_pos _)) ?_)
    show 2 ^ bitLength m * 2 ^ (q - e).toNat ≤ 2 ^ 53
    rw [← Nat.pow_add]
    exact Nat.pow_le_pow_right (by decide) (by omega)
  · refine le_trans (roundDiv_le _ _) (Nat.div_lt_of_lt_mul (Nat.lt_of_lt_of_le small ?_))
    show _ ≤ 2 ^ (e - q).toNat * 2 ^ 53
    rw [← Nat.pow_add]
    exact Nat.pow_le_pow_right (by decide) (by omega)

/-- What is rounded to a double that needs an exponent up to a limit gets past it by at most one. -/
theorem within_nearest (negative : Bool) {m : Nat} {q top : Int} (digits : q + bitLength m - 53 ≤ top)
    (least : -1074 ≤ top) (greatest : top < 971) : Within (top + 1) (nearest negative m q).toModel.unpack := by
  have bounded := rounded_le m q (e := max (q + bitLength m - 53) leastExponent) (by omega)
  have start : leastExponent = -1074 := rfl
  have limit : greatestExponent = 971 := rfl
  have unit : Nat.pow 2 52 = 2 ^ 52 := rfl
  have carry : Nat.pow 2 53 = 2 ^ 53 := rfl
  unfold nearest assemble
  dsimp only
  generalize (if max (q + bitLength m - 53) leastExponent ≤ q then _ else _) = mantissa at bounded ⊢
  split_ifs <;> exact within_ofFields negative (by omega) (by omega) (by omega) (by omega) (by omega)

/-- A rounded mantissa and its exponent make a finite double or an infinite one. -/
theorem within_assemble (negative : Bool) {m : Nat} {e : Int} (digits : m ≤ 2 ^ 53) (least : -1074 ≤ e) :
    Within 971 (assemble negative m e).toModel.unpack ∨ assemble negative m e = infinity negative := by
  have limit : greatestExponent = 971 := rfl
  have unit : Nat.pow 2 52 = 2 ^ 52 := rfl
  have carry : Nat.pow 2 53 = 2 ^ 53 := rfl
  unfold assemble
  have carried : (if m = Nat.pow 2 53 then (Nat.pow 2 52, e + 1) else (m, e)).1 < 2 ^ 53 ∧
      -1074 ≤ (if m = Nat.pow 2 53 then (Nat.pow 2 52, e + 1) else (m, e)).2 := by
    split
    · exact ⟨Nat.pow_lt_pow_right (by decide) (by decide), by dsimp only; omega⟩
    · exact ⟨by dsimp only; omega, least⟩
  generalize (if m = Nat.pow 2 53 then (Nat.pow 2 52, e + 1) else (m, e)) = p at carried ⊢
  obtain ⟨m, e⟩ := p
  dsimp only at carried ⊢
  split
  · exact .inl (within_ofFields negative (by omega) (by omega) (by omega) (by omega) (by omega))
  · split
    · exact .inr rfl
    · exact .inl (within_ofFields negative (by omega) (by omega) (by omega) (by omega) (by omega))

theorem Within.isFinite {top : Int} {x : Float} (within : Within top x.toModel.unpack) : x.isFinite = true := by
  show x.toModel.unpack.isFinite = true
  cases size : x.toModel.unpack with
  | notANumber | infinity =>
    rw [size] at within
    cases within
  | zero | finite => rfl

/-- What is rounded to a double is finite, unless it is infinite. -/
theorem isFinite_nearest {negative : Bool} {m : Nat} {q : Int} (bounded : (nearest negative m q).isInf = false) :
    (nearest negative m q).isFinite = true := by
  have digits := rounded_le m q (e := max (q + bitLength m - 53) leastExponent) (by omega)
  obtain within | endless := within_assemble negative digits (le_max_right _ _)
  · exact within.isFinite
  · have infinite : (infinity negative).isInf = true := by cases negative <;> decide
    rw [← endless] at infinite
    exact absurd (infinite.symm.trans bounded) Bool.noConfusion

/-! ### Doubles -/

/-- A double that the logical model takes for infinite is infinite. -/
theorem infinite_of_unpack {x : Float} (infinite : ∃ s, x.toModel.unpack = .infinity s) :
    ∃ negative, parts x = .infinite negative := by
  obtain ⟨s, infinite⟩ := infinite
  rw [unpack_eq] at infinite
  cases size : parts x with
  | nan =>
    rw [size] at infinite
    cases infinite
  | infinite negative => exact ⟨negative, rfl⟩
  | finite negative m e =>
    rw [size] at infinite
    dsimp only [Parts.unpacked] at infinite
    split at infinite <;> cases infinite

theorem unpack_of_nan {x : Float} (undefined : parts x = .nan) : x.toModel.unpack = .notANumber := by
  rw [unpack_eq, undefined]
  rfl

/-- A sum with something that is no number is none. -/
theorem unpack_add_nan {x : Float} (undefined : x.toModel.unpack = .notANumber) (y : Float) :
    (x + y).toModel.unpack = .notANumber := by
  show (Float.Model.pack (add Format.binary64 x.toModel.unpack y.toModel.unpack)).unpack = _
  have sum : ∀ u, add Format.binary64 .notANumber u = .notANumber := fun u => by cases u <;> rfl
  rw [undefined, sum]
  rfl

theorem parts_ne_infinite {x : Float} {top : Int} (within : Within top x.toModel.unpack) (negative : Bool) :
    parts x ≠ .infinite negative := by
  intro size
  rw [unpack_eq, size] at within
  cases within

theorem lt_iff {x y : Float} : x < y ↔ x.toModel.unpack.compare y.toModel.unpack = some .lt := by
  show decide (x.toModel < y.toModel) = true ↔ _
  rw [decide_eq_true_iff]
  show (x.toModel.unpack.compare y.toModel.unpack == some .lt) = true ↔ _
  rw [beq_iff_eq]

/-- Finite numbers are below what is infinite. -/
theorem lt_of_infinity {x y : Float} (finite : x.isFinite = true) (infinite : y.toModel.unpack = .infinity .positive) :
    x < y := by
  rw [lt_iff, infinite]
  replace finite : x.toModel.unpack.isFinite = true := finite
  cases size : x.toModel.unpack with
  | notANumber | infinity =>
    rw [size] at finite
    cases finite
  | zero => rfl
  | finite s m e positive => cases s <;> rfl

theorem unpack_infinity : (infinity false).toModel.unpack = .infinity .positive := by
  rw [unpack_eq]
  rfl

/-- What is above zero and not above a finite number is finite. -/
theorem isFinite_of_between {x top : Float} (finite : top.isFinite = true) (positive : 0.0 < x) (below : ¬ top < x) :
    x.isFinite = true := by
  have zero : (0.0 : Float).toModel.unpack = .zero .positive := rfl
  rw [lt_iff, zero] at positive
  show x.toModel.unpack.isFinite = true
  cases size : x.toModel.unpack with
  | notANumber =>
    rw [size] at positive
    cases positive
  | infinity s =>
    cases s with
    | negative =>
      rw [size] at positive
      cases positive
    | positive => exact absurd (lt_of_infinity finite size) below
  | zero | finite => rfl

/-- What is kept between zero and a finite number is finite. -/
theorem isFinite_larger_smaller (x : Float) {top : Float} (finite : top.isFinite = true) :
    (larger 0.0 (smaller x top)).isFinite = true := by
  unfold larger
  split
  · next positive =>
    unfold smaller at positive ⊢
    split
    · exact finite
    · next below =>
      rw [if_neg below] at positive
      exact isFinite_of_between finite positive below
  · decide

/-! ### Doubles that are not finite -/

theorem parts_of_undefined {x : Float} (undefined : x.toModel.unpack = .notANumber) : parts x = .nan := by
  rw [unpack_eq] at undefined
  cases size : parts x with
  | nan => rfl
  | infinite =>
    rw [size] at undefined
    cases undefined
  | finite =>
    rw [size] at undefined
    dsimp only [Parts.unpacked] at undefined
    split at undefined <;> cases undefined

theorem undefined_or_infinite {x : Float} (endless : x.isFinite = false) :
    x.toModel.unpack = .notANumber ∨ ∃ s, x.toModel.unpack = .infinity s := by
  replace endless : x.toModel.unpack.isFinite = false := endless
  cases size : x.toModel.unpack with
  | notANumber => exact .inl rfl
  | infinity s => exact .inr ⟨s, rfl⟩
  | zero | finite =>
    rw [size] at endless
    cases endless

/-- Everything is below infinity but infinity itself and what is no number. -/
theorem lt_infinity_iff {x : Float} :
    x < infinity false ↔ x.toModel.unpack ≠ .notANumber ∧ x.toModel.unpack ≠ .infinity .positive := by
  rw [lt_iff, unpack_infinity]
  cases x.toModel.unpack with
  | notANumber => exact ⟨nofun, fun below => absurd rfl below.1⟩
  | infinity s =>
    cases s with
    | negative => exact ⟨fun _ => ⟨nofun, nofun⟩, fun _ => rfl⟩
    | positive => exact ⟨nofun, fun below => absurd rfl below.2⟩
  | zero => exact ⟨fun _ => ⟨nofun, nofun⟩, fun _ => rfl⟩
  | finite s => cases s <;> exact ⟨fun _ => ⟨nofun, nofun⟩, fun _ => rfl⟩

theorem not_lt_undefined {x y : Float} (undefined : y.toModel.unpack = .notANumber) : ¬ x < y := by
  rw [lt_iff, undefined]
  cases x.toModel.unpack <;> exact nofun

theorem not_undefined_lt {x y : Float} (undefined : x.toModel.unpack = .notANumber) : ¬ x < y := by
  rw [lt_iff, undefined]
  cases y.toModel.unpack <;> exact nofun

/-- What is kept between zero and something below infinity is below infinity. -/
theorem larger_smaller_lt_infinity (x : Float) {top : Float} (bounded : top < infinity false) :
    larger 0.0 (smaller x top) < infinity false := by
  have zero : (0.0 : Float) < infinity false := lt_of_infinity (by decide) unpack_infinity
  unfold larger
  split
  · next positive =>
    unfold smaller at positive ⊢
    split
    · exact bounded
    · next below =>
      rw [if_neg below] at positive
      refine lt_infinity_iff.mpr ⟨fun undefined => not_lt_undefined undefined positive, fun infinite => below ?_⟩
      rwa [lt_iff, infinite, ← unpack_infinity, ← lt_iff]
  · exact zero

/-- What is left of a number that is not below infinity, when infinity is taken from it, is no number, and is kept
as zero. -/
theorem larger_smaller_sub_infinity {x : Float} (boundless : ¬ x < infinity false) (top : Float) :
    larger 0.0 (smaller (x - infinity false) top) = 0.0 := by
  have undefined : (x - infinity false).toModel.unpack = .notANumber := by
    show (Float.Model.pack (Float.Model.UnpackedFloat.sub Format.binary64 x.toModel.unpack
      (infinity false).toModel.unpack)).unpack = _
    have minuend : x.toModel.unpack = .notANumber ∨ x.toModel.unpack = .infinity .positive := by
      rw [lt_infinity_iff] at boundless
      tauto
    rw [unpack_infinity]
    obtain undefined | infinite := minuend
    · rw [undefined]
      rfl
    · rw [infinite]
      rfl
  have same : smaller (x - infinity false) top = x - infinity false := if_neg (not_lt_undefined undefined)
  rw [same]
  exact if_neg (not_lt_undefined undefined)

/-- A sum with something that is no number is none, on whichever side that is. -/
theorem unpack_add_nan_right {y : Float} (undefined : y.toModel.unpack = .notANumber) (x : Float) :
    (x + y).toModel.unpack = .notANumber := by
  show (Float.Model.pack (add Format.binary64 x.toModel.unpack y.toModel.unpack)).unpack = _
  have sum : ∀ u, add Format.binary64 u .notANumber = .notANumber := fun u => by cases u <;> rfl
  rw [undefined, sum]
  rfl

theorem unpack_add_infinity {x y : Float} {top : Int} {s : Sign} (within : Within top x.toModel.unpack)
    (infinite : y.toModel.unpack = .infinity s) : (x + y).toModel.unpack = .infinity s := by
  show (Float.Model.pack (add Format.binary64 x.toModel.unpack y.toModel.unpack)).unpack = _
  rw [infinite]
  cases size : x.toModel.unpack with
  | notANumber | infinity =>
    rw [size] at within
    cases within
  | zero | finite => exact unpack_pack_infinity s

end WormLang.Number
