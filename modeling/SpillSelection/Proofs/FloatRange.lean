import Mathlib
import SpillSelection.Decimal.Scaling
/-!
# Floats of whole numbers

A 64-bit number times one is a finite float. An operation on floats rounds a mantissa with an
exponent and packs the result, and each of the two keeps a power of two above the number: rounding
needs the next one at most, and packing none as long as the power is within the format.
-/

namespace SpillSelection.Decimal

open Float.Model Float.Model.UnpackedFloat

/-- A mantissa with an exponent stands for less than a power of two. -/
def Fits (power : Int) (mantissa : Nat) (exponent : Int) : Prop :=
  ∃ bits : Nat, mantissa < 2 ^ bits ∧ bits + exponent ≤ power

/-- A finite number below a power of two. -/
def IsBelow (power : Int) : UnpackedFloat → Prop
  | .zero _ => True
  | .finite _ mantissa exponent _ => Fits power mantissa exponent
  | _ => False

theorem Fits.shiftLeft {power : Int} {mantissa : Nat} {exponent : Int}
    (h : Fits power mantissa exponent) (n : Nat) : Fits power (mantissa <<< n) (exponent - n) := by
  obtain ⟨bits, small, le⟩ := h
  refine ⟨bits + n, ?_, by omega⟩
  rw [Nat.shiftLeft_eq, Nat.pow_add]
  exact Nat.mul_lt_mul_of_pos_right small (Nat.two_pow_pos n)

theorem isFinite_of_isBelow {power : Int} {x : UnpackedFloat} (h : IsBelow power x) :
    x.isFinite = true := by
  cases x with
  | infinity | notANumber => exact h.elim
  | zero | finite => rfl

/-! ## Rounding -/

theorem mantissa_shiftRight (m : ExtendedMantissa) (n : Nat) :
    (m >>> n).mantissa = m.mantissa / 2 ^ n := by
  induction n with
  | zero => simp [HShiftRight.hShiftRight, Nat.repeat]
  | succ n ih =>
    have step : (m >>> (n + 1)).mantissa = (m >>> n).mantissa / 2 := rfl
    rw [step, ih, Nat.div_div_eq_div_mul, Nat.pow_succ]

theorem roundedMantissa_le (m : ExtendedMantissa) : m.roundedMantissa ≤ m.mantissa + 1 := by
  unfold ExtendedMantissa.roundedMantissa Accuracy.roundToNearestEven
  split <;> omega

theorem fits_shift {power : Int} {mantissa : Nat} {exponent : Int} (accuracy : Accuracy)
    (normal : -1000 ≤ power) (h : Fits power mantissa exponent) :
    Fits power (shiftToTargetExponent Format.binary64 mantissa exponent accuracy).1.mantissa
      (shiftToTargetExponent Format.binary64 mantissa exponent accuracy).2 := by
  obtain ⟨bits, small, le⟩ := h
  have log : Nat.log2 mantissa ≤ bits := by
    rcases Nat.eq_zero_or_pos mantissa with rfl | pos
    · simp
    · exact Nat.le_of_lt ((Nat.log2_lt (by omega)).2 small)
  have wanted : Format.binary64.targetExponent (totalExponent mantissa exponent) ≤ power := by
    simp only [Format.targetExponent, totalExponent, Format.mantissaBits, Format.minExponent]
    omega
  simp only [shiftToTargetExponent, shiftToExponent, mantissa_shiftRight]
  generalize Format.binary64.targetExponent (totalExponent mantissa exponent) = target at *
  have start : (ExtendedMantissa.ofMantissaAndAccuracy mantissa accuracy).mantissa = mantissa := by
    unfold ExtendedMantissa.ofMantissaAndAccuracy
    split <;> rfl
  rw [start]
  generalize shift : (target - exponent).toNat = n
  -- A shift takes its bits off the mantissa and puts them on the exponent, unless none is left.
  rcases Nat.le_total n bits with some | all
  · refine ⟨bits - n, ?_, by omega⟩
    rw [Nat.div_lt_iff_lt_mul (Nat.two_pow_pos n), ← Nat.pow_add, Nat.sub_add_cancel some]
    exact small
  · have none : mantissa / 2 ^ n = 0 :=
      Nat.div_eq_of_lt (Nat.lt_of_lt_of_le small (Nat.pow_le_pow_right (by decide) all))
    exact ⟨0, by simp [none], by omega⟩

theorem isBelow_roundWithAccuracy {power : Int} {mantissa : Nat} {exponent : Int} (sign : Sign)
    (accuracy : Accuracy) (normal : -1000 ≤ power) (h : Fits power mantissa exponent) :
    IsBelow (power + 1)
      (roundWithAccuracy Format.binary64 sign mantissa exponent accuracy) := by
  have first := fits_shift accuracy normal h
  unfold roundWithAccuracy
  generalize shiftToTargetExponent Format.binary64 mantissa exponent accuracy = shifted at *
  obtain ⟨m, e⟩ := shifted
  obtain ⟨bits, small, le⟩ := first
  -- Rounding up may reach the next power of two, and then the mantissa is shifted once more.
  have rounded : Fits (power + 1) m.roundedMantissa e := by
    refine ⟨bits + 1, ?_, by simp only at le; omega⟩
    have := roundedMantissa_le m
    have := Nat.two_pow_pos bits
    rw [Nat.pow_succ]
    simp only at small
    omega
  have second := fits_shift .exact (by omega) rounded
  dsimp only
  split
  · trivial
  · exact second

theorem isBelow_round {power : Int} {mantissa : Nat} {exponent : Int} (sign : Sign)
    (normal : -1000 ≤ power) (h : Fits power mantissa exponent) :
    IsBelow (power + 1) (round Format.binary64 sign mantissa exponent) :=
  isBelow_roundWithAccuracy sign .exact normal (h.shiftLeft _)

theorem isBelow_mul {p q : Int} {x y : UnpackedFloat} (normal : -1000 ≤ p + q)
    (hx : IsBelow p x) (hy : IsBelow q y) :
    IsBelow (p + q + 1) (UnpackedFloat.mul Format.binary64 x y) := by
  cases x with
  | infinity | notANumber => exact hx.elim
  | zero =>
    cases y with
    | infinity | notANumber => exact hy.elim
    | zero | finite => trivial
  | finite s m e =>
    cases y with
    | infinity | notANumber => exact hy.elim
    | zero => trivial
    | finite t n f =>
      obtain ⟨bits, small, le⟩ := hx
      obtain ⟨bits', small', le'⟩ := hy
      refine isBelow_roundWithAccuracy _ .exact normal ⟨bits + bits', ?_, by omega⟩
      rw [Nat.pow_add]
      exact Nat.mul_lt_mul'' small small'

/-! ## Packing -/

theorem isBelow_unpack {power : Int} {b : BitVec Format.binary64.numBits}
    (normal : -1000 ≤ power) (small : power ≤ 900)
    (h : ((unpackExponent b).toNat : Int) ≤ power + 1022) :
    IsBelow power (UnpackedFloat.unpack Format.binary64 b) := by
  have finite : unpackExponent b ≠ -1#_ := by
    intro same
    have largest : (-BitVec.ofNat Format.binary64.exponentBits 1).toNat = 2047 := by decide
    rw [same, largest] at h
    omega
  have bias : Format.binary64.exponentBias = 1023 := by decide
  unfold UnpackedFloat.unpack
  simp only [finite, if_false, bias]
  split
  case isTrue subnormal =>
    split
    · trivial
    · refine ⟨52, (unpackMantissa b).isLt, ?_⟩
      rw [subnormal]
      simp
      omega
  case isFalse =>
    refine ⟨53, (1#1 ++ unpackMantissa b).isLt, ?_⟩
    simp
    omega

theorem isBelow_pack {power : Int} {x : UnpackedFloat} (normal : -1000 ≤ power)
    (small : power ≤ 900) (h : IsBelow power x) : IsBelow power (Float.Model.pack x).unpack := by
  have bias : Format.binary64.exponentBias = 1023 := by decide
  refine isBelow_unpack normal small ?_
  change ((unpackExponent (UnpackedFloat.pack Format.binary64 x)).toNat : Int) ≤ power + 1022
  cases x with
  | infinity | notANumber => exact h.elim
  | zero =>
    simp [UnpackedFloat.pack, packedZero]
    omega
  | finite s m e pos =>
    obtain ⟨bits, below, le⟩ := h
    simp only [UnpackedFloat.pack, bias]
    split
    · omega
    split
    -- A mantissa of fewer bits is packed with the exponent field zero.
    case isTrue full =>
      have large : 2 ^ 52 ≤ m :=
        (Nat.le_log2 (by omega)).1 (by simp [Format.mantissaBits] at full; omega)
      have : 53 ≤ bits := (Nat.pow_lt_pow_iff_right (by decide)).1 (by omega : 2 ^ 52 < 2 ^ bits)
      simp
      omega
    · simp
      omega

/-! ## Whole numbers -/

/-- A float below a power of two. -/
def IsSmall (power : Int) (x : Float) : Prop := IsBelow power x.toModel.unpack

theorem IsSmall.isFinite {power : Int} {x : Float} (h : IsSmall power x) : x.isFinite = true :=
  isFinite_of_isBelow h

theorem IsSmall.mul {p q : Int} {x y : Float} (hx : IsSmall p x) (hy : IsSmall q y)
    (normal : -1000 ≤ p + q) (small : p + q < 900) : IsSmall (p + q + 1) (x * y) :=
  isBelow_pack (by omega) (by omega) (isBelow_mul normal hx hy)

theorem isSmall_one : IsSmall 1 (Float.ofBits 0x3FF0000000000000) := by
  have unpacked : (Float.ofBits 0x3FF0000000000000).toModel.unpack =
      .finite .positive (2 ^ 52) (-52) (by decide) := rfl
  rw [IsSmall, unpacked]
  exact ⟨53, by decide, by decide⟩

theorem isSmall_toFloat {bits : Nat} {n : UInt64} (h : n.toNat < 2 ^ bits) (small : bits < 900) :
    IsSmall (bits + 1) n.toFloat := by
  refine isBelow_pack (by omega) (by omega) ?_
  unfold UnpackedFloat.ofUInt64 UnpackedFloat.ofNat UnpackedFloat.ofInt UnpackedFloat.normalize
  cases order : compare (n.toNat : Int) 0 with
  | lt => exact absurd (Int.compare_eq_lt.1 order) (by omega)
  | eq => trivial
  | gt => exact isBelow_round _ (by omega) ⟨bits, by simpa using h, by omega⟩

/-- The product that the float of a large whole number is rounded from. -/
theorem ofScientific_eq_mul {n : Nat} (positive : 0 < n) :
    ∃ pos one, UnpackedFloat.ofScientific Format.binary64 n 0 =
      UnpackedFloat.mul Format.binary64 (.finite .positive (n <<< 53) (-53) pos)
        (.finite .positive 1 0 one) := by
  have inRange : ¬(0 : Int) > 2 ^ Format.binary64.exponentBits := by decide
  have notSmall : ¬(0 : Int) < -((2 ^ Format.binary64.exponentBits : Int) + n.log2) := by
    have large : (0 : Int) < 2 ^ Format.binary64.exponentBits := by decide
    omega
  rw [UnpackedFloat.ofScientific, dif_neg (by omega), if_neg inRange, if_neg notSmall,
    if_pos (Int.le_refl 0)]
  exact ⟨_, _, rfl⟩

theorem isBelow_ofScientific {n bits : Nat} (h : n < 2 ^ bits) (positive : 0 < n) :
    IsBelow (bits + 1 + 1) (UnpackedFloat.ofScientific Format.binary64 n 0) := by
  obtain ⟨pos, one, same⟩ := ofScientific_eq_mul positive
  have whole : Fits bits n 0 := ⟨bits, h, by omega⟩
  have fits : Fits bits (n <<< 53) (-53) := whole.shiftLeft 53
  rw [same]
  generalize n <<< 53 = mantissa at *
  refine isBelow_mul (p := bits) (q := 1) (by omega) ?_ ?_
  · exact fits
  · exact ⟨1, by decide, by decide⟩

theorem isSmall_ofNat {n : Nat} (h : n < UInt64.size) : IsSmall 67 (Float.ofNat n) := by
  change IsSmall 67 (Float.ofScientific n false 0)
  unfold Float.ofScientific
  split
  case isTrue exact =>
    have digits : n.toUInt64.toNat < 2 ^ 64 := UInt64.toNat_lt _
    exact (isSmall_toFloat digits (by omega)).mul isSmall_one (by omega) (by omega)
  case isFalse large =>
    have fits : n < 2 ^ 65 := Nat.lt_trans h (by decide)
    exact isBelow_pack (by omega) (by omega) (isBelow_ofScientific fits (by omega))

theorem power_zero : power 0 = Float.ofBits 0x3FF0000000000000 := by decide +kernel

/-- The digits of a 64-bit number are a float in range. -/
theorem scaled?_isSome {n : Nat} (h : n < UInt64.size) : (scaled? n 0).isSome := by
  have finite : (Float.ofNat n * power 0).isFinite = true := by
    rw [power_zero]
    exact ((isSmall_ofNat h).mul isSmall_one (by omega) (by omega)).isFinite
  unfold scaled?
  split
  · rfl
  split
  · rfl
  split
  · contradiction
  · simp [finite]

end SpillSelection.Decimal
