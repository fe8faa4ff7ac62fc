import SpillSelection.Proofs.FloatOrder
import SpillSelection.Proofs.FloatRange
/-!
# Whole numbers as floats

Below 2^53 a whole number is a float with all its digits: a mantissa of 53 bits, of which the last
are zero, and an exponent that is not positive (`unpack_ofNat`). From there on the exponent is
positive, or the float is infinite (`exponent_ofNat`). So no other number has the float of a number
below 2^53 (`ofNat_inj`), and all these floats are numbers.
-/

namespace SpillSelection.WholeNumbers

open Float.Model Float.Model.UnpackedFloat

variable {m n : Nat} {e : Int}

/-! ## Full mantissas -/

/-- A mantissa of 53 bits. -/
structure IsFull (m : Nat) : Prop where
  lower : 2 ^ 52 ≤ m
  upper : m < 2 ^ 53

theorem IsFull.pos (h : IsFull m) : 0 < m := Nat.lt_of_lt_of_le (Nat.two_pow_pos 52) h.lower

theorem IsFull.log2 (h : IsFull m) : m.log2 = 52 :=
  (Nat.log2_eq_iff h.pos.ne').2 ⟨h.lower, h.upper⟩

theorem log2_shiftLeft (some : n ≠ 0) (k : Nat) : (n <<< k).log2 = n.log2 + k := by
  induction k with
  | zero => rfl
  | succ k ih =>
    have shifted : n <<< k ≠ 0 := by
      rw [Nat.shiftLeft_eq]
      exact Nat.mul_ne_zero some (Nat.two_pow_pos k).ne'
    rw [Nat.shiftLeft_succ, Nat.log2_two_mul shifted, ih, Nat.add_assoc]

/-- The digits of a number below 2^53, with zeros after them. -/
theorem isFull_shiftLeft (positive : 0 < n) (small : n < 2 ^ 53) :
    IsFull (n <<< (52 - n.log2)) := by
  have digits : n.log2 < 53 := (Nat.log2_lt positive.ne').2 small
  have log : (n <<< (52 - n.log2)).log2 = 52 := by
    rw [log2_shiftLeft positive.ne']
    omega
  have some : n <<< (52 - n.log2) ≠ 0 := by
    rw [Nat.shiftLeft_eq]
    exact Nat.mul_ne_zero positive.ne' (Nat.two_pow_pos _).ne'
  obtain ⟨lower, upper⟩ := (Nat.log2_eq_iff some).1 log
  exact ⟨lower, upper⟩

/-! ## Rounding -/

theorem targetExponent_eq (m : Nat) (e : Int) :
    Format.binary64.targetExponent (totalExponent m e) = max (m.log2 + e - 52) (-1074) := by
  simp only [Format.targetExponent, totalExponent, Format.mantissaBits, Format.minExponent]
  omega

/-- Zeros that are shifted out leave no residue. -/
theorem shift_zeros (m n : Nat) :
    (⟨m <<< n, false, false⟩ : ExtendedMantissa) >>> n = ⟨m, false, false⟩ := by
  induction n generalizing m with
  | zero => rfl
  | succ n ih =>
    have zero : m <<< (n + 1) = (2 * m) <<< n := by
      rw [Nat.shiftLeft_eq, Nat.shiftLeft_eq, Nat.pow_succ, Nat.mul_comm 2 m, Nat.mul_assoc,
        Nat.mul_comm 2]
    have step : (⟨m <<< (n + 1), false, false⟩ : ExtendedMantissa) >>> (n + 1) =
        ((⟨m <<< (n + 1), false, false⟩ : ExtendedMantissa) >>> n).shiftRightOne := rfl
    rw [step, zero, ih]
    simp [ExtendedMantissa.shiftRightOne]

theorem shiftToTargetExponent_full (h : IsFull m) (n : Nat) (inRange : -1074 ≤ e) :
    shiftToTargetExponent Format.binary64 (m <<< n) (e - n) .exact = (⟨m, false, false⟩, e) := by
  have target : Format.binary64.targetExponent (totalExponent (m <<< n) (e - n)) = e := by
    rw [targetExponent_eq, log2_shiftLeft h.pos.ne', h.log2]
    omega
  have amount : (e - (e - n)).toNat = n := by omega
  have back : e - n + n = e := by omega
  simp only [shiftToTargetExponent, shiftToExponent, target, amount, back,
    ExtendedMantissa.ofMantissaAndAccuracy, shift_zeros]

/-- A full mantissa with zeros after it is rounded by taking the zeros off. -/
theorem roundWithAccuracy_full (h : IsFull m) (n : Nat) (inRange : -1074 ≤ e) (s : Sign) :
    roundWithAccuracy Format.binary64 s (m <<< n) (e - n) .exact = .finite s m e h.pos := by
  have again := shiftToTargetExponent_full h 0 inRange
  simp only [Nat.shiftLeft_zero, Nat.cast_zero, Int.sub_zero] at again
  have rounded : (⟨m, false, false⟩ : ExtendedMantissa).roundedMantissa = m := rfl
  simp only [roundWithAccuracy, shiftToTargetExponent_full h n inRange, rounded, again,
    dif_neg h.pos.ne']

theorem le_roundedMantissa (m : ExtendedMantissa) : m.mantissa ≤ m.roundedMantissa := by
  unfold ExtendedMantissa.roundedMantissa Accuracy.roundToNearestEven
  split <;> omega

/-- The first 53 bits of a longer mantissa. -/
theorem isFull_div (long : 52 ≤ m.log2) : IsFull (m / 2 ^ (m.log2 - 52)) := by
  have some : m ≠ 0 := by
    rintro rfl
    simp at long
  obtain ⟨lower, upper⟩ := (Nat.log2_eq_iff some).1 rfl
  refine ⟨?_, ?_⟩
  · rw [Nat.le_div_iff_mul_le (Nat.two_pow_pos _), ← Nat.pow_add, Nat.add_sub_cancel' long]
    exact lower
  · have bits : 53 + (m.log2 - 52) = m.log2 + 1 := by omega
    rw [Nat.div_lt_iff_lt_mul (Nat.two_pow_pos _), ← Nat.pow_add, bits]
    exact upper

/-- A long mantissa is rounded to a full one, and the bits that are taken off are in the
exponent. -/
theorem roundWithAccuracy_long (long : 52 ≤ m.log2) (inRange : -1074 ≤ m.log2 + e - 52)
    (s : Sign) : ∃ (m' : Nat) (e' : Int) (full : IsFull m'), m.log2 + e - 52 ≤ e' ∧
      roundWithAccuracy Format.binary64 s m e .exact = .finite s m' e' full.pos := by
  have target : Format.binary64.targetExponent (totalExponent m e) = m.log2 + e - 52 := by
    rw [targetExponent_eq]
    omega
  have amount : ((m.log2 + e - 52) - e).toNat = m.log2 - 52 := by omega
  have moved : e + ((m.log2 - 52 : Nat) : Int) = m.log2 + e - 52 := by omega
  obtain ⟨shifted, first, digits⟩ : ∃ shifted,
      shiftToTargetExponent Format.binary64 m e .exact = (shifted, m.log2 + e - 52) ∧
        shifted.mantissa = m / 2 ^ (m.log2 - 52) := by
    refine ⟨(⟨m, false, false⟩ : ExtendedMantissa) >>> (m.log2 - 52), ?_,
      Decimal.mantissa_shiftRight _ _⟩
    simp only [shiftToTargetExponent, shiftToExponent, target, amount, moved,
      ExtendedMantissa.ofMantissaAndAccuracy]
  have full := isFull_div long
  have lower := le_roundedMantissa shifted
  have upper := Decimal.roundedMantissa_le shifted
  rw [digits] at lower upper
  generalize m.log2 + e - 52 = t at *
  by_cases carry : shifted.roundedMantissa = 2 ^ 53
  -- Rounding up to 2^53 takes one bit more off.
  · have half : IsFull (2 ^ 52) := ⟨Nat.le_refl _, by decide⟩
    have second := shiftToTargetExponent_full (e := t + 1) half 1 (by omega)
    have back : t + 1 - (1 : Nat) = t := by omega
    rw [Nat.shiftLeft_eq, ← Nat.pow_succ, back] at second
    refine ⟨2 ^ 52, t + 1, half, by omega, ?_⟩
    simp only [roundWithAccuracy, first, carry, second, dif_neg half.pos.ne']
  · have full : IsFull shifted.roundedMantissa := by
      obtain ⟨low, high⟩ := full
      constructor <;> omega
    have second := shiftToTargetExponent_full full 0 inRange
    simp only [Nat.shiftLeft_zero, Nat.cast_zero, Int.sub_zero] at second
    refine ⟨_, t, full, Int.le_refl _, ?_⟩
    simp only [roundWithAccuracy, first, second, dif_neg full.pos.ne']

/-! ## Packing -/

theorem unpackSign_packComponents (sign : Sign) (exponent : BitVec 11) (mantissa : BitVec 52) :
    unpackSign (packComponents Format.binary64 sign exponent mantissa) = sign.toBitVec := by
  change (sign.toBitVec ++ exponent ++ mantissa).extractLsb' 63 1 = sign.toBitVec
  rw [BitVec.extractLsb'_append_eq_of_le (by decide),
    BitVec.extractLsb'_append_eq_of_le (by decide)]
  cases sign <;> rfl

/-- The first bit of a full mantissa is not packed. -/
theorem toNat_one_append (mantissa : BitVec 52) :
    (1#1 ++ mantissa).toNat = mantissa.toNat + 2 ^ 52 := by
  rw [BitVec.toNat_append, Nat.or_comm]
  exact Nat.or_two_pow_eq_add_of_lt mantissa.isLt

/-- A normal float is read off its fields. -/
theorem unpack_packComponents {exponent : BitVec 11} {mantissa : BitVec 52}
    (notLargest : exponent ≠ -1#11) (notZero : exponent ≠ 0#11) :
    UnpackedFloat.unpack Format.binary64
        (packComponents Format.binary64 .positive exponent mantissa) =
      .finite .positive (mantissa.toNat + 2 ^ 52) (exponent.toNat - 1075) (by omega) := by
  have sign : Sign.ofBitVec (Sign.toBitVec .positive) = .positive := rfl
  unfold UnpackedFloat.unpack
  simp only [unpackExponent_packComponents, unpackMantissa_packComponents,
    unpackSign_packComponents, sign, if_neg notLargest, if_neg notZero, toNat_one_append]
  rfl

/-- The fields of a full mantissa with its exponent. -/
theorem pack_full (h : IsFull m) (high : e ≤ 971) :
    UnpackedFloat.pack Format.binary64 (.finite .positive m e h.pos) =
      packComponents Format.binary64 .positive (.ofNat 11 (e + 1075).toNat) (.ofNat 52 m) := by
  have field : (e + Format.binary64.exponentBias +
      Format.binary64.mantissaBitsWithoutImplicit).toNat = (e + 1075).toNat := by
    have bias : Format.binary64.exponentBias = 1023 := by decide
    simp only [bias]
    omega
  have inRange : ¬2 ^ Format.binary64.exponentBits ≤ (e + 1075).toNat + 1 := by
    change ¬2048 ≤ (e + 1075).toNat + 1
    omega
  have full : m.log2 + 1 = Format.binary64.mantissaBits := by
    rw [h.log2]
    rfl
  simp only [UnpackedFloat.pack, field, if_neg inRange, if_pos full]

/-- A full mantissa is unpacked with the exponent that it is packed with. -/
theorem unpack_pack_full (h : IsFull m) (low : -1074 ≤ e) (high : e ≤ 971) :
    (Float.Model.pack (.finite .positive m e h.pos)).unpack = .finite .positive m e h.pos := by
  change UnpackedFloat.unpack Format.binary64 (UnpackedFloat.pack Format.binary64 _) = _
  have exponent : (BitVec.ofNat 11 (e + 1075).toNat).toNat = (e + 1075).toNat := by
    rw [BitVec.toNat_ofNat]
    omega
  have other (k : Nat) (hk : (e + 1075).toNat ≠ k % 2048) :
      BitVec.ofNat 11 (e + 1075).toNat ≠ BitVec.ofNat 11 k := by
    intro same
    have := congrArg BitVec.toNat same
    rw [exponent, BitVec.toNat_ofNat] at this
    exact hk this
  have mantissa : (BitVec.ofNat 52 m).toNat + 2 ^ 52 = m := by
    obtain ⟨lower, upper⟩ := h
    rw [BitVec.toNat_ofNat]
    omega
  rw [pack_full h high, unpack_packComponents (other 2047 (by omega)) (other 0 (by omega))]
  simp only [mantissa, exponent]
  congr 1
  omega

/-- An exponent that is too large is packed as infinity. -/
theorem unpack_pack_large (h : IsFull m) (high : 971 < e) :
    (Float.Model.pack (.finite .positive m e h.pos)).unpack = .infinity .positive := by
  change UnpackedFloat.unpack Format.binary64 (UnpackedFloat.pack Format.binary64 _) = _
  have tooLarge : 2 ^ Format.binary64.exponentBits ≤ (e + Format.binary64.exponentBias +
      Format.binary64.mantissaBitsWithoutImplicit).toNat + 1 := by
    have bias : Format.binary64.exponentBias = 1023 := by decide
    simp only [bias]
    omega
  rw [UnpackedFloat.pack, if_pos tooLarge]
  rfl

/-! ## Floats of numbers -/

theorem round_small (positive : 0 < n) (small : n < 2 ^ 53) :
    UnpackedFloat.round Format.binary64 .positive n 0 =
      .finite .positive (n <<< (52 - n.log2)) (n.log2 - 52)
        (isFull_shiftLeft positive small).pos := by
  have digits : n.log2 < 53 := (Nat.log2_lt positive.ne').2 small
  have target : Format.binary64.targetExponent (totalExponent n 0) = n.log2 - 52 := by
    rw [targetExponent_eq]
    omega
  have amount : (0 - ((n.log2 : Int) - 52)).toNat = 52 - n.log2 := by omega
  have moved : (0 : Int) - (52 - n.log2 : Nat) = n.log2 - 52 := by omega
  have rounded := roundWithAccuracy_full (e := (n.log2 : Int) - 52)
    (isFull_shiftLeft positive small) 0 (by omega) .positive
  rw [Nat.shiftLeft_zero, Nat.cast_zero, Int.sub_zero] at rounded
  simp only [UnpackedFloat.round, decreaseExponent, target, amount, moved, rounded]

theorem unpack_toFloat (positive : 0 < n) (small : n < 2 ^ 53) :
    n.toUInt64.toFloat.toModel.unpack =
      .finite .positive (n <<< (52 - n.log2)) (n.log2 - 52)
        (isFull_shiftLeft positive small).pos := by
  have digits : n.log2 < 53 := (Nat.log2_lt positive.ne').2 small
  have same : n.toUInt64.toNat = n := UInt64.toNat_ofNat_of_lt' (Nat.lt_trans small (by decide))
  have order : compare (n : Int) 0 = .gt := Int.compare_eq_gt.2 (by omega)
  have rounded : UnpackedFloat.ofUInt64 Format.binary64 n.toUInt64 =
      .finite .positive (n <<< (52 - n.log2)) (n.log2 - 52)
        (isFull_shiftLeft positive small).pos := by
    unfold UnpackedFloat.ofUInt64 UnpackedFloat.ofNat UnpackedFloat.ofInt UnpackedFloat.normalize
    rw [same, order]
    exact round_small positive small
  change (Float.Model.pack (UnpackedFloat.ofUInt64 Format.binary64 n.toUInt64)).unpack = _
  rw [rounded]
  exact unpack_pack_full (isFull_shiftLeft positive small) (by omega) (by omega)

/-- A number below 2^53 is a float with all its digits. -/
theorem unpack_ofNat (positive : 0 < n) (small : n < 2 ^ 53) :
    (Float.ofNat n).toModel.unpack =
      .finite .positive (n <<< (52 - n.log2)) (n.log2 - 52)
        (isFull_shiftLeft positive small).pos := by
  have full := isFull_shiftLeft positive small
  have digits : n.log2 < 53 := (Nat.log2_lt positive.ne').2 small
  have one : (Float.ofBits 0x3FF0000000000000).toModel.unpack =
      .finite .positive (2 ^ 52) (-52) (by decide) := rfl
  -- It is multiplied by one, which puts zeros behind the digits.
  have product : UnpackedFloat.mul Format.binary64 n.toUInt64.toFloat.toModel.unpack
      (Float.ofBits 0x3FF0000000000000).toModel.unpack =
        .finite .positive (n <<< (52 - n.log2)) (n.log2 - 52) full.pos := by
    have zeros := roundWithAccuracy_full (e := (n.log2 : Int) - 52) full 52 (by omega) .positive
    rw [Nat.shiftLeft_eq _ 52] at zeros
    rw [unpack_toFloat positive small, one]
    exact zeros
  have fast : Float.ofNat n = n.toUInt64.toFloat * Float.ofBits 0x3FF0000000000000 := by
    change Float.ofScientific n false 0 = _
    unfold Float.ofScientific
    rw [dif_pos ⟨small, by decide⟩]
    rfl
  rw [fast]
  change (Float.Model.pack (UnpackedFloat.mul Format.binary64 _ _)).unpack = _
  rw [product]
  exact unpack_pack_full full (by omega) (by omega)

/-- From 2^53 on a number needs a positive exponent. -/
theorem exponent_ofNat (large : 2 ^ 53 ≤ n) :
    (Float.ofNat n).toModel.unpack = .infinity .positive ∨
      ∃ m e pos, 0 < e ∧ (Float.ofNat n).toModel.unpack = .finite .positive m e pos := by
  have slow : Float.ofNat n = Float.ofModel (Float.Model.ofScientific n 0) := by
    change Float.ofScientific n false 0 = _
    unfold Float.ofScientific
    rw [dif_neg (by omega)]
    rfl
  have some : n ≠ 0 := by omega
  have bits : 53 ≤ n.log2 := (Nat.le_log2 some).2 large
  obtain ⟨pos, one, product⟩ := Decimal.ofScientific_eq_mul (Nat.pos_of_ne_zero some)
  obtain ⟨m, e, full, exponent, rounded⟩ := roundWithAccuracy_long (m := n <<< 53) (e := -53)
    (by rw [log2_shiftLeft some]; omega) (by rw [log2_shiftLeft some]; omega) .positive
  rw [log2_shiftLeft some] at exponent
  rw [UnpackedFloat.mul, Nat.mul_one, Int.add_zero] at product
  have unpacked : (Float.ofNat n).toModel.unpack =
      (Float.Model.pack (.finite .positive m e full.pos)).unpack := by
    rw [slow]
    exact congrArg (fun u => (Float.Model.pack u).unpack) (product.trans rounded)
  rw [unpacked]
  rcases Int.lt_or_le 971 e with high | inRange
  · exact .inl (unpack_pack_large full high)
  · exact .inr ⟨m, e, full.pos, by omega, unpack_pack_full full (by omega) inRange⟩

theorem unpack_ofNat_zero : (Float.ofNat 0).toModel.unpack = .zero .positive := rfl

/-- Every number has a float that is one. -/
theorem isNaN_ofNat (n : Nat) : (Float.ofNat n).isNaN = false := by
  change (Float.ofNat n).toModel.unpack.isNaN = false
  rcases Nat.lt_or_ge n (2 ^ 53) with small | large
  · rcases Nat.eq_zero_or_pos n with rfl | positive
    · rfl
    · rw [unpack_ofNat positive small]
      rfl
  · rcases exponent_ofNat large with infinite | ⟨m, e, pos, -, finite⟩
    · rw [infinite]
      rfl
    · rw [finite]
      rfl

/-! ## Telling numbers apart -/

section Apart

variable {k : Nat}

theorem unpack_ofNat_inj (smallN : n < 2 ^ 53) (smallK : k < 2 ^ 53)
    (same : (Float.ofNat n).toModel.unpack = (Float.ofNat k).toModel.unpack) : n = k := by
  rcases Nat.eq_zero_or_pos n with rfl | hn
  · rcases Nat.eq_zero_or_pos k with rfl | hk
    · rfl
    · rw [unpack_ofNat_zero, unpack_ofNat hk smallK] at same
      cases same
  · rcases Nat.eq_zero_or_pos k with rfl | hk
    · rw [unpack_ofNat_zero, unpack_ofNat hn smallN] at same
      cases same
    · rw [unpack_ofNat hn smallN, unpack_ofNat hk smallK] at same
      injection same with _ digits exponents
      -- The exponents tell how many zeros there are after the digits.
      have zeros : n.log2 = k.log2 := by omega
      rw [zeros, Nat.shiftLeft_eq, Nat.shiftLeft_eq] at digits
      exact Nat.eq_of_mul_eq_mul_right (Nat.two_pow_pos _) digits

theorem unpack_ofNat_ne (large : 2 ^ 53 ≤ n) (small : k < 2 ^ 53) :
    (Float.ofNat n).toModel.unpack ≠ (Float.ofNat k).toModel.unpack := by
  intro same
  rcases Nat.eq_zero_or_pos k with rfl | positive
  · rw [unpack_ofNat_zero] at same
    rcases exponent_ofNat large with infinite | ⟨m, e, pos, -, finite⟩
    · cases infinite.symm.trans same
    · cases finite.symm.trans same
  · rw [unpack_ofNat positive small] at same
    rcases exponent_ofNat large with infinite | ⟨m, e, pos, above, finite⟩
    · cases infinite.symm.trans same
    · have digits : k.log2 < 53 := (Nat.log2_lt positive.ne').2 small
      injection finite.symm.trans same with _ _ exponents
      omega

/-- No other number has the float of a number below 2^53. -/
theorem ofNat_inj (small : k < 2 ^ 53) : Float.ofNat n = Float.ofNat k ↔ n = k := by
  constructor
  · intro same
    rcases Nat.lt_or_ge n (2 ^ 53) with below | large
    · exact unpack_ofNat_inj below small (by rw [same])
    · exact absurd (by rw [same]) (unpack_ofNat_ne large small)
  · intro same
    rw [same]

end Apart

end SpillSelection.WholeNumbers
