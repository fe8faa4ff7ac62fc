import Mathlib
/-!
# The order of floats

Two floats that are numbers compare as their places in a linear order do: first by sign, with the
infinities beyond everything else, then by exponent and by mantissa, both turned around below zero.
A float that is not a number compares with nothing. The order of floats is read off those places
(`lt_iff_rank`, `le_iff_rank`), and it is linear but for what is not a number. Of arithmetic there
is only which results are numbers.
-/

namespace SpillSelection.FloatOrder

open Float.Model Float.Model.UnpackedFloat

/-! ## Places -/

/-- A place in the order of the numbers. -/
abbrev Rank := ℤ ×ₗ ℤ ×ₗ ℤ

def place (size exponent mantissa : ℤ) : Rank := toLex (size, toLex (exponent, mantissa))

/-- Where a number stands; what is not a number has no use for its place. -/
def rankOf : UnpackedFloat → Rank
  | .infinity s => place (s.apply 2) 0 0
  | .finite s m e _ => place (s.apply 1) (s.apply e) (s.apply m)
  | .zero _ | .notANumber => place 0 0 0

theorem compare_place (a b c a' b' c' : ℤ) :
    compare (place a b c) (place a' b' c') =
      (compare a a').then ((compare b b').then (compare c c')) := by
  simp only [place, Prod.Lex.compare_def, compareLex, compareOn]
  rfl

theorem compare_neg (a b : ℤ) : compare (-a) (-b) = compare b a := by
  simp only [← cmp_eq_compare]
  exact StrictAnti.cmp_map_eq (fun _ _ => Int.neg_lt_neg) a b

theorem compare_cast (m n : ℕ) : compare (m : ℤ) (n : ℤ) = compare m n := by
  simp only [← cmp_eq_compare]
  exact Nat.strictMono_cast.cmp_map_eq m n

/-- Numbers compare as their places do. -/
theorem compare_eq {x y : UnpackedFloat} (hx : x.isNaN = false) (hy : y.isNaN = false) :
    x.compare y = some (compare (rankOf x) (rankOf y)) := by
  cases x with
  | notANumber => cases hx
  | infinity s =>
    cases y with
    | notANumber => cases hy
    | infinity t => cases s <;> cases t <;> rfl
    | zero t => cases s <;> rfl
    | finite t n f _ =>
      simp only [rankOf, compare_place]
      cases s <;> cases t <;> rfl
  | zero s =>
    cases y with
    | notANumber => cases hy
    | infinity t => cases t <;> rfl
    | zero t => rfl
    | finite t n f _ =>
      simp only [rankOf, compare_place]
      cases t <;> rfl
  | finite s m e _ =>
    cases y with
    | notANumber => cases hy
    | infinity t =>
      simp only [rankOf, compare_place]
      cases s <;> cases t <;> rfl
    | zero t =>
      simp only [rankOf, compare_place]
      cases s <;> rfl
    | finite t n f _ =>
      simp only [rankOf, compare_place]
      cases s <;> cases t
      -- Of two numbers with one sign the exponents decide, and then the mantissas.
      case negative.negative =>
        simp [Sign.apply, compare_neg, compare_cast, UnpackedFloat.compare, Ordering.swap_then,
          Int.compare_swap, Nat.compare_swap]
      case positive.positive => simp [Sign.apply, compare_cast, UnpackedFloat.compare]
      all_goals rfl

theorem isNaN_eq_false_of_compare {x y : UnpackedFloat} {order : Ordering}
    (h : x.compare y = some order) : x.isNaN = false ∧ y.isNaN = false := by
  cases x with
  | notANumber => cases h
  | infinity | zero | finite =>
    cases y with
    | notANumber => cases h
    | infinity | zero | finite => exact ⟨rfl, rfl⟩

/-! ## Floats -/

def rank (x : Float) : Rank := rankOf x.toModel.unpack

variable {x y z : Float}

theorem lt_iff_rank : x < y ↔ x.isNaN = false ∧ y.isNaN = false ∧ rank x < rank y := by
  have meaning : x < y ↔ x.toModel.unpack.compare y.toModel.unpack = some .lt := by
    change decide (x.toModel.unpack.lt y.toModel.unpack = true) = true ↔ _
    simp [UnpackedFloat.lt]
  rw [meaning]
  constructor
  · intro h
    obtain ⟨hx, hy⟩ := isNaN_eq_false_of_compare h
    rw [compare_eq hx hy, Option.some_inj, compare_lt_iff_lt] at h
    exact ⟨hx, hy, h⟩
  · rintro ⟨hx, hy, h⟩
    rw [compare_eq hx hy, Option.some_inj, compare_lt_iff_lt]
    exact h

theorem le_iff_rank : x ≤ y ↔ x.isNaN = false ∧ y.isNaN = false ∧ rank x ≤ rank y := by
  have meaning : x ≤ y ↔ ∃ order, x.toModel.unpack.compare y.toModel.unpack = some order ∧
      order ≠ .gt := by
    change decide (x.toModel.unpack.le y.toModel.unpack = true) = true ↔ _
    cases found : x.toModel.unpack.compare y.toModel.unpack with
    | none => simp [UnpackedFloat.le, found]
    | some order => cases order <;> simp [UnpackedFloat.le, found]
  rw [meaning]
  constructor
  · rintro ⟨order, found, h⟩
    obtain ⟨hx, hy⟩ := isNaN_eq_false_of_compare found
    rw [compare_eq hx hy, Option.some_inj] at found
    exact ⟨hx, hy, compare_le_iff_le.1 (found ▸ h)⟩
  · rintro ⟨hx, hy, h⟩
    exact ⟨_, compare_eq hx hy, compare_le_iff_le.2 h⟩

theorem le_of_not_lt (hx : x.isNaN = false) (hy : y.isNaN = false) (h : ¬x < y) : y ≤ x := by
  rw [lt_iff_rank] at h
  exact le_iff_rank.2 ⟨hy, hx, not_lt.1 fun less => h ⟨hx, hy, less⟩⟩

theorem le_of_lt (h : x < y) : x ≤ y :=
  have ⟨hx, hy, less⟩ := lt_iff_rank.1 h
  le_iff_rank.2 ⟨hx, hy, less.le⟩

theorem le_trans (hxy : x ≤ y) (hyz : y ≤ z) : x ≤ z :=
  have ⟨hx, _, first⟩ := le_iff_rank.1 hxy
  have ⟨_, hz, second⟩ := le_iff_rank.1 hyz
  le_iff_rank.2 ⟨hx, hz, first.trans second⟩

theorem le_self (h : x.isNaN = false) : x ≤ x := le_iff_rank.2 ⟨h, h, le_rfl⟩

theorem lt_trans (hxy : x < y) (hyz : y < z) : x < z :=
  have ⟨hx, _, first⟩ := lt_iff_rank.1 hxy
  have ⟨_, hz, second⟩ := lt_iff_rank.1 hyz
  lt_iff_rank.2 ⟨hx, hz, first.trans second⟩

theorem lt_of_lt_of_le (hxy : x < y) (hyz : y ≤ z) : x < z :=
  have ⟨hx, _, first⟩ := lt_iff_rank.1 hxy
  have ⟨_, hz, second⟩ := le_iff_rank.1 hyz
  lt_iff_rank.2 ⟨hx, hz, first.trans_le second⟩

theorem not_lt_self (x : Float) : ¬x < x := fun h => (lt_iff_rank.1 h).2.2.false

theorem not_le_of_isNaN (h : y.isNaN = true) : ¬x ≤ y := by
  intro le
  have number := (le_iff_rank.1 le).2.1
  rw [h] at number
  cases number

/-- What does not exceed a float is less than whatever exceeds it, unless it is not a number. -/
theorem lt_or_isNaN (h : ¬x < y) (hz : x < z) : y < z ∨ y.isNaN = true := by
  cases hy : y.isNaN with
  | true => exact .inr rfl
  | false =>
    have ⟨hx, hz, less⟩ := lt_iff_rank.1 hz
    have ⟨_, _, le⟩ := le_iff_rank.1 (le_of_not_lt hx hy h)
    exact .inl (lt_iff_rank.2 ⟨hy, hz, le.trans_lt less⟩)

/-! ## What is not a number -/

theorem isNaN_normalize (format : Format) (m e : ℤ) (sign : Sign) :
    (UnpackedFloat.normalize format m e sign).isNaN = false := by
  have rounded (sign : Sign) (m : ℕ) : (UnpackedFloat.round format sign m e).isNaN = false := by
    unfold UnpackedFloat.round roundWithAccuracy
    dsimp only
    split <;> rfl
  unfold UnpackedFloat.normalize
  split
  · exact rounded ..
  · rfl
  · exact rounded ..

/-- A difference from a finite float is a number when the other float is. -/
theorem isNaN_unpackedSub {u v : UnpackedFloat} (format : Format) (finite : v.isFinite) :
    (UnpackedFloat.sub format u v).isNaN = u.isNaN := by
  cases v with
  | infinity | notANumber => cases finite
  | zero t =>
    cases u with
    | zero s =>
      unfold UnpackedFloat.sub
      dsimp only
      split <;> rfl
    | notANumber | infinity | finite => rfl
  | finite t n f _ =>
    cases u with
    | finite s m e _ => exact isNaN_normalize ..
    | notANumber | infinity | zero => rfl

theorem isNaN_unpack_packedInfinity (s : Sign) :
    (UnpackedFloat.unpack Format.binary64 (packedInfinity Format.binary64 s)).isNaN = false := by
  cases s <;> decide

/-- What is packed without the largest exponent is a number. -/
theorem isNaN_unpack_of_exponent {b : BitVec Format.binary64.numBits}
    (h : unpackExponent b ≠ -1#_) : (UnpackedFloat.unpack Format.binary64 b).isNaN = false := by
  unfold UnpackedFloat.unpack
  rw [if_neg h]
  split
  · split <;> rfl
  · rfl

/-- Packing makes an infinity of what is too large, and nothing becomes or ceases to be a
number. -/
theorem isNaN_pack (u : UnpackedFloat) : (Float.Model.pack u).unpack.isNaN = u.isNaN := by
  change (UnpackedFloat.unpack Format.binary64 (UnpackedFloat.pack Format.binary64 u)).isNaN = _
  cases u with
  | notANumber => decide
  | infinity s => exact isNaN_unpack_packedInfinity s
  | zero s => cases s <;> decide
  | finite s m e pos =>
    unfold UnpackedFloat.pack
    dsimp only
    generalize (e + _ + _ : ℤ).toNat = biased
    by_cases tooLarge : 2 ^ Format.binary64.exponentBits ≤ biased + 1
    · rw [if_pos tooLarge]
      exact isNaN_unpack_packedInfinity s
    rw [if_neg tooLarge]
    split
    · refine isNaN_unpack_of_exponent fun largest => ?_
      rw [unpackExponent_packComponents] at largest
      have field := congrArg BitVec.toNat largest
      simp only [BitVec.toNat_ofNat, Nat.reducePow, BitVec.reduceNeg, Nat.mod_succ,
        Nat.reduceLeDiff, not_le] at field tooLarge
      omega
    · refine isNaN_unpack_of_exponent ?_
      rw [unpackExponent_packComponents]
      decide

theorem isNaN_sub {c : Float} (finite : c.isFinite) : (x - c).isNaN = x.isNaN :=
  (isNaN_pack _).trans (isNaN_unpackedSub _ finite)

theorem isNaN_abs : x.abs.isNaN = x.isNaN := by
  refine (isNaN_pack _).trans ?_
  change x.toModel.unpack.abs.isNaN = x.toModel.unpack.isNaN
  cases x.toModel.unpack <;> rfl

/-! ## Computing with what is not a number -/

theorem unpack_of_isNaN (h : x.isNaN = true) : x.toModel.unpack = .notANumber := by
  change x.toModel.unpack.isNaN = true at h
  cases found : x.toModel.unpack with
  | notANumber => rfl
  | infinity | zero | finite =>
    rw [found] at h
    cases h

theorem isNaN_add_of_left (h : x.isNaN = true) (y : Float) : (x + y).isNaN = true := by
  refine (isNaN_pack _).trans ?_
  rw [unpack_of_isNaN h]
  rfl

theorem isNaN_add_of_right (x : Float) (h : y.isNaN = true) : (x + y).isNaN = true := by
  refine (isNaN_pack _).trans ?_
  rw [unpack_of_isNaN h]
  cases x.toModel.unpack <;> rfl

theorem isNaN_div_of_left (h : x.isNaN = true) (y : Float) : (x / y).isNaN = true := by
  refine (isNaN_pack _).trans ?_
  rw [unpack_of_isNaN h]
  rfl

end SpillSelection.FloatOrder
