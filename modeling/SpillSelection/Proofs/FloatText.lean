import Mathlib.Algebra.Group.Int.Defs
import Mathlib.Algebra.Group.Nat.Defs
import SpillSelection.Proofs.Numerals
/-!
# Floats as they are written

Every float is written as a numeral: whatever digits and exponent its shortest decimal has, the
layout of them is a literal. Only a decimal of no digits at all could be laid out badly, and the
search for the shortest one never ends there unless the float is zero.
-/

namespace SpillSelection

namespace Decimal

open Json (IsNumeral)
open Json.Numeral (IsWhole digits?_digits digits?_append unsigned?_append tail? unsigned?)

theorem isDigit_of_mem_digitChars {n : Nat} : ∀ c ∈ digitChars n, c.isDigit :=
  fun _ => Nat.isDigit_of_mem_toDigits (by decide) (by decide)

/-- A literal is accepted if its whole part is and what comes after that. -/
theorem unsigned?_isSome {ds rest : List Char} (whole : IsWhole ds) (tail : (tail? rest).isSome)
    (negative : Bool) : (unsigned? negative (ds ++ rest)).isSome := by
  obtain ⟨⟨_, _, _⟩, tail⟩ := Option.isSome_iff_exists.1 tail
  rw [unsigned?_append whole tail]
  rfl

theorem exponent?_isSome {e : Int} {cs : List Char} (h : exponentChars e = 'e' :: cs) :
    (Json.Numeral.exponent? cs).isSome := by
  have digits : Json.Numeral.digits? (digitChars e.natAbs) = some (digitChars e.natAbs, []) :=
    digits?_digits Nat.toDigits_ne_nil isDigit_of_mem_digitChars
  cases h
  split
  · simp [Json.Numeral.exponent?, digits]
  · simp [Json.Numeral.exponent?, digits]

theorem tail?_exponentChars (e : Int) : (tail? (exponentChars e)).isSome := by
  obtain ⟨exponent, read⟩ := Option.isSome_iff_exists.1 (exponent?_isSome (e := e) rfl)
  simp [exponentChars, tail?, read]

variable {ds : List Char}

theorem tail?_point (nonempty : ds ≠ []) (digits : ∀ c ∈ ds, c.isDigit) :
    (tail? ('.' :: ds)).isSome := by
  simp [tail?, digits?_digits nonempty digits]

theorem tail?_point_exponentChars (nonempty : ds ≠ []) (digits : ∀ c ∈ ds, c.isDigit) (e : Int) :
    (tail? ('.' :: (ds ++ exponentChars e))).isSome := by
  obtain ⟨cs, written⟩ : ∃ cs, exponentChars e = 'e' :: cs := ⟨_, rfl⟩
  obtain ⟨exponent, read⟩ := Option.isSome_iff_exists.1 (exponent?_isSome written)
  have stop : ∀ c ∈ ('e' :: cs).head?, c.isDigit = false := by
    intro c hc
    cases hc
    rfl
  simp [written, tail?, digits?_append nonempty digits stop, read]

/-- Digits with an exponent. -/
theorem unsigned?_mantissa (whole : IsWhole ds) (e : Int) (negative : Bool) :
    (unsigned? negative (mantissaChars ds ++ exponentChars e)).isSome := by
  have single {d : Char} (digit : d.isDigit) : IsWhole [d] := ⟨by simp, by simpa, by simp⟩
  match ds with
  | [] => exact absurd rfl whole.nonempty
  | [d] => exact unsigned?_isSome whole (tail?_exponentChars e) negative
  | d :: d' :: rest =>
    obtain ⟨first, others⟩ := List.forall_mem_cons.1 whole.digits
    exact unsigned?_isSome (single first) (tail?_point_exponentChars (by simp) others e) negative

theorem isDigit_of_mem_replicate {n : Nat} : ∀ c ∈ List.replicate n '0', c.isDigit :=
  fun _ hc => List.eq_of_mem_replicate hc ▸ rfl

/-- Digits up to a point are a whole part, with zeros after them where they end before it. Zero has
its point after a single digit. -/
theorem isWhole_take (whole : IsWhole ds) {top : Int} (h : ds = ['0'] → top ≤ 0) (n : Nat) :
    IsWhole ((ds ++ List.replicate n '0').take (top.toNat + 1)) where
  nonempty := by simp [whole.nonempty]
  digits c hc := by
    rcases List.mem_append.1 (List.mem_of_mem_take hc) with hc | hc
    · exact whole.digits c hc
    · exact isDigit_of_mem_replicate c hc
  leading zero := by
    obtain ⟨d, rest, rfl⟩ := List.exists_cons_of_ne_nil whole.nonempty
    obtain rfl : d = '0' := by simpa using zero
    obtain rfl : rest = [] := by simpa using whole.leading rfl
    have point := h rfl
    have first : top.toNat = 0 := by omega
    simp [first]

/-- Digits with a point among them or in front. -/
theorem unsigned?_positional (whole : IsWhole ds) {top : Int} (h : ds = ['0'] → top ≤ 0)
    (negative : Bool) : (unsigned? negative (positionalChars ds top)).isSome := by
  unfold positionalChars
  split
  case isTrue small =>
    have zero : IsWhole ['0'] := ⟨by simp, by simp, by simp⟩
    refine unsigned?_isSome zero (tail?_point ?_ ?_) negative
    · simp [whole.nonempty]
    · intro c hc
      rcases List.mem_append.1 hc with hc | hc
      · exact isDigit_of_mem_replicate c hc
      · exact whole.digits c hc
  case isFalse large =>
    refine unsigned?_isSome (isWhole_take whole h _) (tail?_point ?_ ?_) negative
    · split
      · simp
      · simp
        omega
    · split
      · simp
      · exact fun c hc => whole.digits c (List.mem_of_mem_drop hc)

/-- A decimal whose digits are zero only if it is written as zero. -/
def Scientific.IsPlain (d : Scientific) : Prop := d.digits = 0 → d.exponent = 0

theorem Scientific.unsigned?_chars {d : Scientific} (h : d.IsPlain) (layout : Layout)
    (negative : Bool) : (unsigned? negative (d.chars layout)).isSome := by
  have whole : IsWhole (digitChars d.digits) := Json.Numeral.isWhole_toDigits d.digits
  simp only [Scientific.chars]
  split
  · refine unsigned?_positional whole (fun zero => ?_) negative
    have digits : d.digits = 0 := by
      have value := Json.Numeral.ofDigits_toDigits d.digits
      rw [← digitChars, zero] at value
      exact value.symm
    simp [zero, h digits]
  · exact unsigned?_mantissa whole _ negative

/-! ## The digits of a float -/

theorem Scientific.strip_digits_ne_zero {d : Scientific} (h : d.digits ≠ 0) (n : Nat) :
    (d.strip n).digits ≠ 0 := by
  induction n generalizing d with
  | zero => exact h
  | succ n ih =>
    unfold Scientific.strip
    split
    · refine ih ?_
      show d.digits / 10 ≠ 0
      omega
    · exact h

/-- Below the first grid point a float lies too far from zero to be read as zero. -/
theorem Binary.reachDown_lt_left {b : Binary} (h : b.significand ≠ 0) {step : Int}
    (zero : (b.grid step).below = 0) : (b.grid step).reachDown < (b.grid step).left := by
  have unitPos : 0 < Nat.pow 2 (nonneg (b.exponent - 2)) * Nat.pow 10 (nonneg (-step)) :=
    Nat.mul_pos (Nat.pow_pos (by decide)) (Nat.pow_pos (by decide))
  have spacingPos : 0 < Nat.pow 2 (nonneg (-(b.exponent - 2))) * Nat.pow 10 (nonneg step) :=
    Nat.mul_pos (Nat.pow_pos (by decide)) (Nat.pow_pos (by decide))
  simp only [Binary.grid] at zero ⊢
  generalize Nat.pow 2 (nonneg (b.exponent - 2)) * Nat.pow 10 (nonneg (-step)) = unit at *
  generalize Nat.pow 2 (nonneg (-(b.exponent - 2))) * Nat.pow 10 (nonneg step) = spacing at *
  have small : 4 * b.significand * unit < spacing := (Nat.div_eq_zero_iff_lt spacingPos).1 zero
  rw [Nat.mod_eq_of_lt small]
  calc (if b.tight then unit else 2 * unit) ≤ 2 * unit := by split <;> omega
    _ < 4 * unit := by omega
    _ ≤ 4 * b.significand * unit := Nat.mul_le_mul_right unit (by omega)

/-- A grid point that reads back as a float is not zero when the float is not. -/
theorem Binary.hit_digits_ne_zero {b : Binary} (h : b.significand ≠ 0) {step : Int}
    {d : Scientific} (hit : b.hit step = some d) : d.digits ≠ 0 := by
  simp only [Binary.hit] at hit
  split at hit
  case isTrue low =>
    cases hit
    intro zero
    have far := Binary.reachDown_lt_left h zero
    simp only [Bool.and_eq_true, Bool.or_eq_true, decide_eq_true_eq, beq_iff_eq] at low
    omega
  case isFalse =>
    split at hit
    · cases hit
      exact Nat.succ_ne_zero _
    · cases hit

theorem pow_ten_le (n : Nat) : 10 ^ n ≤ 2 ^ (10 * ((n + 2) / 3)) :=
  calc 10 ^ n ≤ 10 ^ (3 * ((n + 2) / 3)) := Nat.pow_le_pow_right (by decide) (by omega)
    _ = (10 ^ 3) ^ ((n + 2) / 3) := Nat.pow_mul ..
    _ ≤ (2 ^ 10) ^ ((n + 2) / 3) := Nat.pow_le_pow_left (by decide) _
    _ = 2 ^ (10 * ((n + 2) / 3)) := (Nat.pow_mul ..).symm

theorem pow_two_le (n : Nat) : 2 ^ n ≤ 10 ^ (4 * ((n + 12) / 13)) :=
  calc 2 ^ n ≤ 2 ^ (13 * ((n + 12) / 13)) := Nat.pow_le_pow_right (by decide) (by omega)
    _ = (2 ^ 13) ^ ((n + 12) / 13) := Nat.pow_mul ..
    _ ≤ (10 ^ 4) ^ ((n + 12) / 13) := Nat.pow_le_pow_left (by decide) _
    _ = 10 ^ (4 * ((n + 12) / 13)) := (Nat.pow_mul ..).symm

/-- In the range of floats a power of two has fifteen digits more than the estimate of its power of
ten leaves. -/
theorem pow_ten_le_pow_two {n step : Int} (least : -1074 ≤ n) (greatest : n ≤ 1024)
    (h : step ≤ (n * 78913).fdiv 262144 - 15) :
    2 ^ nonneg (-n) * 10 ^ nonneg step ≤ 2 ^ nonneg n * 10 ^ nonneg (-step) := by
  have estimate : (n * 78913).fdiv 262144 * 262144 ≤ n * 78913 := by
    rw [Int.fdiv_eq_ediv_of_nonneg _ (by decide)]
    exact Int.ediv_mul_le _ (by decide)
  unfold nonneg
  rcases Int.le_total 0 n with positive | negative
  · rw [Int.toNat_of_nonpos (by omega : -n ≤ 0), Nat.pow_zero, Nat.one_mul]
    rcases Int.le_total 0 step with some | none
    · rw [Int.toNat_of_nonpos (by omega : -step ≤ 0), Nat.pow_zero, Nat.mul_one]
      exact Nat.le_trans (pow_ten_le step.toNat) (Nat.pow_le_pow_right (by decide) (by omega))
    · rw [Int.toNat_of_nonpos none]
      exact Nat.mul_pos (Nat.pow_pos (by decide)) (Nat.pow_pos (by decide))
  · have up : n.toNat = 0 := Int.toNat_of_nonpos negative
    have down : step.toNat = 0 := Int.toNat_of_nonpos (by omega)
    simp only [up, down, Nat.pow_zero, Nat.mul_one, Nat.one_mul]
    exact Nat.le_trans (pow_two_le (-n).toNat) (Nat.pow_le_pow_right (by decide) (by omega))

/-- The grid of the seventeenth digit has a point between zero and a float that is not zero. -/
theorem Binary.below_ne_zero {b : Binary} (h : b.significand ≠ 0) {step : Int}
    (least : -1074 ≤ b.exponent) (greatest : b.exponent + Nat.log2 b.significand ≤ 1024)
    (deep : step ≤ ((b.exponent + (Nat.log2 b.significand : Int)) * 78913).fdiv 262144 - 15) :
    (b.grid step).below ≠ 0 := by
  have powers := pow_ten_le_pow_two (by omega) greatest deep
  have spacingPos : 0 < 2 ^ nonneg (-(b.exponent - 2)) * 10 ^ nonneg step :=
    Nat.mul_pos (Nat.pow_pos (by decide)) (Nat.pow_pos (by decide))
  simp only [Binary.grid, Nat.pow_eq, ne_eq, Nat.div_eq_zero_iff_lt spacingPos, Nat.not_lt]
  have exponents : nonneg (-(b.exponent - 2)) + nonneg (b.exponent + Nat.log2 b.significand) =
      nonneg (-(b.exponent + Nat.log2 b.significand)) +
        (2 + Nat.log2 b.significand + nonneg (b.exponent - 2)) := by
    unfold nonneg
    omega
  have significand : 2 ^ Nat.log2 b.significand ≤ b.significand := Nat.log2_self_le h
  generalize nonneg (-(b.exponent + Nat.log2 b.significand)) = common at *
  generalize 10 ^ nonneg step = left at *
  generalize 10 ^ nonneg (-step) = right at *
  -- The grid and the bound differ in their powers of two, so both sides are compared times the one
  -- that the bound has on its left.
  refine Nat.le_of_mul_le_mul_left ?_ (Nat.pow_pos (n := common) (by decide : 0 < 2))
  calc 2 ^ common * (2 ^ nonneg (-(b.exponent - 2)) * left)
      = 2 ^ nonneg (-(b.exponent - 2)) * (2 ^ common * left) := Nat.mul_left_comm ..
    _ ≤ 2 ^ nonneg (-(b.exponent - 2)) *
          (2 ^ nonneg (b.exponent + Nat.log2 b.significand) * right) :=
        Nat.mul_le_mul_left _ powers
    _ = 2 ^ common *
          (2 ^ 2 * 2 ^ Nat.log2 b.significand * (2 ^ nonneg (b.exponent - 2) * right)) := by
        rw [← Nat.mul_assoc, ← Nat.pow_add, exponents]
        simp only [Nat.pow_add, Nat.mul_assoc]
    _ ≤ 2 ^ common * (4 * b.significand * (2 ^ nonneg (b.exponent - 2) * right)) :=
        Nat.mul_le_mul_left _ (Nat.mul_le_mul_right _ (Nat.mul_le_mul_left 4 significand))

theorem Binary.ofBits_exponent (bits : UInt64) :
    -1074 ≤ (Binary.ofBits bits).exponent ∧
      (Binary.ofBits bits).exponent + Nat.log2 (Binary.ofBits bits).significand ≤ 1024 := by
  have hidden : hiddenBit = 2 ^ 52 := rfl
  have field : bits.toNat / hiddenBit % 2048 < 2048 := Nat.mod_lt _ (by decide)
  have fraction : bits.toNat % hiddenBit < hiddenBit := Nat.mod_lt _ (by decide)
  -- A significand has at most 53 bits.
  have short : ∀ n < 2 * hiddenBit, Nat.log2 n ≤ 52 := by
    intro n hn
    rcases Nat.eq_zero_or_pos n with rfl | pos
    · decide
    · exact Nat.le_of_lt_succ ((Nat.log2_lt (by omega)).2 (by rw [hidden] at hn; omega))
  simp only [Binary.ofBits]
  split
  · have := short (bits.toNat % hiddenBit) (by omega)
    simp only
    omega
  · have := short (hiddenBit + bits.toNat % hiddenBit) (by omega)
    simp only
    omega

/-- The shortest decimal of a float is zero only for a float that is zero. -/
theorem isPlain_shortest (bits : UInt64) : (shortest bits).IsPlain := by
  obtain ⟨least, greatest⟩ := Binary.ofBits_exponent bits
  unfold shortest
  simp only
  generalize Binary.ofBits bits = b at *
  split
  case isTrue => exact fun _ => rfl
  case isFalse nonzero =>
    refine fun zero => absurd zero (Scientific.strip_digits_ne_zero ?_ 17)
    cases found : (List.range 17).findSome? fun (n : Nat) => b.hit (b.magnitude - n) with
    | some d =>
      obtain ⟨n, -, hit⟩ := List.exists_of_findSome?_eq_some found
      exact Binary.hit_digits_ne_zero nonzero hit
    | none =>
      refine Binary.below_ne_zero nonzero least greatest ?_
      simp only [Binary.magnitude]
      split <;> omega

/-- Every float is written as a numeral. -/
theorem isNumeral_chars (x : Float) : IsNumeral (chars x) := by
  have digits (negative : Bool) :=
    Scientific.unsigned?_chars (isPlain_shortest x.toBits) .plain negative
  refine ⟨?_, fun _ => isNumberChar_of_mem_chars⟩
  unfold chars
  split
  · exact digits true
  · rw [List.nil_append, Json.Numeral.read?_of_head]
    · exact digits false
    · obtain ⟨c, rest, written, hc⟩ := Json.Numeral.exists_cons_of_unsigned? (digits false)
      rw [written]
      rintro ⟨⟩
      exact absurd hc (by decide)

end Decimal

namespace Json

@[simp] theorem hasNumerals_ofFloat (x : Float) : (ofFloat x).HasNumerals := by
  unfold ofFloat Decimal.text?
  split
  · rename_i literal found
    obtain ⟨-, rfl⟩ : x.isFinite ∧ String.ofList (Decimal.chars x) = literal := by
      simpa using found
    exact .number (by simpa using Decimal.isNumeral_chars x)
  · exact .null

end Json

end SpillSelection
