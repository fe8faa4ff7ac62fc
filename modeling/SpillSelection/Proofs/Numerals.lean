import SpillSelection.Json.Decode
import SpillSelection.Proofs.JsonText
import SpillSelection.Proofs.TableText
/-!
# Integers as they are written

An integer is written as a numeral, and that numeral is read as the integer again. A literal is put
together from digits without a needless zero in front and from what may follow them.
-/

namespace SpillSelection

namespace Json.Numeral

/-- Digits without a needless zero in front. -/
structure IsWhole (ds : List Char) : Prop where
  nonempty : ds ≠ []
  digits : ∀ c ∈ ds, c.isDigit
  leading : ds.head? = some '0' → ds.length = 1

theorem head?_toDigits {n : Nat} (h : 0 < n) : (Nat.toDigits 10 n).head? ≠ some '0' := by
  induction n using Nat.strongRecOn with
  | ind n ih =>
    rw [Nat.toDigits_eq_if (by decide)]
    split
    case isTrue small =>
      have digit : ∀ d < 10, 0 < d → d.digitChar ≠ '0' := by decide
      simpa using digit n small h
    case isFalse large =>
      have first := ih (n / 10) (by omega) (by omega)
      cases digits : Nat.toDigits 10 (n / 10) with
      | nil => exact absurd digits Nat.toDigits_ne_nil
      | cons d ds => simpa [digits] using first

theorem isWhole_toDigits (n : Nat) : IsWhole (Nat.toDigits 10 n) where
  nonempty := Nat.toDigits_ne_nil
  digits := fun _ => Nat.isDigit_of_mem_toDigits (by decide) (by decide)
  leading zero := by
    rcases Nat.eq_zero_or_pos n with rfl | pos
    · rfl
    · exact absurd zero (head?_toDigits pos)

theorem digits?_append {ds rest : List Char} (nonempty : ds ≠ []) (digits : ∀ c ∈ ds, c.isDigit)
    (stop : ∀ c ∈ rest.head?, c.isDigit = false) : digits? (ds ++ rest) = some (ds, rest) := by
  have none : rest.takeWhile Char.isDigit = [] ∧ rest.dropWhile Char.isDigit = rest := by
    cases rest with
    | nil => simp
    | cons c cs => simp [stop c rfl]
  simp [digits?, List.takeWhile_append_of_pos digits, List.dropWhile_append_of_pos digits, none,
    nonempty]

theorem digits?_digits {ds : List Char} (nonempty : ds ≠ []) (digits : ∀ c ∈ ds, c.isDigit) :
    digits? ds = some (ds, []) := by
  have stop : ∀ c ∈ ([] : List Char).head?, c.isDigit = false := by simp
  simpa using digits?_append nonempty digits stop

/-- A literal is read when its whole part is and what comes after that. -/
theorem unsigned?_append {ds rest fraction : List Char} {exponent : Int} {plain : Bool}
    (whole : IsWhole ds) (tail : tail? rest = some (fraction, exponent, plain)) (negative : Bool) :
    unsigned? negative (ds ++ rest) = some ⟨negative, ds, fraction, exponent, plain⟩ := by
  have stop : ∀ c ∈ rest.head?, c.isDigit = false := by
    intro c hc
    unfold tail? at tail
    split at tail
    · simp at hc
    · cases hc
      rfl
    · split at tail
      case isTrue letter =>
        cases hc
        rcases letter with rfl | rfl
        · rfl
        · rfl
      case isFalse => cases tail
  have needless : ¬ (ds.head? = some '0' ∧ ds.length ≠ 1) := fun h => h.2 (whole.leading h.1)
  unfold unsigned?
  rw [digits?_append whole.nonempty whole.digits stop]
  simp only [Option.bind_eq_bind, Option.bind_some, if_neg needless, tail]

/-! ## Integers -/

theorem read?_of_head {cs : List Char} (h : cs.head? ≠ some '-') :
    read? cs = unsigned? false cs := by
  unfold read?
  split
  · simp at h
  · rfl

/-- The literal of an integer. -/
def ofInt (z : Int) : Numeral := ⟨decide (z < 0), Nat.toDigits 10 z.natAbs, [], 0, true⟩

theorem read?_toString (z : Int) : read? (toString z).toList = some (ofInt z) := by
  have whole (negative : Bool) (n : Nat) : unsigned? negative (Nat.toDigits 10 n) =
      some ⟨negative, Nat.toDigits 10 n, [], 0, true⟩ := by
    have nothing : tail? [] = some ([], 0, true) := rfl
    simpa using unsigned?_append (isWhole_toDigits n) nothing negative
  cases z with
  | ofNat n =>
    have text : (toString (Int.ofNat n)).toList = Nat.toDigits 10 n := Nat.toList_repr
    have sign : (Nat.toDigits 10 n).head? ≠ some '-' := by
      intro minus
      have digit := (isWhole_toDigits n).digits '-' (List.mem_of_head? minus)
      exact absurd digit (by decide)
    rw [text, read?_of_head sign, whole]
    rfl
  | negSucc n =>
    have text : (toString (Int.negSucc n)).toList = '-' :: Nat.toDigits 10 (n + 1) := by
      have written : toString (Int.negSucc n) = "-" ++ (n + 1).repr := rfl
      rw [written, String.toList_append, Nat.toList_repr]
      rfl
    rw [text, ofInt, decide_eq_true (Int.negSucc_lt_zero n)]
    exact whole true (n + 1)

theorem ofDigits_toDigits (n : Nat) : Decimal.ofDigits (Nat.toDigits 10 n) = n :=
  Nat.ofDigitChars_ten_toDigits

theorem toInt?_ofInt (z : Int) : (ofInt z).toInt? = some z := by
  simp only [toInt?, ofInt, ofDigits_toDigits, if_true, decide_eq_true_eq]
  split
  case isTrue negative =>
    rw [if_neg (by omega)]
    exact congrArg some (by omega)
  case isFalse => exact congrArg some (by omega)

end Json.Numeral

namespace Json

open Numeral (IsWhole)

@[simp] theorem hasNumerals_ofInt (z : Int) : (ofInt z).HasNumerals :=
  .number ⟨by rw [Numeral.read?_toString]; rfl, fun _ => isNumberChar_of_mem_toString⟩

@[simp] theorem hasNumerals_ofNat (n : Nat) : (ofNat n).HasNumerals := hasNumerals_ofInt n

theorem asIntIn_ofInt {least greatest z : Int} (h : least ≤ z ∧ z ≤ greatest) :
    asIntIn least greatest (ofInt z) = .ok z := by
  simp only [asIntIn, ofInt, Numeral.read?_toString, Option.bind_some, Numeral.toInt?_ofInt,
    if_pos h]

theorem asInt64_ofInt (z : Int64) : asInt64 (ofInt z.toInt) = .ok z := by
  rw [asInt64, asIntIn_ofInt ⟨z.minValue_le_toInt, z.toInt_le⟩]
  exact congrArg Except.ok (Int64.ofInt_toInt z)

theorem asUInt32_ofNat (n : UInt32) : asUInt32 (ofNat n.toNat) = .ok n := by
  have bounds : (0 : Int) ≤ n.toNat ∧ (n.toNat : Int) ≤ UInt32.size - 1 := by
    have := n.toNat_lt
    simp only [UInt32.size]
    omega
  have written : ofNat n.toNat = ofInt n.toNat := rfl
  rw [asUInt32, written, asIntIn_ofInt bounds]
  exact congrArg Except.ok UInt32.ofNat_toNat

theorem asUInt64_ofNat (n : UInt64) : asUInt64 (ofNat n.toNat) = .ok n := by
  have bounds : (0 : Int) ≤ n.toNat ∧ (n.toNat : Int) ≤ UInt64.size - 1 := by
    have := n.toNat_lt
    simp only [UInt64.size]
    omega
  have written : ofNat n.toNat = ofInt n.toNat := rfl
  rw [asUInt64, written, asIntIn_ofInt bounds]
  exact congrArg Except.ok UInt64.ofNat_toNat

end Json

end SpillSelection
