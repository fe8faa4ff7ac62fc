import SpillSelection.Proofs.TableText
/-!
# The order of bytes

Texts are ordered by their characters. Their bytes are ordered the same way: of two characters the
greater one is encoded by bytes that are greater where they first differ (`encode_lt`), so a list of
names in the order of characters is also one in the order of bytes (`utf8_lt_iff`).
-/

namespace SpillSelection.Text

/-- Bytes compare as the numbers that they hold. -/
theorem ofNat_cons_lt_iff {m n : Nat} (hm : m < 256) (hn : n < 256) (xs ys : List UInt8) :
    UInt8.ofNat m :: xs < UInt8.ofNat n :: ys ↔ m < n ∨ m = n ∧ xs < ys := by
  have size (k : Nat) (hk : k < 256) : (UInt8.ofNat k).toNat = k := UInt8.toNat_ofNat_of_lt' hk
  rw [List.cons_lt_cons_iff, UInt8.lt_iff_toNat_lt, ← UInt8.toNat_inj, size m hm, size n hn]

/-- Of two characters the greater one has the greater bytes, whatever comes after them. -/
theorem encode_lt {c d : Char} (h : c < d) (xs ys : List UInt8) :
    String.utf8EncodeChar c ++ xs < String.utf8EncodeChar d ++ ys := by
  have less : c.val.toNat < d.val.toNat := h
  have valid : d.val.toNat < 0x110000 := by
    have := d.valid
    simp only [UInt32.isValidChar, Nat.isValidChar] at this
    omega
  unfold String.utf8EncodeChar
  generalize c.val.toNat = m at less
  generalize d.val.toNat = n at less valid
  have third (k : Nat) : k / 4096 = k / 64 / 64 := by omega
  have fourth (k : Nat) : k / 262144 = k / 64 / 64 / 64 := by omega
  dsimp only
  -- Of encodings with different lengths the first bytes differ, and of those with one length the
  -- digits of the code points to the base 64.
  repeat' split
  all_goals
    simp (disch := omega) only [List.cons_append, ofNat_cons_lt_iff, third, fourth]
    omega

theorem flatMap_encode_lt {cs ds : List Char} (h : cs < ds) :
    cs.flatMap String.utf8EncodeChar < ds.flatMap String.utf8EncodeChar := by
  induction cs generalizing ds with
  | nil =>
    cases ds with
    | nil => exact absurd h (List.lt_irrefl [])
    | cons d ds =>
      obtain ⟨byte, bytes, some⟩ := List.exists_cons_of_ne_nil
        (by simp : (d :: ds).flatMap String.utf8EncodeChar ≠ [])
      rw [some]
      exact List.nil_lt_cons byte bytes
  | cons c cs ih =>
    cases ds with
    | nil => exact absurd h (List.not_lt_nil _)
    | cons d ds =>
      rw [List.flatMap_cons, List.flatMap_cons]
      rcases List.cons_lt_cons_iff.1 h with less | ⟨rfl, rest⟩
      · exact encode_lt less _ _
      · exact List.append_left_lt (ih rest)

/-- Texts have the order of their bytes. -/
theorem utf8_lt_iff {a b : String} : utf8 a < utf8 b ↔ a < b := by
  have keeps {a b : String} (h : a < b) : utf8 a < utf8 b := by
    rw [utf8_eq, utf8_eq]
    exact flatMap_encode_lt h
  refine ⟨fun h => ?_, keeps⟩
  by_cases less : a < b
  · exact less
  · by_cases same : a = b
    · rw [same] at h
      exact absurd h (List.lt_irrefl _)
    · have more : b < a := Std.lt_of_le_of_ne (String.not_lt.1 less) (Ne.symm same)
      exact absurd h (List.lt_asymm (keeps more))

end SpillSelection.Text
