import SpillSelection.Proofs.JsonText
import SpillSelection.Proofs.RecordLines
import SpillSelection.Proofs.SpillCodec
import SpillSelection.Proofs.TableText
/-!
# Spills written to lines and read again

Each spill is written as one line of compact JSON, which is never blank and no comment, so that the
lines of a source are the spills that were written to it. The reader yields them as they were, with
marks of its own, if their floats are finite and read back from their decimal text; a spill with a
float that is not finite is a parse error on its line (`read_written`).
-/

namespace SpillSelection

open Json

/-! ## The text of a spill -/

@[simp] theorem hasNumerals_ofFloats (xs : List Float) : (ofFloats xs).HasNumerals := by
  simp [ofFloats]

@[simp] theorem hasNumerals_idsToJson (ids : List Int64) : (idsToJson ids).HasNumerals := by
  simp [idsToJson]

theorem hasNumerals_core (p : ParticleCore) : ∀ m ∈ p.members, m.2.HasNumerals := by
  simp [ParticleCore.members, Vec3.toJson]

theorem hasNumerals_particle {s : Side} (p : Particle s) : p.toJson.HasNumerals := by
  cases s with
  | truth =>
    refine .object (List.forall_mem_append.2 ⟨hasNumerals_core _, ?_⟩)
    simp
  | reco =>
    refine .object (List.forall_mem_append.2 ⟨hasNumerals_core _, ?_⟩)
    simp [PerClass.toJson]

theorem hasNumerals_interaction {s : Side} (i : Interaction s) : i.toJson.HasNumerals := by
  simp [Interaction.toJson, Vec3.toJson, hasNumerals_particle]

theorem hasNumerals_beamRecord (b : BeamRecord) : b.toJson.HasNumerals := by
  simp [BeamRecord.toJson]

theorem hasNumerals_header (h : Header) : h.toJson.HasNumerals := by
  have beam : (ofOption BeamRecord.toJson h.beam).HasNumerals := by
    cases h.beam with
    | none => exact .null
    | some b => exact hasNumerals_beamRecord b
  simp [Header.toJson, beam, Trigger.toJson, hasNumerals_beamRecord]

theorem hasNumerals_spill (s : Spill) : s.toJson.HasNumerals := by
  simp [Spill.toJson, hasNumerals_header, hasNumerals_interaction, Neutrino.toJson, Flash.toJson]

/-! ## One line of text -/

theorem Json.HasNumerals.isOneLine {v : Json} (h : v.HasNumerals) : v.IsOneLine := by
  induction h with
  | null | broken =>
    rw [IsOneLine, toList_compact]
    decide
  | bool b =>
    rw [IsOneLine, toList_compact]
    cases b <;> decide
  | number h => exact isOneLine_number h.chars
  | string text =>
    rw [IsOneLine, toList_compact]
    simpa [tokens, Token.chars] using lf_not_mem_quote text
  | array _ ih => exact isOneLine_array ih
  | object _ ih => exact isOneLine_object ih

theorem Json.exists_moreMemberTokens (members : List (String × Json)) :
    ∃ ts, moreMemberTokens members = ts ++ [.closeObject] := by
  induction members with
  | nil => exact ⟨[], rfl⟩
  | cons m ms ih =>
    obtain ⟨ts, written⟩ := ih
    exact ⟨.comma :: .string m.1 :: .colon :: (tokens m.2 ++ ts), by
      simp [moreMemberTokens, written]⟩

/-- An object's text begins and ends with a brace. -/
theorem Json.exists_compact_object (members : List (String × Json)) :
    ∃ cs, (Json.object members).compact.toList = '\x7b' :: (cs ++ ['\x7d']) := by
  have tokens : ∃ ts, memberTokens members = ts ++ [.closeObject] := by
    cases members with
    | nil => exact ⟨[], rfl⟩
    | cons m ms =>
      obtain ⟨ts, written⟩ := exists_moreMemberTokens ms
      exact ⟨.string m.1 :: .colon :: (m.2.tokens ++ ts), by simp [memberTokens, written]⟩
  obtain ⟨ts, written⟩ := tokens
  refine ⟨ts.flatMap Token.chars, ?_⟩
  rw [toList_compact, Json.tokens, written]
  simp [Token.chars]

namespace Text

theorem trim_eq_self {first last : Char} (hfirst : isBlank first = false)
    (hlast : isBlank last = false) (cs : List Char) :
    trim (first :: (cs ++ [last])) = first :: (cs ++ [last]) := by
  simp [trim, hfirst, hlast]

end Text

/-! ## Spills on lines -/

/-- A spill as one line of text. -/
def Spill.line (s : Spill) : String := s.toJson.compact

namespace Records

/-- The lines of some spills with a line feed between them, and perhaps one at the end. -/
def joined (spills : List Spill) (ended : Bool) : List UInt8 :=
  [10].intercalate (spills.map fun s => Text.utf8 s.line) ++ if ended then [10] else []

/-- What the line of a spill yields. -/
theorem ofLine_line (number : Nat) (s : Spill) :
    ofLine number (Text.utf8 s.line) =
      some ((Spill.ofJson s.toJson).mapError (.malformed number)) := by
  obtain ⟨cs, braces⟩ := exists_compact_object _
  have trimmed : Text.trim s.line.toList = s.line.toList := by
    rw [Spill.line, Spill.toJson, braces]
    exact Text.trim_eq_self (by decide) (by decide) cs
  have kept : isSkipped s.line.toList = false := by
    rw [Spill.line, Spill.toJson, braces]
    rfl
  have value : parse? s.line.toList = some s.toJson := parse?_compact (hasNumerals_spill s)
  simp [ofLine, Text.ofUtf8?_utf8, ofText, trimmed, kept, decodeText, value]

theorem lf_not_mem_line (s : Spill) : 10 ∉ Text.utf8 s.line :=
  Text.lf_not_mem_utf8 (hasNumerals_spill s).isOneLine

/-- A line feed at the end of a source yields nothing. -/
theorem unmarked_append_lf (source : List UInt8) : unmarked (source ++ [10]) = unmarked source := by
  have nothing (number : Nat) : ofLine number [] = none := ofLine_eq_none (by decide)
  rw [unmarked_eq, unmarked_eq, List.splitOn_append_cons_self, List.splitOn_nil,
    List.zipIdx_append, List.filterMap_append]
  simp [nothing]

/-- The items of spills on lines, each with its number. -/
theorem unmarked_joined (spills : List Spill) (ended : Bool) :
    unmarked (joined spills ended) =
      spills.mapIdx fun k s => (Spill.ofJson s.toJson).mapError (.malformed (k + 1)) := by
  have bare : unmarked ([10].intercalate (spills.map fun s => Text.utf8 s.line)) =
      spills.mapIdx fun k s => (Spill.ofJson s.toJson).mapError (.malformed (k + 1)) := by
    rcases spills.eq_nil_or_concat with rfl | ⟨_, _, some⟩
    · rfl
    · have clean : ∀ line ∈ spills.map fun s => Text.utf8 s.line, 10 ∉ line := by
        simpa using fun s _ => lf_not_mem_line s
      rw [unmarked_eq, List.splitOn_intercalate 10 clean (by simp [some]), List.zipIdx_map,
        List.filterMap_map]
      simp only [Function.comp_def, Prod.map, ofLine_line, id, List.filterMap_eq_map']
      refine List.ext_getElem (by simp) fun k _ _ => ?_
      simp [Nat.add_comm]
  cases ended with
  | false => rw [joined, if_neg Bool.false_ne_true, List.append_nil, bare]
  | true => rw [joined, if_pos rfl, unmarked_append_lf, bare]

end Records

/-- Spills that are written to lines are read as they were, with the reader's marks, when their
floats are finite and read back from their decimal text. The line of a spill with a float that is
not finite is a parse error, whatever the other spills are. -/
theorem read_written (spills : List Spill) (ended : Bool) :
    ((∀ s ∈ spills, ∀ x ∈ s.floats, x.isFinite ∧ ReadsBack x) →
      Records.read (Records.joined spills ended) = (delivered spills).map .ok) ∧
    ∀ (k : Nat) (s : Spill), spills[k]? = some s → (∃ x ∈ s.floats, x.isFinite = false) →
      ∃ fault, (Records.read (Records.joined spills ended))[k]? =
        some (.error (.malformed (k + 1) fault)) := by
  constructor
  · intro good
    refine read_eq_delivered ?_
    rw [Records.unmarked_joined]
    refine List.ext_getElem (by simp) fun k hk _ => ?_
    have hk : k < spills.length := by simpa using hk
    have same := (decodes_spill spills[k]).reads (good _ (List.getElem_mem hk))
    simp [same, Except.mapError]
  · intro k s found ⟨x, hx, infinite⟩
    have failed : ∃ fault, Spill.ofJson s.toJson = .error fault := by
      cases result : Spill.ofJson s.toJson with
      | error fault => exact ⟨fault, rfl⟩
      | ok s' =>
        have finite := (decodes_spill s).finite s' result x hx
        rw [infinite] at finite
        cases finite
    obtain ⟨fault, failed⟩ := failed
    -- The item at a position is decided by its own line, marks apart, and an error has no mark.
    refine ⟨fault, ?_⟩
    rw [Records.read_eq_mapIdx, Records.unmarked_joined]
    simp [found, failed, Except.mapError, Except.map]

/-- A spill with a negative zero, the least and the greatest integers, and an overlap that has no
finite decimal in base two. -/
def extremeSpill : Spill where
  header :=
    { run := Int64.minValue, subrun := Int64.maxValue, firstInSubrun := true, pot := -0.0,
      beam := some { tor860 := 2.5 }, noffbeamBnb := 4294967295 }
  reco := [{ nuId := Int64.minValue, particles :=
    [{ core := { id := Int64.maxValue, matchIds := [-1, 0], matchOverlaps := [0.1, -0.0] },
       pidScores := { muon := 1e22 } }] }]
  truth := [{ flashTimes := [1e-3], particles := [{ mass := 105.658 }] }]
  mc := [{ energy := 0.75, pdg := -14 }]
  flashes := [{ id := 7, totalPe := 1e300 }]

/-- The same with one overlap that is no number. -/
def brokenSpill : Spill :=
  { extremeSpill with reco := [{ particles := [{ core := { matchOverlaps := [0.0 / 0.0] } }] }] }

theorem read_written_extremeSpill :
    (∀ s ∈ [extremeSpill, extremeSpill], ∀ x ∈ s.floats, x.isFinite ∧ ReadsBack x) ∧
    Records.read (Records.joined [extremeSpill, extremeSpill] true) =
      [.ok (extremeSpill.marked true), .ok (extremeSpill.marked false)] ∧
    ∃ fault, (Records.read (Records.joined [extremeSpill, brokenSpill] false))[1]? =
      some (.error (.malformed 2 fault)) := by
  have good : ∀ s ∈ [extremeSpill, extremeSpill], ∀ x ∈ s.floats, x.isFinite ∧ ReadsBack x := by
    decide +kernel
  refine ⟨good, ?_, ?_⟩
  · exact (read_written [extremeSpill, extremeSpill] true).1 good
  · have infinite : ∃ x ∈ brokenSpill.floats, x.isFinite = false := by decide +kernel
    exact (read_written [extremeSpill, brokenSpill] false).2 1 brokenSpill rfl infinite

end SpillSelection
