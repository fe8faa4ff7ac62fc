import Mathlib
import SpillSelection.Proofs.Processing
import SpillSelection.Proofs.RecordLines
import SpillSelection.Records.Summary
/-!
# Summaries and tables

A source is read by two loops: one counts what is in it and asks the reader's marker for the subruns
at the end (`RecordSummary.drain`), the other fills tables. Both stop at the first error, so on
every source they end alike, and their counts agree (`summary_agrees_with_tables`).
-/

namespace SpillSelection

namespace RecordSummary

/-! ## Draining a reader -/

/-- Counts a spill, but not its subrun. -/
def count (s : RecordSummary) (spill : Spill) : RecordSummary :=
  { s.add spill with subruns := s.subruns }

/-- Marks and counts the spills of a source up to the first error. Without one, the subruns are
those that the marker met in the end. -/
def drain (m : SubrunMarker) (s : RecordSummary) :
    List RecordItem → Except RecordError RecordSummary
  | [] => .ok { s with subruns := m.count }
  | .error e :: _ => .error e
  | .ok spill :: rest => drain (m.mark spill).1 (s.count (m.mark spill).2) rest

/-- To count a spill with its mark is to ask the marker after it. -/
theorem add_mark (m : SubrunMarker) (s : RecordSummary) (spill : Spill) :
    ({ s with subruns := m.count } : RecordSummary).add (m.mark spill).2 =
      { s.count (m.mark spill).2 with subruns := (m.mark spill).1.count } := by
  have counted := Records.count_mark m spill
  rw [counted]
  cases first : (m.mark spill).2.header.firstInSubrun <;> simp [add, count, Records.isFirst, first]

theorem drain_eq_foldlM (m : SubrunMarker) (s : RecordSummary) (items : List RecordItem) :
    drain m s items = ((m.scan items).map (·.1)).foldlM (fun s item => s.add <$> item)
      ({ s with subruns := m.count } : RecordSummary) := by
  induction items generalizing m s with
  | nil => rfl
  | cons item items ih =>
    cases item with
    | error e => rfl
    | ok spill =>
      rw [drain, ih, ← add_mark]
      rfl

/-- To ask the marker at the end is to count each subrun with its first spill. -/
theorem drain_eq_ofItems (source : List UInt8) :
    drain {} {} (Records.unmarked source) = ofItems (Records.read source) :=
  drain_eq_foldlM {} {} (Records.unmarked source)

/-! ## Totals -/

/-- What a summary says of some spills. -/
def totals (spills : List Spill) : RecordSummary where
  spills := spills.length
  simulatedSpills := spills.countP (·.header.isMc)
  recoInteractions := (spills.map fun spill => spill.reco.length).sum
  trueInteractions := (spills.map fun spill => spill.truth.length).sum
  recoParticles := (spills.map fun spill => (spill.reco.map (·.particles.length)).sum).sum
  trueParticles := (spills.map fun spill => (spill.truth.map (·.particles.length)).sum).sum
  subruns := spills.countP (·.header.firstInSubrun)

theorem add_totals (earlier : List Spill) (spill : Spill) :
    (totals earlier).add spill = totals (earlier ++ [spill]) := by
  have one (b : Bool) : (if b then 1 else 0) = b.toNat := by cases b <;> rfl
  have particles (s : Side) :
      (spill.particles s).length = ((spill.interactions s).map (·.particles.length)).sum :=
    List.length_flatMap
  simp [add, totals, particles, Spill.interactions, List.countP_singleton, one]

theorem foldlM_add_totals (earlier spills : List Spill) :
    (spills.map Except.ok : List RecordItem).foldlM (fun s item => s.add <$> item)
      (totals earlier) = .ok (totals (earlier ++ spills)) := by
  rw [List.foldlM_map]
  exact foldlM_eq_pure (m := Except RecordError) (f := fun s spill => .ok (s.add spill)) totals
    (fun earlier spill => congrArg Except.ok (add_totals earlier spill)) earlier spills

theorem ofItems_spills (spills : List Spill) : ofItems (spills.map .ok) = .ok (totals spills) :=
  foldlM_add_totals [] spills

/-- The first error ends the counting, whatever comes after it. -/
theorem ofItems_error (spills : List Spill) (e : RecordError) (rest : List RecordItem) :
    ofItems (spills.map .ok ++ .error e :: rest) = .error e := by
  have before := ofItems_spills spills
  unfold ofItems at before ⊢
  rw [List.foldlM_append, before]
  rfl

end RecordSummary

/-! ## Marked spills -/

/-- The marked spills among the first ones of a source are as many as the subruns of those. -/
theorem countP_firstInSubrun {source : List UInt8} (before : List Spill) (after : List RecordItem)
    (h : Records.read source = before.map .ok ++ after) :
    before.countP (·.header.firstInSubrun) = (before.map Spill.subrun).toFinset.card := by
  induction before using List.reverseRecOn generalizing after with
  | nil => rfl
  | append_singleton before spill ih =>
    have split : Records.read source = before.map .ok ++ .ok spill :: after := by simpa using h
    have mark := Records.firstInSubrun_iff split
    rw [spillsOf_map_ok] at mark
    have met : ((before ++ [spill]).map Spill.subrun).toFinset =
        insert spill.subrun (before.map Spill.subrun).toFinset := by simp
    rw [List.countP_append, ih _ split, List.countP_singleton, met]
    by_cases known : spill.subrun ∈ (before.map Spill.subrun).toFinset
    · have unmarked : ¬spill.header.firstInSubrun = true := by
        rw [mark]
        intro others
        obtain ⟨e, he, same⟩ := List.mem_map.1 (List.mem_toFinset.1 known)
        exact others e he same
      rw [if_neg unmarked, Finset.insert_eq_of_mem known, Nat.add_zero]
    · have marked : spill.header.firstInSubrun = true := by
        rw [mark]
        intro e he same
        exact known (List.mem_toFinset.2 (List.mem_map.2 ⟨e, he, same⟩))
      rw [if_pos marked, Finset.card_insert_of_notMem known]

/-! ## Agreement -/

/-- A summary that counts what is in some spills. -/
structure RecordSummary.Describes (summary : RecordSummary) (yielded : List Spill) : Prop where
  spills : summary.spills = yielded.length
  simulated : summary.simulatedSpills ≤ summary.spills
  firsts : summary.subruns = yielded.countP (·.header.firstInSubrun)
  subruns : summary.subruns = (yielded.map Spill.subrun).toFinset.card
  recoInteractions : summary.recoInteractions = (yielded.map (·.reco.length)).sum
  trueInteractions : summary.trueInteractions = (yielded.map (·.truth.length)).sum
  recoParticles : summary.recoParticles =
    (yielded.map fun spill => (spill.reco.map (·.particles.length)).sum).sum
  trueParticles : summary.trueParticles =
    (yielded.map fun spill => (spill.truth.map (·.particles.length)).sum).sum

theorem describes_totals {source : List UInt8} {spills : List Spill}
    (h : Records.read source = spills.map .ok) :
    (RecordSummary.totals spills).Describes spills where
  spills := rfl
  simulated := List.countP_le_length
  firsts := rfl
  subruns := countP_firstInSubrun spills [] (by rw [h, List.append_nil])
  recoInteractions := rfl
  trueInteractions := rfl
  recoParticles := rfl
  trueParticles := rfl

theorem spills_of_mem_filled (s : CompiledSample) (spills : List Spill) :
    ∀ t ∈ s.trees.flatMap (·.filled spills), t.spills = spills.length := by
  rw [← s.map_filled_tables]
  rintro _ ht
  obtain ⟨t, -, rfl⟩ := List.mem_map.1 ht
  rfl

/-- A summary and the tables of a sample are made of the same source, each by a loop of its own.
They fail alike, with the first error. When there is none the summary counts what is in the spills
that the reader yields, and every table has as many spills. -/
theorem summary_agrees_with_tables (source : List UInt8) (s : CompiledSample) :
    RecordSummary.drain {} {} (Records.unmarked source) =
        RecordSummary.ofItems (Records.read source) ∧
      (∀ e, RecordSummary.ofItems (Records.read source) = .error e ↔
        s.process (Records.read source) = .error e) ∧
      (∀ e, RecordSummary.ofItems (Records.read source) = .error e →
        ∃ (spills : List Spill) (rest : List RecordItem),
          Records.read source = spills.map .ok ++ .error e :: rest) ∧
      ∀ summary, RecordSummary.ofItems (Records.read source) = .ok summary →
        ∃ (spills : List Spill) (tables : List Table), Records.read source = spills.map .ok ∧
          s.process (Records.read source) = .ok tables ∧
          summary.Describes spills ∧ ∀ t ∈ tables, t.spills = summary.spills := by
  refine ⟨RecordSummary.drain_eq_ofItems source, ?_⟩
  rcases spills_or_error (Records.read source) with ⟨spills, h⟩ | ⟨spills, e, rest, h⟩
  · have counted := RecordSummary.ofItems_spills spills
    have filled := s.process_spills spills
    rw [← h] at counted filled
    refine ⟨by simp [counted, filled], by simp [counted], fun summary made => ?_⟩
    rw [counted] at made
    cases made
    exact ⟨spills, _, h, filled, describes_totals h, spills_of_mem_filled s spills⟩
  · have counting := RecordSummary.ofItems_error spills e rest
    have filling := s.process_error spills e rest
    rw [← h] at counting filling
    refine ⟨by simp [counting, filling], fun e' failed => ?_, by simp [counting]⟩
    rw [counting] at failed
    cases failed
    exact ⟨spills, rest, h⟩

/-- Three spills after a comment, of which the last is of the subrun of the first. -/
def repeatedSubrun : List UInt8 :=
  Text.utf8 "#\n\x7b\x7d\n\x7b\"header\":\x7b\"subrun\":1\x7d\x7d\n\x7b\x7d\n"

/-- The same spills, and two lines that are no records. -/
def repeatedThenBad : List UInt8 := repeatedSubrun ++ Text.utf8 "[\n]\n"

/-- A sample with one tree, which has no columns. -/
def plainSample : CompiledSample where
  sample := { name := "s", path := "p", simulated := true, disabled := false }
  trees := [{ name := "t", branches := [] }]

/-- Of three spills in two subruns both loops count three, and the first bad line fails both. -/
theorem summary_agrees_with_tables_repeatedSubrun :
    (∃ summary tables, RecordSummary.ofItems (Records.read repeatedSubrun) = .ok summary ∧
      plainSample.process (Records.read repeatedSubrun) = .ok tables ∧
      summary.spills = 3 ∧ summary.subruns = 2 ∧ ∀ t ∈ tables, t.spills = 3) ∧
    RecordSummary.ofItems (Records.read repeatedThenBad) = .error (.malformed 5 .notJson) ∧
    plainSample.process (Records.read repeatedThenBad) = .error (.malformed 5 .notJson) := by
  obtain ⟨-, -, -, agrees⟩ := summary_agrees_with_tables repeatedSubrun plainSample
  have counted : RecordSummary.ofItems (Records.read repeatedSubrun) =
      .ok { spills := 3, subruns := 2 } := by decide +kernel
  obtain ⟨spills, tables, -, filled, -, same⟩ := agrees _ counted
  obtain ⟨-, fails, -⟩ := summary_agrees_with_tables repeatedThenBad plainSample
  have failed : RecordSummary.ofItems (Records.read repeatedThenBad) =
      .error (.malformed 5 .notJson) := by decide +kernel
  exact ⟨⟨_, tables, counted, filled, rfl, rfl, same⟩, failed, (fails _).1 failed⟩

end SpillSelection
