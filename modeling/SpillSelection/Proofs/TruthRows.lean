import SpillSelection.Proofs.Alignment
import SpillSelection.Proofs.TruthOnData
/-!
# Truth rows on data

Real data has no truth side, and for reco rows it is as if there were none. Rows of truth
interactions are another matter: a truth row is itself what a variable on truth is about, so that it
is read on data just as it is on simulation (`truth_rows_are_read`).
-/

namespace SpillSelection

variable {c : Catalog} {entries : List CutEntry} {v : VariableEntry} {target : Target}
  {simulated : Bool} {b : Branch} {spill : Spill}

/-- A truth interaction is its own subject, on data as on simulation. -/
theorem subject?_truth (spill : Spill) (simulated : Bool) (i : Interaction .truth) :
    spill.subject? simulated i .truth = some i := by
  simp [Spill.subject?, Spill.counterpart?]

/-- Values on truth do not depend on the kind of sample. -/
theorem rowValue_truth (h : IsTruthValued v target) (i : Interaction .truth) :
    c.rowValue v target simulated spill i = c.rowValue v target true spill i := by
  unfold Catalog.rowValue
  rcases target with ⟨_ | _⟩ | ⟨_ | _⟩ | _ | _
  · simp only [subject?_truth]
  · exact h.elim
  · simp only [subject?_truth]
  · exact h.elim
  · exact h.elim
  · simp only [subject?_truth]

theorem isSingleValued_of_isTruthValued (h : IsTruthValued v target) :
    IsSingleValued v target := by
  rcases target with _ | ⟨_ | _⟩ | _ | _
  · trivial
  · exact h
  · exact h.elim
  · trivial
  · trivial

theorem rowValues_trueParticles (plain : v.selector = none) (i : Interaction .truth) :
    c.rowValues entries v (.particle .truth) simulated spill i =
      (i.particles.filter fun p => entries.all (c.particleCutAllows simulated spill p)).map
        (c.value (.particle .truth) v) := by
  simp only [Catalog.rowValues, plain, subject?_truth]

/-- A branch on truth reads the truth rows of data as it would those of simulation: for every row
that passes it has the value that the variable has there on simulation, so no value is hidden. Plain
true particles give nothing only where no particle of a passing row passes its cuts. Without truth
interactions there are no values. -/
theorem truth_rows_are_read
    (h : c.branch entries v (.interactions .truth) target false = .ok b) (spill : Spill) :
    (IsTruthValued v target →
      b.evaluate spill =
        (c.passing entries .truth false spill).map (c.rowValue v target true spill)) ∧
    (target = .particle .truth → v.selector = none → (b.evaluate spill = [] ↔
      ∀ i ∈ c.passing entries .truth false spill, ∀ p ∈ i.particles,
        entries.all (c.particleCutAllows false spill p) = false)) ∧
    (spill.truth = [] → b.evaluate spill = []) := by
  have values : b.evaluate spill = c.interpret entries v .truth target false spill := by
    obtain ⟨-, rfl⟩ := branch_ok_iff.1 h
    exact evaluation_eq_interpret ..
  refine ⟨fun onTruth => ?_, fun particles plain => ?_, fun none => ?_⟩
  · rw [evaluate_of_single h (isSingleValued_of_isTruthValued onTruth)]
    exact List.map_congr_left fun i _ => rowValue_truth onTruth i
  · subst particles
    rw [values, Catalog.interpret, List.flatMap_eq_nil_iff]
    refine forall₂_congr fun i _ => ?_
    simp only [rowValues_trueParticles plain, List.map_eq_nil_iff, List.filter_eq_nil_iff,
      Bool.not_eq_true]
  · have rows : spill.interactions .truth = [] := none
    rw [values, Catalog.interpret, Catalog.passing, rows]
    rfl

/-- A catalog with a variable of truth interactions, one of neutrinos and of true particles, and a
selector. -/
def truthCatalog : Catalog :=
  (Catalog.empty.declare [
    .ofVariable "vertex_x" [⟨.interaction .truth, .plain (·.vertex.x)⟩],
    .ofVariable "energy" [⟨.neutrino, .plain (·.energy)⟩,
      ⟨.particle .truth, .plain (·.energyInit)⟩],
    .ofSelector "first" [⟨.interaction .truth, .plain fun i =>
      if i.particles.isEmpty then none else some 0⟩]]).1

/-- A spill whose truth side is filled. -/
def neutrinoSpill : Spill where
  truth := [{ vertex := ⟨1.5, 0, 0⟩, nuId := 0, particles := [{ energyInit := 200 }] }]
  mc := [{ energy := 2 }]

/-- What truth rows of data yield for a variable. -/
def truthRowsOnData (v : VariableEntry) (target : Target) : Except SelectionError Branch :=
  truthCatalog.branch [] v (.interactions .truth) target false

theorem truth_rows_are_read_neutrinoSpill : ∃ b,
    truthRowsOnData { name := "energy" } .neutrino = .ok b ∧
      b.evaluate neutrinoSpill = neutrinoSpill.truth.map
        (truthCatalog.rowValue { name := "energy" } .neutrino true neutrinoSpill) := by
  have compiled : truthRowsOnData { name := "energy" } .neutrino = .ok _ := rfl
  exact ⟨_, compiled, (truth_rows_are_read compiled neutrinoSpill).1 trivial⟩

/-- On data truth rows have numbers on every target of the truth side. -/
theorem truth_seen_on_data :
    (∃ b, truthRowsOnData { name := "vertex_x" } (.interaction .truth) = .ok b ∧
      b.evaluate neutrinoSpill = [1.5]) ∧
    (∃ b, truthRowsOnData { name := "energy" } .neutrino = .ok b ∧
      b.evaluate neutrinoSpill = [2]) ∧
    (∃ b, truthRowsOnData { name := "energy", selector := some "first" } (.interaction .truth) =
        .ok b ∧ b.evaluate neutrinoSpill = [200]) ∧
    (∃ b, truthRowsOnData { name := "energy" } (.particle .truth) = .ok b ∧
      b.evaluate neutrinoSpill = [200]) ∧
    ∀ x ∈ [(1.5 : Float), 2, 200], x.isNaN = false :=
  ⟨⟨_, rfl, rfl⟩, ⟨_, rfl, rfl⟩, ⟨_, rfl, rfl⟩, ⟨_, rfl, rfl⟩, by decide +kernel⟩

end SpillSelection
