import SpillSelection.Proofs.CutSets
/-!
# Truth on data

Real data has no truth side, but a record of it may carry one all the same. Nothing that reco rows
yield may depend on it: cuts on truth are idle (`interpret_dropTruth`), the values of a row do not
change with the truth side (`interpret_withTruth`), and a variable on truth has no number to give
(`interpret_of_isTruthValued`).
-/

namespace SpillSelection

/-- Whether a cut is about the truth side. -/
def CutEntry.isOnTruth (e : CutEntry) : Bool :=
  e.object == .interaction .truth || e.object == .particle .truth

/-- The cuts that are not about the truth side. -/
def dropTruth (entries : List CutEntry) : List CutEntry := entries.filter (!·.isOnTruth)

/-- The spill with another truth side. -/
def Spill.withTruth (spill : Spill) (truth : List (Interaction .truth)) (mc : List Neutrino) :
    Spill :=
  { spill with truth := truth, mc := mc }

/-- A variable whose one value on a row is taken from the truth side. -/
def IsTruthValued (v : VariableEntry) : Target → Prop
  | .interaction .truth | .neutrino => True
  | .particle .truth => v.selector.isSome
  | _ => False

variable {c : Catalog} {entries : List CutEntry} {v : VariableEntry} {target : Target} {s : Side}

/-! ## Cuts on truth -/

theorem CutEntry.isOnTruth_iff {e : CutEntry} :
    e.isOnTruth = true ↔ e.object = .interaction .truth ∨ e.object = .particle .truth := by
  simp [isOnTruth]

theorem cutAllows_of_isOnTruth {e : CutEntry} (h : e.isOnTruth = true) (spill : Spill)
    (i : Interaction s) : c.cutAllows false spill i e = true := by
  rcases CutEntry.isOnTruth_iff.1 h with object | object <;>
    simp [Catalog.cutAllows, object, verdict]

theorem particleCutAllows_of_isOnTruth {e : CutEntry} (h : e.isOnTruth = true) (spill : Spill)
    (p : Particle s) : c.particleCutAllows false spill p e = true := by
  rcases CutEntry.isOnTruth_iff.1 h with object | object <;>
    simp [Catalog.particleCutAllows, object, verdict]

/-- Cuts that every object passes may be left out. -/
theorem all_dropTruth {allows : CutEntry → Bool} (idle : ∀ e, e.isOnTruth = true → allows e = true)
    (entries : List CutEntry) : (dropTruth entries).all allows = entries.all allows := by
  unfold dropTruth
  rw [List.all_filter]
  congr 1
  funext e
  cases onTruth : e.isOnTruth with
  | true => simp [idle e onTruth]
  | false => simp

theorem interpret_dropTruth (spill : Spill) :
    c.interpret (dropTruth entries) v s target false spill =
      c.interpret entries v s target false spill := by
  have rows : c.rowPasses (s := s) (dropTruth entries) false spill =
      c.rowPasses entries false spill :=
    funext fun i => all_dropTruth (fun _ h => cutAllows_of_isOnTruth h spill i) entries
  have particles (t : Side) : (fun p : Particle t =>
      (dropTruth entries).all (c.particleCutAllows false spill p)) =
      fun p => entries.all (c.particleCutAllows false spill p) :=
    funext fun p => all_dropTruth (fun _ h => particleCutAllows_of_isOnTruth h spill p) entries
  have values : c.rowValues (s := s) (dropTruth entries) v target false spill =
      c.rowValues entries v target false spill := by
    funext i
    simp only [Catalog.rowValues, particles]
  simp only [Catalog.interpret, Catalog.passing, rows, values]

/-! ## Reco rows -/

section Reco

variable {spill : Spill} {truth : List (Interaction .truth)} {mc : List Neutrino}

theorem cutAllows_withTruth {e : CutEntry} (i : Interaction .reco)
    (same : e.object = .event → c.holds .event e.name e.parameters (spill.withTruth truth mc) =
      c.holds .event e.name e.parameters spill) :
    c.cutAllows false (spill.withTruth truth mc) i e = c.cutAllows false spill i e := by
  unfold Catalog.cutAllows
  rcases object : e.object with ⟨_ | _⟩ | t | _ | _
  · rfl
  · rfl
  · rfl
  · exact same object
  · rfl

/-- On data a reco particle is matched with nothing, whatever its match ids. -/
theorem particleCutAllows_withTruth {e : CutEntry} (p : Particle .reco) :
    c.particleCutAllows false (spill.withTruth truth mc) p e =
      c.particleCutAllows false spill p e := by
  unfold Catalog.particleCutAllows
  rcases e.object with t | ⟨_ | _⟩ | _ | _ <;> rfl

theorem passing_withTruth
    (same : ∀ e ∈ entries, e.object = .event →
      c.holds .event e.name e.parameters (spill.withTruth truth mc) =
        c.holds .event e.name e.parameters spill) :
    c.passing entries .reco false (spill.withTruth truth mc) =
      c.passing entries .reco false spill := by
  refine List.filter_congr fun i _ => ?_
  unfold Catalog.rowPasses
  rw [Bool.eq_iff_iff, List.all_eq_true, List.all_eq_true]
  exact forall₂_congr fun e he => by rw [cutAllows_withTruth i (same e he)]

theorem rowValues_withTruth (i : Interaction .reco)
    (same : target = .event →
      c.value .event v (spill.withTruth truth mc) = c.value .event v spill) :
    c.rowValues entries v target false (spill.withTruth truth mc) i =
      c.rowValues entries v target false spill i := by
  have particles : (fun p : Particle .reco =>
      entries.all (c.particleCutAllows false (spill.withTruth truth mc) p)) =
      fun p => entries.all (c.particleCutAllows false spill p) :=
    funext fun p => congrArg entries.all (funext fun _ => particleCutAllows_withTruth p)
  unfold Catalog.rowValues
  rcases target with ⟨_ | _⟩ | ⟨_ | _⟩ | _ | _
  · rfl
  · rfl
  · cases v.selector <;> rfl
  · cases v.selector with
    | none =>
      exact congrArg (fun passes => (i.particles.filter passes).map (c.value (.particle .reco) v))
        particles
    | some _ => rfl
  · simp only [Catalog.rowValue, same rfl]
  · rfl

/-- The values of reco rows do not change with the truth side, if those of the spill do not. -/
theorem interpret_withTruth
    (cuts : ∀ e ∈ entries, e.object = .event →
      c.holds .event e.name e.parameters (spill.withTruth truth mc) =
        c.holds .event e.name e.parameters spill)
    (values : target = .event →
      c.value .event v (spill.withTruth truth mc) = c.value .event v spill) :
    c.interpret entries v .reco target false (spill.withTruth truth mc) =
      c.interpret entries v .reco target false spill := by
  unfold Catalog.interpret
  rw [passing_withTruth cuts]
  exact List.flatMap_congr fun i _ => rowValues_withTruth i values

theorem rowValues_of_isTruthValued (h : IsTruthValued v target) (i : Interaction .reco) :
    c.rowValues entries v target false spill i = [nan] := by
  unfold Catalog.rowValues
  rcases target with ⟨_ | _⟩ | ⟨_ | _⟩ | _ | _
  · rfl
  · exact h.elim
  · obtain ⟨selector, hs⟩ := Option.isSome_iff_exists.1 h
    rw [hs]
    rfl
  · exact h.elim
  · exact h.elim
  · rfl

theorem interpret_of_isTruthValued (h : IsTruthValued v target) :
    c.interpret entries v .reco target false spill =
      List.replicate (c.passing entries .reco false spill).length nan := by
  calc (c.passing entries .reco false spill).flatMap (c.rowValues entries v target false spill)
      = (c.passing entries .reco false spill).flatMap fun _ => [nan] :=
        List.flatMap_congr fun i _ => rowValues_of_isTruthValued h i
    _ = (c.passing entries .reco false spill).map fun _ => nan := List.flatMap_pure_eq_map ..
    _ = List.replicate (c.passing entries .reco false spill).length nan := List.map_const'

theorem interpret_of_trueParticles (plain : v.selector = none) :
    c.interpret entries v .reco (.particle .truth) false spill = [] := by
  refine List.flatMap_eq_nil_iff.2 fun i _ => ?_
  simp only [Catalog.rowValues, plain]
  rfl

end Reco

/-! ## Branches -/

/-- On data, leaving out the cuts on truth changes no value. The values of reco rows stay the same
when only the truth side of a spill changes, as long as the cuts on the spill and a variable of it
agree; a variable on truth gives no number for each row that passes, and plain true particles give
nothing at all. -/
theorem data_hides_truth (c : Catalog) (entries : List CutEntry) (v : VariableEntry)
    (target : Target) :
    (∀ s b, c.branch entries v (.interactions s) target false = .ok b →
      ∃ b', c.branch (dropTruth entries) v (.interactions s) target false = .ok b' ∧
        ∀ spill, b'.evaluate spill = b.evaluate spill) ∧
    ∀ b, c.branch entries v (.interactions .reco) target false = .ok b → ∀ spill : Spill,
      (∀ truth mc,
        (∀ e ∈ entries, e.object = .event →
          c.holds .event e.name e.parameters (spill.withTruth truth mc) =
            c.holds .event e.name e.parameters spill) →
        (target = .event → c.value .event v (spill.withTruth truth mc) = c.value .event v spill) →
        b.evaluate (spill.withTruth truth mc) = b.evaluate spill) ∧
      (IsTruthValued v target →
        b.evaluate spill = List.replicate (c.passing entries .reco false spill).length nan) ∧
      (target = .particle .truth → v.selector = none → b.evaluate spill = []) := by
  constructor
  · intro s b hb
    obtain ⟨w, rfl⟩ := branch_ok_iff.1 hb
    have fewer : dropTruth entries ⊆ entries := List.filter_subset_self _
    refine ⟨_, branch_ok_iff.2 ⟨w.of_subset fewer, rfl⟩, fun spill => ?_⟩
    simp only [evaluation_eq_interpret, interpret_dropTruth]
  · intro b hb spill
    obtain ⟨-, rfl⟩ := branch_ok_iff.1 hb
    simp only [evaluation_eq_interpret]
    refine ⟨fun truth mc cuts values => interpret_withTruth cuts values,
      interpret_of_isTruthValued, fun particles plain => ?_⟩
    rw [particles]
    exact interpret_of_trueParticles plain

/-- A catalog with one cut for interactions and particles of both sides, which is also a
variable. -/
def containmentCatalog : Catalog :=
  (Catalog.empty.declare [.ofCut "contained" (.interactions (fun _ => .plain (·.isContained)) ++
    .particles fun _ => .plain (·.core.isContained))]).1

/-- Whether the reco interactions of a data sample that pass some cuts are contained, or what
belongs to them on a target. -/
def containmentOnData (entries : List CutEntry) (target : Target) : Except SelectionError Branch :=
  containmentCatalog.branch entries { name := "contained" } (.interactions .reco) target false

/-- A spill whose reco interaction is matched with a truth interaction that has a particle. -/
def truthfulSpill : Spill where
  reco := [{ id := 0, isContained := true, matchIds := [7] }]
  truth := [{ id := 7, isContained := true, particles := [{}] }]

/-- The truth cut would reject the only row on simulation. On data the row passes, with or without
the cut and the truth side, and the truth side is not seen. -/
theorem data_hides_truth_truthfulSpill :
    ∃ b t p, containmentOnData [uncontainedTruthCut, containedCut] (.interaction .reco) = .ok b ∧
      containmentOnData [uncontainedTruthCut] (.interaction .truth) = .ok t ∧
      containmentOnData [uncontainedTruthCut] (.particle .truth) = .ok p ∧
      (∃ b', containmentOnData [containedCut] (.interaction .reco) = .ok b' ∧
        b'.evaluate truthfulSpill = b.evaluate truthfulSpill) ∧
      b.evaluate truthfulSpill = [1] ∧
      b.evaluate (truthfulSpill.withTruth [] []) = b.evaluate truthfulSpill ∧
      t.evaluate truthfulSpill = [nan] ∧ p.evaluate truthfulSpill = [] := by
  have law (entries : List CutEntry) (target : Target) :=
    data_hides_truth containmentCatalog entries { name := "contained" } target
  refine ⟨_, _, _, rfl, rfl, rfl, ?_, rfl, ?_, ?_, ?_⟩
  · obtain ⟨b', hb', same⟩ :=
      (law [uncontainedTruthCut, containedCut] (.interaction .reco)).1 .reco _ rfl
    exact ⟨b', hb', same truthfulSpill⟩
  · refine ((law [uncontainedTruthCut, containedCut] (.interaction .reco)).2 _ rfl truthfulSpill).1
      [] [] (fun e he event => ?_) nofun
    simp only [List.mem_cons, List.not_mem_nil, or_false] at he
    rcases he with rfl | rfl <;> cases event
  · exact ((law [uncontainedTruthCut] (.interaction .truth)).2 _ rfl truthfulSpill).2.1 trivial
  · exact ((law [uncontainedTruthCut] (.particle .truth)).2 _ rfl truthfulSpill).2.2 rfl rfl

end SpillSelection
