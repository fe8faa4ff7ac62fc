import SpillSelection.Proofs.Resolution
/-!
# Cut lists

A cut list compiles entry by entry: `boundCuts_ok_iff` says when, and which cuts come out of it.
Whether and how it fails does not depend on the kind of sample, because what a kind of sample
leaves out is left out only after it was checked (`outcome_boundCuts`).
-/

namespace SpillSelection

/-- The base name of a cut is on offer for its object with as many parameters as it gives. -/
def Catalog.offersEntry (c : Catalog) (e : CutEntry) : Bool :=
  c.offersCut e.object.objectType e.name e.parameters.length

/-- The cut of an entry, if it takes part in this kind of sample: truth is not recorded on data,
and beam records are not simulated. -/
def Catalog.participant? (c : Catalog) (simulated : Bool) (e : CutEntry) : Option BoundCut :=
  match e.object with
  | .interaction s =>
    if s.isRecorded simulated then
      some (.interaction s (c.holds (.interaction s) e.name e.parameters))
    else none
  | .particle s =>
    if s.isRecorded simulated then some (.particle s (c.holds (.particle s) e.name e.parameters))
    else none
  | .event => some (.event (c.holds .event e.name e.parameters))
  | .beam =>
    if simulated then none else some (.event (onBeam (c.holds .beam e.name e.parameters)))

variable {c : Catalog} {mode : Mode} {simulated : Bool}

theorem boundCut?_ok_iff {e : CutEntry} {b : Option BoundCut} :
    c.boundCut? simulated e = .ok b ↔ c.offersEntry e = true ∧ c.participant? simulated e = b := by
  unfold Catalog.boundCut? Catalog.offersEntry Catalog.participant?
  rcases e.object with s | s | _ | _ <;> exact ok_return_iff fun _ => Catalog.bindCut_ok_iff

/-- A cut list compiles when its mode lets every cut be applied and every name is on offer. -/
theorem boundCuts_ok_iff {entries : List CutEntry} {cuts : List BoundCut} :
    c.boundCuts mode simulated entries = .ok cuts ↔
      (∀ e ∈ entries, mode.allows e.object = true ∧ c.offersEntry e = true) ∧
        entries.filterMap (c.participant? simulated) = cuts := by
  have checked (e : CutEntry) (b : Option BoundCut) :
      (if mode.allows e.object then c.boundCut? simulated e
        else .error (.cutNotApplicable e.name e.object mode.text)) = Except.ok b ↔
      (mode.allows e.object = true ∧ c.offersEntry e = true) ∧ c.participant? simulated e = b := by
    split <;> simp_all [boundCut?_ok_iff]
  unfold Catalog.boundCuts
  simp only [ok_map_iff, ok_mapM_map_iff checked]
  constructor
  · rintro ⟨_, ⟨good, rfl⟩, rfl⟩
    exact ⟨good, by simp [List.filterMap_map]⟩
  · rintro ⟨good, rfl⟩
    exact ⟨_, ⟨good, rfl⟩, by simp [List.filterMap_map]⟩

theorem outcome_boundCut? (e : CutEntry) (simulated' : Bool) :
    outcome (c.boundCut? simulated e) = outcome (c.boundCut? simulated' e) := by
  unfold Catalog.boundCut?
  rcases e.object with s | s | _ | _ <;> exact outcome_bind_congr rfl fun _ _ => rfl

/-- Cut lists fail alike for both kinds of sample. -/
theorem outcome_boundCuts (entries : List CutEntry) (simulated' : Bool) :
    outcome (c.boundCuts mode simulated entries) =
      outcome (c.boundCuts mode simulated' entries) := by
  unfold Catalog.boundCuts
  rw [outcome_map, outcome_map]
  refine outcome_mapM_congr fun e _ => ?_
  split
  · exact outcome_boundCut? e simulated'
  · rfl

end SpillSelection
