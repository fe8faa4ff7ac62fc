import SpillSelection.Branch.Request
/-!
# Cuts on a row

The cuts of a request, looked up and given their parameters. On real data there is no truth
side, so cuts on it are checked and dropped. Simulated spills have no beam record, so cuts on
it are dropped there; on data such a cut asks that the spill's own beam record be present and
pass, and so becomes a cut on the spill.
-/

namespace SpillSelection

/-- A cut that takes part in choosing rows or particles. -/
inductive BoundCut where
  | interaction (s : Side) (passes : Interaction s → Bool)
  | particle (s : Side) (passes : Particle s → Bool)
  | event (passes : Spill → Bool)

/-- Whether the records of a side exist in a sample. -/
def Side.isRecorded (s : Side) (simulated : Bool) : Bool := simulated || s == .reco

/-- A cut on the beam record as a cut on the spill that carries it. -/
def onBeam (passes : BeamRecord → Bool) : Spill → Bool := fun spill => spill.header.beam.any passes

/-- The cut of an entry, if it takes part in this kind of sample. -/
def Catalog.boundCut? (c : Catalog) (simulated : Bool) (entry : CutEntry) :
    Except SelectionError (Option BoundCut) := do
  match entry.object with
  | .interaction s =>
    let passes ← c.bindCut "cut" (.interaction s) entry.name entry.parameters
    return if s.isRecorded simulated then some (.interaction s passes) else none
  | .particle s =>
    let passes ← c.bindCut "cut" (.particle s) entry.name entry.parameters
    return if s.isRecorded simulated then some (.particle s passes) else none
  | .event =>
    return some (.event (← c.bindCut "cut" .event entry.name entry.parameters))
  | .beam =>
    let passes ← c.bindCut "cut" .beam entry.name entry.parameters
    return if simulated then none else some (.event (onBeam passes))

/-- Whether rows of this mode let a cut of this object be applied. -/
def Mode.allows (mode : Mode) (object : CutObject) : Bool :=
  match mode, object with
  | .interactions _, _ => true
  | .event, .event | .event, .beam => true
  | .event, _ => false

/-- The cuts of a list of entries, in its order. -/
def Catalog.boundCuts (c : Catalog) (mode : Mode) (simulated : Bool) (entries : List CutEntry) :
    Except SelectionError (List BoundCut) :=
  (·.filterMap id) <$> entries.mapM fun entry =>
    if mode.allows entry.object then c.boundCut? simulated entry
    else .error (.cutNotApplicable entry.name entry.object mode.text)

/-! ## The cuts by object -/

namespace BoundCut

/-- The cuts on the interactions of a side. -/
def onInteractions (cuts : List BoundCut) (s : Side) : List (Interaction s → Bool) :=
  cuts.filterMap fun
    | .interaction t passes => if h : t = s then some (h ▸ passes) else none
    | _ => none

/-- The cuts on the particles of a side. -/
def onParticles (cuts : List BoundCut) (s : Side) : List (Particle s → Bool) :=
  cuts.filterMap fun
    | .particle t passes => if h : t = s then some (h ▸ passes) else none
    | _ => none

/-- The cuts on spills. -/
def onEvents (cuts : List BoundCut) : List (Spill → Bool) :=
  cuts.filterMap fun
    | .event passes => some passes
    | _ => none

end BoundCut

/-- Whether the best match of an object passes the cuts of its side. Without cuts there is
nothing to pass; an object that is not matched fails on simulation, and passes on data, where
there is nothing that it could have been matched to. -/
def matchPasses {α : Type} (simulated : Bool) (cuts : List (α → Bool)) (best : Option α) :
    Bool :=
  cuts.isEmpty || match best with
    | some a => passesAll cuts a
    | none => !simulated

end SpillSelection
