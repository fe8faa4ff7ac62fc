import SpillSelection.Branch
/-!
# Exposure

How much beam a sample stands for: livetime and protons on target, each a branch with one value
for every spill that passes the event cuts. Only cuts that are flagged to decrement the exposure
take part, and those on beam records choose the records that are counted. A simulated subrun
reports its whole exposure with its first spill.
-/

namespace SpillSelection

/-- A cut that takes part in counting exposure. -/
inductive ExposureCut where
  | event (passes : Spill → Bool)
  | beam (passes : BeamRecord → Bool)

namespace ExposureCut

def onEvents (cuts : List ExposureCut) : List (Spill → Bool) :=
  cuts.filterMap fun
    | .event passes => some passes
    | .beam _ => none

def onBeams (cuts : List ExposureCut) : List (BeamRecord → Bool) :=
  cuts.filterMap fun
    | .beam passes => some passes
    | .event _ => none

end ExposureCut

def Catalog.exposureCut (c : Catalog) (entry : CutEntry) : Except SelectionError ExposureCut := do
  match entry.object with
  | .event => return .event (← c.bindCut "exposure cut" .event entry.name entry.parameters)
  | .beam => return .beam (← c.bindCut "exposure cut" .beam entry.name entry.parameters)
  | object => throw (.cutNotApplicable entry.name object "exposure")

/-- Gates on simulation, counted with the first spill of a subrun, and on data the beam spills
of both lines with those off beam. -/
def Spill.livetime (spill : Spill) (simulated : Bool) : Float :=
  let h := spill.header
  if simulated then if h.firstInSubrun then h.ngenevt else 0
  else Float.ofNat (h.bnbInfo.length + h.numiInfo.length) + Float.ofNat h.noffbeamBnb.toNat +
    Float.ofNat h.noffbeamNumi.toNat

/-- Protons on target: on data the toroid readings of the beam records that pass. -/
def Spill.pot (spill : Spill) (simulated : Bool) (cuts : List (BeamRecord → Bool)) : Float :=
  let h := spill.header
  if simulated then if h.firstInSubrun then h.pot else 0
  else sum ((h.bnbInfo.filter (passesAll cuts)).map (·.tor875))

/-- The names of the two branches, in their order. -/
def exposureNames : List String := ["livetime", "pot"]

/-- The livetime and POT branches for a list of cuts. -/
def Catalog.exposureBranches (c : Catalog) (entries : List CutEntry) (simulated : Bool) :
    Except SelectionError (List Branch) := do
  let cuts ← (entries.filter (·.decrementsExposure)).mapM c.exposureCut
  let gate := ExposureCut.onEvents cuts
  let beams := ExposureCut.onBeams cuts
  return List.zipWith Branch.mk exposureNames
    [ofPassing gate (·.livetime simulated), ofPassing gate (·.pot simulated beams)]

end SpillSelection
