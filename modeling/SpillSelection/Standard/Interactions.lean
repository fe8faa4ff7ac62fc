import SpillSelection.Catalog.Scoped
import SpillSelection.Physics.Flash
import SpillSelection.Physics.Multiplicity
/-!
# Interaction cuts, variables and selectors

The names of what can be asked of an interaction.
-/

namespace SpillSelection

namespace Interaction

/-- Fiducial, and outside of a region where the detector responds badly. -/
def isWellPlaced (i : Interaction s) : Bool :=
  i.isFiducial && !(210.215 < i.vertex.x && 60 < i.vertex.y && 290 < i.vertex.z && i.vertex.z < 390)

/-- Exactly one particle has the shape of a Michel electron. -/
def hasSingleMichel (i : Interaction s) : Bool := i.particles.countP (·.core.shape == 2) == 1

def isNeutrino (i : Interaction s) : Bool := 0 ≤ i.nuId

/-- A charged current. -/
def isCc (i : Interaction s) : Bool := i.currentType == 0

/-- The overlap with the best match. -/
def bestOverlap (i : Interaction s) : Float := i.matchOverlaps.headD nan

end Interaction

namespace Standard

/-- A threshold may be given. -/
def optionalThreshold : Arity := .anyOf [0, 1]

def single (name : String) (pid : Int64) : Declaration :=
  .ofCut name (.interactions fun _ => .parameterized optionalThreshold (Interaction.hasSingle pid))

def absent (name : String) (pid : Int64) : Declaration :=
  .ofCut name (.interactions fun _ => .parameterized optionalThreshold (Interaction.hasNone pid))

def count (name : String) (pid : Int64) : Declaration :=
  .ofVariable name
    (.interactions fun _ => .parameterized optionalThreshold (Interaction.multiplicity pid))

def interactionCuts : List Declaration :=
  [.ofCut "no_cut" (.interactions fun _ => .plain fun _ => true),
   .ofCut "valid_flashmatch" (.interactions fun _ => .plain Interaction.hasFlash),
   .ofCut "flash_cut" (.interactions fun _ => .parameterized .any Interaction.hasFlashWithin),
   .ofCut "fiducial_cut" (.interactions fun _ => .plain Interaction.isWellPlaced),
   .ofCut "containment_cut" (.interactions fun _ => .plain Interaction.isContained),
   .ofCut "single_michel" (.interactions fun _ => .plain Interaction.hasSingleMichel),
   single "single_photon" Pid.photon,
   single "single_electron" Pid.electron,
   single "single_muon" Pid.muon,
   single "single_pion" Pid.pion,
   single "single_proton" Pid.proton,
   absent "no_photons" Pid.photon,
   absent "no_electrons" Pid.electron,
   absent "no_muons" Pid.muon,
   absent "no_charged_pions" Pid.pion,
   absent "no_protons" Pid.proton,
   .ofCut "neutrino" (.on (.interaction .truth) (.plain Interaction.isNeutrino)),
   .ofCut "cosmic" (.on (.interaction .truth) (.plain fun i => !Interaction.isNeutrino i)),
   .ofCut "iscc" (.on (.interaction .truth) (.plain Interaction.isCc))]

def interactionVariables : List Declaration :=
  [.ofVariable "neutrino_id" (.on (.interaction .truth) (.plain fun i => ofInt64 i.nuId)),
   .ofVariable "interaction_id" (.interactions fun _ => .plain fun i => ofInt64 i.id),
   .ofVariable "iou" (.interactions fun _ => .plain Interaction.bestOverlap),
   .ofVariable "containment" (.interactions fun _ => .plain fun i => flag i.isContained),
   .ofVariable "fiducial" (.interactions fun _ => .plain fun i => flag i.isFiducial),
   .ofVariable "vertex_x" (.interactions fun _ => .plain fun i => i.vertex.x),
   .ofVariable "vertex_y" (.interactions fun _ => .plain fun i => i.vertex.y),
   .ofVariable "vertex_z" (.interactions fun _ => .plain fun i => i.vertex.z),
   .ofVariable "visible_energy" (.interactions fun _ => .plain Interaction.visibleEnergy),
   .ofVariable "particle_count" (.interactions fun _ => .plain Interaction.visibleCount),
   .ofVariable "dpT" (.interactions fun _ => .plain Interaction.transverseImbalance),
   .ofVariable "dphiT" (.interactions fun _ => .plain Interaction.recoilAngle),
   .ofVariable "dalphaT" (.interactions fun _ => .plain Interaction.boostingAngle),
   count "photon_multiplicity" Pid.photon,
   count "electron_multiplicity" Pid.electron,
   count "muon_multiplicity" Pid.muon,
   count "pion_multiplicity" Pid.pion,
   count "proton_multiplicity" Pid.proton,
   .ofVariable "flash_time" (.on (.interaction .reco) (.plain fun i => i.flashTimes.headD nan)),
   .ofVariable "flash_total_pe" (.on (.interaction .reco) (.plain Interaction.flashTotalPe)),
   .ofVariable "flash_hypothesis" (.on (.interaction .reco) (.plain Interaction.flashHypoPe))]

/-- A selector of the leading particle of a class. -/
def leader (name : String) (pid : Int64) : Declaration :=
  .ofSelector name (.interactions fun _ => .plain (Interaction.leading? pid))

def selectors : List Declaration :=
  [leader "leading_photon" Pid.photon,
   leader "leading_electron" Pid.electron,
   leader "leading_muon" Pid.muon,
   leader "leading_pion" Pid.pion,
   leader "leading_proton" Pid.proton]

end Standard

end SpillSelection
