import SpillSelection.Catalog.Scoped
import SpillSelection.Physics.PhotonPair
/-!
# Neutral-pion cuts and variables

The names of what can be asked of an interaction that may hold the two photons of a pion.
-/

namespace SpillSelection.Standard

/-- A cut of interactions that takes one threshold. -/
def aboveThreshold (name : String)
    (holds : {s : Side} → Float → Interaction s → Bool) : Declaration :=
  .ofCut name (.interactions fun _ =>
    .parameterized (.exactly 1) fun parameters => holds (parameters.headD nan))

/-- A variable that reads the photon pair. -/
def ofPair (name : String) (read : {s : Side} → PhotonPair s → Float) : Declaration :=
  .ofVariable name (.interactions fun _ => .plain (Interaction.ofPhotonPair read))

def pions : List Declaration :=
  [aboveThreshold "at_least_two_photons" fun t i => 2 ≤ i.primariesAbove Pid.photon t,
   aboveThreshold "less_than_four_photons" fun t i => i.primariesAbove Pid.photon t < 4,
   aboveThreshold "leading_photon_ke_cut" fun t i => i.leadingPhotonKe?.any (t ≤ ·),
   aboveThreshold "valid_pi0_mass_cut" fun t i => i.pionMass < t,
   .ofVariable "pi0_mass" (.interactions fun _ => .plain Interaction.pionMass),
   .ofVariable "pi0_momentum" (.interactions fun _ => .plain Interaction.pionMomentum),
   .ofVariable "pi0_beam_costheta" (.interactions fun _ => .plain Interaction.pionBeamCosine),
   ofPair "photons_costheta" fun pair => pair.cosOpening,
   ofPair "leading_photon_energy" fun pair => pair.leading.ke / 1000,
   ofPair "subleading_photon_energy" fun pair => pair.subleading.ke / 1000,
   ofPair "leading_photon_conversion_distance" fun pair => pair.conversionDistance pair.leading,
   ofPair "subleading_photon_conversion_distance" fun pair =>
     pair.conversionDistance pair.subleading]

end SpillSelection.Standard
