import SpillSelection.Physics.Detector
import SpillSelection.Spill.Energy
/-!
# The visible final state

A primary particle is visible when its kinetic energy exceeds the threshold of its class. The
final state of an interaction is its visible particles: their number, their energy, and how
their momentum across the beam is shared between lepton and hadrons.
-/

namespace SpillSelection

namespace Threshold

/-- Kinetic energies (MeV) that a visible particle exceeds. -/
def muon : Float := 143.425

def shower : Float := 25

def proton : Float := 50

end Threshold

/-- Whether a particle is a visible primary. -/
def Particle.isVisible (p : Particle s) : Bool :=
  p.isPrimary &&
    if p.pid = Pid.muon then Threshold.muon < p.ke
    else if p.pid = Pid.proton then Threshold.proton < p.ke
    else if p.pid < Pid.proton then Threshold.shower < p.ke
    else false

/-- The energy (MeV) that it takes to free a proton from its nucleus. -/
def protonBinding : Float := 30.9

/-- The energy (MeV) that a particle stands for: of a proton the kinetic energy and what it
took to free it, of any other particle the total energy. -/
def Particle.visibleEnergy (p : Particle s) : Float :=
  if p.pid = Pid.proton then p.energy - (p.mass - protonBinding) else p.energy

namespace Interaction

def visible (i : Interaction s) : List (Particle s) := i.particles.filter Particle.isVisible

def visibleCount (i : Interaction s) : Float := Float.ofNat i.visible.length

/-- The visible energy in GeV. -/
def visibleEnergy (i : Interaction s) : Float := sum (i.visible.map Particle.visibleEnergy) / 1000

/-! ## Transverse momenta -/

/-- The summed momenta across the beam of leptons and of hadrons. -/
structure TransverseSums where
  lepton : Vec3 := {}
  hadrons : Vec3 := {}

/-- Electrons and muons are leptons, heavier classes hadrons; a photon is neither. -/
def TransverseSums.addParticle (sums : TransverseSums) (p : Particle s) : TransverseSums :=
  let pt := p.core.momentum.transverse
  if p.pid = Pid.electron ∨ p.pid = Pid.muon then { sums with lepton := sums.lepton.add pt }
  else if Pid.muon < p.pid then { sums with hadrons := sums.hadrons.add pt }
  else sums

def TransverseSums.total (sums : TransverseSums) : Vec3 := sums.lepton.add sums.hadrons

def transverseSums (i : Interaction s) : TransverseSums :=
  i.visible.foldl TransverseSums.addParticle {}

/-- The momentum imbalance across the beam. -/
def transverseImbalance (i : Interaction s) : Float := i.transverseSums.total.magnitude

/-- The angle across the beam between the lepton and what recoils from it. -/
def recoilAngle (i : Interaction s) : Float :=
  i.transverseSums.lepton.angle i.transverseSums.hadrons.neg

/-- The angle between the imbalance and the reversed lepton. -/
def boostingAngle (i : Interaction s) : Float :=
  i.transverseSums.total.angle i.transverseSums.lepton.neg

end Interaction

end SpillSelection
