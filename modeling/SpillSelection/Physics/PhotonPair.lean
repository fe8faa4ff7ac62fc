import SpillSelection.Physics.Multiplicity
/-!
# Photon pairs

A neutral pion decays to two photons. `photonPair?` takes the pair of primary photons of an
interaction whose invariant mass is the closest to that of the pion; what it says of the pion
follows from the photons' energies and from where they convert.
-/

namespace SpillSelection

/-- Two photons from one vertex, the more energetic one first. -/
structure PhotonPair (s : Side) where
  leading : Particle s
  subleading : Particle s
  vertex : Vec3

namespace PhotonPair

/-- The mass of the neutral pion (MeV). -/
def pionMass : Float := 134.9768

def ofPhotons (vertex : Vec3) (a b : Particle s) : PhotonPair s :=
  if b.ke < a.ke then ⟨a, b, vertex⟩ else ⟨b, a, vertex⟩

/-- From the vertex to where a photon converts. -/
def flight (pair : PhotonPair s) (photon : Particle s) : Vec3 :=
  pair.vertex.displacement photon.core.startPoint

def direction (pair : PhotonPair s) (photon : Particle s) : Vec3 :=
  (pair.flight photon).scale (1 / (pair.flight photon).magnitude)

def conversionDistance (pair : PhotonPair s) (photon : Particle s) : Float :=
  (pair.flight photon).magnitude

def cosOpening (pair : PhotonPair s) : Float :=
  (pair.direction pair.leading).dot (pair.direction pair.subleading)

/-- The invariant mass (MeV). -/
def mass (pair : PhotonPair s) : Float :=
  (2 * pair.leading.ke * pair.subleading.ke * (1 - pair.cosOpening)).sqrt

/-- The summed momentum (MeV/c). -/
def momentum (pair : PhotonPair s) : Vec3 :=
  ((pair.direction pair.leading).scale pair.leading.ke).add
    ((pair.direction pair.subleading).scale pair.subleading.ke)

/-- How far the mass is from that of the pion. -/
def distance (pair : PhotonPair s) : Float := (pair.mass - pionMass).abs

end PhotonPair

/-- The pairs of a list, the earlier member first. -/
def pairs : List α → List (α × α)
  | [] => []
  | a :: as => as.map (a, ·) ++ pairs as

/-- Keeps the first pair of a list until one is strictly closer to the pion. -/
def keepCloser (best : Option (PhotonPair s)) (pair : PhotonPair s) : Option (PhotonPair s) :=
  match best with
  | none => some pair
  | some b => if pair.distance < b.distance then some pair else some b

/-- The greater of two floats; one that is no number does not count. -/
def maxNumber (a b : Float) : Float :=
  if a.isNaN then b else if b.isNaN then a else if a < b then b else a

namespace Interaction

def primaryPhotons (i : Interaction s) : List (Particle s) :=
  i.particles.filter fun p => p.pid == Pid.photon && p.isPrimary

/-- The photon pair that is closest to a pion. -/
def photonPair? (i : Interaction s) : Option (PhotonPair s) :=
  ((pairs i.primaryPhotons).map fun p => PhotonPair.ofPhotons i.vertex p.1 p.2).foldl
    keepCloser none

/-- The greatest kinetic energy of a primary photon. -/
def leadingPhotonKe? (i : Interaction s) : Option Float :=
  match i.primaryPhotons.map Particle.ke with
  | [] => none
  | ke :: kes => some (kes.foldl maxNumber ke)

/-- Reads the photon pair; no number without one. -/
def ofPhotonPair (read : PhotonPair s → Float) (i : Interaction s) : Float :=
  match i.photonPair? with
  | some pair => read pair
  | none => nan

def pionMass (i : Interaction s) : Float := i.ofPhotonPair (·.mass)

/-- The momentum of the pion in GeV/c. -/
def pionMomentum (i : Interaction s) : Float :=
  i.ofPhotonPair fun pair => pair.momentum.magnitude / 1000

/-- The cosine of the angle between the pion and the beam. -/
def pionBeamCosine (i : Interaction s) : Float :=
  i.ofPhotonPair fun pair => pair.momentum.dot beamDirection / pair.momentum.magnitude

end Interaction

end SpillSelection
