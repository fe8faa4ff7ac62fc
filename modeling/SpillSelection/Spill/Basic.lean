import SpillSelection.Vec3
/-!
# Spill records

A spill holds what was recorded for one beam spill: a header, the interactions of the two
sides, the generated neutrinos and the optical flashes. The truth side is what the simulation
put in, the reco side what the reconstruction found; both describe interactions made of
particles. References are ids: a match id names an interaction or a particle of the other
side, best match first, and `nuId` is a position in the list of neutrinos.
-/

namespace SpillSelection

/-- The two sides of a spill. -/
inductive Side where
  | truth
  | reco
deriving DecidableEq, Repr, Inhabited

/-- The other side. -/
def Side.opposite : Side → Side
  | .truth => .reco
  | .reco => .truth

@[simp] theorem Side.opposite_opposite (s : Side) : s.opposite.opposite = s := by
  cases s <;> rfl

/-! ## Particles -/

/-- A value for each of the five particle classes. -/
structure PerClass where
  photon : Float := 0
  electron : Float := 0
  muon : Float := 0
  pion : Float := 0
  proton : Float := 0
deriving Inhabited, DecidableEq

def PerClass.toList (v : PerClass) : List Float := [v.photon, v.electron, v.muon, v.pion, v.proton]

/-- What both sides record of a particle. -/
structure ParticleCore where
  id : Int64 := 0
  interactionId : Int64 := 0
  pid : Int64 := 0
  isPrimary : Bool := false
  isContained : Bool := false
  shape : Int64 := 0
  momentum : Vec3 := {}
  startPoint : Vec3 := {}
  endPoint : Vec3 := {}
  startDir : Vec3 := {}
  caloKe : Float := 0
  length : Float := 0
  matchIds : List Int64 := []
  matchOverlaps : List Float := []
deriving Inhabited, DecidableEq

structure TrueParticle where
  core : ParticleCore := {}
  energyInit : Float := 0
  mass : Float := 0
  t : Float := 0
deriving Inhabited, DecidableEq

/-- Scores of the two hypotheses on a particle's origin. -/
structure PrimaryScores where
  secondary : Float := 0
  primary : Float := 0
deriving Inhabited, DecidableEq

structure RecoParticle where
  core : ParticleCore := {}
  pidScores : PerClass := {}
  primaryScores : PrimaryScores := {}
  csdaKe : PerClass := {}
  mcsKe : PerClass := {}
deriving Inhabited, DecidableEq

/-- A particle of one side. -/
abbrev Particle : Side → Type
  | .truth => TrueParticle
  | .reco => RecoParticle

def Particle.core : {s : Side} → Particle s → ParticleCore
  | .truth, p => TrueParticle.core p
  | .reco, p => RecoParticle.core p

/-! ## Interactions -/

structure Interaction (s : Side) where
  id : Int64 := 0
  vertex : Vec3 := {}
  flashTimes : List Float := []
  isFlashMatched : Bool := false
  flashTotalPe : Float := 0
  flashHypoPe : Float := 0
  isContained : Bool := false
  isFiducial : Bool := false
  nuId : Int64 := -1
  currentType : Int64 := -1
  particles : List (Particle s) := []
  matchIds : List Int64 := []
  matchOverlaps : List Float := []

instance : Inhabited (Interaction s) := ⟨{}⟩

/-! ## The spill -/

structure Trigger where
  globalTriggerTime : Float := 0
  beamGateTimeAbs : Float := 0
  triggerWithinGate : Float := 0
  beamGateDetTime : Float := 0
  globalTriggerDetTime : Float := 0
deriving Inhabited, DecidableEq

/-- Readings of the beam line: two toroids, three loss monitors and the horn current. -/
structure BeamRecord where
  tor860 : Float := 0
  tor875 : Float := 0
  lm875a : Float := 0
  lm875b : Float := 0
  lm875c : Float := 0
  thcurr : Float := 0
deriving Inhabited, DecidableEq

structure Flash where
  id : Int64 := 0
  time : Float := 0
  firstTime : Float := 0
  totalPe : Float := 0
deriving Inhabited, DecidableEq

structure Neutrino where
  id : Int64 := 0
  energy : Float := 0
  baseline : Float := 0
  pdg : Int64 := 0
  isCc : Bool := false
  genieMode : Int64 := 0
  genieIntType : Int64 := 0
deriving Inhabited, DecidableEq

structure Header where
  run : Int64 := 0
  subrun : Int64 := 0
  event : Int64 := 0
  isMc : Bool := false
  firstInSubrun : Bool := false
  pot : Float := 0
  ngenevt : Float := 0
  trigger : Trigger := {}
  beam : Option BeamRecord := none
  bnbInfo : List BeamRecord := []
  numiInfo : List BeamRecord := []
  noffbeamBnb : UInt32 := 0
  noffbeamNumi : UInt32 := 0
deriving Inhabited, DecidableEq

structure Spill where
  header : Header := {}
  reco : List (Interaction .reco) := []
  truth : List (Interaction .truth) := []
  mc : List Neutrino := []
  flashes : List Flash := []
deriving Inhabited

namespace Spill

/-- The interactions of a side. -/
def interactions (spill : Spill) : (s : Side) → List (Interaction s)
  | .truth => spill.truth
  | .reco => spill.reco

/-- The particles of a side, interaction by interaction. -/
def particles (spill : Spill) (s : Side) : List (Particle s) :=
  (spill.interactions s).flatMap (·.particles)

/-! ## Lookup -/

/-- The first interaction of a side with this id. -/
def interaction? (spill : Spill) (s : Side) (id : Int64) : Option (Interaction s) :=
  (spill.interactions s).find? (·.id == id)

/-- The first particle of a side with this id. -/
def particle? (spill : Spill) (s : Side) (id : Int64) : Option (Particle s) :=
  (spill.particles s).find? fun p => p.core.id == id

/-- The neutrino at a position; there is none at a negative one. -/
def neutrino? (spill : Spill) (nuId : Int64) : Option Neutrino :=
  if 0 ≤ nuId then spill.mc[nuId.toInt.toNat]? else none

/-- The interaction of the other side that is matched best, if its id is found. -/
def matched? (spill : Spill) (i : Interaction s) : Option (Interaction s.opposite) :=
  i.matchIds.head?.bind (spill.interaction? s.opposite)

/-- The particle of the other side that is matched best, if its id is found. -/
def matchedParticle? (spill : Spill) (p : Particle s) : Option (Particle s.opposite) :=
  p.core.matchIds.head?.bind (spill.particle? s.opposite)

end Spill

end SpillSelection
