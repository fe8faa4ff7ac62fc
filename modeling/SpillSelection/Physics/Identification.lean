import SpillSelection.Spill.Energy
/-!
# Particle identification

Readings of the scores that the reconstruction gives to the classes and to the origin of a
particle.
-/

namespace SpillSelection

/-- The muon score above which a particle is called a muon whatever the others are. -/
def laxMuonScore : Float := 0.25

/-- The primary score above which a particle is called a primary. -/
def laxPrimaryScore : Float := 0.10

/-- Below every other float. -/
def negInfinity : Float := -1 / 0

/-- The better of the best class so far and a candidate, each with its score. -/
def betterClass (best candidate : Nat × Float) : Nat × Float :=
  if best.2 < candidate.2 then candidate else best

/-- The first class of the greatest score. -/
def PerClass.best (scores : PerClass) : Nat :=
  ((scores.toList.zipIdx.map fun c => (c.2, c.1)).foldl betterClass (0, negInfinity)).1

namespace RecoParticle

/-- A muon when its score clears the low bar, else the class of the greatest score. -/
def laxPid (p : RecoParticle) : Float :=
  if laxMuonScore < p.pidScores.muon then ofInt64 Pid.muon else Float.ofNat p.pidScores.best

def isLaxPrimary (p : RecoParticle) : Bool := laxPrimaryScore < p.primaryScores.primary

end RecoParticle

/-- Whether a true particle was created inside a window (µs), which holds neither of its ends. -/
def TrueParticle.isCreatedWithin (window : List Float) (p : TrueParticle) : Bool :=
  let time := 0.001 * p.t
  window.headD nan < time && time < window[1]?.getD nan

end SpillSelection
