import SpillSelection.Physics.FinalState
/-!
# Counting primaries

How many primaries of a class an interaction has at or above a threshold, and which particle of
a class is the most energetic one.
-/

namespace SpillSelection

/-- The threshold (MeV) of the counting variables when none is given. -/
def Threshold.multiplicity : Float := 25

/-- The threshold (MeV) of the counting cuts on a class when none is given. -/
def Threshold.ofClass (pid : Int64) : Float :=
  if pid = Pid.muon then Threshold.muon
  else if pid = Pid.proton then Threshold.proton
  else Threshold.shower

namespace Interaction

/-- The number of primaries of a class with kinetic energy at or above a threshold. -/
def primariesAbove (i : Interaction s) (pid : Int64) (threshold : Float) : Nat :=
  i.particles.countP fun p => p.pid == pid && p.isPrimary && threshold ≤ p.ke

/-- Exactly one primary of a class is above the threshold. -/
def hasSingle (pid : Int64) (parameters : List Float) (i : Interaction s) : Bool :=
  i.primariesAbove pid (parameters.headD (Threshold.ofClass pid)) == 1

/-- No primary of a class is above the threshold. -/
def hasNone (pid : Int64) (parameters : List Float) (i : Interaction s) : Bool :=
  i.primariesAbove pid (parameters.headD (Threshold.ofClass pid)) == 0

def multiplicity (pid : Int64) (parameters : List Float) (i : Interaction s) : Float :=
  Float.ofNat (i.primariesAbove pid (parameters.headD Threshold.multiplicity))

/-! ## The leading particle -/

/-- The best particle so far, by its position, and its kinetic energy. -/
def keepLeading (pid : Int64) (best : Option Nat × Float) (candidate : Particle s × Nat) :
    Option Nat × Float :=
  if candidate.1.pid = pid ∧ best.2 < candidate.1.ke then (some candidate.2, candidate.1.ke)
  else best

/-- The position of the first of the most energetic particles of a class, of those with
positive kinetic energy. -/
def leading? (pid : Int64) (i : Interaction s) : Option Nat :=
  (i.particles.zipIdx.foldl (keepLeading pid) (none, 0)).1

end Interaction

end SpillSelection
