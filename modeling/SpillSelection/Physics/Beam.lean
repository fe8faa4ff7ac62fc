import SpillSelection.Spill.Energy
/-!
# Beam quality

What the readings of the beam line say about a beam spill.
-/

namespace SpillSelection

namespace BeamRecord

def readings (b : BeamRecord) : List Float :=
  [b.tor860, b.tor875, b.lm875a, b.lm875b, b.lm875c, b.thcurr]

/-- Every reading is there, both toroids and the loss monitors saw beam, and the horn current is
in range. -/
def isGood (b : BeamRecord) : Bool :=
  b.readings.all (!·.isNaN) &&
    1e11 < b.tor860 && 1e11 < b.tor875 &&
    1e-2 < b.lm875a && 1e-2 < b.lm875b && 1e-2 < b.lm875c &&
    173 < b.thcurr && b.thcurr < 175

end BeamRecord

/-- The summed toroid readings of a spill's beam records, each scaled by the parameter if there
is one. -/
def Spill.toroidSum (parameters : List Float) (spill : Spill) : Float :=
  sum (spill.header.bnbInfo.map fun b => parameters.headD 1 * b.tor875)

end SpillSelection
