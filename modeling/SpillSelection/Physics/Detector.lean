import SpillSelection.Vec3
/-!
# Beam and detector

The beam comes along the third axis. The detector is two cryostats side by side, of one height
and depth; a point is near the boundary unless it lies well inside one of them.
-/

namespace SpillSelection

/-- The direction of the neutrino beam. -/
def beamDirection : Vec3 := ⟨0, 0, 1⟩

namespace Vec3

/-- The component along the beam. -/
def longitudinal (p : Vec3) : Vec3 := beamDirection.scale (p.dot beamDirection)

/-- The component across the beam. -/
def transverse (p : Vec3) : Vec3 := p.add (p.longitudinal.scale (-1))

end Vec3

namespace Detector

/-- An interval of one coordinate (cm). -/
structure Extent where
  low : Float
  high : Float

/-- The first coordinate in either cryostat. -/
def cryostats : List Extent := [⟨-358.49, -61.94⟩, ⟨61.94, 358.49⟩]

def height : Extent := ⟨-181.86, 134.96⟩

def depth : Extent := ⟨-894.95, 894.95⟩

/-- The distance from a face (cm) that is near. -/
def margin : Float := 5

/-- Whether a coordinate is farther from both ends than the margin. -/
def Extent.holds (e : Extent) (x : Float) : Bool := e.low + margin < x && x < e.high - margin

end Detector

open Detector in
/-- Whether a point is near a face of the detector, or outside. -/
def Vec3.isNearBoundary (p : Vec3) : Bool :=
  !(cryostats.any (·.holds p.x) && height.holds p.y && depth.holds p.z)

end SpillSelection
