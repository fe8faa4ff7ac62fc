/-!
# Vectors

Three-vectors of floats, and the arithmetic on them in a fixed order of operations.
-/

namespace SpillSelection

structure Vec3 where
  x : Float := 0
  y : Float := 0
  z : Float := 0
deriving Inhabited, DecidableEq

namespace Vec3

def toList (a : Vec3) : List Float := [a.x, a.y, a.z]

def add (a b : Vec3) : Vec3 := ⟨a.x + b.x, a.y + b.y, a.z + b.z⟩

def scale (a : Vec3) (factor : Float) : Vec3 := ⟨a.x * factor, a.y * factor, a.z * factor⟩

def neg (a : Vec3) : Vec3 := ⟨-a.x, -a.y, -a.z⟩

def dot (a b : Vec3) : Float := a.x * b.x + a.y * b.y + a.z * b.z

def magnitude (a : Vec3) : Float := (a.dot a).sqrt

/-- The vector from `a` to `b`. -/
def displacement (a b : Vec3) : Vec3 := b.add (a.scale (-1))

/-- The opening angle of two vectors; not a number when either is null. -/
def angle (a b : Vec3) : Float := (a.dot b / (a.magnitude * b.magnitude)).acos

end Vec3

end SpillSelection
