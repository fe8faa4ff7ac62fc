import SpillSelection.Catalog
/-!
# Declaring for several object types

Most functions are written once for a side that is left open, and declared for both.
-/

namespace SpillSelection.Scoped

variable {R : Type}

/-- A function for the interactions of both sides. -/
def interactions (f : (s : Side) → Signature (Interaction s) R) : Scoped R :=
  [⟨.interaction .truth, f .truth⟩, ⟨.interaction .reco, f .reco⟩]

/-- A function for the particles of both sides. -/
def particles (f : (s : Side) → Signature (Particle s) R) : Scoped R :=
  [⟨.particle .truth, f .truth⟩, ⟨.particle .reco, f .reco⟩]

/-- A function for one object type. -/
def on (o : ObjectType) (f : Signature o.Carrier R) : Scoped R := [⟨o, f⟩]

end SpillSelection.Scoped
