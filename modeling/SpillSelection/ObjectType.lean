import SpillSelection.Spill.Basic
/-!
# Object types

What a cut, a variable or a selector is about: an interaction or a particle of one side, a whole
spill (an event), a record of the beam line, or a generated neutrino. The same base name may be
used for several types; on the two sides of a spill it is told apart by the side's word.
-/

namespace SpillSelection

/-- The word for a side in names. -/
def Side.text : Side → String
  | .truth => "true"
  | .reco => "reco"

inductive ObjectType where
  | interaction (s : Side)
  | particle (s : Side)
  | event
  | beam
  | neutrino
deriving DecidableEq, Repr

namespace ObjectType

/-- The records of a type. -/
abbrev Carrier : ObjectType → Type
  | .interaction s => Interaction s
  | .particle s => Particle s
  | .event => Spill
  | .beam => BeamRecord
  | .neutrino => Neutrino

/-- Every type, in the order of listings. -/
def all : List ObjectType :=
  [.interaction .truth, .interaction .reco, .particle .truth, .particle .reco, .event, .beam,
   .neutrino]

theorem mem_all (o : ObjectType) : o ∈ all := by
  cases o with
  | interaction s | particle s => cases s <;> simp [all]
  | _ => simp [all]

def text : ObjectType → String
  | .interaction s => s.text ++ "_interaction"
  | .particle s => s.text ++ "_particle"
  | .event => "event"
  | .beam => "spill"
  | .neutrino => "mctruth"

def side? : ObjectType → Option Side
  | .interaction s | .particle s => some s
  | _ => none

/-- The name under which a base name is known for this type: on a side, the side's word comes
first. -/
def canonicalName (o : ObjectType) (base : String) : String :=
  match o.side? with
  | some s => s.text ++ "_" ++ base
  | none => base

end ObjectType

/-! ## Rows, targets and scopes -/

/-- What drives the rows of a tree: the interactions of a side, or the spills themselves. -/
inductive Mode where
  | interactions (s : Side)
  | event
deriving DecidableEq, Repr

/-- What a configured cut is about. -/
inductive CutObject where
  | interaction (s : Side)
  | particle (s : Side)
  | event
  | beam
deriving DecidableEq, Repr

/-- What a requested variable is about. -/
inductive Target where
  | interaction (s : Side)
  | particle (s : Side)
  | event
  | neutrino
deriving DecidableEq, Repr

/-- The object types that a name is declared or requested for. -/
inductive Scope where
  | interaction (s : Side)
  | bothInteractions
  | particle (s : Side)
  | bothParticles
  | event
  | beam
  | neutrino
deriving DecidableEq, Repr

namespace Mode

def text : Mode → String
  | .interactions s => s.text
  | .event => "event"

def all : List Mode := [.interactions .truth, .interactions .reco, .event]

def ofText? (text : String) : Option Mode := all.find? (·.text == text)

end Mode

namespace CutObject

def text : CutObject → String
  | .interaction s => s.text
  | .particle s => s.text ++ "_particle"
  | .event => "event"
  | .beam => "spill"

def all : List CutObject :=
  [.interaction .truth, .interaction .reco, .particle .truth, .particle .reco, .event, .beam]

def ofText? (text : String) : Option CutObject := all.find? (·.text == text)

def objectType : CutObject → ObjectType
  | .interaction s => .interaction s
  | .particle s => .particle s
  | .event => .event
  | .beam => .beam

end CutObject

namespace Target

def text : Target → String
  | .interaction s => s.text
  | .particle s => s.text ++ "_particle"
  | .event => "event"
  | .neutrino => "mctruth"

def all : List Target :=
  [.interaction .truth, .interaction .reco, .event, .neutrino, .particle .truth, .particle .reco]

def ofText? (text : String) : Option Target := all.find? (·.text == text)

def side? : Target → Option Side
  | .interaction s | .particle s => some s
  | _ => none

def objectType : Target → ObjectType
  | .interaction s => .interaction s
  | .particle s => .particle s
  | .event => .event
  | .neutrino => .neutrino

end Target

namespace Scope

def text : Scope → String
  | .interaction s => s.text
  | .bothInteractions => "both"
  | .particle s => s.text ++ "_particle"
  | .bothParticles => "both_particle"
  | .event => "event"
  | .beam => "spill"
  | .neutrino => "mctruth"

def all : List Scope :=
  [.interaction .truth, .interaction .reco, .bothInteractions, .event, .particle .truth,
   .particle .reco, .bothParticles, .beam, .neutrino]

def ofText? (text : String) : Option Scope := all.find? (·.text == text)

/-- The targets that a requested scope stands for; a beam record is no target. -/
def targets : Scope → List Target
  | .interaction s => [.interaction s]
  | .bothInteractions => [.interaction .truth, .interaction .reco]
  | .particle s => [.particle s]
  | .bothParticles => [.particle .truth, .particle .reco]
  | .event => [.event]
  | .beam => []
  | .neutrino => [.neutrino]

end Scope

end SpillSelection
