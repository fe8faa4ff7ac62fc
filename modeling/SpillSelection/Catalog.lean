import SpillSelection.ObjectType
import SpillSelection.Registry
import SpillSelection.Signature
import SpillSelection.Spill.Energy
/-!
# The catalog

A catalog has three registries for every object type: cuts, variables, and selectors, which
pick a particle of an interaction by its position. It is filled from declarations. A declared
cut is also a variable that is one where the cut passes and zero where it does not, except for
beam records, of which no variable is ever asked.
-/

namespace SpillSelection

/-! ## Tables -/

/-- One registry of functions for each object type. -/
structure Tables (R : Type) where
  trueInteraction : Registry (Signature (Interaction .truth) R)
  recoInteraction : Registry (Signature (Interaction .reco) R)
  trueParticle : Registry (Signature (Particle .truth) R)
  recoParticle : Registry (Signature (Particle .reco) R)
  event : Registry (Signature Spill R)
  beam : Registry (Signature BeamRecord R)
  neutrino : Registry (Signature Neutrino R)

namespace Tables

variable {R : Type}

/-- Empty tables for functions of a kind. -/
def empty (kind : String) : Tables R :=
  let label (o : ObjectType) : String := kind ++ "<" ++ o.text ++ ">"
  { trueInteraction := { label := label (.interaction .truth) }
    recoInteraction := { label := label (.interaction .reco) }
    trueParticle := { label := label (.particle .truth) }
    recoParticle := { label := label (.particle .reco) }
    event := { label := label .event }
    beam := { label := label .beam }
    neutrino := { label := label .neutrino } }

def get (t : Tables R) : (o : ObjectType) → Registry (Signature o.Carrier R)
  | .interaction .truth => t.trueInteraction
  | .interaction .reco => t.recoInteraction
  | .particle .truth => t.trueParticle
  | .particle .reco => t.recoParticle
  | .event => t.event
  | .beam => t.beam
  | .neutrino => t.neutrino

def set (t : Tables R) : (o : ObjectType) → Registry (Signature o.Carrier R) → Tables R
  | .interaction .truth, r => { t with trueInteraction := r }
  | .interaction .reco, r => { t with recoInteraction := r }
  | .particle .truth, r => { t with trueParticle := r }
  | .particle .reco, r => { t with recoParticle := r }
  | .event, r => { t with event := r }
  | .beam, r => { t with beam := r }
  | .neutrino, r => { t with neutrino := r }

@[simp] theorem get_set_self (t : Tables R) (o : ObjectType)
    (r : Registry (Signature o.Carrier R)) : (t.set o r).get o = r := by
  rcases o with ⟨_ | _⟩ | ⟨_ | _⟩ | _ | _ | _ <;> rfl

theorem get_set_of_ne (t : Tables R) {o p : ObjectType} (h : p ≠ o)
    (r : Registry (Signature o.Carrier R)) : (t.set o r).get p = t.get p := by
  rcases o with ⟨_ | _⟩ | ⟨_ | _⟩ | _ | _ | _ <;>
    rcases p with ⟨_ | _⟩ | ⟨_ | _⟩ | _ | _ | _ <;> first | rfl | exact absurd rfl h

/-- The function of a base name for an object type. -/
def lookup (t : Tables R) (o : ObjectType) (base : String) :
    Except RegistryError (Signature o.Carrier R) :=
  (t.get o).get (o.canonicalName base)

/-- Registers a function under a base name for an object type. -/
def register (t : Tables R) (o : ObjectType) (base : String) (f : Signature o.Carrier R) :
    Except RegistryError (Tables R) :=
  (t.set o) <$> (t.get o).register (o.canonicalName base) f

end Tables

/-! ## Declarations -/

/-- A function for each of some object types. -/
abbrev Scoped (R : Type) := List ((o : ObjectType) × Signature o.Carrier R)

/-- One entry of a registry. -/
inductive Entry where
  | ofCut (base : String) (f : (o : ObjectType) × Signature o.Carrier Bool)
  | ofVariable (base : String) (f : (o : ObjectType) × Signature o.Carrier Float)
  | ofSelector (base : String) (f : (o : ObjectType) × Signature o.Carrier (Option Nat))

/-- What a name is declared to be. -/
inductive Declaration where
  | ofCut (base : String) (fs : Scoped Bool)
  | ofVariable (base : String) (fs : Scoped Float)
  | ofSelector (base : String) (fs : Scoped (Option Nat))

/-- The cuts of a declaration as variables. -/
def Scoped.flags (fs : Scoped Bool) : Scoped Float :=
  (fs.filter (·.1 != .beam)).map fun f => ⟨f.1, f.2.map flag⟩

/-- The entries of a declaration, in the order in which they are registered. -/
def Declaration.entries : Declaration → List Entry
  | .ofCut base fs => fs.map (.ofCut base) ++ fs.flags.map (.ofVariable base)
  | .ofVariable base fs => fs.map (.ofVariable base)
  | .ofSelector base fs => fs.map (.ofSelector base)

/-! ## Catalogs -/

structure Catalog where
  cutTables : Tables Bool := .empty "cut"
  variableTables : Tables Float := .empty "variable"
  selectorTables : Tables (Option Nat) := .empty "selector"

namespace Catalog

def empty : Catalog := {}

instance : Inhabited Catalog := ⟨empty⟩

def register (c : Catalog) : Entry → Except RegistryError Catalog
  | .ofCut base ⟨o, f⟩ =>
    ({ c with cutTables := · }) <$> c.cutTables.register o base f
  | .ofVariable base ⟨o, f⟩ =>
    ({ c with variableTables := · }) <$> c.variableTables.register o base f
  | .ofSelector base ⟨o, f⟩ =>
    ({ c with selectorTables := · }) <$> c.selectorTables.register o base f

/-- Registers entries one after another up to the first that is refused: the catalog with those
before it, and the error if there was one. -/
def registerAll (c : Catalog) : List Entry → Catalog × Option RegistryError
  | [] => (c, none)
  | e :: es =>
    match c.register e with
    | .ok c => c.registerAll es
    | .error err => (c, some err)

/-- Registers all that a list of declarations says. -/
def declare (c : Catalog) (ds : List Declaration) : Catalog × Option RegistryError :=
  c.registerAll (ds.flatMap Declaration.entries)

/-- The catalog of some groups of declarations. -/
def ofGroups (groups : List (List Declaration)) : Except RegistryError Catalog :=
  match empty.declare groups.flatten with
  | (c, none) => .ok c
  | (_, some err) => .error err

end Catalog

end SpillSelection
