import SpillSelection.Branch.Cuts
/-!
# Branches

A branch is a named column: for every spill a list of values. `Catalog.branch` compiles one
from the cuts and the variable that a configuration asks for. Rows are the interactions of one
side that pass every cut; a cut or a variable on the other side reads the interaction that a
row is matched best with, found by its id. In event mode the spill itself is the only row.
-/

namespace SpillSelection

/-- A column of values, so many for each spill. -/
structure Branch where
  name : String
  evaluate : Spill → List Float

/-! ## Rows -/

/-- An interaction that drives a row, with the interaction of the other side that it is matched
with. -/
structure Row (s : Side) where
  own : Interaction s
  matched : Option (Interaction s.opposite)

/-- The interaction of a row on either side. -/
def Row.on : {s : Side} → Row s → (t : Side) → Option (Interaction t)
  | .truth, row, .truth | .reco, row, .reco => some row.own
  | .truth, row, .reco | .reco, row, .truth => row.matched

/-- The row of an interaction. On data nothing is matched with the truth side. -/
def Row.ofInteraction (simulated : Bool) (spill : Spill) (i : Interaction s) : Row s where
  own := i
  matched := if s.opposite.isRecorded simulated then spill.matched? i else none

def Row.passes (simulated : Bool) (cuts : List BoundCut) (row : Row s) : Bool :=
  passesAll (BoundCut.onInteractions cuts s) row.own &&
    matchPasses simulated (BoundCut.onInteractions cuts s.opposite) row.matched

/-- The rows of a spill that pass the cuts, in the order of their interactions. -/
def Spill.rows (simulated : Bool) (cuts : List BoundCut) (s : Side) (spill : Spill) :
    List (Row s) :=
  if passesAll (BoundCut.onEvents cuts) spill then
    ((spill.interactions s).map (Row.ofInteraction simulated spill)).filter
      (Row.passes simulated cuts)
  else []

/-- Whether a particle passes the cuts on particles: those on its own side, and on the best
match those of the other side. -/
def Particle.qualifies (simulated : Bool) (cuts : List BoundCut) (spill : Spill)
    (p : Particle s) : Bool :=
  passesAll (BoundCut.onParticles cuts s) p &&
    matchPasses simulated (BoundCut.onParticles cuts s.opposite) (spill.matchedParticle? p)

/-! ## Values of a row -/

/-- The values that a row yields. -/
abbrev Extractor (s : Side) := Spill → Row s → List Float

/-- A value, or no number when there is nothing to take it of. -/
def valueOr (f : α → Float) : Option α → Float
  | some a => f a
  | none => nan

/-- The value of a variable on the particle that a selector picks. -/
def ofSelected (select : Interaction s → Option Nat) (f : Particle s → Float)
    (i : Interaction s) : Float :=
  valueOr f ((select i).bind (i.particles[·]?))

/-- A function of interactions: a variable of them, or with a selector a variable of the
particle that it picks. -/
def Catalog.interactionVariable (c : Catalog) (s : Side) (v : VariableEntry) :
    Except SelectionError (Interaction s → Float) := do
  match v.selector with
  | none => c.bindVariable (.interaction s) v
  | some selector =>
    let select ← c.selectorTables.bind (.interaction s) selector []
    return ofSelected select (← c.bindVariable (.particle s) v)

/-- One value for the interaction on a side. -/
def Extractor.ofInteraction (t : Side) (f : Interaction t → Float) : Extractor s :=
  fun _ row => [valueOr f (row.on t)]

/-- A value for each qualifying particle of the interaction on a side. -/
def Extractor.ofParticles (simulated : Bool) (cuts : List BoundCut) (t : Side)
    (f : Particle t → Float) : Extractor s := fun spill row =>
  match row.on t with
  | some i => (i.particles.filter (Particle.qualifies simulated cuts spill)).map f
  | none => []

/-- One value for the spill. -/
def Extractor.ofEvent (f : Spill → Float) : Extractor s := fun spill _ => [f spill]

/-- One value for the neutrino that the truth interaction comes from. -/
def Extractor.ofNeutrino (f : Neutrino → Float) : Extractor s := fun spill row =>
  [valueOr f ((row.on .truth).bind (spill.neutrino? ·.nuId))]

/-- What a variable yields on a target. -/
def Catalog.extractor (c : Catalog) (simulated : Bool) (cuts : List BoundCut)
    (v : VariableEntry) (target : Target) : Except SelectionError (Extractor s) := do
  match target with
  | .event => return .ofEvent (← c.bindVariable .event v)
  | .neutrino => return .ofNeutrino (← c.bindVariable .neutrino v)
  | .interaction t => return .ofInteraction t (← c.interactionVariable t v)
  | .particle t =>
    if v.selector.isSome then return .ofInteraction t (← c.interactionVariable t v)
    else return .ofParticles simulated cuts t (← c.bindVariable (.particle t) v)

/-! ## Compiling -/

/-- The values of every passing row, one after another. -/
def Extractor.evaluate (extract : Extractor s) (simulated : Bool) (cuts : List BoundCut)
    (spill : Spill) : List Float :=
  (spill.rows simulated cuts s).flatMap (extract spill)

/-- One value for a spill that passes. -/
def ofPassing (cuts : List (Spill → Bool)) (f : Spill → Float) (spill : Spill) : List Float :=
  if passesAll cuts spill then [f spill] else []

/-- What is wrong with a variable whatever the catalog holds. -/
def VariableEntry.fault? (v : VariableEntry) (target : Target) : Option SelectionError :=
  if v.name = "" then some (.emptyName "variable")
  else match v.selector, target.side? with
    | some selector, none => some (.unknownSelector selector target)
    | _, _ => none

/-- The values that a request yields for each spill. -/
def Catalog.evaluator (c : Catalog) (cuts : List BoundCut) (v : VariableEntry) (mode : Mode)
    (target : Target) (simulated : Bool) : Except SelectionError (Spill → List Float) := do
  match mode with
  | .event =>
    if target ≠ .event then throw (.illegalTarget target v.name mode)
    return ofPassing (BoundCut.onEvents cuts) (← c.bindVariable .event v)
  | .interactions s =>
    let extract : Extractor s ← c.extractor simulated cuts v target
    return extract.evaluate simulated cuts

/-- The branch of a request. -/
def Catalog.branch (c : Catalog) (entries : List CutEntry) (v : VariableEntry) (mode : Mode)
    (target : Target) (simulated : Bool) : Except SelectionError Branch := do
  if let some err := v.fault? target then throw err
  let cuts ← c.boundCuts mode simulated entries
  return ⟨v.branchName target, ← c.evaluator cuts v mode target simulated⟩

end SpillSelection
