import SpillSelection.Branch.Request
/-!
# Categories

An ordered list of categories sorts truth interactions: an interaction belongs to the first
category all of whose cuts it passes. The classifier gives the position of that category, and no
number when there is none. A catalog can be given it once, as a variable of truth interactions.
-/

namespace SpillSelection

structure CategoryCut where
  /-- The base name, after a `!` when the cut is inverted. -/
  name : String
  parameters : List Float := []
deriving DecidableEq

structure Category where
  name : String
  cuts : List CategoryCut := []
deriving DecidableEq

/-- The name of the variable that holds the classifier. -/
def categoryName : String := "category"

/-- The position of the first predicate that holds. -/
def firstIndex {α : Type} (buckets : List (α → Bool)) (a : α) : Float :=
  match buckets.findIdx? fun holds => holds a with
  | some n => Float.ofNat n
  | none => nan

/-- The conjunction of a category's cuts. -/
def Catalog.bucket (c : Catalog) (category : Category) :
    Except SelectionError (Interaction .truth → Bool) := do
  let cuts ← category.cuts.mapM fun cut =>
    c.bindCut "category cut" (.interaction .truth) cut.name cut.parameters
  return passesAll cuts

def Catalog.classifier (c : Catalog) (categories : List Category) :
    Except SelectionError (Interaction .truth → Float) :=
  firstIndex <$> categories.mapM c.bucket

/-- The catalog with the classifier of these categories. -/
def Catalog.publishCategories (c : Catalog) (categories : List Category) :
    Except SelectionError Catalog := do
  let classify ← c.classifier categories
  (c.register (.ofVariable categoryName ⟨.interaction .truth, .bound classify⟩)).mapError .registry

end SpillSelection
