import SpillSelection.Catalog
import SpillSelection.Json.Basic
/-!
# Listing a catalog

The names of every registry that has any: cuts first, then variables, then selectors, and
within each kind the object types in their fixed order.
-/

namespace SpillSelection

/-- A registry's label with its names. -/
structure Listing where
  registry : String
  names : List String
deriving DecidableEq, Repr

/-- The registries that are not empty. -/
def Tables.listing (t : Tables R) : List Listing :=
  (ObjectType.all.filter fun o => !(t.get o).isEmpty).map fun o =>
    ⟨(t.get o).label, (t.get o).names⟩

def Catalog.listing (c : Catalog) : List Listing :=
  c.cutTables.listing ++ c.variableTables.listing ++ c.selectorTables.listing

def Listing.toJson (l : Listing) : Json :=
  .sortedObject [("registry", .string l.registry), ("names", .array (l.names.map .string))]

def Catalog.listingToJson (c : Catalog) : Json :=
  .sortedObject
    [("schema", .ofNat 1),
     ("kind", .string "spine.catalog_listing.v1"),
     ("registries", .array (c.listing.map Listing.toJson))]

end SpillSelection
