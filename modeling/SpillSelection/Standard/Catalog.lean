import SpillSelection.Standard.Events
import SpillSelection.Standard.Interactions
import SpillSelection.Standard.Particles
import SpillSelection.Standard.Pions
/-!
# The standard catalog

All the cuts, variables and selectors that a configuration can name, in groups.
-/

namespace SpillSelection.Standard

/-- The groups, in the order in which they are registered. -/
def groups : List (List Declaration) :=
  [interactionCuts, interactionVariables, particleCuts, particleVariables, selectors, events,
   neutrinos, pions]

/-- The catalog of every group. -/
def catalog : Except RegistryError Catalog :=
  Catalog.ofGroups groups

end SpillSelection.Standard
