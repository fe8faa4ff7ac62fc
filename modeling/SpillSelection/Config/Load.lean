import SpillSelection.Config
import SpillSelection.Files
/-!
# Loading configurations

A configuration file names its samples by paths from its own directory.
-/

namespace SpillSelection.Config

/-- Reads the paths of samples from a directory. -/
def rebase (base : String) (c : Config) : Config :=
  { c with samples := c.samples.map fun s => { s with path := Path.join base s.path } }

/-- The configuration of a text, as one that was found at a path. -/
def ofFile (path text : String) : Check Config := do
  let c ← parse text
  match Path.parent? path with
  | some base => return c.rebase base
  | none => return c

/-- Loads the configuration at a path. -/
def load [Monad m] (files : FileAccess m) (path : String) : m (Check Config) := do
  match ← files.readText path with
  | .ok text => return ofFile path text
  | .error e => return .error (.unreadable path e.message)

end SpillSelection.Config
