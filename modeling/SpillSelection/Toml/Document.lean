import SpillSelection.Toml.Statement
/-!
# TOML documents

A header opens a table, and the assignments after it go into that table. A table may be given a
header once, after longer headers have implied it or before they add to it; `[[name]]` adds a
table to the array of its name.
-/

namespace SpillSelection.Toml

/-- The table that assignments go into. -/
structure Section where
  path : List String
  isItem : Bool
  entries : Entries

/-- The root table, and the section that is open. -/
structure Document where
  root : Entries := []
  current : Section := ⟨[], false, []⟩

namespace Document

/-- Changes the table that holds the last key of a header. -/
def atParent (root : Entries) (path : List String) (change : String → Entries → Option Entries) :
    Option Entries := do
  let k ← path.getLast?
  Entries.modify false (fun _ entries => change k entries) path.dropLast .header root

/-- Puts the open section into its place in the root table. -/
def close (d : Document) : Option Entries :=
  if d.current.path.isEmpty then some d.current.entries
  else
    atParent d.root d.current.path fun k entries =>
      let new : Value := .table .header d.current.entries
      match entries.lookup k, d.current.isItem with
      | none, true => some (entries ++ [(k, .tables [new])])
      | some (.tables items), true => some (Entries.replace entries k (.tables (items ++ [new])))
      | none, false => some (entries ++ [(k, new)])
      | some (.table .implied _), false | some (.table .dotted _), false =>
        some (Entries.replace entries k new)
      | _, _ => none

/-- The entries that a table has when its header comes. -/
def opened (root : Entries) (path : List String) : Option Entries :=
  go path root
where
  go : List String → Entries → Option Entries
    | [], _ => some []
    | [k], entries =>
      match entries.lookup k with
      | none => some []
      | some (.table .implied inner) => some inner
      | some _ => none
    | k :: path, entries =>
      match entries.lookup k with
      | none => some []
      | some (.table _ inner) => go path inner
      | some (.tables items) =>
        match items.getLast? with
        | some (.table _ inner) => go path inner
        | _ => none
      | some _ => none

/-- Takes the last key of a header out of its table. -/
def takeOut (root : Entries) (path : List String) : Option Entries :=
  atParent root path fun k entries => some (entries.filter (·.1 != k))

/-- Whether an array of tables can get one more under this header. -/
def admitsItem (k : String) (entries : Entries) : Option Entries :=
  match entries.lookup k with
  | none | some (.tables _) => some entries
  | some _ => none

def run (d : Document) : Statement → Option Document
  | .header path => do
    let root ← d.close
    let entries ← opened root path
    return { root := ← takeOut root path, current := ⟨path, false, entries⟩ }
  | .arrayHeader path => do
    let root ← d.close
    return { root := ← atParent root path admitsItem, current := ⟨path, true, []⟩ }
  | .assignment keys v => do
    let entries ← d.current.entries.assignKeys keys v
    return { d with current := { d.current with entries } }

end Document

/-- The root table of a text. -/
def parse? (text : List Char) : Option Entries := do
  (← (← statements? text).foldlM Document.run {}).close

end SpillSelection.Toml
