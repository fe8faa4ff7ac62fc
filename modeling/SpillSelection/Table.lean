import SpillSelection.Branch
import SpillSelection.Json.Printer
/-!
# Tables

The values that the branches of a tree yield for a spill are laid out as rows: as many as the
longest list has, where a single value stands on every row and a list that ends early is
continued with no number. A table is written with one object on each line.
-/

namespace SpillSelection

/-! ## Laying out values -/

/-- The length of the longest list. -/
def longest (values : List (List Float)) : Nat := (values.map List.length).foldl max 0

/-- What a list of values has on a row. -/
def entryOn (row : Nat) : List Float → Float
  | [value] => value
  | values => values[row]?.getD nan

/-- The rows of some lists of values, one column for each list. -/
def replicate (values : List (List Float)) : List (List Float) :=
  (List.range (longest values)).map fun row => values.map (entryOn row)

/-! ## Tables -/

structure TableRow where
  run : Int64
  subrun : Int64
  event : Int64
  values : List Float

structure Table where
  name : String
  columns : List String
  rows : Array TableRow := #[]
  /-- The spills that were appended, with those that gave no rows. -/
  spills : Nat := 0

/-- A row of a spill. -/
def TableRow.ofValues (h : Header) (values : List Float) : TableRow :=
  ⟨h.run, h.subrun, h.event, values⟩

/-- A row as an object: the spill's place, and the columns with their values. -/
def TableRow.toJson (columns : List String) (row : TableRow) : Json :=
  .sortedObject
    (("run", .ofInt row.run.toInt) :: ("subrun", .ofInt row.subrun.toInt) ::
      ("event", .ofInt row.event.toInt) :: columns.zip (row.values.map .ofFloat))

namespace Table

/-- Appends the rows that a spill's values give. -/
def append (t : Table) (h : Header) (values : List (List Float)) : Table :=
  { t with
    rows := t.rows ++ (replicate values).map (TableRow.ofValues h)
    spills := t.spills + 1 }

/-- The line of a row, without its end. -/
def line (t : Table) (row : TableRow) : String := (row.toJson t.columns).compact

/-- The text of a table, a line for each row. -/
def text (t : Table) : String :=
  String.join (t.rows.toList.map fun row => t.line row ++ "\n")

end Table

end SpillSelection
