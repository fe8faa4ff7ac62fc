import SpillSelection.Toml.Moment
/-!
# TOML values

The values of a TOML document. A table remembers how it came about, since that decides what may
still be added to it: an inline table is closed, a table of a header may not be named again by a
header or extended by dotted keys, one that a longer header implied may be given its own header,
and one that a dotted key made may only be extended by dotted keys.
-/

namespace SpillSelection.Toml

inductive Origin where
  | header
  | implied
  | dotted
deriving DecidableEq, Repr

inductive Value where
  | string (text : String)
  | integer (value : Int)
  | float (value : Float)
  | boolean (value : Bool)
  | moment (value : Moment)
  | array (items : List Value)
  | inlineTable (entries : List (String × Value))
  | table (origin : Origin) (entries : List (String × Value))
  /-- The tables of `[[name]]` headers. -/
  | tables (items : List Value)
deriving Inhabited

/-- Keys with their values, in the order in which they were added. -/
abbrev Entries := List (String × Value)

namespace Value

/-- The entries of a table of any kind. -/
def entries? : Value → Option Entries
  | .inlineTable entries | .table _ entries => some entries
  | _ => none

/-- The items of an array of any kind. -/
def items? : Value → Option (List Value)
  | .array items | .tables items => some items
  | _ => none

mutual
/-- A value that nothing can be added to any more. -/
def close : Value → Value
  | .table _ entries => .inlineTable (closeEntries entries)
  | v => v

def closeEntries : List (String × Value) → List (String × Value)
  | [] => []
  | (k, v) :: rest => (k, close v) :: closeEntries rest
end

/-- An empty array or table. -/
def isHollow (v : Value) : Bool :=
  v.entries?.any List.isEmpty || v.items?.any List.isEmpty

end Value

end SpillSelection.Toml
