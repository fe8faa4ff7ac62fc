import SpillSelection.ByName
import SpillSelection.Decimal.Layout
/-!
# JSON values

A number is kept as its literal, so that nothing is lost before a field says what it wants of
it. A string literal may be legal and still be no text, when its escapes hold half of a
surrogate pair; it is the value `broken`, and so is an object with such a name. Members keep
their order and may repeat a name.
-/

namespace SpillSelection

inductive Json where
  | null
  | bool (value : Bool)
  | number (literal : String)
  | string (text : String)
  | broken
  | array (items : List Json)
  | object (members : List (String × Json))
deriving Inhabited

namespace Json

def ofInt (z : Int) : Json := .number (toString z)

def ofNat (n : Nat) : Json := .number (toString n)

/-- A float, or `null` when it is not finite. -/
def ofFloat (x : Float) : Json :=
  match Decimal.text? x with
  | some literal => .number literal
  | none => .null

def ofFloats (xs : List Float) : Json := .array (xs.map ofFloat)

/-- `null` stands for an absent value. -/
def ofOption (encode : α → Json) : Option α → Json
  | some a => encode a
  | none => .null

/-- An object with its members sorted by name, of which the last of each name is kept. -/
def sortedObject (members : List (String × Json)) : Json :=
  .object (members.foldl (fun sorted m => ByName.insert m.1 m.2 sorted) [])

/-- The first member of a name. -/
def member? (name : String) : Json → Option Json
  | .object members => (members.find? (·.1 == name)).map (·.2)
  | _ => none

mutual
/-- How many arrays and objects lie inside one another. -/
def depth : Json → Nat
  | .array items => depthItems items + 1
  | .object members => depthMembers members + 1
  | _ => 0

def depthItems : List Json → Nat
  | [] => 0
  | v :: vs => max (depth v) (depthItems vs)

def depthMembers : List (String × Json) → Nat
  | [] => 0
  | (_, v) :: ms => max (depth v) (depthMembers ms)
end

end Json

end SpillSelection
