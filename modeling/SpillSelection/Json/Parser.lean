import SpillSelection.Json.Basic
import SpillSelection.Json.Lexer
/-!
# From tokens to a value

A machine that takes one token at a time and keeps the containers it is inside of on a stack.
`parse?` reads a text that holds exactly one value.
-/

namespace SpillSelection.Json

namespace Parser

/-- The name of a member, or none when its literal is no text. -/
abbrev Name := Option String

/-- A container that is not closed yet, with what it holds so far, latest first. An object
waits for the value of `name`. -/
inductive Frame where
  | array (items : List Json)
  | object (members : List (Name × Json)) (name : Name)

inductive State where
  /-- A value is due. -/
  | value (stack : List Frame)
  /-- An array has just been opened. -/
  | arrayStart (stack : List Frame)
  /-- An object has just been opened. -/
  | objectStart (stack : List Frame)
  /-- A member's name is due. -/
  | name (members : List (Name × Json)) (stack : List Frame)
  /-- A colon is due. -/
  | colon (members : List (Name × Json)) (name : Name) (stack : List Frame)
  /-- A value is complete. -/
  | complete (value : Json) (stack : List Frame)

/-- A token where a value may begin. -/
def begin? (stack : List Frame) : Token → Option State
  | .openObject => some (.objectStart stack)
  | .openArray => some (.arrayStart stack)
  | .null => some (.complete .null stack)
  | .bool b => some (.complete (.bool b) stack)
  | .number literal => some (.complete (.number literal) stack)
  | .string text => some (.complete (.string text) stack)
  | .broken => some (.complete .broken stack)
  | _ => none

/-- The object of these members; it is no better than the worst of its names. -/
def objectOf (members : List (Name × Json)) : Json :=
  match members.mapM fun m => m.1.map (·, m.2) with
  | some members => .object members
  | none => .broken

def step : State → Token → Option State
  | .value stack, t => begin? stack t
  | .arrayStart stack, .closeArray => some (.complete (.array []) stack)
  | .arrayStart stack, t => begin? (.array [] :: stack) t
  | .objectStart stack, .closeObject => some (.complete (.object []) stack)
  | .objectStart stack, .string name => some (.colon [] (some name) stack)
  | .objectStart stack, .broken => some (.colon [] none stack)
  | .name members stack, .string name => some (.colon members (some name) stack)
  | .name members stack, .broken => some (.colon members none stack)
  | .colon members name stack, .colon => some (.value (.object members name :: stack))
  | .complete v (.array items :: stack), .comma => some (.value (.array (v :: items) :: stack))
  | .complete v (.array items :: stack), .closeArray =>
    some (.complete (.array (v :: items).reverse) stack)
  | .complete v (.object members name :: stack), .comma =>
    some (.name ((name, v) :: members) stack)
  | .complete v (.object members name :: stack), .closeObject =>
    some (.complete (objectOf ((name, v) :: members).reverse) stack)
  | _, _ => none

def finish? : State → Option Json
  | .complete v [] => some v
  | _ => none

end Parser

/-- The value a text holds. -/
def parse? (text : List Char) : Option Json := do
  (← (← lex? text).foldlM Parser.step (.value [])) |> Parser.finish?

end SpillSelection.Json
