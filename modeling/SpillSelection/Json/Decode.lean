import SpillSelection.Json.Parser
/-!
# Reading fields

A record is written as an object, or as an array of its fields in their declared order with
missing ones at the end. `fields` finds the declared fields in either form: unknown members are
ignored, a declared field that is given twice is a fault, and so is an array with more items
than fields.
-/

namespace SpillSelection.Json

/-- Why a text or a value is not what is asked for. -/
inductive Fault where
  | notJson
  | expected (what : String)
  | duplicateField (name : String)
  | missingField (name : String)
  | tooManyItems
  | tooDeep
deriving DecidableEq, Repr

def Fault.message : Fault → String
  | .notJson => "not a JSON value"
  | .expected what => "expected " ++ what
  | .duplicateField name => "duplicate field " ++ name
  | .missingField name => "missing field " ++ name
  | .tooManyItems => "too many items"
  | .tooDeep => "nested too deeply"

abbrev Decoder (α : Type) := Json → Except Fault α

/-- The declared fields that a record gives. -/
abbrev Fields := String → Option Json

/-- Whether a member of this name comes twice. -/
def isRepeated (members : List (String × Json)) (name : String) : Bool :=
  1 < (members.filter (·.1 == name)).length

/-- The fields among an object's members. -/
def memberFields (names : List String) (members : List (String × Json)) : Except Fault Fields :=
  match names.find? (isRepeated members) with
  | some name => .error (.duplicateField name)
  | none => .ok fun name => (members.find? (·.1 == name)).map (·.2)

/-- The declared fields of an object or an array. -/
def fields (names : List String) : Decoder Fields
  | .object members => memberFields names members
  | .array items =>
    if names.length < items.length then .error .tooManyItems
    else memberFields names (names.zip items)
  | _ => .error (.expected "a record")

/-- A field that may be missing. -/
def Fields.getD (f : Fields) (name : String) (decode : Decoder α) (absent : α) :
    Except Fault α :=
  match f name with
  | some v => decode v
  | none => .ok absent

/-- A field that must be given. -/
def Fields.get (f : Fields) (name : String) (decode : Decoder α) : Except Fault α :=
  match f name with
  | some v => decode v
  | none => .error (.missingField name)

/-! ## Fields of basic types -/

def asBool : Decoder Bool
  | .bool b => .ok b
  | _ => .error (.expected "a boolean")

def asString : Decoder String
  | .string text => .ok text
  | _ => .error (.expected "a string")

/-- A float in range; an integer literal will do. -/
def asFloat : Decoder Float
  | .number literal =>
    match (Numeral.read? literal.toList).bind Numeral.toFloat? with
    | some x => .ok x
    | none => .error (.expected "a number in range")
  | _ => .error (.expected "a number")

/-- An integer literal between two bounds. -/
def asIntIn (least greatest : Int) : Decoder Int
  | .number literal =>
    match (Numeral.read? literal.toList).bind Numeral.toInt? with
    | some z =>
      if least ≤ z ∧ z ≤ greatest then .ok z else .error (.expected "an integer in range")
    | none => .error (.expected "an integer")
  | _ => .error (.expected "an integer")

def asInt64 : Decoder Int64 := fun v =>
  Int64.ofInt <$> asIntIn Int64.minValue.toInt Int64.maxValue.toInt v

def asUInt32 : Decoder UInt32 := fun v =>
  (fun z => UInt32.ofNat z.toNat) <$> asIntIn 0 (UInt32.size - 1) v

def asUInt64 : Decoder UInt64 := fun v =>
  (fun z => UInt64.ofNat z.toNat) <$> asIntIn 0 (UInt64.size - 1) v

def asList (decode : Decoder α) : Decoder (List α)
  | .array items => items.mapM decode
  | _ => .error (.expected "an array")

/-- `null` stands for an absent value. -/
def asOption (decode : Decoder α) : Decoder (Option α)
  | .null => .ok none
  | v => some <$> decode v

/-! ## Members that are kept before their field is known -/

mutual
/-- Every number is in range and every string is text. -/
def isKeepable : Json → Bool
  | .number literal => ((Numeral.read? literal.toList).bind Numeral.toFloat?).isSome
  | .broken => false
  | .array items => areKeepable items
  | .object members => areKeepableMembers members
  | _ => true

def areKeepable : List Json → Bool
  | [] => true
  | v :: vs => isKeepable v && areKeepable vs

def areKeepableMembers : List (String × Json) → Bool
  | [] => true
  | (_, v) :: ms => isKeepable v && areKeepableMembers ms
end

/-- Reads a text with a decoder. -/
def decodeText (decode : Decoder α) (text : String) : Except Fault α :=
  match parse? text.toList with
  | some v => decode v
  | none => .error .notJson

end SpillSelection.Json
