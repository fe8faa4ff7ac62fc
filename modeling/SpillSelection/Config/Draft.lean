import SpillSelection.ByName
import SpillSelection.ObjectType
import SpillSelection.Toml.Document
/-!
# Configurations as they are written

The shape of a configuration document: which fields there are, of which types, and which may be
missing. Nothing else is checked. A record may be written as a table, which must have no other
fields, or as an array of its fields in their declared order. A word of a fixed list may be
written as a string or as the only key of a table with nothing in it.
-/

namespace SpillSelection

open Toml (Value)

/-- A number, or the name of one. -/
inductive Parameter where
  | number (value : Float)
  | reference (text : String)
deriving DecidableEq

namespace Draft

structure Sample where
  name : String
  path : String
  isMc : Bool := false
  disable : Bool := false

structure CategoryCut where
  name : String
  parameters : List Parameter := []

structure Category where
  name : String
  cuts : List CategoryCut := []

structure Cut where
  name : String
  object : Option CutObject := none
  parameters : List Parameter := []
  decrementsExposure : Bool := false

structure Branch where
  name : String
  scope : Scope
  parameters : List Parameter := []
  selector : Option String := none

structure Tree where
  name : String
  mode : String
  simOnly : Bool := false
  addExposure : Bool := false
  cuts : List Cut := []
  branches : List Branch := []

end Draft

/-- A configuration as it is written. The parameters are sorted by name. -/
structure Draft where
  output : String
  parameters : List (String × Float) := []
  samples : List Draft.Sample := []
  categories : List Draft.Category := []
  trees : List Draft.Tree := []

namespace Draft

/-! ## Reading fields -/

abbrev Shape (α : Type) := Value → Option α

/-- The declared fields that a record gives. -/
abbrev Fields := String → Option Value

def fields (names : List String) : Shape Fields
  | .array items | .tables items => some fun name => (names.zip items).lookup name
  | v => do
    let entries ← v.entries?
    if entries.all fun e => names.contains e.1 then some (entries.lookup ·) else none

/-- A field that may be missing. -/
def Fields.getD (f : Fields) (name : String) (shape : Shape α) (absent : α) : Option α :=
  match f name with
  | some v => shape v
  | none => some absent

/-- A field that must be given. -/
def Fields.get (f : Fields) (name : String) (shape : Shape α) : Option α := (f name).bind shape

def boolean : Shape Bool
  | .boolean b => some b
  | _ => none

def string : Shape String
  | .string text => some text
  | _ => none

def float : Shape Float
  | .float x => some x
  | .integer z => some (Float.ofInt z)
  | _ => none

def list (shape : Shape α) : Shape (List α) := fun v => do (← v.items?).mapM shape

/-- A word of a list, given as a string or as a key. -/
def word (ofText? : String → Option α) : Shape α
  | .string text => ofText? text
  | .inlineTable [(key, v)] | .table _ [(key, v)] => if v.isHollow then ofText? key else none
  | _ => none

def parameter : Shape Parameter
  | .string text => some (.reference text)
  | v => .number <$> float v

/-- Named floats, sorted by name. -/
def namedFloats : Shape (List (String × Float)) := fun v => do
  let named ← (← v.entries?).mapM fun e => do return (e.1, ← float e.2)
  return named.foldl (fun sorted e => ByName.insert e.1 e.2 sorted) []

/-! ## Reading records -/

def sample : Shape Sample := fun v => do
  let f ← fields ["name", "path", "ismc", "disable"] v
  return {
    name := ← f.get "name" string
    path := ← f.get "path" string
    isMc := ← f.getD "ismc" boolean false
    disable := ← f.getD "disable" boolean false }

def categoryCut : Shape CategoryCut := fun v => do
  let f ← fields ["name", "parameters"] v
  return {
    name := ← f.get "name" string
    parameters := ← f.getD "parameters" (list parameter) [] }

def category : Shape Category := fun v => do
  let f ← fields ["name", "cuts"] v
  return {
    name := ← f.get "name" string
    cuts := ← f.getD "cuts" (list categoryCut) [] }

def cut : Shape Cut := fun v => do
  let f ← fields ["name", "type", "parameters", "decrements_exposure"] v
  return {
    name := ← f.get "name" string
    object := ← f.getD "type" (some <$> word CutObject.ofText? ·) none
    parameters := ← f.getD "parameters" (list parameter) []
    decrementsExposure := ← f.getD "decrements_exposure" boolean false }

def branch : Shape Branch := fun v => do
  let f ← fields ["name", "type", "parameters", "selector"] v
  return {
    name := ← f.get "name" string
    scope := ← f.get "type" (word Scope.ofText?)
    parameters := ← f.getD "parameters" (list parameter) []
    selector := ← f.getD "selector" (some <$> string ·) none }

def tree : Shape Tree := fun v => do
  let f ← fields ["name", "mode", "sim_only", "add_exposure", "cut", "branch"] v
  return {
    name := ← f.get "name" string
    mode := ← f.get "mode" string
    simOnly := ← f.getD "sim_only" boolean false
    addExposure := ← f.getD "add_exposure" boolean false
    cuts := ← f.getD "cut" (list cut) []
    branches := ← f.getD "branch" (list branch) [] }

def general : Shape String := fun v => do (← fields ["output"] v).get "output" string

def ofValue : Shape Draft := fun v => do
  let f ← fields ["general", "parameters", "sample", "category", "tree"] v
  return {
    output := ← f.get "general" general
    parameters := ← f.getD "parameters" namedFloats []
    samples := ← f.getD "sample" (list sample) []
    categories := ← f.getD "category" (list category) []
    trees := ← f.getD "tree" (list tree) [] }

/-- The configuration that a text says. -/
def parse? (text : String) : Option Draft := do
  ofValue (.table .header (← Toml.parse? text.toList))

end Draft

end SpillSelection
