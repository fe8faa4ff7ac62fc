import SpillSelection.Json.Decode
import SpillSelection.Json.Printer
import SpillSelection.Timestamp
/-!
# Manifests

What a run has written, from which configuration, and when: one entry for each table, in the
order of writing. A manifest is kept as JSON, laid out over lines with its fields in their
declared order.
-/

namespace SpillSelection

structure TableRecord where
  sample : String
  table : String
  /-- Where the table lies in the output directory. -/
  path : String
  branches : List String
  rows : UInt64
  spills : UInt64
deriving DecidableEq, Repr

structure Manifest where
  schema : UInt32 := 1
  kind : String := "spine.selection_manifest.v1"
  configDigest : String
  generatedAt : Timestamp
  tables : List TableRecord := []
deriving DecidableEq, Repr

/-- The file that holds the manifest of a directory. -/
def manifestFile : String := "manifest.json"

/-- The rows of all tables, modulo 2 ^ 64. -/
def Manifest.totalRows (m : Manifest) : UInt64 := (m.tables.map (·.rows)).foldl (· + ·) 0

/-! ## Writing -/

/-- The fields in their declared order. -/
def TableRecord.members (t : TableRecord) : List (String × Json) :=
  [("sample", .string t.sample),
   ("table", .string t.table),
   ("path", .string t.path),
   ("branches", .array (t.branches.map .string)),
   ("rows", .ofNat t.rows.toNat),
   ("spills", .ofNat t.spills.toNat)]

/-- The fields in their declared order; `record` makes an object of a table's fields. -/
def Manifest.membersWith (record : List (String × Json) → Json) (m : Manifest) :
    List (String × Json) :=
  [("schema", .ofNat m.schema.toNat),
   ("kind", .string m.kind),
   ("configDigest", .string m.configDigest),
   ("generatedAt", .string m.generatedAt.text),
   ("tables", .array (m.tables.map fun t => record t.members))]

/-- The text of a manifest file. -/
def Manifest.text (m : Manifest) : String :=
  (Json.object (m.membersWith .object)).pretty ++ "\n"

/-- The manifest with its fields sorted. -/
def Manifest.toJson (m : Manifest) : Json :=
  .sortedObject (m.membersWith .sortedObject)

/-! ## Reading -/

open Json

def asTimestamp : Decoder Timestamp := fun j => do
  match Timestamp.ofText? (← asString j) with
  | some t => .ok t
  | none => .error (.expected "a date and time")

def TableRecord.names : List String := ["sample", "table", "path", "branches", "rows", "spills"]

def TableRecord.ofJson : Decoder TableRecord := fun j => do
  let f ← fields TableRecord.names j
  return {
    sample := ← f.get "sample" asString
    table := ← f.get "table" asString
    path := ← f.get "path" asString
    branches := ← f.get "branches" (asList asString)
    rows := ← f.get "rows" asUInt64
    spills := ← f.get "spills" asUInt64 }

def Manifest.names : List String := ["schema", "kind", "configDigest", "generatedAt", "tables"]

def Manifest.ofJson : Decoder Manifest := fun j => do
  let f ← fields Manifest.names j
  return {
    schema := ← f.get "schema" asUInt32
    kind := ← f.get "kind" asString
    configDigest := ← f.get "configDigest" asString
    generatedAt := ← f.get "generatedAt" asTimestamp
    tables := ← f.get "tables" (asList TableRecord.ofJson) }

/-- The manifest of a text. -/
def Manifest.ofText (text : String) : Except Fault Manifest := decodeText Manifest.ofJson text

end SpillSelection
