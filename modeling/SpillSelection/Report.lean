import SpillSelection.Analysis
import SpillSelection.Catalog.Listing
import SpillSelection.Manifest
import SpillSelection.Records.Summary
/-!
# Reports

What a command says at its end: an exit code, and lines for the two output channels. Every
answer is given as text for a reader, or as JSON laid out over lines. A failure says nothing on
the first channel.
-/

namespace SpillSelection

structure Report where
  code : UInt8 := 0
  output : String := ""
  errors : String := ""
deriving DecidableEq, Repr

/-- The text of some lines, each of which is ended. -/
def unlines (lines : List String) : String := String.join (lines.map (· ++ "\n"))

namespace Report

def ofLines (lines : List String) : Report := { output := unlines lines }

def ofJson (j : Json) : Report := ofLines [j.pretty]

/-- An answer in the form that was asked for. -/
def answer (json : Bool) (lines : List String) (j : Json) : Report :=
  if json then ofJson j else ofLines lines

def failure (code : UInt8) (message : String) : Report :=
  { code, errors := unlines ["error: " ++ message] }

end Report

def AnalysisError.report (e : AnalysisError) : Report := .failure e.exitCode e.message

/-! ## Compiled analyses -/

/-- What a tree writes. -/
structure TreeOutline where
  tree : String
  branches : List String
  exposureTable? : Option String
deriving DecidableEq, Repr

structure SampleOutline where
  sample : String
  simulated : Bool
  trees : List TreeOutline
deriving DecidableEq, Repr

def CompiledTree.outline (t : CompiledTree) : TreeOutline := ⟨t.name, t.columns, t.exposureTable?⟩

def CompiledSample.outline (s : CompiledSample) : SampleOutline :=
  ⟨s.sample.name, s.sample.simulated, s.trees.map (·.outline)⟩

/-- The samples of an analysis with their trees. -/
def Analysis.outline (a : Analysis) : List SampleOutline := a.samples.map (·.outline)

namespace TreeOutline

/-- A line for each table. -/
def lines (t : TreeOutline) : List String :=
  ("    Tree " ++ t.tree ++ ": " ++ ", ".intercalate t.branches) ::
    (t.exposureTable?.map fun name =>
      "    Tree " ++ name ++ ": " ++ ", ".intercalate exposureNames).toList

def toJson (t : TreeOutline) : Json :=
  .sortedObject
    [("tree", .string t.tree),
     ("branches", .array (t.branches.map .string)),
     ("exposure_table", .ofOption .string t.exposureTable?)]

end TreeOutline

namespace SampleOutline

def lines (s : SampleOutline) : List String :=
  ("  Sample " ++ s.sample ++ (if s.simulated then " (simulation)" else " (data)")) ::
    s.trees.flatMap (·.lines)

def toJson (s : SampleOutline) : Json :=
  .sortedObject
    [("sample", .string s.sample),
     ("simulated", .bool s.simulated),
     ("trees", .array (s.trees.map (·.toJson)))]

end SampleOutline

namespace Analysis

def lines (config : String) (a : Analysis) : List String :=
  ("spine check " ++ config) :: ("  Digest: " ++ a.config.digest) :: a.outline.flatMap (·.lines)

def toJson (config : String) (a : Analysis) : Json :=
  .sortedObject
    [("schema", .ofNat 1),
     ("kind", .string "spine.check_report.v1"),
     ("config", .string config),
     ("config_digest", .string a.config.digest),
     ("samples", .array (a.outline.map (·.toJson)))]

end Analysis

/-! ## Runs, listings and summaries -/

def TableRecord.line (t : TableRecord) : String :=
  "  " ++ t.path ++ ": " ++ toString t.rows.toNat ++ " rows from " ++ toString t.spills.toNat ++
    " spills"

/-- What a run wrote, and where. -/
def Manifest.lines (config output : String) (m : Manifest) : List String :=
  ["spine run " ++ config, "  Output: " ++ output] ++ m.tables.map (·.line) ++
    ["  Total rows: " ++ toString m.totalRows.toNat]

def Listing.lines (l : Listing) : List String :=
  (l.registry ++ " (" ++ toString l.names.length ++ ")") :: l.names.map ("  " ++ ·)

namespace RecordSummary

def lines (records : String) (s : RecordSummary) : List String :=
  ["spine inspect " ++ records,
   "  Spills: " ++ toString s.spills ++ " (" ++ toString s.simulatedSpills ++ " simulated)",
   "  Subruns: " ++ toString s.subruns,
   "  Interactions: " ++ toString s.recoInteractions ++ " reco, " ++
     toString s.trueInteractions ++ " true",
   "  Particles: " ++ toString s.recoParticles ++ " reco, " ++ toString s.trueParticles ++ " true"]

/-- The summary under the name of its source. -/
def reportJson (records : String) (s : RecordSummary) : Json :=
  .sortedObject [("records", .string records), ("summary", s.toJson)]

end RecordSummary

end SpillSelection
