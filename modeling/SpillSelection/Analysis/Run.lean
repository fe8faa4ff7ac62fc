import SpillSelection.Analysis
import SpillSelection.Config.Load
import SpillSelection.Manifest
/-!
# Running an analysis

A run reads every enabled sample in turn and writes its tables, each into a file of its own
below the output directory, and at the end the manifest. It stops at the first failure, and
what was written before that stays.
-/

namespace SpillSelection

namespace Analysis

variable {m : Type → Type} [Monad m]

/-- The records at a path. A directory can be opened, but not read. -/
def openRecords (files : FileAccess m) (path : String) :
    m (Except RecordError (List RecordItem)) := do
  match ← files.read path with
  | .ok bytes => return .ok (Records.read bytes)
  | .error .isADirectory =>
    return .ok [.error (.unreadable 1 FileError.isADirectory.message)]
  | .error e => return .error (.cannotOpen path e.message)

/-- Where a table lies in the output directory. -/
def tablePath (sample table : String) : String := sample ++ "/" ++ table ++ ".jsonl"

/-- Writes a file, after the directory that holds it. -/
def writeFile (files : FileAccess m) (path text : String) : m (Except FileError Unit) := do
  match Path.parent? path with
  | none => files.writeText path text
  | some dir =>
    match ← files.makeDirs dir with
    | .ok _ => files.writeText path text
    | .error e => return .error e

/-- The manifest entry of a table. -/
def recordOf (sample : Sample) (table : Table) : TableRecord where
  sample := sample.name
  table := table.name
  path := tablePath sample.name table.name
  branches := table.columns
  rows := UInt64.ofNat table.rows.size
  spills := UInt64.ofNat table.spills

/-- What an operation gives, or what its error means for the analysis. -/
def orFail (cause : ε → AnalysisError) (operation : m (Except ε α)) : ExceptT AnalysisError m α :=
  ExceptT.mk ((fun result => result.mapError cause) <$> operation)

/-- The tables of a sample, filled with its records. -/
def fillTables (files : FileAccess m) (s : CompiledSample) : m (Except RecordError (List Table)) :=
  (fun items => items >>= s.process) <$> openRecords files s.sample.path

/-- Writes a table of a sample. -/
def writeTable (files : FileAccess m) (output : String) (sample : Sample) (table : Table) :
    ExceptT AnalysisError m TableRecord := do
  let path := Path.join output (tablePath sample.name table.name)
  orFail (fun e => .write path e.message) (writeFile files path table.text)
  return recordOf sample table

/-- Reads a sample and writes its tables. -/
def runSample (files : FileAccess m) (output : String) (s : CompiledSample) :
    ExceptT AnalysisError m (List TableRecord) := do
  let tables ← orFail (.records s.sample.name) (fillTables files s)
  tables.mapM (writeTable files output s.sample)

end Analysis

/-- Writes a manifest into a directory, which is made if it is missing. -/
def Manifest.write [Monad m] (files : FileAccess m) (dir : String) (manifest : Manifest) :
    m (Except FileError Unit) := do
  match ← files.makeDirs dir with
  | .ok _ => files.writeText (Path.join dir manifestFile) manifest.text
  | .error e => return .error e

/-- What keeps a manifest from being read. -/
inductive ManifestError where
  | unreadable (error : FileError)
  | malformed (fault : Json.Fault)
deriving DecidableEq, Repr

/-- Reads the manifest of a directory. -/
def Manifest.read [Monad m] (files : FileAccess m) (dir : String) :
    m (Except ManifestError Manifest) := do
  match ← files.readText (Path.join dir manifestFile) with
  | .ok text => return (Manifest.ofText text).mapError .malformed
  | .error e => return .error (.unreadable e)

namespace Analysis

variable {m : Type → Type} [Monad m]

/-- Runs an analysis at an instant. -/
def run (files : FileAccess m) (now : Timestamp) (output : String) (a : Analysis) :
    ExceptT AnalysisError m Manifest := do
  let tables ← a.samples.mapM (runSample files output)
  let manifest : Manifest :=
    { configDigest := a.config.digest, generatedAt := now, tables := tables.flatten }
  orFail (fun e => .write output e.message) (manifest.write files output)
  return manifest

/-- Loads a configuration and compiles it. -/
def load (files : FileAccess m) (catalog : Except RegistryError Catalog) (path : String) :
    ExceptT AnalysisError m Analysis := do
  let config ← orFail .config (Config.load files path)
  ExceptT.mk (pure ((catalog.mapError .registry).bind (compile config)))

end Analysis

end SpillSelection
