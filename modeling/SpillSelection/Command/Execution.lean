import SpillSelection.Analysis.Run
import SpillSelection.Command
import SpillSelection.Report
/-!
# Executing commands

A command works on files and ends in a report. What keeps it from its end is said in the report,
with an exit code of one for the configuration's faults and two for those of files and of the
command line.
-/

namespace SpillSelection

variable {m : Type → Type} [Monad m]

/-- The report of an operation that may fail. -/
def Report.ofResult (operation : ExceptT AnalysisError m Report) : m Report :=
  (fun
    | .ok report => report
    | .error e => e.report) <$> operation.run

/-- What keeps records from being summarised. The path that cannot be opened is in the message
already. -/
def RecordError.report (records : String) : RecordError → Report
  | .cannotOpen path message => .failure 2 (RecordError.cannotOpen path message).message
  | e => .failure 2 (records ++ ": " ++ e.message)

namespace Command

/-- What commands work with: files, the catalog, and the instant at which they are given. -/
structure Context (m : Type → Type) where
  files : FileAccess m
  catalog : Except RegistryError Catalog
  now : Timestamp

variable (context : Context m)

def load (config : String) : ExceptT AnalysisError m Analysis :=
  Analysis.load context.files context.catalog config

def executeRun (config : String) (output? : Option String) (json : Bool) : m Report :=
  Report.ofResult do
    let a ← load context config
    let output := output?.getD a.config.output
    let manifest ← a.run context.files context.now output
    return .answer json (manifest.lines config output) manifest.toJson

def executeCheck (config : String) (json : Bool) : m Report :=
  Report.ofResult do
    let a ← load context config
    return .answer json (a.lines config) (a.toJson config)

def executeRegistry (json : Bool) : Report :=
  match context.catalog with
  | .ok c => .answer json (c.listing.flatMap Listing.lines) c.listingToJson
  | .error e => .failure 1 e.message

def executeInspect (records : String) (json : Bool) : m Report :=
  (fun items =>
    match items >>= RecordSummary.ofItems with
    | .ok s => .answer json (s.lines records) (s.reportJson records)
    | .error e => e.report records) <$> Analysis.openRecords context.files records

def execute : Command → m Report
  | .run config output json => executeRun context config output json
  | .check config json => executeCheck context config json
  | .registry json => pure (executeRegistry context json)
  | .inspect records json => executeInspect context records json

end Command

/-- The name of the program with its version. -/
def versionLine : String := "spine 0.1.0"

/-- What the program says to a command line that it does not understand. -/
def usageLines : List String :=
  ["error: the command line was not understood",
   "",
   "Usage: spine [--log-level LEVEL] COMMAND",
   "",
   "Commands:",
   "  run CONFIG [--output DIR] [--json]",
   "  check CONFIG [--json]",
   "  registry [--json]",
   "  inspect RECORDS [--json]"]

/-- Answers a command line. -/
def Command.respond (context : Command.Context m) (words : List String) : m Report :=
  match Invocation.ofWords? words with
  | some (.command c) => c.execute context
  | some .version => pure (.ofLines [versionLine])
  | none => pure { code := 2, errors := unlines usageLines }

end SpillSelection
