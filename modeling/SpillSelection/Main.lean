import Std.Time.DateTime.Timestamp
import SpillSelection.Command.Execution
import SpillSelection.Standard.Catalog
/-!
# The program

Executes the command of the command line on the files of the system, with the standard catalog.
-/

namespace SpillSelection.Main

/-- What the system says against an operation on a file. Its code may come with the sign turned. -/
def fileError : IO.Error → FileError
  | .noFileOrDirectory .. => .notFound
  | .alreadyExists .. => .alreadyExists
  | .inappropriateType _ code _ =>
    if code = 21 ∨ code = -21 then .isADirectory else .notADirectory
  | e@(.invalidArgument _ code _) =>
    if code = 36 ∨ code = -36 then .nameTooLong else .other (toString e)
  | e => .other (toString e)

def attempt (operation : IO α) : IO (Except FileError α) := do
  match ← operation.toBaseIO with
  | .ok a => return .ok a
  | .error e => return .error (fileError e)

/-- The files of the system. -/
def files : FileAccess IO where
  read path := attempt do return (← IO.FS.readBinFile path).toList
  write path bytes := attempt (IO.FS.writeBinFile path ⟨bytes.toArray⟩)
  makeDir path := attempt (IO.FS.createDir path)
  isDir path := do
    match ← attempt (IO.FS.realPath path) with
    | .ok place => place.isDir
    | .error _ => return false

def now : IO Timestamp := do
  let t ← Std.Time.Timestamp.now
  let nanoseconds := t.toNanosecondsSinceUnixEpoch.val
  return ⟨nanoseconds / 1000000000, (nanoseconds % 1000000000).toNat⟩

end SpillSelection.Main

open SpillSelection in
def main (words : List String) : IO UInt32 := do
  let report ← Command.respond ⟨Main.files, Standard.catalog, ← Main.now⟩ words
  IO.print report.output
  IO.eprint report.errors
  return report.code.toUInt32
