import SpillSelection.Text.Lines
/-!
# Files

What the program asks of a file system, stated once for any monad: reading and writing whole
files, making a directory, and telling whether a path leads to one. Paths are texts whose names
are separated by slashes.
-/

namespace SpillSelection

inductive FileError where
  | notFound
  | alreadyExists
  | notADirectory
  | isADirectory
  | nameTooLong
  | other (message : String)
deriving DecidableEq, Repr

def FileError.message : FileError → String
  | .notFound => "No such file or directory (os error 2)"
  | .alreadyExists => "File exists (os error 17)"
  | .notADirectory => "Not a directory (os error 20)"
  | .isADirectory => "Is a directory (os error 21)"
  | .nameTooLong => "File name too long (os error 36)"
  | .other message => message

/-- The operations of a file system. -/
structure FileAccess (m : Type → Type) where
  read (path : String) : m (Except FileError (List UInt8))
  /-- Creates a file, or replaces what it holds. -/
  write (path : String) (bytes : List UInt8) : m (Except FileError Unit)
  makeDir (path : String) : m (Except FileError Unit)
  isDir (path : String) : m Bool

namespace Path

def isAbsolute (path : String) : Bool := path.toList.head? == some '/'

/-- A path read from a directory. An absolute path stands for itself. -/
def join (base path : String) : String :=
  if isAbsolute path || base.isEmpty then path
  else if base.toList.getLast? = some '/' then base ++ path
  else base ++ "/" ++ path

/-! ## The directory of a path -/

/-- The beginning of a path that is no name in a directory: the root, or a leading dot. -/
def stem (cs : List Char) : List Char :=
  match cs with
  | '/' :: _ => ['/']
  | ['.'] | '.' :: '/' :: _ => ['.']
  | _ => []

/-- Drops slashes and names that are a dot from the end of a text, which is given backwards. -/
def trimEnd : List Char → List Char
  | [] => []
  | '/' :: cs => trimEnd cs
  | ['.'] => []
  | '.' :: '/' :: cs => trimEnd cs
  | cs => cs

/-- The path without its last name: the directory that holds it. The root and the empty path
are in no directory. -/
def parent? (path : String) : Option String :=
  let cs := path.toList
  let start := stem cs
  match trimEnd (cs.drop start.length).reverse with
  | [] => if start = ['.'] then some "" else none
  | body => some (String.ofList (start ++ (trimEnd (body.dropWhile (· ≠ '/'))).reverse))

/-- A path with the directories above it, the nearest first. -/
def withParents : Nat → String → List String
  | 0, path => [path]
  | fuel + 1, path =>
    match parent? path with
    | some p => path :: withParents fuel p
    | none => [path]

end Path

namespace FileAccess

variable {m : Type → Type} [Monad m]

/-- Makes the first of some directories, and before it those of the others that are missing. -/
def makeDirsOf (files : FileAccess m) : List String → m (Except FileError Unit)
  | [] => return .error (.other "failed to create whole tree")
  | path :: parents => do
    if path.isEmpty then return .ok ()
    match ← files.makeDir path with
    | .ok _ => return .ok ()
    | .error .notFound =>
      match ← makeDirsOf files parents with
      | .error e => return .error e
      | .ok _ => settle (← files.makeDir path) path
    | .error e => settle (.error e) path
where
  /-- A directory that is there already will do. -/
  settle (made : Except FileError Unit) (path : String) : m (Except FileError Unit) := do
    match made with
    | .ok _ => return .ok ()
    | .error e => if ← files.isDir path then return .ok () else return .error e

/-- Makes a directory with all those above it that are missing. -/
def makeDirs (files : FileAccess m) (path : String) : m (Except FileError Unit) :=
  files.makeDirsOf (Path.withParents path.length path)

/-- Writes a text. -/
def writeText (files : FileAccess m) (path text : String) : m (Except FileError Unit) :=
  files.write path (Text.utf8 text)

/-- Reads a text. -/
def readText (files : FileAccess m) (path : String) : m (Except FileError String) := do
  match ← files.read path with
  | .error e => return .error e
  | .ok bytes =>
    match Text.ofUtf8? bytes with
    | some text => return .ok text
    | none => return .error (.other "stream did not contain valid UTF-8")

end FileAccess

end SpillSelection
