import SpillSelection.ByName
import SpillSelection.Files
/-!
# A file tree

A file system as a value: a tree of directories and files, and the directory from which relative
paths are read. A path is followed name by name, and everything before its last name must be a
directory that exists. Names and paths have a greatest length.
-/

namespace SpillSelection

/-- A file, or a directory with the nodes that its names stand for. -/
inductive FileNode where
  | file (bytes : List UInt8)
  | directory (entries : List (String × FileNode))

/-- The names from the root to a node. -/
abbrev Place := List String

namespace FileNode

def isDir : FileNode → Bool
  | .file _ => false
  | .directory _ => true

/-- What lies at a place below a node. -/
def get? : Place → FileNode → Option FileNode
  | [], n => some n
  | name :: names, .directory entries => (entries.lookup name).bind (get? names)
  | _ :: _, .file _ => none

/-- Puts a node at a place below another, with the directories that are missing on the way.
Nothing is put below a file. -/
def put (new : FileNode) : Place → FileNode → FileNode
  | [], _ => new
  | name :: names, .directory entries =>
    let inner := (entries.lookup name).getD (.directory [])
    .directory (ByName.insert name (put new names inner) entries)
  | _ :: _, .file bytes => .file bytes

mutual
/-- The files below a node, each with its place. -/
def files : FileNode → List (Place × List UInt8)
  | .file bytes => [([], bytes)]
  | .directory entries => filesOf entries

def filesOf : List (String × FileNode) → List (Place × List UInt8)
  | [] => []
  | (name, n) :: rest => (files n).map (fun f => (name :: f.1, f.2)) ++ filesOf rest
end

end FileNode

/-- The names from the root to a place, the last first, and what lies at each. -/
abbrev Trail := List (String × Option FileNode)

def Trail.place (trail : Trail) : Place := (trail.map (·.1)).reverse

structure FileTree where
  root : FileNode := .directory []
  workingDir : Place := []

namespace FileTree

/-- Puts a node at a place. -/
def put (t : FileTree) (p : Place) (n : FileNode) : FileTree :=
  { t with root := FileNode.put n p t.root }

/-! ## Paths -/

/-- What lies at the end of a trail. -/
def nodeAt (t : FileTree) : Trail → Option FileNode
  | [] => some t.root
  | (_, n) :: _ => n

/-- The bytes that a name may have. -/
def longestName : Nat := 255

/-- The bytes that a path may have. -/
def longestPath : Nat := 4095

/-- Follows names from the end of a trail. -/
def follow (t : FileTree) : Trail → List String → Except FileError Trail
  | trail, [] => .ok trail
  | trail, name :: names =>
    match t.nodeAt trail with
    | none => .error .notFound
    | some (.file _) => .error .notADirectory
    | some (.directory entries) =>
      if name = "" ∨ name = "." then t.follow trail names
      else if name = ".." then t.follow trail.tail names
      else if longestName < name.utf8ByteSize then .error .nameTooLong
      else t.follow ((name, entries.lookup name) :: trail) names

/-- The names between the slashes of a text. -/
def splitNames (name : List Char) : List Char → List String
  | [] => [String.ofList name.reverse]
  | c :: cs =>
    if c = '/' then String.ofList name.reverse :: splitNames [] cs else splitNames (c :: name) cs

/-- Refuses a text that can be no path. -/
def requirePath (path : String) : Except FileError Unit :=
  if path.isEmpty then .error .notFound
  else if path.toList.contains (Char.ofNat 0) then
    .error (.other "file name contained an unexpected NUL byte")
  else if longestPath < path.utf8ByteSize then .error .nameTooLong
  else .ok ()

/-- The trail of a path, whether or not anything lies at its end. -/
def trail (t : FileTree) (path : String) : Except FileError Trail := do
  requirePath path
  let start ← if Path.isAbsolute path then .ok [] else t.follow [] t.workingDir
  t.follow start (splitNames [] path.toList)

/-! ## Operations -/

def read (t : FileTree) (path : String) : Except FileError (List UInt8) := do
  match t.nodeAt (← t.trail path) with
  | some (.file bytes) => return bytes
  | some (.directory _) => throw .isADirectory
  | none => throw .notFound

def write (t : FileTree) (path : String) (bytes : List UInt8) : Except FileError FileTree := do
  let trail ← t.trail path
  match t.nodeAt trail with
  | some (.directory _) => throw .isADirectory
  | _ => return t.put trail.place (.file bytes)

/-- A path without the slashes at its end. -/
def dropSlashes (path : String) : String :=
  String.ofList (path.toList.reverse.dropWhile (· = '/')).reverse

def makeDir (t : FileTree) (path : String) : Except FileError FileTree := do
  requirePath path
  let trail ← t.trail (if (dropSlashes path).isEmpty then path else dropSlashes path)
  match t.nodeAt trail with
  | some _ => throw .alreadyExists
  | none => return t.put trail.place (.directory [])

def isDir (t : FileTree) (path : String) : Bool :=
  match t.trail path with
  | .ok trail => (t.nodeAt trail).any FileNode.isDir
  | .error _ => false

/-- Runs an operation that changes the tree unless it fails. -/
def change (f : FileTree → Except FileError FileTree) :
    StateM FileTree (Except FileError Unit) := do
  match f (← get) with
  | .ok t => set t; return .ok ()
  | .error e => return .error e

/-- The operations on a tree that is passed along. -/
def access : FileAccess (StateM FileTree) where
  read path := return (← get).read path
  write path bytes := change (·.write path bytes)
  makeDir path := change (·.makeDir path)
  isDir path := return (← get).isDir path

end FileTree

end SpillSelection
