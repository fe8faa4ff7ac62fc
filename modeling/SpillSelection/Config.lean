import SpillSelection.Category
import SpillSelection.Config.Draft
import SpillSelection.Digest
import SpillSelection.Text.Lines
/-!
# Configurations

A configuration names samples, categories of truth interactions, and trees: tables that are
filled row by row. `Config.reduce` turns a draft into requests. It checks that names are names
and are not used twice, and puts numbers in the place of references to named parameters; the
first flaw that it meets is the error.
-/

namespace SpillSelection

structure Sample where
  name : String
  path : String
  simulated : Bool
  disabled : Bool
deriving DecidableEq

/-- A variable for every target of a scope. -/
structure BranchRequest where
  entry : VariableEntry
  scope : Scope
deriving DecidableEq

structure Tree where
  name : String
  mode : Mode
  simOnly : Bool
  addExposure : Bool
  cuts : List CutEntry
  branches : List BranchRequest
deriving DecidableEq

structure Config where
  output : String
  samples : List Sample
  categories : List Category
  trees : List Tree
  /-- The digest of the text. -/
  digest : String
deriving DecidableEq

def Config.enabled (c : Config) : List Sample := c.samples.filter fun s => !s.disabled

/-- What is wrong with a part of a configuration. -/
inductive Flaw where
  | invalidName (what name : String)
  | declaredTwice (name : String)
  | unknownMode (mode : String)
  | untypedCut (cut : String)
  | targetless (branch : String) (scope : Scope)
  | notParameter (text : String)
  | requestedTwice (column : String)
deriving DecidableEq, Repr

def Flaw.message : Flaw → String
  | .invalidName what name => "invalid " ++ what ++ " name `" ++ name ++ "`"
  | .declaredTwice name => "`" ++ name ++ "` is declared twice"
  | .unknownMode mode => "unknown mode `" ++ mode ++ "`"
  | .untypedCut cut => "cut `" ++ cut ++ "` has no `type`"
  | .targetless branch scope =>
    "branch `" ++ branch ++ "` has type `" ++ scope.text ++ "`, which has no targets"
  | .notParameter text => "parameter `" ++ text ++ "` is not a number or an `@` reference"
  | .requestedTwice column => "branch `" ++ column ++ "` is requested twice"

inductive ConfigError where
  | unreadable (path message : String)
  /-- The text is no TOML document, or not one of a configuration. -/
  | malformed
  | invalid (location : String) (flaw : Flaw)
  | unresolved (location name : String)
deriving DecidableEq, Repr

def ConfigError.message : ConfigError → String
  | .unreadable path message => path ++ ": " ++ message
  | .malformed => "configuration parse error: not the text of a configuration"
  | .invalid location flaw => location ++ ": " ++ flaw.message
  | .unresolved location name => location ++ ": unresolved parameter reference `@" ++ name ++ "`"

/-! ## Names -/

/-- A letter followed by letters, digits and underscores, all of ASCII. -/
def isIdentifier (name : String) : Bool :=
  match name.toList with
  | [] => false
  | c :: cs => c.isAlpha && cs.all fun c => c.isAlphanum || c = '_'

/-- An identifier, perhaps after a `!`. -/
def isCutName (name : String) : Bool := isIdentifier (baseName name).1

namespace Config

abbrev Check (α : Type) := Except ConfigError α

def checkIdentifier (location what name : String) : Check Unit :=
  if isIdentifier name then .ok () else .error (.invalid location (.invalidName what name))

def checkCutName (location name : String) : Check Unit :=
  if isCutName name then .ok () else .error (.invalid location (.invalidName "cut" name))

/-- The first name that was met before. -/
def firstRepeated? : List String → Option String
  | names => go [] names
where
  go (seen : List String) : List String → Option String
    | [] => none
    | n :: ns => if seen.contains n then some n else go (n :: seen) ns

def checkUnique (location : String) (flaw : String → Flaw) (names : List String) : Check Unit :=
  match firstRepeated? names with
  | some name => .error (.invalid location (flaw name))
  | none => .ok ()

/-! ## Parameters -/

/-- The number that a parameter stands for. -/
def resolve (location : String) (named : List (String × Float)) : Parameter → Check Float
  | .number x => .ok x
  | .reference text =>
    match text.toList with
    | '@' :: name =>
      match named.lookup (String.ofList name) with
      | some x => .ok x
      | none => .error (.unresolved location (String.ofList name))
    | _ => .error (.invalid location (.notParameter text))

def resolveAll (location : String) (named : List (String × Float)) (ps : List Parameter) :
    Check (List Float) :=
  ps.mapM (resolve location named)

/-! ## Reduction -/

/-- Runs a check on every item with its position. -/
def checkEach (check : Nat → α → Check β) (items : List α) : Check (List β) :=
  items.zipIdx.mapM fun item => check item.2 item.1

def reduceSample (s : Draft.Sample) : Check Sample := do
  checkIdentifier "sample" "sample" s.name
  return ⟨s.name, s.path, s.isMc, s.disable⟩

def reduceCategory (named : List (String × Float)) (c : Draft.Category) : Check Category := do
  let location := "category[" ++ c.name ++ "]"
  checkIdentifier location "category" c.name
  let cuts ← c.cuts.mapM fun cut => do
    checkCutName location cut.name
    return (⟨cut.name, ← resolveAll location named cut.parameters⟩ : CategoryCut)
  return ⟨c.name, cuts⟩

def reduceCut (location : String) (named : List (String × Float)) (c : Draft.Cut) :
    Check CutEntry := do
  checkCutName location c.name
  match c.object with
  | none => throw (.invalid location (.untypedCut c.name))
  | some object =>
    return ⟨c.name, object, ← resolveAll location named c.parameters, c.decrementsExposure⟩

def checkSelector (location : String) : Option String → Check Unit
  | none => .ok ()
  | some selector => checkIdentifier location "selector" selector

def reduceBranch (location : String) (named : List (String × Float)) (b : Draft.Branch) :
    Check BranchRequest := do
  checkIdentifier location "branch" b.name
  if b.scope.targets.isEmpty then throw (.invalid location (.targetless b.name b.scope))
  let parameters ← resolveAll location named b.parameters
  checkSelector location b.selector
  return ⟨⟨b.name, parameters, b.selector⟩, b.scope⟩

end Config

/-- The targets of a request, each with the name of its column. -/
def BranchRequest.columns (b : BranchRequest) : List String :=
  b.scope.targets.map b.entry.branchName

namespace Config

def reduceMode (location mode : String) : Check Mode :=
  match Mode.ofText? mode with
  | some m => .ok m
  | none => .error (.invalid location (.unknownMode mode))

def reduceTree (named : List (String × Float)) (t : Draft.Tree) : Check Tree := do
  let location := "tree[" ++ t.name ++ "]"
  let place (part : String) (n : Nat) : String :=
    location ++ "." ++ part ++ "[" ++ toString n ++ "]"
  checkIdentifier location "tree" t.name
  let mode ← reduceMode location t.mode
  let cuts ← checkEach (fun n => reduceCut (place "cut" n) named) t.cuts
  let branches ← checkEach (fun n => reduceBranch (place "branch" n) named) t.branches
  checkUnique location .requestedTwice (branches.flatMap BranchRequest.columns)
  return ⟨t.name, mode, t.simOnly, t.addExposure, cuts, branches⟩

/-- The configuration of a draft. -/
def reduce (d : Draft) (digest : String) : Check Config := do
  d.parameters.forM fun p => checkIdentifier "parameters" "parameter" p.1
  let samples ← d.samples.mapM reduceSample
  checkUnique "sample" .declaredTwice (samples.map (·.name))
  let categories ← d.categories.mapM (reduceCategory d.parameters)
  checkUnique "category" .declaredTwice (categories.map (·.name))
  let trees ← d.trees.mapM (reduceTree d.parameters)
  checkUnique "tree" .declaredTwice (trees.map (·.name))
  return ⟨d.output, samples, categories, trees, digest⟩

/-- The configuration of a text. -/
def parse (text : String) : Check Config :=
  match Draft.parse? text with
  | some d => reduce d (Digest.sha256 (Text.utf8 text))
  | none => .error .malformed

end Config

end SpillSelection
