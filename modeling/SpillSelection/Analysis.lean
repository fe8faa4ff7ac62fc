import SpillSelection.Config
import SpillSelection.Exposure
import SpillSelection.Records
import SpillSelection.Table
/-!
# Analyses

A configuration compiled against a catalog: for every enabled sample the trees that apply to it,
with their branches. A tree fills a table, and a second one with its exposure when it asks for
that. `CompiledSample.process` streams the records of a sample through all of its tables.
-/

namespace SpillSelection

inductive AnalysisError where
  | config (error : ConfigError)
  | registry (error : RegistryError)
  | category (error : SelectionError)
  | compile (sample tree : String) (error : SelectionError)
  | records (sample : String) (error : RecordError)
  | write (path message : String)
deriving DecidableEq, Repr

namespace AnalysisError

def message : AnalysisError → String
  | .config error => error.message
  | .registry error => error.message
  | .category error => "categories: " ++ error.message
  | .compile sample tree error =>
    "sample `" ++ sample ++ "`, tree `" ++ tree ++ "`: " ++ error.message
  | .records sample error => "sample `" ++ sample ++ "`: " ++ error.message
  | .write path message => path ++ ": " ++ message

/-- One for what is wrong with the configuration, two for what is wrong with files. -/
def exitCode : AnalysisError → UInt8
  | .records _ _ | .write _ _ | .config (.unreadable _ _) => 2
  | _ => 1

end AnalysisError

/-! ## Trees -/

/-- A table by its branches. -/
structure TableSpec where
  name : String
  branches : List Branch

namespace TableSpec

def columns (t : TableSpec) : List String := t.branches.map (·.name)

/-- The table before any spill. -/
def empty (t : TableSpec) : Table := { name := t.name, columns := t.columns }

/-- The table with the rows of one more spill. -/
def append (spill : Spill) (t : TableSpec) (table : Table) : Table :=
  table.append spill.header (t.branches.map fun b => b.evaluate spill)

end TableSpec

/-- The name of the exposure table of a tree. -/
def exposureName (tree : String) : String := tree ++ "_exposure"

structure CompiledTree where
  name : String
  branches : List Branch
  /-- The exposure branches, when the tree asks for them. -/
  exposure : List Branch := []

namespace CompiledTree

def columns (t : CompiledTree) : List String := t.branches.map (·.name)

/-- The name of the exposure table, when there is one. -/
def exposureTable? (t : CompiledTree) : Option String :=
  if t.exposure.isEmpty then none else some (exposureName t.name)

/-- The tables of a tree. -/
def tables (t : CompiledTree) : List TableSpec :=
  ⟨t.name, t.branches⟩ :: (t.exposureTable?.map fun name => ⟨name, t.exposure⟩).toList

end CompiledTree

/-- The branches of a request, one for each target. -/
def Catalog.branches (c : Catalog) (tree : Tree) (simulated : Bool) (b : BranchRequest) :
    Except SelectionError (List Branch) :=
  b.scope.targets.mapM fun target => c.branch tree.cuts b.entry tree.mode target simulated

/-- Compiles a tree for a kind of sample. -/
def Catalog.tree (c : Catalog) (tree : Tree) (simulated : Bool) :
    Except SelectionError CompiledTree := do
  let branches ← tree.branches.mapM (c.branches tree simulated)
  let exposure ← if tree.addExposure then c.exposureBranches tree.cuts simulated else pure []
  return ⟨tree.name, branches.flatten, exposure⟩

/-! ## Samples -/

structure CompiledSample where
  sample : Sample
  trees : List CompiledTree

/-- Whether a tree is made for a sample: some are made for simulation only. -/
def Tree.appliesTo (tree : Tree) (s : Sample) : Bool := !tree.simOnly || s.simulated

def Catalog.sample (c : Catalog) (trees : List Tree) (s : Sample) :
    Except AnalysisError CompiledSample := do
  let trees ← (trees.filter (·.appliesTo s)).mapM fun tree =>
    (c.tree tree s.simulated).mapError (.compile s.name tree.name)
  return ⟨s, trees⟩

namespace CompiledSample

/-- The tables of all trees, in their order. -/
def tables (s : CompiledSample) : List TableSpec := s.trees.flatMap (·.tables)

/-- Appends a record to every table, unless it is an error. -/
def step (s : CompiledSample) (tables : List Table) (item : RecordItem) :
    Except RecordError (List Table) := do
  let spill ← item
  return List.zipWith (TableSpec.append spill) s.tables tables

/-- The tables that some records fill, or the first error among the records. -/
def process (s : CompiledSample) (items : List RecordItem) : Except RecordError (List Table) :=
  items.foldlM s.step (s.tables.map TableSpec.empty)

end CompiledSample

/-! ## Analyses -/

structure Analysis where
  config : Config
  samples : List CompiledSample

/-- The catalog with the categories of a configuration, if it has any. -/
def Catalog.withCategories (c : Catalog) (config : Config) : Except AnalysisError Catalog :=
  if config.categories.isEmpty then .ok c
  else (c.publishCategories config.categories).mapError .category

/-- Compiles a configuration. -/
def Analysis.compile (config : Config) (c : Catalog) : Except AnalysisError Analysis := do
  let c ← c.withCategories config
  return ⟨config, ← config.enabled.mapM (c.sample config.trees)⟩

end SpillSelection
