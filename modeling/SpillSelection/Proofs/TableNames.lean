import Mathlib.Data.List.Nodup
import Mathlib.Data.List.Pairwise
import SpillSelection.Proofs.Processing
import SpillSelection.Proofs.Reduction
import SpillSelection.Proofs.RunFiles
/-!
# The names of tables

The names of samples and of trees are checked when a configuration is read, but a tree that asks
for its exposure fills a second table, and the name of that one is made up afterwards. So tables of
one sample may share a name: `tableNames_nodup_iff` says when.
-/

namespace SpillSelection

/-! ## Names that are checked -/

/-- The names of samples and of trees are used once each, and those of samples are identifiers. -/
structure Config.WellNamed (c : Config) : Prop where
  samples : (c.samples.map (·.name)).Nodup
  trees : (c.trees.map (·.name)).Nodup
  identifiers : ∀ s ∈ c.samples, isIdentifier s.name

theorem Config.wellNamed_of_parse {text : String} {c : Config} (h : parse text = .ok c) :
    c.WellNamed := by
  obtain ⟨d, digest, valid, becomes⟩ := exists_draft_of_parse h
  refine ⟨becomes.sampleNames ▸ valid.sampleNames, becomes.treeNames ▸ valid.treeNames, ?_⟩
  intro s hs
  rw [becomes.samples] at hs
  obtain ⟨draft, hdraft, rfl⟩ := List.mem_map.1 hs
  exact isIdentifier_iff.2 (valid.samples draft hdraft)

/-! ## Compiled analyses -/

/-- A sample is compiled with the trees that apply to it. -/
theorem sample_ok_iff {c : Catalog} {trees : List Tree} {s : Sample} {compiled : CompiledSample} :
    c.sample trees s = .ok compiled ↔ compiled.sample = s ∧
      List.Forall₂ (fun tree t => c.tree tree s.simulated = .ok t) (trees.filter (·.appliesTo s))
        compiled.trees := by
  simp only [Catalog.sample, ok_bind_iff, ok_pure_iff, ok_mapM_iff, ok_mapError_iff]
  constructor
  · rintro ⟨_, each, rfl⟩
    exact ⟨rfl, each⟩
  · rintro ⟨rfl, each⟩
    exact ⟨compiled.trees, each, rfl⟩

/-- An analysis has the enabled samples, compiled against one catalog. -/
theorem compile_ok_iff {config : Config} {c : Catalog} {a : Analysis} :
    Analysis.compile config c = .ok a ↔ a.config = config ∧
      ∃ c', c.withCategories config = .ok c' ∧
        List.Forall₂ (fun s compiled => c'.sample config.trees s = .ok compiled) config.enabled
          a.samples := by
  simp only [Analysis.compile, ok_bind_iff, ok_pure_iff, ok_mapM_iff]
  constructor
  · rintro ⟨c', published, _, each, rfl⟩
    exact ⟨rfl, c', published, each⟩
  · rintro ⟨rfl, c', published, each⟩
    exact ⟨c', published, a.samples, each, rfl⟩

/-! ## The tables of trees -/

/-- The names of the tables that a tree fills. -/
def Tree.tableNames (t : Tree) : List String :=
  t.name :: if t.addExposure then [exposureName t.name] else []

theorem map_name_exposureBranches {c : Catalog} {entries : List CutEntry} {simulated : Bool}
    {branches : List Branch} (h : c.exposureBranches entries simulated = .ok branches) :
    branches.map (·.name) = exposureNames := by
  simp only [Catalog.exposureBranches, ok_bind_iff, ok_pure_iff] at h
  obtain ⟨_, -, rfl⟩ := h
  rfl

theorem tree_tableNames {c : Catalog} {tree : Tree} {simulated : Bool} {compiled : CompiledTree}
    (h : c.tree tree simulated = .ok compiled) :
    compiled.tables.map (·.name) = tree.tableNames := by
  obtain ⟨_, exposure, -, made, rfl⟩ := tree_ok_iff.1 h
  have asked : exposure.isEmpty = !tree.addExposure := by
    split at made
    · rename_i add
      have names := map_name_exposureBranches made
      have some : exposure ≠ [] := by
        rintro rfl
        cases names
      simp [add, some]
    · rename_i add
      cases made
      simp [add]
  simp only [CompiledTree.tables, CompiledTree.exposureTable?, Tree.tableNames, asked]
  cases tree.addExposure <;> rfl

/-- The tables of a compiled sample, by their names. -/
theorem sample_tableNames {c : Catalog} {trees : List Tree} {s : Sample} {compiled : CompiledSample}
    (h : c.sample trees s = .ok compiled) :
    compiled.sample = s ∧ compiled.tables.map (·.name) =
      (trees.filter (·.appliesTo s)).flatMap Tree.tableNames := by
  obtain ⟨same, each⟩ := sample_ok_iff.1 h
  refine ⟨same, ?_⟩
  rw [CompiledSample.tables]
  generalize trees.filter (·.appliesTo s) = trees at each
  generalize compiled.trees = compiledTrees at each
  induction each with
  | nil => rfl
  | cons ht _ ih =>
    rw [List.flatMap_cons, List.map_append, List.flatMap_cons, tree_tableNames ht]
    exact congrArg (_ ++ ·) ih

/-! ## Records change no names -/

theorem process_names {s : CompiledSample} {items : List RecordItem} {tables : List Table}
    (h : s.process items = .ok tables) : tables.map (·.name) = s.tables.map (·.name) := by
  obtain ⟨spills, -, rfl⟩ := process_ok_iff.1 h
  rw [← s.map_filled_tables, List.map_map]
  rfl

/-! ## The tables of a run -/

/-- The tables that a run of a configuration writes, in their order: each by the names of its
sample and of the table. -/
def Config.tableNames (c : Config) : List (String × String) :=
  c.enabled.flatMap fun s =>
    ((c.trees.filter (·.appliesTo s)).flatMap Tree.tableNames).map (Prod.mk s.name)

/-- The names of a table and of its sample. -/
def WrittenTable.names (w : WrittenTable) : String × String := (w.sample.name, w.table.name)

theorem written_names {c : Catalog} {trees : List Tree} {samples : List Sample}
    {compiled : List CompiledSample} {output : String} {d : FileMap} {ws : List WrittenTable}
    (each : List.Forall₂ (fun s compiled => c.sample trees s = .ok compiled) samples compiled)
    (h : Analysis.written output d compiled = .ok ws) :
    ws.map (·.names) = samples.flatMap fun s =>
      ((trees.filter (·.appliesTo s)).flatMap Tree.tableNames).map (Prod.mk s.name) := by
  induction each generalizing d ws with
  | nil =>
    cases h
    rfl
  | cons hs _ ih =>
    obtain ⟨tables, later, filled, wrote, rfl⟩ := Analysis.written_cons_ok_iff.1 h
    obtain ⟨rfl, names⟩ := sample_tableNames hs
    obtain ⟨items, -, processed⟩ := ok_bind_iff.1 filled
    rw [List.map_append, ih wrote, List.flatMap_cons, ← names, ← process_names processed]
    simp [WrittenTable.names, Function.comp_def]

theorem config_tableNames {c : Catalog} {config : Config} {a : Analysis} {output : String}
    {d : FileMap} {ws : List WrittenTable} (compiled : Analysis.compile config c = .ok a)
    (h : Analysis.written output d a.samples = .ok ws) :
    ws.map (·.names) = config.tableNames := by
  obtain ⟨-, _, -, each⟩ := compile_ok_iff.1 compiled
  exact written_names each h

/-! ## Repeated names -/

/-- On some enabled sample a tree has the name that is made up for the exposure table of a tree. -/
def Config.Clashes (c : Config) : Prop :=
  ∃ s ∈ c.enabled, ∃ t ∈ c.trees, ∃ u ∈ c.trees, t.appliesTo s ∧ u.appliesTo s ∧
    t.addExposure ∧ u.name = exposureName t.name

instance (c : Config) : Decidable c.Clashes :=
  inferInstanceAs (Decidable (∃ s ∈ c.enabled, ∃ t ∈ c.trees, ∃ u ∈ c.trees,
    t.appliesTo s ∧ u.appliesTo s ∧ t.addExposure ∧ u.name = exposureName t.name))

theorem exposureName_ne (name : String) : exposureName name ≠ name := by
  intro same
  have lengths := congrArg String.length same
  rw [exposureName, String.length_append] at lengths
  exact absurd (Nat.add_eq_left.1 lengths) (by decide)

theorem exposureName_inj {name name' : String} (same : exposureName name = exposureName name') :
    name = name' :=
  (String.append_left_inj _).1 same

theorem Tree.mem_tableNames {t : Tree} {name : String} :
    name ∈ t.tableNames ↔ name = t.name ∨ t.addExposure ∧ name = exposureName t.name := by
  unfold Tree.tableNames
  cases t.addExposure <;> simp

theorem Tree.tableNames_nodup (t : Tree) : t.tableNames.Nodup := by
  unfold Tree.tableNames
  cases t.addExposure
  · simp
  · simpa using (exposureName_ne t.name).symm

/-- The tables of some trees with different names. -/
theorem flatMap_tableNames_nodup_iff {trees : List Tree} (h : (trees.map (·.name)).Nodup) :
    (trees.flatMap Tree.tableNames).Nodup ↔
      ∀ t ∈ trees, ∀ u ∈ trees, t.addExposure → u.name ≠ exposureName t.name := by
  rw [List.nodup_flatMap]
  constructor
  · rintro ⟨-, disjoint⟩ t ht u hu add same
    have differ : u ≠ t := fun equal =>
      exposureName_ne t.name ((congrArg Tree.name equal) ▸ same.symm)
    have apart : List.Disjoint u.tableNames t.tableNames :=
      haveI : Std.Symm (Function.onFun List.Disjoint Tree.tableNames) :=
        ⟨fun _ _ apart _ first second => apart second first⟩
      disjoint.forall hu ht differ
    exact apart (Tree.mem_tableNames.2 (.inl rfl)) (Tree.mem_tableNames.2 (.inr ⟨add, same⟩))
  · intro clear
    refine ⟨fun t _ => t.tableNames_nodup, ?_⟩
    have differ : trees.Pairwise fun t u => t.name ≠ u.name := List.pairwise_map.1 h
    refine differ.imp_of_mem fun {t u} ht hu names name inT inU => ?_
    rcases Tree.mem_tableNames.1 inT with rfl | ⟨addT, rfl⟩
    · rcases Tree.mem_tableNames.1 inU with same | ⟨addU, same⟩
      · exact names same
      · exact clear u hu t ht addU same
    · rcases Tree.mem_tableNames.1 inU with same | ⟨-, same⟩
      · exact clear t ht u hu addT same.symm
      -- Two exposure tables share a name only if their trees do.
      · exact names (exposureName_inj same)

/-- The tables of a run have different names unless some tree is called like an exposure table. -/
theorem Config.tableNames_nodup_iff {c : Config} (h : c.WellNamed) :
    c.tableNames.Nodup ↔ ¬ c.Clashes := by
  have samples : c.enabled.Pairwise fun s s' => s.name ≠ s'.name :=
    (List.pairwise_map.1 h.samples).filter _
  have perSample : c.tableNames.Nodup ↔
      ∀ s ∈ c.enabled, ((c.trees.filter (·.appliesTo s)).flatMap Tree.tableNames).Nodup := by
    rw [Config.tableNames, List.nodup_flatMap]
    have apart : c.enabled.Pairwise (Function.onFun List.Disjoint fun s =>
        ((c.trees.filter (·.appliesTo s)).flatMap Tree.tableNames).map (Prod.mk s.name)) := by
      refine samples.imp fun {s s'} names pair inS inS' => ?_
      obtain ⟨_, -, rfl⟩ := List.mem_map.1 inS
      obtain ⟨_, -, same⟩ := List.mem_map.1 inS'
      exact names (congrArg Prod.fst same).symm
    rw [and_iff_left apart]
    refine forall₂_congr fun s _ => ?_
    exact List.nodup_map_iff fun _ _ same => congrArg Prod.snd same
  have trees : ∀ s : Sample, ((c.trees.filter (·.appliesTo s)).map (·.name)).Nodup := fun s =>
    h.trees.sublist (List.filter_sublist.map _)
  rw [perSample, Config.Clashes]
  simp only [flatMap_tableNames_nodup_iff (trees _), List.mem_filter]
  constructor
  · rintro clear ⟨s, hs, t, ht, u, hu, appliesT, appliesU, add, same⟩
    exact clear s hs t ⟨ht, appliesT⟩ u ⟨hu, appliesU⟩ add same
  · rintro clear s hs t ⟨ht, appliesT⟩ u ⟨hu, appliesU⟩ add same
    exact clear ⟨s, hs, t, ht, u, hu, appliesT, appliesU, add, same⟩

end SpillSelection
