import SpillSelection.Analysis
import SpillSelection.Proofs.RowSemantics
/-!
# Aligned columns

The branches of a tree are compiled and evaluated one by one, and their values are put side by side
afterwards. When every branch gives one value for each row that passes, the lists have one length,
and `replicate` neither repeats nor pads: `append_aligned` says that each new row of the table holds
the values of one interaction.
-/

namespace SpillSelection

/-! ## Laying out lists -/

theorem foldl_max_le_iff (lengths : List Nat) (start bound : Nat) :
    lengths.foldl max start ≤ bound ↔ start ≤ bound ∧ ∀ n ∈ lengths, n ≤ bound := by
  induction lengths generalizing start with
  | nil => simp
  | cons n lengths ih => rw [List.foldl_cons, ih, Nat.max_le, List.forall_mem_cons, and_assoc]

theorem longest_le_iff (values : List (List Float)) (bound : Nat) :
    longest values ≤ bound ↔ ∀ column ∈ values, column.length ≤ bound := by
  simp [longest, foldl_max_le_iff]

theorem length_le_longest {values : List (List Float)} {column : List Float}
    (h : column ∈ values) : column.length ≤ longest values :=
  (longest_le_iff values _).1 (Nat.le_refl _) column h

/-- Where a list has a value, that value stands on the row. -/
theorem entryOn_of_lt {row : Nat} {values : List Float} (h : row < values.length) :
    entryOn row values = values[row] := by
  unfold entryOn
  split
  -- A single value stands on every row, but only the first row is inside the list.
  · have first : row = 0 := by simpa using h
    simp [first]
  · simp [h]

/-- A row has as many values as there are lists of them. -/
theorem length_of_mem_replicate {values : List (List Float)} {row : List Float}
    (h : row ∈ replicate values) : row.length = values.length := by
  obtain ⟨n, -, rfl⟩ := List.mem_map.1 h
  exact List.length_map _

/-- Columns with a value for each of some items are laid out as one row for each item. -/
theorem replicate_map_map {α : Type} {columns : List (α → Float)} (some : columns ≠ [])
    (items : List α) :
    replicate (columns.map fun f => items.map f) = items.map fun a => columns.map fun f => f a := by
  have rows : longest (columns.map fun f => items.map f) = items.length := by
    obtain ⟨f, hf⟩ := List.exists_mem_of_ne_nil columns some
    refine Nat.le_antisymm ((longest_le_iff _ _).2 ?_) ?_
    · rintro _ hcolumn
      obtain ⟨g, -, rfl⟩ := List.mem_map.1 hcolumn
      simp
    · have column : items.map f ∈ columns.map fun f => items.map f := List.mem_map_of_mem hf
      simpa using length_le_longest column
  unfold replicate
  rw [rows]
  refine List.ext_getElem (by simp) fun row hrow _ => ?_
  have inside : row < items.length := by simpa using hrow
  simp only [List.getElem_map, List.getElem_range, List.map_map]
  refine List.map_congr_left fun f _ => ?_
  simp only [Function.comp_apply]
  rw [entryOn_of_lt (by simpa using inside)]
  simp

/-! ## The branches of a tree -/

/-- The variables of a tree with the targets that they are taken on, in the order of its columns. -/
def Tree.requests (tree : Tree) : List (VariableEntry × Target) :=
  tree.branches.flatMap fun b => b.scope.targets.map fun target => (b.entry, target)

/-- A request that gives one value for each row: anything but particles without a selector. -/
def IsSingleValued (v : VariableEntry) : Target → Prop
  | .particle _ => v.selector.isSome
  | _ => True

/-- The main table of a tree. -/
def CompiledTree.mainTable (t : CompiledTree) : TableSpec := ⟨t.name, t.branches⟩

variable {c : Catalog} {tree : Tree} {simulated : Bool} {compiled : CompiledTree} {s : Side}

theorem tree_ok_iff : c.tree tree simulated = .ok compiled ↔
    ∃ groups exposure, tree.branches.mapM (c.branches tree simulated) = .ok groups ∧
      (if tree.addExposure then c.exposureBranches tree.cuts simulated else .ok []) = .ok exposure ∧
      ⟨tree.name, groups.flatten, exposure⟩ = compiled := by
  unfold Catalog.tree
  cases tree.addExposure <;> simp

/-- A compiled tree has a branch for each of its requests. -/
theorem tree_branches (h : c.tree tree simulated = .ok compiled) :
    List.Forall₂ (fun r b => c.branch tree.cuts r.1 tree.mode r.2 simulated = .ok b)
      tree.requests compiled.branches := by
  obtain ⟨groups, _, each, -, rfl⟩ := tree_ok_iff.1 h
  rw [ok_mapM_iff] at each
  unfold Tree.requests
  clear h
  generalize tree.branches = requests at each
  induction each with
  | nil => exact .nil
  | cons hb _ ih =>
    rw [List.flatMap_cons, List.flatten_cons]
    refine List.rel_append ?_ ih
    rw [List.forall₂_map_left_iff]
    exact ok_mapM_iff.1 hb

theorem tree_columns (h : c.tree tree simulated = .ok compiled) :
    compiled.columns = tree.requests.map fun r => r.1.branchName r.2 := by
  refine (map_eq_map_of_forall₂ (tree_branches h) fun r _ b hb => ?_).symm
  obtain ⟨-, rfl⟩ := branch_ok_iff.1 hb
  rfl

theorem rowValues_of_single {entries : List CutEntry} {v : VariableEntry} {target : Target}
    (h : IsSingleValued v target) (spill : Spill) (i : Interaction s) :
    c.rowValues entries v target simulated spill i = [c.rowValue v target simulated spill i] := by
  unfold Catalog.rowValues
  split
  case h_1 none => simp [IsSingleValued, none] at h
  case h_2 => rfl

/-- A branch of single values has one for each row that passes. -/
theorem evaluate_of_single {entries : List CutEntry} {v : VariableEntry} {target : Target}
    {b : Branch} (h : c.branch entries v (.interactions s) target simulated = .ok b)
    (single : IsSingleValued v target) (spill : Spill) :
    b.evaluate spill =
      (c.passing entries s simulated spill).map (c.rowValue v target simulated spill) := by
  obtain ⟨-, rfl⟩ := branch_ok_iff.1 h
  calc c.evaluation simulated (entries.filterMap (c.participant? simulated)) v target
        (.interactions s) spill
      = (c.passing entries s simulated spill).flatMap
          (c.rowValues entries v target simulated spill) := evaluation_eq_interpret ..
    _ = (c.passing entries s simulated spill).flatMap
          fun i => [c.rowValue v target simulated spill i] :=
        List.flatMap_congr fun i _ => rowValues_of_single single spill i
    _ = (c.passing entries s simulated spill).map (c.rowValue v target simulated spill) :=
        List.flatMap_pure_eq_map ..

/-- The values that the branches of a tree give for a spill, column by column. -/
theorem tree_values (h : c.tree tree simulated = .ok compiled) (mode : tree.mode = .interactions s)
    (single : ∀ r ∈ tree.requests, IsSingleValued r.1 r.2) (spill : Spill) :
    (compiled.branches.map fun b => b.evaluate spill) =
      tree.requests.map fun r =>
        (c.passing tree.cuts s simulated spill).map (c.rowValue r.1 r.2 simulated spill) := by
  refine (map_eq_map_of_forall₂ (tree_branches h) fun r hr b hb => ?_).symm
  rw [mode] at hb
  exact (evaluate_of_single hb (single r hr) spill).symm

/-- A spill adds to the main table of a tree one row for each interaction that passes the cuts, in
their order, with the spill's place and in every column the value of that interaction. -/
theorem append_aligned (h : c.tree tree simulated = .ok compiled)
    (mode : tree.mode = .interactions s) (some : compiled.branches ≠ [])
    (single : ∀ r ∈ tree.requests, IsSingleValued r.1 r.2) (spill : Spill) (table : Table) :
    compiled.mainTable.columns = tree.requests.map (fun r => r.1.branchName r.2) ∧
      (compiled.mainTable.append spill table).rows.toList = table.rows.toList ++
        (c.passing tree.cuts s simulated spill).map fun i =>
          { run := spill.header.run
            subrun := spill.header.subrun
            event := spill.header.event
            values := tree.requests.map fun r => c.rowValue r.1 r.2 simulated spill i } := by
  refine ⟨tree_columns h, ?_⟩
  have requested :
      tree.requests.map (fun r => c.rowValue (s := s) r.1 r.2 simulated spill) ≠ [] := by
    rintro none
    rw [List.map_eq_nil_iff] at none
    have branches := tree_branches h
    rw [none, List.forall₂_nil_left_iff] at branches
    exact some branches
  have laid := replicate_map_map requested (c.passing tree.cuts s simulated spill)
  simp only [List.map_map, Function.comp_def] at laid
  unfold TableSpec.append Table.append
  rw [CompiledTree.mainTable, tree_values h mode single spill, laid]
  simp [TableRow.ofValues]

/-- A tree with a column for each side of a contained reco interaction. -/
def bothTree : Tree where
  name := "both"
  mode := .interactions .reco
  simOnly := false
  addExposure := false
  cuts := [{ name := "contained", object := .interaction .reco }]
  branches := [{ entry := { name := "contained" }, scope := .bothInteractions }]

/-- The second interaction has no match, and no number stands on its row. -/
theorem append_aligned_matchedSpill :
    ∃ compiled, containedCatalog.tree bothTree true = .ok compiled ∧
      compiled.mainTable.columns = ["true_contained", "reco_contained"] ∧
      (compiled.mainTable.append matchedSpill compiled.mainTable.empty).rows.toList.map
        (·.values) = [[0, 1], [nan, 1]] := by
  have single : ∀ r ∈ bothTree.requests, IsSingleValued r.1 r.2 := by
    simp [Tree.requests, bothTree, Scope.targets, IsSingleValued]
  obtain ⟨compiled, h⟩ : ∃ compiled, containedCatalog.tree bothTree true = .ok compiled := ⟨_, rfl⟩
  have some : compiled.branches ≠ [] := by
    intro none
    have columns := tree_columns h
    rw [CompiledTree.columns, none] at columns
    cases columns
  obtain ⟨columns, rows⟩ :=
    append_aligned (s := .reco) h rfl some single matchedSpill compiled.mainTable.empty
  refine ⟨compiled, h, columns, ?_⟩
  rw [rows]
  rfl

end SpillSelection
