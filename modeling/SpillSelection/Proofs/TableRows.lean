import SpillSelection.Proofs.JsonText
import SpillSelection.Proofs.SpillCodec
import SpillSelection.Proofs.TableFiles
/-!
# Rows that are read back

A row is written as an object sorted by name, in which a name that comes twice would take the place
of a value. The columns of a tree are checked when its configuration is read, by the names that its
branches get when they are compiled, and every such name has an underscore, which the names of a
row's place have not. So a row's object keeps all of its values (`TableRow.givesBack_toJson`), and
the text of a table is read back line by line as its rows (`tables_read_back`).
-/

namespace SpillSelection

open Json

/-! ## The object of a row -/

/-- The names of the parts of a row's place. -/
def placeNames : List String := ["run", "subrun", "event"]

/-- Columns with different names, none of them that of a part of a row's place. -/
structure OwnNames (columns : List String) : Prop where
  nodup : columns.Nodup
  apart : ∀ name ∈ columns, name ∉ placeNames

theorem OwnNames.nodup_append {columns : List String} (h : OwnNames columns) :
    (placeNames ++ columns).Nodup :=
  List.nodup_append.2 ⟨by decide, h.nodup, fun _ place _ column same =>
    h.apart _ column (same ▸ place)⟩

/-- Members of an object that give back a row: its place, and in every column its value, where
`null` stands for a value that is not finite. -/
structure GivesBack (columns : List String) (row : TableRow) (members : List (String × Json)) :
    Prop where
  count : members.length = 3 + columns.length
  nodup : (members.map (·.1)).Nodup
  run : ∃ v, member? "run" (.object members) = some v ∧ asInt64 v = .ok row.run
  subrun : ∃ v, member? "subrun" (.object members) = some v ∧ asInt64 v = .ok row.subrun
  event : ∃ v, member? "event" (.object members) = some v ∧ asInt64 v = .ok row.event
  values : List.Forall₂ (fun column x => ∃ v, member? column (.object members) = some v ∧
    (v = .null ↔ x.isFinite = false) ∧ (x.isFinite → ReadsBack x → asFloat v = .ok x))
    columns row.values

theorem ofFloat_eq_null_iff {x : Float} : ofFloat x = .null ↔ x.isFinite = false := by
  unfold ofFloat Decimal.text?
  cases x.isFinite <;> simp

namespace TableRow

/-- The members of a row's object, in the order of the columns. -/
def members (columns : List String) (row : TableRow) : List (String × Json) :=
  ("run", .ofInt row.run.toInt) :: ("subrun", .ofInt row.subrun.toInt) ::
    ("event", .ofInt row.event.toInt) :: columns.zip (row.values.map .ofFloat)

variable {columns : List String} {row : TableRow}

theorem names_members (width : row.values.length = columns.length) :
    (row.members columns).map (·.1) = placeNames ++ columns := by
  have named : (columns.zip (row.values.map Json.ofFloat)).map (·.1) = columns :=
    List.map_fst_zip (by simp [width])
  simp [members, named, placeNames]

theorem hasNumerals_toJson (columns : List String) (row : TableRow) :
    (row.toJson columns).HasNumerals := by
  obtain ⟨members, object, each⟩ := row.forall_toJson hasNumerals_ofInt hasNumerals_ofFloat columns
  rw [object]
  exact .object each

/-- The object of a row with one value for each column gives the row back. -/
theorem givesBack_toJson (named : OwnNames columns) (width : row.values.length = columns.length) :
    ∃ members, row.toJson columns = .object members ∧ GivesBack columns row members := by
  have nodup : ((row.members columns).map (·.1)).Nodup := by
    rw [names_members width]
    exact named.nodup_append
  obtain ⟨sorted, object, perm⟩ := exists_perm_sortedObject nodup
  refine ⟨sorted, object, ?_⟩
  -- Sorting drops no member, so each is found by its name where the row has put it.
  have found {name : String} {v : Json} (hm : (name, v) ∈ row.members columns) :
      member? name (.object sorted) = some v := member?_of_mem perm nodup hm
  have size := congrArg List.length (names_members width)
  rw [List.length_map, List.length_append] at size
  exact {
    count := perm.length_eq.trans size
    nodup := (perm.map (·.1)).nodup_iff.2 nodup
    run := ⟨_, found (by simp [members]), asInt64_ofInt row.run⟩
    subrun := ⟨_, found (by simp [members]), asInt64_ofInt row.subrun⟩
    event := ⟨_, found (by simp [members]), asInt64_ofInt row.event⟩
    values := by
      refine List.forall₂_iff_zip.2 ⟨width.symm, fun {column x} placed => ?_⟩
      have member : (column, Json.ofFloat x) ∈ columns.zip (row.values.map Json.ofFloat) := by
        rw [List.zip_map_right]
        exact List.mem_map_of_mem placed
      exact ⟨Json.ofFloat x, found (by simp [members, member]), ofFloat_eq_null_iff,
        asFloat_ofFloat⟩ }

end TableRow

/-! ## Columns of trees -/

/-- Every branch has an underscore after its target or its side. -/
theorem VariableEntry.underscore_mem_branchName (v : VariableEntry) (target : Target) :
    '_' ∈ (v.branchName target).toList := by
  unfold branchName
  split <;> simp

theorem ownNames_of_underscore {columns : List String} (nodup : columns.Nodup)
    (h : ∀ name ∈ columns, '_' ∈ name.toList) : OwnNames columns := by
  refine ⟨nodup, fun name column place => ?_⟩
  have plain : ∀ name ∈ placeNames, '_' ∉ name.toList := by decide
  exact plain name place (h name column)

theorem Tree.columns_requests (tree : Tree) :
    (tree.requests.map fun r => r.1.branchName r.2) =
      tree.branches.flatMap BranchRequest.columns := by
  rw [Tree.requests, List.map_flatMap]
  refine List.flatMap_congr fun b _ => ?_
  rw [List.map_map]
  rfl

theorem Config.columns_nodup_of_parse {text : String} {c : Config} (h : parse text = .ok c) :
    ∀ tree ∈ c.trees, (tree.branches.flatMap BranchRequest.columns).Nodup := by
  obtain ⟨d, digest, valid, becomes⟩ := exists_draft_of_parse h
  intro tree ht
  obtain ⟨draft, hdraft, branches⟩ := exists_of_mem_forall₂ becomes.trees ht
  rw [columns_of_becomes branches.branches]
  exact (valid.trees draft hdraft).columns

section Compiled

variable {c : Catalog} {tree : Tree} {simulated : Bool} {compiled : CompiledTree}

theorem ownNames_mainTable (h : c.tree tree simulated = .ok compiled)
    (nodup : (tree.branches.flatMap BranchRequest.columns).Nodup) :
    OwnNames compiled.mainTable.columns := by
  have columns : compiled.mainTable.columns = _ := tree_columns h
  rw [columns]
  refine ownNames_of_underscore (tree.columns_requests ▸ nodup) fun name hname => ?_
  obtain ⟨r, -, rfl⟩ := List.mem_map.1 hname
  exact r.1.underscore_mem_branchName r.2

theorem ownNames_exposureTable (h : c.tree tree simulated = .ok compiled) :
    OwnNames compiled.exposureTable.columns := by
  have columns : compiled.exposureTable.columns = exposureNames ∨
      compiled.exposureTable.columns = [] := by
    obtain ⟨_, _, -, made, rfl⟩ := tree_ok_iff.1 h
    split at made
    · exact .inl (map_name_exposureBranches made)
    · cases made
      exact .inr rfl
  rcases columns with columns | columns
  · rw [columns]
    exact ⟨by decide, by decide⟩
  · rw [columns]
    exact ⟨by decide, by decide⟩

theorem ownNames_of_mem_tables {t : CompiledTree} (main : OwnNames t.mainTable.columns)
    (exposure : OwnNames t.exposureTable.columns) {table : TableSpec} (h : table ∈ t.tables) :
    OwnNames table.columns := by
  unfold CompiledTree.tables CompiledTree.exposureTable? at h
  cases none : t.exposure.isEmpty with
  | true =>
    obtain rfl : table = t.mainTable := by simpa [none, CompiledTree.mainTable] using h
    exact main
  | false =>
    obtain rfl | rfl : table = t.mainTable ∨ table = t.exposureTable := by
      simpa [none, CompiledTree.mainTable, CompiledTree.exposureTable] using h
    · exact main
    · exact exposure

/-- A tree of an analysis comes from a tree of its configuration. -/
theorem exists_tree_of_compile {config : Config} {a : Analysis}
    (h : Analysis.compile config c = .ok a) {s : CompiledSample} (hs : s ∈ a.samples)
    {t : CompiledTree} (ht : t ∈ s.trees) :
    ∃ (c' : Catalog) (tree : Tree) (simulated : Bool), tree ∈ config.trees ∧
      c'.tree tree simulated = .ok t := by
  obtain ⟨-, c', -, each⟩ := compile_ok_iff.1 h
  obtain ⟨sample, -, made⟩ := exists_of_mem_forall₂ each hs
  obtain ⟨tree, applies, made⟩ := exists_of_mem_forall₂ (sample_ok_iff.1 made).2 ht
  exact ⟨c', tree, sample.simulated, (List.mem_filter.1 applies).1, made⟩

end Compiled

/-! ## Tables that are read back -/

theorem TableSpec.width_filled (t : TableSpec) (spills : List Spill) :
    ∀ row ∈ (t.filled spills).rows.toList, row.values.length = t.columns.length := by
  intro row hrow
  simp only [filled, List.mem_flatMap] at hrow
  obtain ⟨spill, -, hrow⟩ := hrow
  obtain ⟨values, hvalues, rfl⟩ := List.mem_map.1 hrow
  have width : values.length = _ := length_of_mem_replicate hvalues
  simpa [columns, TableRow.ofValues] using width

/-- Lines that are the text of a table and give back its rows, one line for each row. -/
structure Table.IsWrittenAs (t : Table) (lines : List String) : Prop where
  count : lines.length = t.rows.size
  text : t.text = String.join (lines.map (· ++ "\n"))
  ended : ∀ line ∈ lines, '\n' ∉ line.toList
  rows : List.Forall₂ (fun row line => ∃ members, parse? line.toList = some (.object members) ∧
    GivesBack t.columns row members) t.rows.toList lines

theorem Table.isWrittenAs_lines {t : Table} (named : OwnNames t.columns)
    (width : ∀ row ∈ t.rows.toList, row.values.length = t.columns.length) :
    t.IsWrittenAs (t.rows.toList.map t.line) where
  count := by simp
  text := by rw [Table.text, List.map_map]; rfl
  ended := by
    intro line hline
    obtain ⟨row, -, rfl⟩ := List.mem_map.1 hline
    exact row.isOneLine_toJson t.columns
  rows := by
    refine List.forall₂_map_right_iff.2 (List.forall₂_same.2 fun row hrow => ?_)
    obtain ⟨members, object, back⟩ := TableRow.givesBack_toJson named (width row hrow)
    exact ⟨members, object ▸ parse?_compact (row.hasNumerals_toJson t.columns), back⟩

/-- The columns of every tree of a configuration that was read have names of their own, those of
its main table as those of its exposure table. So whatever spills a sample processes, the text of
each of its tables has one line for each row, and the line is read back as the row. -/
theorem tables_read_back {text : String} {config : Config} {c : Catalog} {a : Analysis}
    (parsed : Config.parse text = .ok config) (compiled : Analysis.compile config c = .ok a)
    {s : CompiledSample} (hs : s ∈ a.samples) :
    (∀ t ∈ s.trees, OwnNames t.mainTable.columns ∧ OwnNames t.exposureTable.columns) ∧
    ∀ items tables, s.process items = .ok tables →
      ∀ t ∈ tables, ∃ lines, t.IsWrittenAs lines := by
  have own : ∀ t ∈ s.trees, OwnNames t.mainTable.columns ∧ OwnNames t.exposureTable.columns := by
    intro t ht
    obtain ⟨c', tree, simulated, declared, made⟩ := exists_tree_of_compile compiled hs ht
    have nodup := Config.columns_nodup_of_parse parsed tree declared
    exact ⟨ownNames_mainTable made nodup, ownNames_exposureTable made⟩
  refine ⟨own, fun items tables processed t ht => ?_⟩
  obtain ⟨spills, -, rfl⟩ := process_ok_iff.1 processed
  rw [← s.map_filled_tables] at ht
  obtain ⟨spec, hspec, rfl⟩ := List.mem_map.1 ht
  obtain ⟨tree, htree, hspec⟩ := List.mem_flatMap.1 hspec
  have named : OwnNames spec.columns :=
    ownNames_of_mem_tables (own tree htree).1 (own tree htree).2 hspec
  exact ⟨_, Table.isWrittenAs_lines named (spec.width_filled spills)⟩

/-- A tree with a column for each side of an interaction, and with its exposure. -/
def bothColumns : String :=
  "general.output = \"o\"\n" ++
  "[[sample]]\nname = \"a\"\npath = \"r\"\nismc = true\n" ++
  "[[tree]]\nname = \"t\"\nmode = \"reco\"\nadd_exposure = true\n" ++
  "[[tree.branch]]\nname = \"contained\"\ntype = \"both\"\n"

/-- The columns and the text of the two tables of a spill in which one interaction has no match. -/
def bothTables : List (List String × String) :=
  [(["true_contained", "reco_contained"],
    "\x7b\"event\":0,\"reco_contained\":1.0,\"run\":0,\"subrun\":0,\"true_contained\":0.0\x7d\n" ++
    "\x7b\"event\":0,\"reco_contained\":1.0,\"run\":0,\"subrun\":0,\"true_contained\":null\x7d\n"),
   (["livetime", "pot"],
    "\x7b\"event\":0,\"livetime\":0.0,\"pot\":0.0,\"run\":0,\"subrun\":0\x7d\n")]

theorem process_bothColumns :
    ((Config.parse bothColumns).toOption.bind fun config =>
      (Analysis.compile config containedCatalog).toOption.bind fun a =>
        a.samples.head?.bind fun s => (s.process [.ok matchedSpill]).toOption).map
      (fun tables => tables.map fun t => (t.columns, t.text)) = some bothTables := by
  decide +kernel

/-- A row without a match keeps its column, with `null`, and is read back as it is. -/
theorem tables_read_back_bothColumns : ∃ config a s tables,
    Config.parse bothColumns = .ok config ∧ Analysis.compile config containedCatalog = .ok a ∧
      s ∈ a.samples ∧ s.process [.ok matchedSpill] = .ok tables ∧
      tables.map (fun t => (t.columns, t.text)) = bothTables ∧
      (∀ t ∈ s.trees, OwnNames t.mainTable.columns ∧ OwnNames t.exposureTable.columns) ∧
      ∀ t ∈ tables, ∃ lines, t.IsWrittenAs lines := by
  obtain ⟨tables, found, texts⟩ := Option.map_eq_some_iff.1 process_bothColumns
  simp only [Option.bind_eq_some_iff, toOption_eq_some_iff] at found
  obtain ⟨config, parsed, a, compiled, s, first, processed⟩ := found
  have hs : s ∈ a.samples := List.mem_of_mem_head? first
  obtain ⟨own, back⟩ := tables_read_back parsed compiled hs
  exact ⟨config, a, s, tables, parsed, compiled, hs, processed, texts, own,
    back _ tables processed⟩

end SpillSelection
