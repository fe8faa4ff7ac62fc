import SpillSelection.Proofs.TableNames
import SpillSelection.Proofs.TableText
/-!
# The files of a run

The manifest of a run says of each table where it lies and how many rows it has. A table that is
written to the path of another takes the place of that one, whose entry stays in the manifest:
`run_keeps_tables_iff` says that this happens when the names of tables clash, and else never.
-/

namespace SpillSelection

/-! ## Paths -/

theorem append_slash_inj {front front' rest rest' : List Char} (h : '/' ∉ front)
    (h' : '/' ∉ front') (same : front ++ '/' :: rest = front' ++ '/' :: rest') :
    front = front' ∧ rest = rest' := by
  induction front generalizing front' with
  | nil =>
    cases front' with
    | nil => simpa using same
    | cons c cs =>
      simp only [List.nil_append, List.cons_append, List.cons.injEq] at same
      exact absurd (List.mem_cons.2 (.inl same.1)) h'
  | cons c cs ih =>
    cases front' with
    | nil =>
      simp only [List.nil_append, List.cons_append, List.cons.injEq] at same
      exact absurd (List.mem_cons.2 (.inl same.1.symm)) h
    | cons c' cs' =>
      simp only [List.cons_append, List.cons.injEq] at same
      simp only [List.mem_cons, not_or] at h h'
      obtain ⟨rfl, rfl⟩ := ih h.2 h'.2 same.2
      exact ⟨by rw [same.1], rfl⟩

theorem slash_not_mem_of_isIdentifier {name : String} (h : isIdentifier name) :
    '/' ∉ name.toList := by
  unfold isIdentifier at h
  split at h
  · cases h
  · rename_i c cs letters
    rw [letters, List.mem_cons, not_or]
    simp only [Bool.and_eq_true, List.all_eq_true] at h
    refine ⟨fun slash => ?_, fun slash => ?_⟩
    · exact absurd (slash ▸ h.1) (by decide)
    · exact absurd (h.2 _ slash) (by decide)

theorem toList_tablePath (sample table : String) : (Analysis.tablePath sample table).toList =
    sample.toList ++ '/' :: (table ++ ".jsonl").toList := by
  simp [Analysis.tablePath]

theorem tablePath_inj {sample sample' table table' : String} (h : isIdentifier sample)
    (h' : isIdentifier sample')
    (same : Analysis.tablePath sample table = Analysis.tablePath sample' table') :
    sample = sample' ∧ table = table' := by
  have chars := congrArg String.toList same
  rw [toList_tablePath, toList_tablePath] at chars
  obtain ⟨samples, tables⟩ := append_slash_inj (slash_not_mem_of_isIdentifier h)
    (slash_not_mem_of_isIdentifier h') chars
  exact ⟨String.toList_inj.1 samples, (String.append_left_inj _).1 (String.toList_inj.1 tables)⟩

theorem isAbsolute_tablePath {sample : String} (h : isIdentifier sample) (table : String) :
    Path.isAbsolute (Analysis.tablePath sample table) = false := by
  have noSlash := slash_not_mem_of_isIdentifier h
  unfold isIdentifier at h
  split at h
  · cases h
  · rename_i c cs letters
    rw [letters, List.mem_cons, not_or] at noSlash
    simpa [Path.isAbsolute, toList_tablePath, letters] using Ne.symm noSlash.1

/-- Paths that are read from one directory are told apart there. -/
theorem join_inj {base path path' : String} (h : Path.isAbsolute path = false)
    (h' : Path.isAbsolute path' = false) (same : Path.join base path = Path.join base path') :
    path = path' := by
  simp only [Path.join, h, h', Bool.false_or] at same
  split at same
  · exact same
  · split at same
    · exact (String.append_right_inj _).1 same
    · exact (String.append_right_inj _).1 same

theorem getLast?_append_of_some {front back : String} {c : Char}
    (h : back.toList.getLast? = some c) : (front ++ back).toList.getLast? = some c := by
  rw [String.toList_append, List.getLast?_append, h, Option.some_or]

theorem getLast?_join (base : String) {path : String} {c : Char}
    (h : path.toList.getLast? = some c) : (Path.join base path).toList.getLast? = some c := by
  unfold Path.join
  split
  · exact h
  · split <;> exact getLast?_append_of_some h

/-! ## The tables and their files -/

namespace WrittenTable

theorem file_eq (output : String) (w : WrittenTable) :
    w.file output = Path.join output (Analysis.tablePath w.names.1 w.names.2) := rfl

theorem names_eq_of_file_eq {output : String} {v w : WrittenTable} (hv : isIdentifier v.names.1)
    (hw : isIdentifier w.names.1) (same : v.file output = w.file output) : v.names = w.names := by
  rw [file_eq, file_eq] at same
  obtain ⟨samples, tables⟩ := tablePath_inj hv hw
    (join_inj (isAbsolute_tablePath hv _) (isAbsolute_tablePath hw _) same)
  exact Prod.ext samples tables

/-- The files of tables and of the manifest end in other letters. -/
theorem file_ne_manifest (output : String) (w : WrittenTable) :
    w.file output ≠ manifestPath output := by
  intro same
  have table : (w.file output).toList.getLast? = some 'l' :=
    getLast?_join output (getLast?_append_of_some (by decide))
  have manifest : (manifestPath output).toList.getLast? = some 'n' :=
    getLast?_join output (by decide)
  rw [same, manifest] at table
  exact absurd table (by decide)

/-- The manifest entry of a table is true of some files: the lines of the file that it names are
the rows of the table, and it counts them. -/
def IsKept (w : WrittenTable) (output : String) (d : FileMap) : Prop :=
  ∃ bytes, d (w.file output) = some bytes ∧
    Text.lines bytes = w.table.rows.toList.map (fun row => Text.utf8 (w.table.line row)) ∧
    w.record.rows = UInt64.ofNat (Text.lines bytes).length

theorem isKept_of_text {w : WrittenTable} {output : String} {d : FileMap}
    (h : d (w.file output) = some (Text.utf8 w.table.text)) : w.IsKept output d := by
  refine ⟨_, h, w.table.lines_text, ?_⟩
  rw [w.table.lines_text, List.length_map, Array.length_toList]
  rfl

end WrittenTable

theorem isIdentifier_of_mem_tableNames {c : Config} (h : c.WellNamed) {names : String × String}
    (hnames : names ∈ c.tableNames) : isIdentifier names.1 := by
  obtain ⟨s, hs, hmem⟩ := List.mem_flatMap.1 hnames
  obtain ⟨_, -, rfl⟩ := List.mem_map.1 hmem
  exact h.identifiers s (List.mem_of_mem_filter hs)

variable {config : Config} {output : String} {d : FileMap} {ws : List WrittenTable}

theorem files_nodup_iff (named : config.WellNamed) (names : ws.map (·.names) = config.tableNames) :
    (ws.map (·.file output)).Nodup ↔ ¬ config.Clashes := by
  have identifier : ∀ w ∈ ws, isIdentifier w.names.1 := fun w hw =>
    isIdentifier_of_mem_tableNames named (names ▸ List.mem_map_of_mem hw)
  rw [← config.tableNames_nodup_iff named, ← names]
  constructor
  · intro files
    have paths : ws.map (·.file output) = (ws.map (·.names)).map fun n =>
        Path.join output (Analysis.tablePath n.1 n.2) := by
      rw [List.map_map]
      rfl
    exact List.Nodup.of_map _ (paths ▸ files)
  · intro nodup
    rw [List.Nodup, List.pairwise_map] at nodup ⊢
    exact nodup.imp_of_mem fun hv hw differ same =>
      differ (WrittenTable.names_eq_of_file_eq (identifier _ hv) (identifier _ hw) same)

/-- A table keeps its file when no later one goes there. -/
theorem isKept_of_files_nodup (files : (ws.map (·.file output)).Nodup) (d : FileMap)
    (text : List UInt8) {w : WrittenTable} (hw : w ∈ ws) :
    w.IsKept output ((d.after (ws.map (·.write output))).put (manifestPath output) text) := by
  obtain ⟨earlier, later, rfl⟩ := List.append_of_mem hw
  have last : w.file output ∉ (later.map (·.write output)).map (·.1) := by
    rw [WrittenTable.map_fst_write]
    rw [List.map_append, List.map_cons] at files
    exact (List.nodup_cons.1 files.of_append_right).1
  refine WrittenTable.isKept_of_text ?_
  -- The manifest goes elsewhere, and of the tables this one is the last that goes here.
  rw [FileMap.put_of_ne (w.file_ne_manifest output), List.map_append, List.map_cons]
  exact FileMap.after_of_last last d _

/-! ## Two trees -/

/-- What a run of the configuration of a text writes, when all of it succeeds. -/
def writtenBy (text : String) (c : Catalog) (d : FileMap) :
    Option (Config × Analysis × List WrittenTable) := do
  let config ← (Config.parse text).toOption
  let a ← (Analysis.compile config c).toOption
  let ws ← (Analysis.written config.output d a.samples).toOption
  return (config, a, ws)

theorem writtenBy_eq_some_iff {text : String} {c : Catalog} {a : Analysis} :
    writtenBy text c d = some (config, a, ws) ↔ Config.parse text = .ok config ∧
      Analysis.compile config c = .ok a ∧
      Analysis.written config.output d a.samples = .ok ws := by
  simp [writtenBy, Option.bind_eq_some_iff, toOption_eq_some_iff]

/-- A sample for which two trees are made, the first of them with its exposure. -/
def twoTrees (second : String) : String :=
  "general.output = \"o\"\n" ++
  "[[sample]]\nname = \"a\"\npath = \"r\"\n" ++
  "[[tree]]\nname = \"t\"\nmode = \"reco\"\nadd_exposure = true\n" ++
  "[[tree]]\nname = \"" ++ second ++ "\"\nmode = \"reco\"\n"

/-- A file of records with one spill, about which nothing is said. -/
def oneSpill : FileMap := FileMap.put (fun _ => none) "r" (Text.utf8 "\x7b\x7d\n")

theorem written_twoTrees_exposure :
    (writtenBy (twoTrees "t_exposure") .empty oneSpill).map (fun r =>
      r.2.2.map fun w => (w.names, w.table.rows.size)) =
    some [(("a", "t"), 0), (("a", "t_exposure"), 1), (("a", "t_exposure"), 0)] := by
  decide +kernel

theorem written_twoTrees_other :
    (writtenBy (twoTrees "u") .empty oneSpill).map (fun r =>
      (decide r.1.Clashes, r.2.2.map fun w => (w.names, w.table.rows.size))) =
    some (false, [(("a", "t"), 0), (("a", "t_exposure"), 1), (("a", "u"), 0)]) := by
  decide +kernel

/-! ## Runs -/

/-- The entries that a run puts into its manifest are true of the files it leaves, and no two of
them name one file, exactly if no tree is called like the exposure table of another that is made
for the same sample. -/
theorem run_keeps_tables_iff {text : String} {c : Catalog} {a : Analysis} {now : Timestamp}
    {d' : FileMap} {manifest : Manifest} (parsed : Config.parse text = .ok config)
    (compiled : Analysis.compile config c = .ok a)
    (ran : runFrom d (Analysis.run FileMap.access now output a) = (.ok manifest, d')) :
    ∃ ws, Analysis.written output d a.samples = .ok ws ∧
      manifest.tables = ws.map WrittenTable.record ∧
      ((∀ w ∈ ws, w.IsKept output d') ∧ (ws.map (·.file output)).Nodup ↔ ¬ config.Clashes) := by
  obtain ⟨ws, wrote, rfl, rfl⟩ := FileMap.access_stores.run_ok_iff.1 ran
  have named := Config.wellNamed_of_parse parsed
  have names := config_tableNames compiled wrote
  refine ⟨ws, wrote, rfl, ?_⟩
  constructor
  · rintro ⟨-, files⟩
    exact (files_nodup_iff named names).1 files
  · intro clear
    have files : (ws.map (·.file output)).Nodup := (files_nodup_iff named names).2 clear
    exact ⟨fun w hw => isKept_of_files_nodup files d _ hw, files⟩

/-- Under another name both tables keep their files. -/
theorem run_keeps_tables_iff_other : ∃ config a manifest d', ∃ ws : List WrittenTable,
    Config.parse (twoTrees "u") = .ok config ∧ Analysis.compile config .empty = .ok a ∧
      runFrom oneSpill (Analysis.run FileMap.access ⟨0, 0⟩ config.output a) = (.ok manifest, d') ∧
      manifest.tables = ws.map WrittenTable.record ∧
      ws.map (fun w => (w.names, w.table.rows.size)) =
        [(("a", "t"), 0), (("a", "t_exposure"), 1), (("a", "u"), 0)] ∧
      (∀ w ∈ ws, w.IsKept config.output d') ∧ (ws.map (·.file config.output)).Nodup := by
  obtain ⟨⟨config, a, ws⟩, found, tables⟩ := Option.map_eq_some_iff.1 written_twoTrees_other
  obtain ⟨parsed, compiled, wrote⟩ := writtenBy_eq_some_iff.1 found
  obtain ⟨clear, rows⟩ := Prod.mk.inj tables
  have ran : runFrom oneSpill (Analysis.run FileMap.access ⟨0, 0⟩ config.output a) =
      (.ok (a.manifestOf ⟨0, 0⟩ ws), _) := FileMap.access_stores.run_ok wrote _
  obtain ⟨_, again, records, kept⟩ := run_keeps_tables_iff parsed compiled ran
  cases wrote.symm.trans again
  obtain ⟨kept, files⟩ := kept.2 (of_decide_eq_false clear)
  exact ⟨config, a, _, _, ws, parsed, compiled, ran, records, rows, kept, files⟩

/-- The exposure table of a tree has a row, and nothing is in its file after the run. -/
theorem run_loses_exposure_row : ∃ config a manifest d',
    Config.parse (twoTrees "t_exposure") = .ok config ∧
      Analysis.compile config .empty = .ok a ∧
      runFrom oneSpill (Analysis.run FileMap.access ⟨0, 0⟩ config.output a) = (.ok manifest, d') ∧
      ∃ record ∈ manifest.tables, record.rows = 1 ∧
        ∃ bytes, d' (Path.join config.output record.path) = some bytes ∧
          Text.lines bytes = [] := by
  obtain ⟨⟨config, a, ws⟩, found, tables⟩ := Option.map_eq_some_iff.1 written_twoTrees_exposure
  obtain ⟨parsed, compiled, wrote⟩ := writtenBy_eq_some_iff.1 found
  have three : ws.length = 3 := by simpa using congrArg List.length tables
  obtain ⟨main, exposure, other, rfl⟩ := List.length_eq_three.1 three
  simp only [List.map_cons, List.map_nil, List.cons.injEq, Prod.mk.injEq, and_true] at tables
  obtain ⟨-, ⟨named, one⟩, otherNamed, none⟩ := tables
  refine ⟨config, a, _, _, parsed, compiled, FileMap.access_stores.run_ok wrote _,
    exposure.record, ?_, ?_, Text.utf8 other.table.text, ?_, ?_⟩
  · simp [Analysis.manifestOf]
  · show UInt64.ofNat exposure.table.rows.size = 1
    rw [one]
    rfl
  · have same : exposure.file config.output = other.file config.output := by
      rw [WrittenTable.file_eq, WrittenTable.file_eq, named, otherNamed]
    -- The tree's own table comes last, and to the same path.
    show FileMap.put _ (manifestPath config.output) _ (exposure.file config.output) = _
    rw [same, FileMap.put_of_ne (other.file_ne_manifest _)]
    have last : (other.write config.output).1 ∉ ([] : List Write).map (·.1) := by simp
    exact FileMap.after_of_last last oneSpill [main.write _, exposure.write _]
  · rw [Table.lines_text, List.map_eq_nil_iff, ← List.length_eq_zero_iff, Array.length_toList]
    exact none

end SpillSelection
