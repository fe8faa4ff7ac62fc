import SpillSelection.Command.Execution
import SpillSelection.Proofs.Reports
import SpillSelection.Proofs.TableNames
/-!
# What a check says of a run

A check compiles a configuration and reports the tables of its trees, without reading a record. A
run compiles it in the same way, and its manifest lists the tables that it made while it read. The
two agree whatever the files do (`check_predicts_run`): `SampleOutline.entries` reads the entries
off what a check reports, and `Entries` says what they count.
-/

namespace SpillSelection

/-! ## Entries of an outline -/

section Outlines

variable {c : Catalog} {simulated : Bool}

theorem tables_tree_outline {tree : Tree} {compiled : CompiledTree}
    (h : c.tree tree simulated = .ok compiled) :
    compiled.outline.tables = compiled.tables.map fun t => (t.name, t.columns) := by
  obtain ⟨_, exposure, -, made, rfl⟩ := tree_ok_iff.1 h
  unfold TreeOutline.tables CompiledTree.outline CompiledTree.tables CompiledTree.exposureTable?
  cases exposure with
  | nil => rfl
  | cons b bs =>
    -- Only a tree that adds its exposure has branches for it, and these have their own names.
    have names : (b :: bs).map (·.name) = ["livetime", "pot"] := by
      split at made
      · exact map_name_exposureBranches made
      · cases made
    simp only [List.isEmpty_cons, Bool.false_eq_true, if_false, Option.map_some, Option.toList_some,
      List.map_cons, List.map_nil, ← names]
    rfl

variable {trees : List Tree} {s : Sample} {compiled : CompiledSample}

/-- A sample is outlined by the trees that apply to it, and its entries are for its tables. -/
theorem sample_outline (h : c.sample trees s = .ok compiled) :
    compiled.outline.sample = s.name ∧
    compiled.outline.trees.map (·.tree) = (trees.filter (·.appliesTo s)).map (·.name) ∧
    compiled.outline.entries = compiled.tables.map fun t => (s.name, t.name, t.columns) := by
  obtain ⟨rfl, each⟩ := sample_ok_iff.1 h
  refine ⟨rfl, ?_, ?_⟩
  · have names := map_eq_map_of_forall₂ each (f := Tree.name) (g := CompiledTree.name)
      fun tree _ t made => by
        obtain ⟨_, _, -, -, rfl⟩ := tree_ok_iff.1 made
        rfl
    rw [names, CompiledSample.outline, List.map_map]
    rfl
  · have tables : ∀ t ∈ compiled.trees,
        t.outline.tables = t.tables.map fun spec => (spec.name, spec.columns) := by
      intro t ht
      obtain ⟨tree, -, made⟩ := exists_of_mem_forall₂ each ht
      exact tables_tree_outline made
    rw [SampleOutline.entries, CompiledSample.outline, List.flatMap_map,
      List.flatMap_congr tables, CompiledSample.tables, ← List.map_flatMap, List.map_map]
    rfl

end Outlines

/-- An analysis is outlined by the enabled samples of its configuration, each with the trees that
apply to it. -/
theorem outline_of_compile {config : Config} {c : Catalog} {a : Analysis}
    (h : Analysis.compile config c = .ok a) :
    (a.outline.map fun o => (o.sample, o.trees.map (·.tree))) =
      config.enabled.map (fun s =>
        (s.name, (config.trees.filter (·.appliesTo s)).map (·.name))) ∧
    ∀ s ∈ a.samples, s.outline.entries =
      s.tables.map fun t => (s.sample.name, t.name, t.columns) := by
  obtain ⟨-, _, -, each⟩ := compile_ok_iff.1 h
  constructor
  · rw [Analysis.outline, List.map_map]
    refine (map_eq_map_of_forall₂ each fun s _ compiled made => ?_).symm
    obtain ⟨name, trees, -⟩ := sample_outline made
    exact (Prod.ext name trees).symm
  · intro s hs
    obtain ⟨sample, -, made⟩ := exists_of_mem_forall₂ each hs
    rw [(sample_outline made).2.2, ← (sample_tableNames made).1]

/-! ## Entries of a run -/

variable {σ : Type}

/-- The entry of a table that some spills of a sample filled. It counts the table's rows, and all
of the spills. -/
structure TableRecord.IsOf (s : Sample) (spills : List Spill) (t : TableSpec) (r : TableRecord) :
    Prop where
  sample : r.sample = s.name
  table : r.table = t.name
  branches : r.branches = t.columns
  path : r.path = Analysis.tablePath s.name t.name
  rows : r.rows = UInt64.ofNat (t.filled spills).rows.size
  spills : r.spills = UInt64.ofNat spills.length

/-- What a run makes of some samples from a state on: the records of a sample are read, all of them
spills, and its tables are filled with them and written, before the next sample is read. -/
inductive Entries (files : FileAccess (StateM σ)) (output : String) :
    σ → List CompiledSample → List TableRecord → Prop
  | nil (state : σ) : Entries files output state [] []
  | cons {state opened written : σ} {s : CompiledSample} {spills : List Spill}
      {here later : List TableRecord} {rest : List CompiledSample} :
      (Analysis.openRecords files s.sample.path).run state = (.ok (spills.map .ok), opened) →
      runFrom opened ((s.tables.map (·.filled spills)).mapM
        (Analysis.writeTable files output s.sample)) = (.ok here, written) →
      List.Forall₂ (TableRecord.IsOf s.sample spills) s.tables here →
      Entries files output written rest later →
      Entries files output state (s :: rest) (here ++ later)

namespace Analysis

variable {files : FileAccess (StateM σ)} {output : String} {state state' : σ}

/-- The entries of tables are their own, whatever became of the files. -/
theorem records_of_writeTables {s : Sample} {tables : List Table} {records : List TableRecord}
    (h : runFrom state (tables.mapM (writeTable files output s)) = (.ok records, state')) :
    tables.map (recordOf s) = records := by
  induction tables generalizing state records with
  | nil => exact (runFrom_pure_ok_iff.1 h).1
  | cons table tables ih =>
    simp only [List.mapM_cons, writeTable, runFrom_bind_ok_iff, runFrom_pure_ok_iff] at h
    obtain ⟨_, _, ⟨_, _, -, rfl, rfl⟩, _, _, rest, rfl, rfl⟩ := h
    rw [List.map_cons, ih rest]

theorem forall₂_isOf (s : Sample) (spills : List Spill) (tables : List TableSpec) :
    List.Forall₂ (TableRecord.IsOf s spills) tables
      ((tables.map (·.filled spills)).map (recordOf s)) := by
  rw [List.map_map, List.forall₂_map_right_iff, List.forall₂_same]
  exact fun t _ => ⟨rfl, rfl, rfl, rfl, rfl, rfl⟩

theorem runSample_ok {s : CompiledSample} {here : List TableRecord}
    (h : runFrom state (runSample files output s) = (.ok here, state')) :
    ∃ spills opened,
      (openRecords files s.sample.path).run state = (.ok (spills.map .ok), opened) ∧
      runFrom opened ((s.tables.map (·.filled spills)).mapM (writeTable files output s.sample)) =
        (.ok here, state') := by
  obtain ⟨tables, opened, filled, wrote⟩ := runFrom_bind_ok_iff.1 h
  rw [runFrom_orFail_ok_iff, run_fillTables, Prod.mk.injEq] at filled
  obtain ⟨filled, rfl⟩ := filled
  obtain ⟨items, read, processed⟩ := ok_bind_iff.1 filled
  obtain ⟨spills, rfl, rfl⟩ := process_ok_iff.1 processed
  rw [← s.map_filled_tables] at wrote
  exact ⟨spills, _, Prod.ext read rfl, wrote⟩

theorem entries_of_runSamples {samples : List CompiledSample} {groups : List (List TableRecord)}
    (h : runFrom state (samples.mapM (runSample files output)) = (.ok groups, state')) :
    Entries files output state samples groups.flatten := by
  induction samples generalizing state groups with
  | nil =>
    obtain ⟨rfl, -⟩ := runFrom_pure_ok_iff.1 h
    exact .nil state
  | cons s rest ih =>
    simp only [List.mapM_cons, runFrom_bind_ok_iff, runFrom_pure_ok_iff] at h
    obtain ⟨here, _, first, groups, _, others, rfl, rfl⟩ := h
    obtain ⟨spills, opened, read, wrote⟩ := runSample_ok first
    refine .cons read wrote ?_ (ih others)
    rw [← records_of_writeTables wrote]
    exact forall₂_isOf s.sample spills s.tables

theorem entries_of_run {a : Analysis} {now : Timestamp} {manifest : Manifest}
    (h : runFrom state (run files now output a) = (.ok manifest, state')) :
    Entries files output state a.samples manifest.tables := by
  simp only [run, runFrom_bind_ok_iff, runFrom_pure_ok_iff] at h
  obtain ⟨groups, _, ran, _, _, -, rfl, -⟩ := h
  exact entries_of_runSamples ran

end Analysis

/-- The names in entries are those of the tables, which do not depend on what is read. -/
theorem Entries.names {files : FileAccess (StateM σ)} {output : String} {state : σ}
    {samples : List CompiledSample} {records : List TableRecord}
    (h : Entries files output state samples records) :
    records.map (fun r => (r.sample, r.table, r.branches)) =
      samples.flatMap fun s => s.tables.map fun t => (s.sample.name, t.name, t.columns) := by
  induction h with
  | nil => rfl
  | cons _ _ here _ ih =>
    rw [List.map_append, ih, List.flatMap_cons]
    refine congrArg (· ++ _) (map_eq_map_of_forall₂ here fun t _ r is => ?_).symm
    rw [is.sample, is.table, is.branches]

/-! ## Commands -/

namespace Report

variable {state state' : σ} {operation : ExceptT AnalysisError (StateM σ) Report}

theorem run_ofResult_ok {report : Report} (h : runFrom state operation = (.ok report, state')) :
    (ofResult operation).run state = (report, state') := by
  have ended : operation.run.run state = (.ok report, state') := h
  rw [ofResult, StateT.run_map, ended]
  rfl

theorem run_ofResult_error {e : AnalysisError} (h : runFrom state operation = (.error e, state')) :
    (ofResult operation).run state = (e.report, state') := by
  have ended : operation.run.run state = (.error e, state') := h
  rw [ofResult, StateT.run_map, ended]
  rfl

end Report

namespace Command

variable {context : Context (StateM σ)} {path : String} {state state' state'' : σ} {a : Analysis}

theorem compile_of_load (h : runFrom state (load context path) = (.ok a, state')) :
    ∃ config c, context.catalog = .ok c ∧ Analysis.compile config c = .ok a := by
  obtain ⟨config, opened, -, made⟩ := runFrom_bind_ok_iff.1 h
  have compiled : (context.catalog.mapError .registry >>= Analysis.compile config) = .ok a :=
    congrArg Prod.fst made
  obtain ⟨c, catalog, compiled⟩ := ok_bind_iff.1 compiled
  exact ⟨config, c, ok_mapError_iff.1 catalog, compiled⟩

theorem run_executeCheck (h : runFrom state (load context path) = (.ok a, state')) (json : Bool) :
    ∃ r : Report, (executeCheck context path json).run state = (r, state') ∧
      r.Answers json (a.listing path) (a.IsReadOff path) :=
  ⟨_, Report.run_ofResult_ok ((runFrom_bind_ok h _).trans (runFrom_pure ..)),
    a.answers_outline path json⟩

/-- A run of the analysis that was loaded is reported as it ends. -/
theorem run_executeRun (h : runFrom state (load context path) = (.ok a, state'))
    (output? : Option String) (json : Bool) {result : Except AnalysisError Manifest}
    (ran : runFrom state' (a.run context.files context.now (output?.getD a.config.output)) =
      (result, state'')) :
    ∃ r : Report, (executeRun context path output? json).run state = (r, state'') ∧
      r.Concludes json (·.lines path (output?.getD a.config.output)) result := by
  cases result with
  | ok manifest =>
    refine ⟨_, Report.run_ofResult_ok ?_, manifest.answers_manifest json _⟩
    exact (runFrom_bind_ok h _).trans ((runFrom_bind_ok ran _).trans (runFrom_pure ..))
  | error e =>
    refine ⟨_, Report.run_ofResult_error ?_, e.fails_report⟩
    exact (runFrom_bind_ok h _).trans (runFrom_bind_error ran _)

theorem run_of_load_error {e : AnalysisError}
    (h : runFrom state (load context path) = (.error e, state')) (output? : Option String)
    (json : Bool) :
    (executeCheck context path json).run state = (e.report, state') ∧
      (executeRun context path output? json).run state = (e.report, state') :=
  ⟨Report.run_ofResult_error (runFrom_bind_error h _),
    Report.run_ofResult_error (runFrom_bind_error h _)⟩

end Command

/-- Both commands fail with the same error if the configuration cannot be loaded or compiled. Else
a check answers with the outline of the analysis that a run goes on with, and the run's own report
is of how it ends. The outline has the enabled samples, each with the trees that apply to it. If a
run of the analysis succeeds, from whatever state and whatever the files do, the entries of its
manifest are those of the outline, and they count what was read and written. -/
theorem check_predicts_run (context : Command.Context (StateM σ)) (path : String)
    (output? : Option String) (json : Bool) (state state' : σ) :
    (∀ e, runFrom state (Command.load context path) = (.error e, state') →
      ∃ r : Report, (Command.executeCheck context path json).run state = (r, state') ∧
        (Command.executeRun context path output? json).run state = (r, state') ∧ r.Fails e) ∧
    (∀ a, runFrom state (Command.load context path) = (.ok a, state') →
      (∃ config c, context.catalog = .ok c ∧ Analysis.compile config c = .ok a) ∧
      (∃ r : Report, (Command.executeCheck context path json).run state = (r, state') ∧
        r.Answers json (a.listing path) (a.IsReadOff path)) ∧
      ∀ result state'', runFrom state'
          (a.run context.files context.now (output?.getD a.config.output)) = (result, state'') →
        ∃ r : Report, (Command.executeRun context path output? json).run state = (r, state'') ∧
          r.Concludes json (·.lines path (output?.getD a.config.output)) result) ∧
    ∀ config c a, Analysis.compile config c = .ok a →
      (a.outline.map fun o => (o.sample, o.trees.map (·.tree))) =
        config.enabled.map (fun s =>
          (s.name, (config.trees.filter (·.appliesTo s)).map (·.name))) ∧
      ∀ output before after manifest,
        runFrom before (a.run context.files context.now output) = (.ok manifest, after) →
        manifest.tables.map (fun r => (r.sample, r.table, r.branches)) =
          a.outline.flatMap (·.entries) ∧
        Entries context.files output before a.samples manifest.tables := by
  refine ⟨fun e failed => ?_, fun a loaded => ?_, fun config c a compiled => ?_⟩
  · obtain ⟨checked, ran⟩ := Command.run_of_load_error failed output? json
    exact ⟨e.report, checked, ran, e.fails_report⟩
  · exact ⟨Command.compile_of_load loaded, Command.run_executeCheck loaded json,
      fun result state'' ran => Command.run_executeRun loaded output? json ran⟩
  · obtain ⟨samples, entries⟩ := outline_of_compile compiled
    refine ⟨samples, fun output before after manifest ran => ?_⟩
    have made := Analysis.entries_of_run ran
    refine ⟨?_, made⟩
    rw [made.names, Analysis.outline, List.flatMap_map]
    exact (List.flatMap_congr entries).symm

/-! ## Loading from a map of files -/

namespace FileMap

variable {d : FileMap} {path text : String}

theorem runFrom_load {config : Config} {c : Catalog} {a : Analysis}
    (h : d path = some (Text.utf8 text)) (read : Config.ofFile path text = .ok config)
    (compiled : Analysis.compile config c = .ok a) (now : Timestamp) :
    runFrom d (Command.load ⟨access, .ok c, now⟩ path) = (.ok a, d) := by
  have loaded : (Config.load access path).run d = (.ok config, d) := by
    have found : (access.read path).run d = (.ok (Text.utf8 text), d) := by
      rw [access_stores.read, id, answer, h]
    rw [Config.load, StateT.run_bind, run_readText found, ← read]
    rfl
  refine (runFrom_bind_ok (runFrom_orFail_ok_iff.2 loaded) _).trans ?_
  rw [← compiled]
  rfl

theorem runFrom_load_of_none (h : d path = none) (c : Except RegistryError Catalog)
    (now : Timestamp) : runFrom d (Command.load ⟨access, c, now⟩ path) =
      (.error (.config (.unreadable path FileError.notFound.message)), d) := by
  have failed : (Config.load access path).run d =
      (.error (.unreadable path FileError.notFound.message), d) := by
    rw [Config.load, StateT.run_bind, FileAccess.readText, StateT.run_bind, access_stores.read, id,
      answer, h]
    rfl
  refine runFrom_bind_error ?_ _
  rw [runFrom_orFail, failed]
  rfl

end FileMap

/-- A sample of data and a disabled one. Of the two trees one is for simulation only. -/
def skippingConfig : String :=
  "general.output=\"o\"\n" ++
  "sample=[\x7bname=\"a\",path=\"r\"\x7d,\x7bname=\"b\",path=\"q\",disable=true\x7d]\n" ++
  "tree=[\x7bname=\"t\",mode=\"reco\",add_exposure=true," ++
    "branch=[\x7bname=\"contained\",type=\"reco\"\x7d]\x7d," ++
    "\x7bname=\"u\",mode=\"reco\",sim_only=true\x7d]\n"

/-- The configuration in a file, and records of two spills. -/
def skippingFiles : FileMap :=
  (FileMap.put (fun _ => none) "r" (Text.utf8 "\x7b\x7d\n\x7b\x7d\n")).put "c"
    (Text.utf8 skippingConfig)

def skippingContext : Command.Context (StateM FileMap) :=
  ⟨FileMap.access, .ok containedCatalog, ⟨0, 0⟩⟩

theorem run_skippingFiles :
    ((Config.ofFile "c" skippingConfig).toOption.bind fun config =>
      (Analysis.compile config containedCatalog).toOption.bind fun a =>
        (runFrom skippingFiles (a.run FileMap.access ⟨0, 0⟩ a.config.output)).1.toOption.map
          fun manifest => (a.outline, manifest.tables.map fun t => (t.rows, t.spills))) =
    some ([⟨"a", false, [⟨"t", ["reco_contained"], some "t_exposure"⟩]⟩], [(0, 2), (2, 2)]) := by
  decide +kernel

/-- The check reports two tables, in lines and in JSON, and the run fills them from two spills.
Where there is no configuration both commands fail with the code for files. -/
theorem check_predicts_run_skippingFiles : (∃ a manifest d,
    runFrom skippingFiles (Command.load skippingContext "c") = (.ok a, skippingFiles) ∧
    runFrom skippingFiles (a.run FileMap.access ⟨0, 0⟩ a.config.output) = (.ok manifest, d) ∧
    a.outline = [⟨"a", false, [⟨"t", ["reco_contained"], some "t_exposure"⟩]⟩] ∧
    (∃ r, (Command.executeCheck skippingContext "c" false).run skippingFiles = (r, skippingFiles) ∧
      r.code = 0 ∧ r.output = String.join (["spine check c", "  Digest: " ++ a.config.digest,
        "  Sample a (data)", "    Tree t: reco_contained",
        "    Tree t_exposure: livetime, pot"].map (· ++ "\n"))) ∧
    (∃ r j, (Command.executeCheck skippingContext "c" true).run skippingFiles = (r, skippingFiles) ∧
      r.code = 0 ∧ Json.parse? r.output.toList = some j ∧ a.IsReadOff "c" j) ∧
    (∃ r j, (Command.executeRun skippingContext "c" none true).run skippingFiles = (r, d) ∧
      r.code = 0 ∧ Json.parse? r.output.toList = some j ∧ manifest.IsReadOff j) ∧
    manifest.tables.map (fun t => (t.sample, t.table, t.branches)) =
      [("a", "t", ["reco_contained"]), ("a", "t_exposure", ["livetime", "pot"])] ∧
    manifest.tables.map (fun t => (t.rows, t.spills)) = [(0, 2), (2, 2)] ∧
    Entries FileMap.access a.config.output skippingFiles a.samples manifest.tables) ∧
    ∃ r : Report, (Command.executeCheck skippingContext "none" false).run skippingFiles =
        (r, skippingFiles) ∧
      (Command.executeRun skippingContext "none" none false).run skippingFiles =
        (r, skippingFiles) ∧
      r.code = 2 ∧ r.errors = "error: none: No such file or directory (os error 2)\n" := by
  constructor
  · have found := run_skippingFiles
    simp only [Option.bind_eq_some_iff, toOption_eq_some_iff, Option.map_eq_some_iff] at found
    obtain ⟨config, read, a, compiled, manifest, ended, facts⟩ := found
    obtain ⟨outline, counts⟩ := Prod.mk.inj facts
    have loaded : runFrom skippingFiles (Command.load skippingContext "c") =
        (.ok a, skippingFiles) := FileMap.runFrom_load (FileMap.put_self ..) read compiled _
    have ran : runFrom skippingFiles (a.run FileMap.access ⟨0, 0⟩ a.config.output) =
        (.ok manifest, _) := Prod.ext ended rfl
    obtain ⟨-, inLines, predicts⟩ :=
      check_predicts_run skippingContext "c" none false skippingFiles skippingFiles
    obtain ⟨-, inJson, -⟩ :=
      check_predicts_run skippingContext "c" none true skippingFiles skippingFiles
    obtain ⟨-, ⟨r, checked, lines⟩, -⟩ := inLines a loaded
    obtain ⟨-, ⟨r', checked', value⟩, runs⟩ := inJson a loaded
    obtain ⟨r'', ran', written⟩ := runs _ _ ran
    obtain ⟨j, read, holds⟩ := value.value rfl
    obtain ⟨j', read', holds'⟩ := written.value rfl
    obtain ⟨names, entries⟩ := (predicts config _ a compiled).2 _ _ _ manifest ran
    refine ⟨a, manifest, _, loaded, ran, outline, ⟨r, checked, lines.code, ?_⟩,
      ⟨r', j, checked', value.code, read, holds⟩, ⟨r'', j', ran', written.code, read', holds'⟩,
      ?_, counts, entries⟩
    · rw [lines.text rfl, Analysis.listing, outline]
      rfl
    · rw [names, outline]
      rfl
  · have missing : runFrom skippingFiles (Command.load skippingContext "none") = _ :=
      FileMap.runFrom_load_of_none (by decide) _ _
    obtain ⟨fails, -⟩ :=
      check_predicts_run skippingContext "none" none false skippingFiles skippingFiles
    obtain ⟨r, checked, ran, failed⟩ := fails _ missing
    exact ⟨r, checked, ran, failed.ofFiles (.config ..), failed.errors⟩

end SpillSelection
