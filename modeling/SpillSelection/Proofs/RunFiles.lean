import SpillSelection.Proofs.FileOperations
/-!
# Running over a map of files

Files are a map from paths to bytes, where a write replaces what the path held and directories are
always there. Operations on files may be at work on the map itself or keep a log of what they write:
what a run does is said once for all that show such a map in their state (`FileAccess.Stores`).
`written` says which tables a run makes of the files. `run_ok_iff` says that a run succeeds when
they can be made, reports each of them and writes them before its manifest; `run_error` that a run
whose records fail has written the tables of the samples before and nothing else.
-/

namespace SpillSelection

/-- Files by their paths. -/
abbrev FileMap := String → Option (List UInt8)

/-- A file that is written: its path and what it holds from then on. -/
abbrev Write := String × List UInt8

namespace FileMap

def put (d : FileMap) (path : String) (bytes : List UInt8) : FileMap :=
  fun p => if p = path then some bytes else d p

@[simp] theorem put_self (d : FileMap) (path : String) (bytes : List UInt8) :
    d.put path bytes path = some bytes := by
  simp [put]

theorem put_of_ne {path other : String} (h : other ≠ path) (d : FileMap) (bytes : List UInt8) :
    d.put path bytes other = d other := by
  simp [put, h]

/-- The files after some writes. -/
def after (d : FileMap) (log : List Write) : FileMap := log.foldl (fun d w => d.put w.1 w.2) d

theorem after_append (d : FileMap) (first second : List Write) :
    d.after (first ++ second) = (d.after first).after second :=
  List.foldl_append

theorem after_of_not_mem {log : List Write} {path : String} (h : path ∉ log.map (·.1))
    (d : FileMap) : d.after log path = d path := by
  induction log generalizing d with
  | nil => rfl
  | cons w log ih =>
    simp only [List.map_cons, List.mem_cons, not_or] at h
    exact (ih h.2 _).trans (put_of_ne h.1 ..)

/-- What is written last to a path stays there. -/
theorem after_of_last {w : Write} {later : List Write} (h : w.1 ∉ later.map (·.1)) (d : FileMap)
    (earlier : List Write) : d.after (earlier ++ w :: later) w.1 = some w.2 := by
  rw [after_append]
  exact (after_of_not_mem h _).trans (put_self ..)

/-- What reading a path gives. -/
def answer (d : FileMap) (path : String) : Except FileError (List UInt8) :=
  match d path with
  | some bytes => .ok bytes
  | none => .error .notFound

/-- The operations on a map that is passed along. -/
def access : FileAccess (StateM FileMap) where
  read path := return (← get).answer path
  write path bytes := do
    modify (·.put path bytes)
    return .ok ()
  makeDir _ := return .ok ()
  isDir _ := return true

/-- The operations on files at which writes are logged, in their order. -/
def logged (d : FileMap) : FileAccess (StateM (List Write)) where
  read path := return (d.after (← get)).answer path
  write path bytes := do
    modify (· ++ [(path, bytes)])
    return .ok ()
  makeDir _ := return .ok ()
  isDir _ := return true

/-! ## Samples -/

/-- The records at a path. -/
def records (d : FileMap) (path : String) : Except RecordError (List RecordItem) :=
  match d path with
  | some bytes => .ok (Records.read bytes)
  | none => .error (.cannotOpen path FileError.notFound.message)

/-- The tables of a sample, filled from the files. -/
def filled (d : FileMap) (s : CompiledSample) : Except RecordError (List Table) :=
  d.records s.sample.path >>= s.process

end FileMap

/-- A table that a run writes, with its sample. -/
structure WrittenTable where
  sample : Sample
  table : Table

namespace WrittenTable

/-- The manifest entry of the table. -/
def record (w : WrittenTable) : TableRecord := Analysis.recordOf w.sample w.table

/-- The path of the table's file. -/
def file (output : String) (w : WrittenTable) : String := Path.join output w.record.path

/-- The write of the table. -/
def write (output : String) (w : WrittenTable) : Write := (w.file output, Text.utf8 w.table.text)

theorem map_fst_write (output : String) (ws : List WrittenTable) :
    (ws.map (·.write output)).map (·.1) = ws.map (·.file output) := by
  rw [List.map_map]
  rfl

end WrittenTable

/-- The file of the manifest. -/
def manifestPath (output : String) : String := Path.join output manifestFile

/-- The write of a manifest. -/
def Manifest.toWrite (output : String) (m : Manifest) : Write :=
  (manifestPath output, Text.utf8 m.text)

namespace Analysis

/-- The tables that a run of some samples writes: each sample is filled from the files as those
before it left them. -/
def written (output : String) (d : FileMap) :
    List CompiledSample → Except AnalysisError (List WrittenTable)
  | [] => .ok []
  | s :: rest => do
    let tables ← (d.filled s).mapError (.records s.sample.name)
    let here := tables.map (WrittenTable.mk s.sample)
    return here ++ (← written output (d.after (here.map (·.write output))) rest)

theorem written_cons_ok_iff {output : String} {d : FileMap} {s : CompiledSample}
    {rest : List CompiledSample} {ws : List WrittenTable} :
    written output d (s :: rest) = .ok ws ↔ ∃ tables later, d.filled s = .ok tables ∧
      written output (d.after ((tables.map (.mk s.sample)).map (WrittenTable.write output))) rest =
        .ok later ∧
      tables.map (.mk s.sample) ++ later = ws := by
  rw [written, ok_bind_iff]
  simp

/-- All tables can be made, or there is a first sample whose records fail. -/
theorem written_or_fails (output : String) (d : FileMap) (samples : List CompiledSample) :
    (∃ ws, written output d samples = .ok ws) ∨
      ∃ before s after ws e, samples = before ++ s :: after ∧ written output d before = .ok ws ∧
        (d.after (ws.map (·.write output))).filled s = .error e := by
  induction samples generalizing d with
  | nil => exact .inl ⟨[], rfl⟩
  | cons s rest ih =>
    cases first : d.filled s with
    | error e => exact .inr ⟨[], s, rest, [], e, rfl, rfl, first⟩
    | ok tables =>
      rcases ih (d.after ((tables.map (.mk s.sample)).map (WrittenTable.write output))) with
        ⟨ws, wrote⟩ | ⟨before, t, after, ws, e, rfl, wrote, failed⟩
      · exact .inl ⟨_, written_cons_ok_iff.2 ⟨tables, ws, first, wrote, rfl⟩⟩
      · refine .inr ⟨s :: before, t, after, tables.map (.mk s.sample) ++ ws, e, rfl,
          written_cons_ok_iff.2 ⟨tables, ws, first, wrote, rfl⟩, ?_⟩
        rwa [List.map_append, FileMap.after_append]

/-- The manifest of a run that wrote some tables. -/
def manifestOf (a : Analysis) (now : Timestamp) (ws : List WrittenTable) : Manifest where
  configDigest := a.config.digest
  generatedAt := now
  tables := ws.map WrittenTable.record

end Analysis

/-! ## Operations -/

variable {σ : Type}

/-- Operations that read the files which their state shows, and add what is written to the state.
Directories can always be made. -/
structure FileAccess.Stores (files : FileAccess (StateM σ)) (view : σ → FileMap)
    (add : σ → Write → σ) : Prop where
  read (path : String) (state : σ) :
    (files.read path).run state = ((view state).answer path, state)
  write (path : String) (bytes : List UInt8) (state : σ) :
    (files.write path bytes).run state = (.ok (), add state (path, bytes))
  makeDir (path : String) (state : σ) : (files.makeDir path).run state = (.ok (), state)
  view_add (state : σ) (w : Write) : view (add state w) = (view state).put w.1 w.2

theorem FileMap.access_stores : access.Stores id (fun d w => d.put w.1 w.2) where
  read _ _ := rfl
  write _ _ _ := rfl
  makeDir _ _ := rfl
  view_add _ _ := rfl

theorem FileMap.logged_stores (d : FileMap) :
    d.logged.Stores d.after (fun log w => log ++ [w]) where
  read _ _ := rfl
  write _ _ _ := rfl
  makeDir _ _ := rfl
  view_add log w := d.after_append log [w]

namespace FileAccess.Stores

variable {files : FileAccess (StateM σ)} {view : σ → FileMap} {add : σ → Write → σ}

theorem view_foldl (h : files.Stores view add) (log : List Write) (state : σ) :
    view (log.foldl add state) = (view state).after log := by
  induction log generalizing state with
  | nil => rfl
  | cons w log ih =>
    rw [List.foldl_cons, ih, h.view_add]
    rfl

theorem run_makeDirs (h : files.Stores view add) (path : String) (state : σ) :
    (files.makeDirs path).run state = (.ok (), state) := by
  have first : ∀ parents, (files.makeDirsOf (path :: parents)).run state = (.ok (), state) := by
    -- The directory itself can be made, so those above it are never tried.
    intro parents
    unfold makeDirsOf
    split
    · rfl
    · rw [StateT.run_bind, h.makeDir]
      rfl
  unfold makeDirs Path.withParents
  repeat' split
  all_goals exact first _

theorem run_writeFile (h : files.Stores view add) (path text : String) (state : σ) :
    (Analysis.writeFile files path text).run state =
      (.ok (), add state (path, Text.utf8 text)) := by
  unfold Analysis.writeFile
  split
  · exact h.write ..
  · rw [StateT.run_bind, h.run_makeDirs]
    exact h.write ..

theorem run_writeManifest (h : files.Stores view add) (output : String) (m : Manifest)
    (state : σ) : (m.write files output).run state = (.ok (), add state (m.toWrite output)) := by
  rw [Manifest.write, StateT.run_bind, h.run_makeDirs]
  exact h.write ..

theorem run_fillTables (h : files.Stores view add) (s : CompiledSample) (state : σ) :
    (Analysis.fillTables files s).run state = ((view state).filled s, state) := by
  have opened : (Analysis.openRecords files s.sample.path).run state =
      ((view state).records s.sample.path, state) := by
    rw [Analysis.openRecords, StateT.run_bind, h.read, FileMap.answer, FileMap.records]
    cases view state s.sample.path <;> rfl
  rw [SpillSelection.run_fillTables, opened, FileMap.filled]

/-! ## Runs -/

variable {output : String} {state : σ}

theorem runFrom_writeTables (h : files.Stores view add) (s : Sample) (tables : List Table)
    (state : σ) :
    runFrom state (tables.mapM (Analysis.writeTable files output s)) =
      (.ok ((tables.map (WrittenTable.mk s)).map (·.record)),
        ((tables.map (WrittenTable.mk s)).map (·.write output)).foldl add state) := by
  induction tables generalizing state with
  | nil => rfl
  | cons table tables ih =>
    have first : runFrom state (Analysis.writeTable files output s table) =
        (.ok (WrittenTable.mk s table).record,
          add state ((WrittenTable.mk s table).write output)) :=
      runFrom_bind_ok (runFrom_orFail_ok_iff.2 (h.run_writeFile ..)) _
    rw [List.mapM_cons, runFrom_bind_ok first, runFrom_bind_ok (ih _)]
    rfl

theorem runFrom_fillTables (h : files.Stores view add) (s : CompiledSample) (state : σ) :
    runFrom state (Analysis.orFail (.records s.sample.name) (Analysis.fillTables files s)) =
      (((view state).filled s).mapError (.records s.sample.name), state) := by
  rw [runFrom_orFail, h.run_fillTables]

theorem runFrom_runSample_ok (h : files.Stores view add) {s : CompiledSample}
    {tables : List Table} (filled : (view state).filled s = .ok tables) :
    runFrom state (Analysis.runSample files output s) =
      (.ok ((tables.map (WrittenTable.mk s.sample)).map (·.record)),
        ((tables.map (WrittenTable.mk s.sample)).map (·.write output)).foldl add state) := by
  have first := h.runFrom_fillTables s state
  rw [filled] at first
  exact (runFrom_bind_ok first _).trans (h.runFrom_writeTables ..)

theorem runFrom_runSample_error (h : files.Stores view add) {s : CompiledSample} {e : RecordError}
    (failed : (view state).filled s = .error e) :
    runFrom state (Analysis.runSample files output s) =
      (.error (.records s.sample.name e), state) := by
  have first := h.runFrom_fillTables s state
  rw [failed] at first
  exact runFrom_bind_error first _

/-- Samples that all succeed write their tables in their order. -/
theorem runFrom_runSamples (h : files.Stores view add) {samples : List CompiledSample}
    {ws : List WrittenTable} (made : Analysis.written output (view state) samples = .ok ws) :
    ∃ groups, runFrom state (samples.mapM (Analysis.runSample files output)) =
      (.ok groups, (ws.map (·.write output)).foldl add state) ∧
        groups.flatten = ws.map (·.record) := by
  -- A sample may read what one before it wrote, so the state is general.
  induction samples generalizing state ws with
  | nil =>
    cases made
    exact ⟨[], rfl, rfl⟩
  | cons s rest ih =>
    obtain ⟨tables, later, filled, others, rfl⟩ := Analysis.written_cons_ok_iff.1 made
    have first : runFrom state (Analysis.runSample files output s) = _ :=
      h.runFrom_runSample_ok filled
    rw [← h.view_foldl] at others
    obtain ⟨groups, ran, records⟩ := ih others
    refine ⟨(tables.map (WrittenTable.mk s.sample)).map (·.record) :: groups, ?_, by
      rw [List.flatten_cons, records, List.map_append]⟩
    rw [List.mapM_cons, runFrom_bind_ok first, runFrom_bind_ok ran, runFrom_pure,
      List.map_append, List.foldl_append]

/-- A run whose tables can all be made writes them in their order, and its manifest after them. -/
theorem run_ok (h : files.Stores view add) {a : Analysis} {ws : List WrittenTable}
    (made : Analysis.written output (view state) a.samples = .ok ws) (now : Timestamp) :
    runFrom state (a.run files now output) = (.ok (a.manifestOf now ws),
      add ((ws.map (·.write output)).foldl add state) ((a.manifestOf now ws).toWrite output)) := by
  obtain ⟨groups, ran, records⟩ := h.runFrom_runSamples made
  rw [Analysis.run, runFrom_bind_ok ran, records]
  exact (runFrom_bind_ok (runFrom_orFail_ok_iff.2 (h.run_writeManifest ..)) _).trans rfl

/-- A run whose records fail at a sample has written the tables of those before it. -/
theorem run_error (h : files.Stores view add) {a : Analysis} {before after : List CompiledSample}
    {s : CompiledSample} {e : RecordError} {ws : List WrittenTable}
    (samples : a.samples = before ++ s :: after)
    (made : Analysis.written output (view state) before = .ok ws)
    (failed : ((view state).after (ws.map (·.write output))).filled s = .error e)
    (now : Timestamp) :
    runFrom state (a.run files now output) =
      (.error (.records s.sample.name e), (ws.map (·.write output)).foldl add state) := by
  obtain ⟨groups, ran, -⟩ := h.runFrom_runSamples made
  rw [← h.view_foldl] at failed
  have first : runFrom _ (Analysis.runSample files output s) = _ :=
    h.runFrom_runSample_error failed
  refine runFrom_bind_error ?_ _
  rw [samples, List.mapM_append, runFrom_bind_ok ran]
  refine runFrom_bind_error ?_ _
  rw [List.mapM_cons]
  exact runFrom_bind_error first _

/-- A run succeeds exactly when its tables can all be made. -/
theorem run_ok_iff (h : files.Stores view add) {a : Analysis} {now : Timestamp}
    {manifest : Manifest} {state' : σ} :
    runFrom state (a.run files now output) = (.ok manifest, state') ↔
      ∃ ws, Analysis.written output (view state) a.samples = .ok ws ∧
        a.manifestOf now ws = manifest ∧
        add ((ws.map (·.write output)).foldl add state) (manifest.toWrite output) = state' := by
  constructor
  · intro ran
    rcases Analysis.written_or_fails output (view state) a.samples with
      ⟨ws, made⟩ | ⟨before, s, after, ws, e, samples, made, failed⟩
    · cases ran.symm.trans (h.run_ok made now)
      exact ⟨ws, made, rfl, rfl⟩
    · cases ran.symm.trans (h.run_error samples made failed now)
  · rintro ⟨ws, made, rfl, rfl⟩
    exact h.run_ok made now

end FileAccess.Stores

end SpillSelection
