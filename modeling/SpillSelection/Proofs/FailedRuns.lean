import SpillSelection.Proofs.ManifestText
import SpillSelection.Proofs.TableFiles
/-!
# Runs that fail

A run reads, processes and writes sample by sample. When the records of a sample fail it, it has
written the tables of the samples before that one and nothing else: no manifest, and no file of the
sample or of a later one (`failing_run_stops`). The order of all writes is kept in a log, so that
the manifest of a run that succeeds is seen to come last, with an entry for every table.
-/

namespace SpillSelection

/-! ## Runs that are logged -/

theorem foldl_concat (first second : List Write) :
    second.foldl (fun log w => log ++ [w]) first = first ++ second := by
  rw [List.foldl_append_eq_append, ← List.flatMap_def, List.flatMap_singleton']

namespace Analysis

variable {d : FileMap} {output : String} {a : Analysis} {ws : List WrittenTable}

theorem run_logged_ok (made : written output d a.samples = .ok ws) (now : Timestamp) :
    runFrom [] (run d.logged now output a) = (.ok (a.manifestOf now ws),
      ws.map (·.write output) ++ [(a.manifestOf now ws).toWrite output]) := by
  have ran : runFrom [] (run d.logged now output a) = _ := d.logged_stores.run_ok made now
  rwa [foldl_concat, List.nil_append] at ran

theorem run_logged_error {before after : List CompiledSample} {s : CompiledSample}
    {e : RecordError} (samples : a.samples = before ++ s :: after)
    (made : written output d before = .ok ws)
    (failed : (d.after (ws.map (·.write output))).filled s = .error e) (now : Timestamp) :
    runFrom [] (run d.logged now output a) =
      (.error (.records s.sample.name e), ws.map (·.write output)) := by
  have start : written output (d.after []) before = .ok ws := made
  have ran : runFrom [] (run d.logged now output a) = _ :=
    d.logged_stores.run_error samples start failed now
  rwa [foldl_concat, List.nil_append] at ran

end Analysis

/-! ## Samples that read no output -/

/-- The first error among some records. -/
def Records.firstError? (items : List RecordItem) : Option RecordError :=
  items.findSome? fun item => match item with
    | .ok _ => none
    | .error e => some e

/-- What keeps the records of a sample from being read: they cannot be opened, or there is a first
bad line among them. -/
def FileMap.recordError? (d : FileMap) (s : Sample) : Option RecordError :=
  match d s.path with
  | some bytes => Records.firstError? (Records.read bytes)
  | none => some (.cannotOpen s.path FileError.notFound.message)

/-- The files of a sample's tables. -/
def CompiledSample.files (output : String) (s : CompiledSample) : List String :=
  s.tables.map fun t => Path.join output (Analysis.tablePath s.sample.name t.name)

theorem Records.firstError?_spills (spills : List Spill) (rest : List RecordItem) :
    firstError? (spills.map .ok ++ rest) = firstError? rest := by
  rw [firstError?, List.findSome?_append, List.findSome?_map]
  have none : spills.findSome? ((fun item : RecordItem => match item with
      | .ok _ => none
      | .error e => some e) ∘ Except.ok) = Option.none :=
    List.findSome?_eq_none_iff.2 fun _ _ => rfl
  rw [none, Option.none_or]
  rfl

namespace FileMap

variable {d d' : FileMap} {output : String} {s : CompiledSample}

theorem recordError?_congr {s : Sample} (same : d' s.path = d s.path) :
    d'.recordError? s = d.recordError? s := by
  rw [recordError?, same, recordError?]

/-- A sample is filled when its records are read without an error, and else fails with it. -/
theorem filled_eq (d : FileMap) (s : CompiledSample) :
    match d.recordError? s.sample with
    | none => ∃ spills, d.filled s = .ok (s.tables.map (·.filled spills))
    | some e => d.filled s = .error e := by
  rw [recordError?, FileMap.filled, records]
  cases d s.sample.path with
  | none => rfl
  | some bytes =>
    rcases spills_or_error (Records.read bytes) with ⟨spills, items⟩ | ⟨spills, e, rest, items⟩
    · have none := Records.firstError?_spills spills []
      rw [List.append_nil] at none
      simp only [items, none]
      exact ⟨spills, by rw [s.map_filled_tables]; exact s.process_spills spills⟩
    · simp only [items, Records.firstError?_spills]
      exact s.process_error spills e rest

end FileMap

theorem FileMap.after_writes_of_not_mem {output path : String} {ws : List WrittenTable}
    (h : path ∉ ws.map (·.file output)) (d : FileMap) :
    d.after (ws.map (·.write output)) path = d path :=
  after_of_not_mem (by rwa [WrittenTable.map_fst_write]) d

theorem files_filled (output : String) (s : CompiledSample) (spills : List Spill) :
    ((s.tables.map (·.filled spills)).map (WrittenTable.mk s.sample)).map (·.file output) =
      s.files output := by
  rw [List.map_map, List.map_map]
  rfl

/-- Samples that read no output are filled as if none was written. -/
theorem written_of_reads {d : FileMap} {output : String} {samples : List CompiledSample}
    (apart : ∀ s ∈ samples, ∀ t ∈ samples, s.sample.path ∉ t.files output)
    (reads : ∀ s ∈ samples, d.recordError? s.sample = none) :
    ∃ ws, Analysis.written output d samples = .ok ws ∧
      ws.map (·.file output) = samples.flatMap (·.files output) := by
  induction samples generalizing d with
  | nil => exact ⟨[], rfl, rfl⟩
  | cons s rest ih =>
    have first := d.filled_eq s
    rw [reads s (by simp)] at first
    obtain ⟨spills, first⟩ := first
    have files := files_filled output s spills
    generalize here : (s.tables.map (·.filled spills)).map (WrittenTable.mk s.sample) = tables at *
    -- What was written for the first sample is no other's records, so the rest reads as before.
    have untouched : ∀ t ∈ rest,
        d.after (tables.map (·.write output)) t.sample.path = d t.sample.path := by
      intro t ht
      refine FileMap.after_writes_of_not_mem ?_ d
      rw [files]
      exact apart t (by simp [ht]) s (by simp)
    obtain ⟨ws, wrote, paths⟩ := ih
      (fun t ht u hu => apart t (by simp [ht]) u (by simp [hu]))
      (fun t ht => (FileMap.recordError?_congr (untouched t ht)).trans (reads t (by simp [ht])))
    refine ⟨tables ++ ws, Analysis.written_cons_ok_iff.2 ⟨_, ws, first, ?_, by rw [here]⟩, ?_⟩
    · rwa [here]
    · rw [List.map_append, files, paths, List.flatMap_cons]

/-! ## Files of different samples -/

theorem samples_of_compile {config : Config} {c : Catalog} {a : Analysis}
    (h : Analysis.compile config c = .ok a) : a.samples.map (·.sample) = config.enabled := by
  obtain ⟨-, _, -, each⟩ := compile_ok_iff.1 h
  have same := map_eq_map_of_forall₂ each (f := id) (g := CompiledSample.sample)
    fun _ _ _ made => (sample_tableNames made).1.symm
  rw [← same, List.map_id]

theorem not_mem_files_of_ne {s t : CompiledSample} {output path : String}
    (hs : isIdentifier s.sample.name) (ht : isIdentifier t.sample.name)
    (differ : s.sample.name ≠ t.sample.name) (h : path ∈ s.files output) :
    path ∉ t.files output := by
  intro other
  obtain ⟨u, -, rfl⟩ := List.mem_map.1 h
  obtain ⟨v, -, same⟩ := List.mem_map.1 other
  have paths := join_inj (isAbsolute_tablePath ht _) (isAbsolute_tablePath hs _) same
  exact differ (tablePath_inj ht hs paths).1.symm

theorem manifestPath_not_mem_files (output : String) (samples : List CompiledSample) :
    manifestPath output ∉ samples.flatMap (·.files output) := by
  intro same
  obtain ⟨s, -, same⟩ := List.mem_flatMap.1 same
  obtain ⟨t, -, same⟩ := List.mem_map.1 same
  exact WrittenTable.file_ne_manifest output ⟨s.sample, t.empty⟩ same

/-- The files of some samples are none of those of the other samples. -/
theorem not_mem_files {config : Config} {c : Catalog} {a : Analysis} (named : config.WellNamed)
    (compiled : Analysis.compile config c = .ok a) {before after : List CompiledSample}
    (samples : a.samples = before ++ after) {output path : String}
    (h : path ∈ after.flatMap (·.files output)) :
    path ∉ before.flatMap (·.files output) := by
  have enabled := samples_of_compile compiled
  have identifier : ∀ s ∈ before ++ after, isIdentifier s.sample.name := by
    intro s hs
    have mem : s.sample ∈ config.enabled := enabled ▸ List.mem_map_of_mem (samples ▸ hs)
    exact named.identifiers s.sample (List.mem_of_mem_filter mem)
  have differ : ((before ++ after).map (·.sample.name)).Nodup := by
    have sublist : (config.enabled.map (·.name)).Sublist (config.samples.map (·.name)) :=
      List.filter_sublist.map _
    have names := named.samples.sublist sublist
    rwa [← enabled, List.map_map, samples] at names
  intro written
  obtain ⟨s, hs, inS⟩ := List.mem_flatMap.1 written
  obtain ⟨t, ht, inT⟩ := List.mem_flatMap.1 h
  rw [List.map_append] at differ
  have apart := (List.nodup_append.1 differ).2.2 _ (List.mem_map_of_mem hs) _
    (List.mem_map_of_mem ht)
  exact not_mem_files_of_ne (identifier s (by simp [hs])) (identifier t (by simp [ht])) apart inS
    inT

/-! ## Runs -/

/-- A configuration that was read: that of a text, or that of a file with the paths of its samples
taken from the directory of the file. -/
def Config.IsRead (config : Config) : Prop :=
  ∃ text, Config.parse text = .ok config ∨ ∃ path, Config.ofFile path text = .ok config

theorem Config.WellNamed.rebase {config : Config} (h : config.WellNamed) (base : String) :
    (config.rebase base).WellNamed where
  samples := by simpa [Config.rebase, Function.comp_def] using h.samples
  trees := h.trees
  identifiers := by simpa [Config.rebase] using h.identifiers

theorem Config.IsRead.wellNamed {config : Config} (h : config.IsRead) : config.WellNamed := by
  obtain ⟨text, parsed | ⟨path, loaded⟩⟩ := h
  · exact wellNamed_of_parse parsed
  · obtain ⟨written, parsed, loaded⟩ := ok_bind_iff.1 loaded
    have named := wellNamed_of_parse parsed
    split at loaded
    · cases loaded
      exact named.rebase _
    · cases loaded
      exact named

/-- All the files that a run of an analysis may write. -/
def Analysis.files (output : String) (a : Analysis) : List String :=
  manifestPath output :: a.samples.flatMap (·.files output)

/-- A run that reads none of the files it writes. If the records of a sample fail, after those of
the samples before it were read without error, the run ends with that error and has written the
tables of those samples, as a run of these alone writes them before its manifest. It has not written
the manifest and, if the configuration was read, no file of the sample or of a later one. Every path
that it has not written holds what it held. If no sample fails, the tables of all samples are
written in their order and the manifest after them, and what its text is read as has an entry for
each of these tables, in the same order. -/
theorem failing_run_stops {config : Config} {c : Catalog} {a : Analysis} {d : FileMap}
    {output : String} (compiled : Analysis.compile config c = .ok a)
    (apart : ∀ s ∈ a.samples, s.sample.path ∉ a.files output) (now : Timestamp) :
    a.samples.map (·.sample) = config.enabled ∧
    (∀ before s after e, a.samples = before ++ s :: after →
      (∀ b ∈ before, d.recordError? b.sample = none) → d.recordError? s.sample = some e →
      ∃ ws : List WrittenTable,
        ws.map (·.file output) = before.flatMap (·.files output) ∧
        runFrom [] (Analysis.run d.logged now output a) =
          (.error (.records s.sample.name e), ws.map (·.write output)) ∧
        runFrom [] (Analysis.run d.logged now output { a with samples := before }) =
          (.ok (a.manifestOf now ws),
            ws.map (·.write output) ++ [(a.manifestOf now ws).toWrite output]) ∧
        manifestPath output ∉ ws.map (·.file output) ∧
        (config.IsRead → ∀ path ∈ (s :: after).flatMap (·.files output),
          path ∉ ws.map (·.file output)) ∧
        ∀ path ∉ ws.map (·.file output), d.after (ws.map (·.write output)) path = d path) ∧
    ((∀ s ∈ a.samples, d.recordError? s.sample = none) →
      ∃ (ws : List WrittenTable) (text : String),
        ws.map (·.file output) = a.samples.flatMap (·.files output) ∧
        runFrom [] (Analysis.run d.logged now output a) =
          (.ok (a.manifestOf now ws),
            ws.map (·.write output) ++ [(manifestPath output, Text.utf8 text)]) ∧
        (∃ j, Json.parse? text.toList = some j ∧ (a.manifestOf now ws).IsReadOff j) ∧
        (a.manifestOf now ws).tables.map (fun r => (r.sample, r.table)) = config.tableNames) := by
  have noFile : ∀ s ∈ a.samples, ∀ t ∈ a.samples, s.sample.path ∉ t.files output := by
    intro s hs t ht own
    exact apart s hs (List.mem_cons_of_mem _ (List.mem_flatMap.2 ⟨t, ht, own⟩))
  refine ⟨samples_of_compile compiled, ?_, fun reads => ?_⟩
  · intro before s after e samples reads failed
    have sub : ∀ b ∈ before, b ∈ a.samples := fun b hb => samples ▸ List.mem_append_left _ hb
    obtain ⟨ws, wrote, files⟩ := written_of_reads
      (fun b hb t ht => noFile b (sub b hb) t (sub t ht)) reads
    have unread : d.after (ws.map (·.write output)) s.sample.path = d s.sample.path := by
      refine FileMap.after_writes_of_not_mem (fun own => ?_) d
      rw [files] at own
      obtain ⟨t, ht, own⟩ := List.mem_flatMap.1 own
      exact noFile s (by simp [samples]) t (sub t ht) own
    have filled := (d.after (ws.map (·.write output))).filled_eq s
    rw [FileMap.recordError?_congr unread, failed] at filled
    refine ⟨ws, files, Analysis.run_logged_error samples wrote filled now,
      Analysis.run_logged_ok (a := { a with samples := before }) wrote now, ?_,
      fun read path hpath => ?_, fun path hpath => FileMap.after_writes_of_not_mem hpath d⟩
    · rw [files]
      exact manifestPath_not_mem_files output before
    · rw [files]
      exact not_mem_files read.wellNamed compiled samples hpath
  · obtain ⟨ws, wrote, files⟩ := written_of_reads noFile reads
    have listed : (a.manifestOf now ws).tables.map (fun r => (r.sample, r.table)) =
        config.tableNames := by
      rw [← config_tableNames compiled wrote, Analysis.manifestOf, List.map_map]
      rfl
    exact ⟨ws, _, files, Analysis.run_logged_ok wrote now, (a.manifestOf now ws).exists_parse?_text,
      listed⟩

/-- Two samples, each with the table of one tree. -/
def twoSamples : String :=
  "general.output = \"o\"\n" ++
  "[[sample]]\nname = \"a\"\npath = \"r\"\n" ++
  "[[sample]]\nname = \"b\"\npath = \"q\"\n" ++
  "[[tree]]\nname = \"t\"\nmode = \"reco\"\n"

/-- Records of the two samples, one spill in each. -/
def bothGood : FileMap := oneSpill.put "q" (Text.utf8 "\x7b\x7d\n")

/-- Records of the two samples, of which those of the second end in a bad line. -/
def secondBad : FileMap := oneSpill.put "q" (Text.utf8 "\x7b\x7d\n[\n")

theorem tableNames_twoSamples :
    (Config.parse twoSamples).toOption.map (·.tableNames) = some [("a", "t"), ("b", "t")] := by
  decide +kernel

theorem compile_twoSamples :
    ((Config.parse twoSamples).toOption.bind fun config =>
      (Analysis.compile config .empty).toOption.map fun a =>
        (a.samples.map fun s => (s.sample.name, s.sample.path, s.files "o"),
          a.samples.map fun s =>
            (bothGood.recordError? s.sample, secondBad.recordError? s.sample))) =
      some ([("a", "r", ["o/a/t.jsonl"]), ("b", "q", ["o/b/t.jsonl"])],
        [(none, none), (none, some (.malformed 2 .notJson))]) := by
  decide +kernel

/-- When the second sample fails at its second line, only the table of the first is written. When
neither fails, the manifest comes after both tables and has an entry for each. -/
theorem failing_run_stops_secondBad : ∃ config a, Config.parse twoSamples = .ok config ∧
    Analysis.compile config .empty = .ok a ∧
    (∀ s ∈ a.samples, s.sample.path ∉ a.files "o") ∧
    (∃ ws : List WrittenTable, ws.map (·.file "o") = ["o/a/t.jsonl"] ∧
      "o/b/t.jsonl" ∉ ws.map (·.file "o") ∧
      runFrom [] (Analysis.run secondBad.logged ⟨0, 0⟩ "o" a) =
        (.error (.records "b" (.malformed 2 .notJson)), ws.map (·.write "o"))) ∧
    ∃ (ws : List WrittenTable) (text : String) (j : Json),
      ws.map (·.file "o") = ["o/a/t.jsonl", "o/b/t.jsonl"] ∧
      runFrom [] (Analysis.run bothGood.logged ⟨0, 0⟩ "o" a) =
        (.ok (a.manifestOf ⟨0, 0⟩ ws),
          ws.map (·.write "o") ++ [("o/manifest.json", Text.utf8 text)]) ∧
      Json.parse? text.toList = some j ∧ (a.manifestOf ⟨0, 0⟩ ws).IsReadOff j ∧
      (a.manifestOf ⟨0, 0⟩ ws).tables.map (fun r => (r.sample, r.table)) =
        [("a", "t"), ("b", "t")] := by
  obtain ⟨config, parsed, found⟩ := Option.bind_eq_some_iff.1 compile_twoSamples
  obtain ⟨a, compiled, facts⟩ := Option.map_eq_some_iff.1 found
  rw [toOption_eq_some_iff] at parsed compiled
  simp only [Prod.mk.injEq] at facts
  obtain ⟨samples, errors⟩ := facts
  have names : config.tableNames = [("a", "t"), ("b", "t")] := by
    have named := tableNames_twoSamples
    rw [parsed] at named
    exact Option.some.inj named
  have two : a.samples.length = 2 := by simpa using congrArg List.length samples
  obtain ⟨first, second, both⟩ := List.length_eq_two.1 two
  simp only [both, List.map_cons, List.map_nil, List.cons.injEq, Prod.mk.injEq, and_true]
    at samples errors
  obtain ⟨⟨-, firstPath, firstFiles⟩, name, secondPath, secondFiles⟩ := samples
  obtain ⟨⟨good, good'⟩, bad, bad'⟩ := errors
  have outputs : a.files "o" = ["o/manifest.json", "o/a/t.jsonl", "o/b/t.jsonl"] := by
    simp only [Analysis.files, both, List.flatMap_cons, firstFiles, secondFiles]
    rfl
  have apart : ∀ s ∈ a.samples, s.sample.path ∉ a.files "o" := by
    simp [both, outputs, firstPath, secondPath]
  have read : config.IsRead := ⟨twoSamples, .inl parsed⟩
  refine ⟨config, a, parsed, compiled, apart, ?_, ?_⟩
  · obtain ⟨-, stops, -⟩ := failing_run_stops (d := secondBad) compiled apart ⟨0, 0⟩
    obtain ⟨ws, files, failed, -, -, others, -⟩ :=
      stops [first] second [] _ both (by simpa using good') bad'
    refine ⟨ws, by simpa [firstFiles] using files, others read _ (by simp [secondFiles]), ?_⟩
    rw [failed, name]
  · obtain ⟨-, -, succeeds⟩ := failing_run_stops (d := bothGood) compiled apart ⟨0, 0⟩
    obtain ⟨ws, text, files, ran, ⟨j, value, holds⟩, listed⟩ :=
      succeeds (by simpa [both] using ⟨good, bad⟩)
    refine ⟨ws, text, j, ?_, ran, value, holds, listed.trans names⟩
    simpa [both, firstFiles, secondFiles] using files

end SpillSelection
