import SpillSelection.Proofs.ManifestText
import SpillSelection.Report
/-!
# What reports say

A report is an exit code and the text of two channels. `Report.Answers` and `Report.Fails` say what
these hold without the printer: the lines of an answer, or the value that its text is read as, and
the message and the code of an error. A check answers with the outline of an analysis, in lines or
as JSON (`Analysis.answers_outline`); the tables in it are listed by `SampleOutline.entries`.
-/

namespace SpillSelection

open Json

/-! ## Answers and failures -/

/-- A report that answers a command: in some lines, or in JSON that is read as a value of which
something holds. -/
structure Report.Answers (r : Report) (json : Bool) (lines : List String) (holds : Json → Prop) :
    Prop where
  code : r.code = 0
  errors : r.errors = ""
  text : json = false → r.output = String.join (lines.map (· ++ "\n"))
  value : json = true → ∃ j, parse? r.output.toList = some j ∧ holds j

theorem Report.answers_answer {j : Json} {holds : Json → Prop} (numerals : j.HasNumerals)
    (h : holds j) (json : Bool) (lines : List String) :
    (answer json lines j).Answers json lines holds := by
  have text : (String.join ([j.pretty].map (· ++ "\n"))).toList = j.pretty.toList ++ ['\n'] := by
    simp [String.join]
  cases json with
  | false => exact ⟨rfl, rfl, fun _ => rfl, nofun⟩
  | true =>
    refine ⟨rfl, rfl, nofun, fun _ => ⟨j, ?_, h⟩⟩
    rw [answer, if_pos rfl, ofJson, ofLines, unlines, text]
    exact (parse?_pretty numerals).2

/-- Errors of files: records that are not read, tables that are not written, and a configuration
that cannot be opened. -/
inductive AnalysisError.IsOfFiles : AnalysisError → Prop
  | records (sample : String) (error : RecordError) : IsOfFiles (.records sample error)
  | write (path message : String) : IsOfFiles (.write path message)
  | config (path message : String) : IsOfFiles (.config (.unreadable path message))

/-- A report of an error: its message, and a code that tells the errors of files from others. -/
structure Report.Fails (r : Report) (e : AnalysisError) : Prop where
  output : r.output = ""
  errors : r.errors = "error: " ++ e.message ++ "\n"
  ofFiles : e.IsOfFiles → r.code = 2
  ofOthers : ¬e.IsOfFiles → r.code = 1

theorem AnalysisError.exitCode_of_isOfFiles {e : AnalysisError} (h : e.IsOfFiles) :
    e.exitCode = 2 := by
  cases h <;> rfl

theorem AnalysisError.exitCode_of_not_isOfFiles {e : AnalysisError} (h : ¬e.IsOfFiles) :
    e.exitCode = 1 := by
  unfold exitCode
  split
  · exact absurd (.records ..) h
  · exact absurd (.write ..) h
  · exact absurd (.config ..) h
  · rfl

theorem AnalysisError.fails_report (e : AnalysisError) : e.report.Fails e where
  output := rfl
  errors := by simp [report, Report.failure, unlines, String.join]
  ofFiles := exitCode_of_isOfFiles
  ofOthers := exitCode_of_not_isOfFiles

/-- A report of how a run ended: it answers with the manifest, in some lines or in JSON, or it fails
with the error. -/
def Report.Concludes (r : Report) (json : Bool) (lines : Manifest → List String) :
    Except AnalysisError Manifest → Prop
  | .ok manifest => r.Answers json (lines manifest) manifest.IsReadOff
  | .error e => r.Fails e

/-! ## Outlines -/

/-- The tables that are reported for a tree, each with its columns. -/
def TreeOutline.tables (t : TreeOutline) : List (String × List String) :=
  (t.tree, t.branches) :: (t.exposureTable?.map fun name => (name, ["livetime", "pot"])).toList

/-- The tables that are reported for a sample, under the sample's name. -/
def SampleOutline.entries (s : SampleOutline) : List (String × String × List String) :=
  (s.trees.flatMap (·.tables)).map (Prod.mk s.sample)

/-- The lines for a sample: one for itself and one for each of its tables. -/
def SampleOutline.listing (s : SampleOutline) : List String :=
  ("  Sample " ++ s.sample ++ if s.simulated then " (simulation)" else " (data)") ::
    s.entries.map fun t => "    Tree " ++ t.2.1 ++ ": " ++ ", ".intercalate t.2.2

/-- The lines of a check. -/
def Analysis.listing (path : String) (a : Analysis) : List String :=
  ["spine check " ++ path, "  Digest: " ++ a.config.digest] ++ a.outline.flatMap (·.listing)

theorem TreeOutline.lines_eq (t : TreeOutline) :
    t.lines = t.tables.map fun u => "    Tree " ++ u.1 ++ ": " ++ ", ".intercalate u.2 := by
  unfold lines tables
  cases t.exposureTable? <;> rfl

theorem SampleOutline.lines_eq (s : SampleOutline) : s.lines = s.listing := by
  rw [lines, listing, entries, List.map_map, List.map_flatMap]
  exact congrArg _ (List.flatMap_congr fun t _ => t.lines_eq)

theorem Analysis.lines_eq (path : String) (a : Analysis) : a.lines path = a.listing path := by
  rw [lines, listing, List.flatMap_congr fun s _ => s.lines_eq]
  rfl

/-- What is found in a value that stands for a tree. -/
structure TreeOutline.IsReadOff (t : TreeOutline) (j : Json) : Prop where
  tree : j.member? "tree" = some (.string t.tree)
  branches : j.member? "branches" = some (.array (t.branches.map .string))
  exposure : j.member? "exposure_table" = some (match t.exposureTable? with
    | some name => .string name
    | none => .null)

/-- What is found in a value that stands for a sample. -/
structure SampleOutline.IsReadOff (s : SampleOutline) (j : Json) : Prop where
  sample : j.member? "sample" = some (.string s.sample)
  simulated : j.member? "simulated" = some (.bool s.simulated)
  trees : ∃ items, j.member? "trees" = some (.array items) ∧
    List.Forall₂ TreeOutline.IsReadOff s.trees items

/-- What is found in a value that stands for the check of a configuration. -/
structure Analysis.IsReadOff (path : String) (a : Analysis) (j : Json) : Prop where
  schema : j.member? "schema" = some (.number "1")
  kind : j.member? "kind" = some (.string "spine.check_report.v1")
  config : j.member? "config" = some (.string path)
  digest : j.member? "config_digest" = some (.string a.config.digest)
  samples : ∃ items, j.member? "samples" = some (.array items) ∧
    List.Forall₂ SampleOutline.IsReadOff a.outline items

theorem member?_sortedObject {members : List (String × Json)} {name : String} {v : Json}
    (nodup : (members.map (·.1)).Nodup) (h : (name, v) ∈ members) :
    (sortedObject members).member? name = some v :=
  makesObjects_sortedObject.found nodup (name, v) h

theorem TreeOutline.isReadOff_toJson (t : TreeOutline) : t.IsReadOff t.toJson where
  tree := member?_sortedObject (by simp) (by simp)
  branches := member?_sortedObject (by simp) (by simp)
  exposure := by
    have found : t.toJson.member? "exposure_table" = some (.ofOption .string t.exposureTable?) :=
      member?_sortedObject (by simp) (by simp)
    rw [found]
    cases t.exposureTable? <;> rfl

theorem SampleOutline.isReadOff_toJson (s : SampleOutline) : s.IsReadOff s.toJson where
  sample := member?_sortedObject (by simp) (by simp)
  simulated := member?_sortedObject (by simp) (by simp)
  trees := ⟨_, member?_sortedObject (by simp) (by simp),
    List.forall₂_map_right_iff.2 (List.forall₂_same.2 fun t _ => t.isReadOff_toJson)⟩

theorem Analysis.isReadOff_toJson (path : String) (a : Analysis) :
    a.IsReadOff path (a.toJson path) where
  schema := member?_sortedObject (by simp) List.mem_cons_self
  kind := member?_sortedObject (by simp) (by simp)
  config := member?_sortedObject (by simp) (by simp)
  digest := member?_sortedObject (by simp) (by simp)
  samples := ⟨_, member?_sortedObject (by simp) (by simp),
    List.forall₂_map_right_iff.2 (List.forall₂_same.2 fun s _ => s.isReadOff_toJson)⟩

theorem TreeOutline.hasNumerals_toJson (t : TreeOutline) : t.toJson.HasNumerals := by
  have exposure : (ofOption Json.string t.exposureTable?).HasNumerals := by
    cases t.exposureTable? with
    | none => exact .null
    | some name => exact .string name
  exact makesObjects_sortedObject.hasNumerals (by simp [exposure])

theorem SampleOutline.hasNumerals_toJson (s : SampleOutline) : s.toJson.HasNumerals :=
  makesObjects_sortedObject.hasNumerals (by simp [TreeOutline.hasNumerals_toJson])

theorem Analysis.hasNumerals_toJson (path : String) (a : Analysis) :
    (a.toJson path).HasNumerals :=
  makesObjects_sortedObject.hasNumerals (by simp [SampleOutline.hasNumerals_toJson])

/-- What a check answers with is the outline of the analysis, in lines or in JSON. -/
theorem Analysis.answers_outline (path : String) (a : Analysis) (json : Bool) :
    (Report.answer json (a.lines path) (a.toJson path)).Answers json (a.listing path)
      (a.IsReadOff path) := by
  rw [a.lines_eq]
  exact Report.answers_answer (a.hasNumerals_toJson path) (a.isReadOff_toJson path) json _

/-- What a run answers with is its manifest. -/
theorem Manifest.answers_manifest (m : Manifest) (json : Bool) (lines : List String) :
    (Report.answer json lines m.toJson).Answers json lines m.IsReadOff :=
  Report.answers_answer (m.hasNumerals makesObjects_sortedObject)
    (m.isReadOff makesObjects_sortedObject) json lines

end SpillSelection
