import Mathlib
import SpillSelection.Analysis.Run
import SpillSelection.Proofs.ManifestText
import SpillSelection.Proofs.WrittenFiles
/-!
# Manifests that are read as they were written

A manifest's text is laid out over lines, so the value is found in it by passing the blanks, and
the fields are found in the value by their names. What a run says of itself can therefore be read
again from the directory it was written to, on any file system that keeps what is written
(`Manifest.run_read_of_write`), if the text of its time stamp is.
-/

namespace SpillSelection

open Json

/-! ## Records of tables -/

theorem TableRecord.ofJson_members (t : TableRecord) : ofJson (.object t.members) = .ok t := by
  have nodup : (t.members.map (·.1)).Nodup := by simp [members]
  obtain ⟨f, found, given⟩ := memberFields_eq nodup names
  have reads : fields names (.object t.members) = .ok f := found
  have text (name : String) : asString (.string name) = .ok name := rfl
  have branches : asList asString (.array (t.branches.map .string)) = .ok t.branches :=
    asList_map text t.branches
  simp only [members, List.forall_mem_cons] at given
  simp only [ofJson, reads, Fields.get, given, text, branches, asUInt64_ofNat, ok_bind]
  rfl

/-! ## Manifests -/

namespace Manifest

/-- The text of the time stamp is read as the time stamp. -/
def IsStamped (m : Manifest) : Prop := Timestamp.ofText? m.generatedAt.text = some m.generatedAt

theorem ofJson_members {m : Manifest} (stamped : m.IsStamped) :
    ofJson (.object (m.membersWith .object)) = .ok m := by
  have nodup : ((m.membersWith .object).map (·.1)).Nodup := by simp [membersWith]
  obtain ⟨f, found, given⟩ := memberFields_eq nodup names
  have reads : fields names (.object (m.membersWith .object)) = .ok f := found
  have stamp : asTimestamp (.string m.generatedAt.text) = .ok m.generatedAt := by
    rw [asTimestamp, asString, ok_bind, stamped]
  have tables : asList TableRecord.ofJson
      (.array (m.tables.map fun t => .object t.members)) = .ok m.tables :=
    asList_map TableRecord.ofJson_members m.tables
  simp only [membersWith, List.forall_mem_cons] at given
  simp only [ofJson, reads, Fields.get, given, asString, asUInt32_ofNat, stamp, tables, ok_bind]
  rfl

theorem ofText_text {m : Manifest} (stamped : m.IsStamped) : ofText m.text = .ok m := by
  rw [ofText, decodeText, m.parse?_text]
  exact ofJson_members stamped

/-- Counts are added modulo 2 ^ 64. -/
theorem toNat_foldl_add (counts : List UInt64) (start : UInt64) :
    (counts.foldl (· + ·) start).toNat =
      (start.toNat + (counts.map (·.toNat)).sum) % 2 ^ 64 := by
  induction counts generalizing start with
  | nil => simp [Nat.mod_eq_of_lt start.toNat_lt]
  | cons count counts ih =>
    rw [List.foldl_cons, ih, UInt64.toNat_add, List.map_cons, List.sum_cons]
    omega

theorem toNat_totalRows {m : Manifest} (h : (m.tables.map (·.rows.toNat)).sum < 2 ^ 64) :
    m.totalRows.toNat = (m.tables.map (·.rows.toNat)).sum := by
  rw [totalRows, toNat_foldl_add, List.map_map]
  simpa [Function.comp_def] using h

/-- A manifest that was written to a directory is read from it. -/
theorem run_read_of_write {σ : Type} {files : FileAccess (StateM σ)} (h : files.KeepsWrites)
    {m : Manifest} (stamped : m.IsStamped) {dir : String} {s s' : σ}
    (wrote : (m.write files dir).run s = (.ok (), s')) :
    (Manifest.read files dir).run s' = (.ok m, s') := by
  rw [write, StateT.run_bind] at wrote
  cases made : (files.makeDirs dir).run s with
  | mk result s₁ =>
    rw [made] at wrote
    cases result with
    | error e => cases congrArg Prod.fst wrote
    | ok made =>
      rw [read, StateT.run_bind, h.readText wrote]
      simp only [bind, ofText_text stamped]
      rfl

end Manifest

/-- A manifest that is written to a directory is read back from it as it was, whatever is in its
strings. Files of a map can always be written; in a file tree a write may fail, and one that
succeeds is read. The rows of its tables add up to their number below 2 ^ 64. -/
theorem manifest_read_back {m : Manifest}
    (stamped : Timestamp.ofText? m.generatedAt.text = some m.generatedAt) (dir : String) :
    (∀ d : FileMap, ∃ d', (m.write FileMap.access dir).run d = (.ok (), d') ∧
      (Manifest.read FileMap.access dir).run d' = (.ok m, d')) ∧
    (∀ t t' : FileTree, (m.write FileTree.access dir).run t = (.ok (), t') →
      (Manifest.read FileTree.access dir).run t' = (.ok m, t')) ∧
    ((m.tables.map (·.rows.toNat)).sum < 2 ^ 64 →
      m.totalRows.toNat = (m.tables.map (·.rows.toNat)).sum) := by
  refine ⟨fun d => ?_, fun t t' => ?_, Manifest.toNat_totalRows⟩
  · have wrote := FileMap.access_stores.run_writeManifest dir m d
    exact ⟨_, wrote, Manifest.run_read_of_write FileMap.keepsWrites stamped wrote⟩
  · exact Manifest.run_read_of_write FileTree.keepsWrites stamped

/-- Strings with quotes, line ends and other control characters in them, an empty one, a table
without branches, and counts up to the greatest. -/
def unusualManifest : Manifest where
  schema := 4294967295
  kind := "\"quoted\" \\ back\\slash"
  configDigest := "\x00\t\r\n\x1f\x7f"
  generatedAt := ⟨1754006400, 123456789⟩
  tables := [
    ⟨"", "π⁰ 𝛾𝛾", "a\n  \"rows\": 0,", ["", "[", "\\u0000", "\u2028"], 18446744073709551614, 0⟩,
    ⟨"data", "none", "data.none.jsonl", [], 1, 18446744073709551615⟩]

theorem unusualManifest_read_back :
    ∃ t, (unusualManifest.write FileTree.access "out/run").run {} = (.ok (), t) ∧
      (Manifest.read FileTree.access "out/run").run t = (.ok unusualManifest, t) ∧
      unusualManifest.totalRows.toNat = 18446744073709551615 := by
  have stamped : Timestamp.ofText? unusualManifest.generatedAt.text =
      some unusualManifest.generatedAt := by decide +kernel
  have written : ((unusualManifest.write FileTree.access "out/run").run {}).1 = .ok () := by
    decide +kernel
  obtain ⟨-, tree, rows⟩ := manifest_read_back stamped "out/run"
  have wrote := Prod.ext_iff.2 ⟨written, rfl⟩
  exact ⟨_, wrote, tree _ _ wrote, rows (by decide)⟩

end SpillSelection
