import SpillSelection.Manifest
import SpillSelection.Proofs.JsonLayout
import SpillSelection.Proofs.Numerals
import SpillSelection.Proofs.RecordFields
/-!
# What a manifest's text holds

A manifest is given as JSON in two ways: with its fields in their declared order in the file of a
run, and with its fields sorted in the report of a run. `Manifest.IsReadOff` says member by member
what is found in such a value. It holds of both (`Manifest.isReadOff`), so the text of a manifest's
file is read as a value in which every table has its entry (`Manifest.exists_parse?_text`).
-/

namespace SpillSelection

/-! ## Objects -/

namespace Json

/-- A way to make objects in which members with names of their own are found, whatever becomes of
their order. -/
structure MakesObjects (make : List (String × Json) → Json) : Prop where
  found {members : List (String × Json)} (nodup : (members.map (·.1)).Nodup) :
    ∀ m ∈ members, member? m.1 (make members) = some m.2
  hasNumerals {members : List (String × Json)} (each : ∀ m ∈ members, m.2.HasNumerals) :
    (make members).HasNumerals

theorem makesObjects_object : MakesObjects .object where
  found nodup _ hm := member?_of_mem (.refl _) nodup hm
  hasNumerals := .object

theorem makesObjects_sortedObject : MakesObjects sortedObject where
  found := by
    intro members nodup m hm
    obtain ⟨sorted, object, perm⟩ := exists_perm_sortedObject nodup
    rw [object]
    exact member?_of_mem perm nodup hm
  hasNumerals := by
    intro members each
    refine .object fun m hm => each m ?_
    exact (ByName.mem_foldl_insert hm).resolve_left List.not_mem_nil

end Json

open Json

variable {make : List (String × Json) → Json}

/-! ## Entries of tables -/

/-- What is found in a value that stands for the entry of a table. -/
structure TableRecord.IsReadOff (t : TableRecord) (j : Json) : Prop where
  sample : j.member? "sample" = some (.string t.sample)
  table : j.member? "table" = some (.string t.table)
  path : j.member? "path" = some (.string t.path)
  branches : j.member? "branches" = some (.array (t.branches.map .string))
  rows : j.member? "rows" = some (.number (toString t.rows.toNat))
  spills : j.member? "spills" = some (.number (toString t.spills.toNat))

theorem TableRecord.isReadOff (h : MakesObjects make) (t : TableRecord) :
    t.IsReadOff (make t.members) := by
  have nodup : (t.members.map (·.1)).Nodup := by simp [members]
  have found := h.found nodup
  simp only [members, List.forall_mem_cons] at found
  obtain ⟨sample, table, path, branches, rows, spills, -⟩ := found
  exact ⟨sample, table, path, branches, rows, spills⟩

theorem TableRecord.hasNumerals (h : MakesObjects make) (t : TableRecord) :
    (make t.members).HasNumerals :=
  h.hasNumerals (by simp [members])

/-! ## Manifests -/

/-- What is found in a value that stands for a manifest: its own fields, and an entry for each table
in their order. -/
structure Manifest.IsReadOff (m : Manifest) (j : Json) : Prop where
  schema : j.member? "schema" = some (.number (toString m.schema.toNat))
  kind : j.member? "kind" = some (.string m.kind)
  configDigest : j.member? "configDigest" = some (.string m.configDigest)
  generatedAt : j.member? "generatedAt" = some (.string m.generatedAt.text)
  tables : ∃ items, j.member? "tables" = some (.array items) ∧
    List.Forall₂ TableRecord.IsReadOff m.tables items

namespace Manifest

theorem isReadOff (h : MakesObjects make) (m : Manifest) :
    m.IsReadOff (make (m.membersWith make)) := by
  have nodup : ((m.membersWith make).map (·.1)).Nodup := by simp [membersWith]
  have found := h.found nodup
  simp only [membersWith, List.forall_mem_cons] at found
  obtain ⟨schema, kind, digest, stamp, tables, -⟩ := found
  refine ⟨schema, kind, digest, stamp, _, tables, ?_⟩
  exact List.forall₂_map_right_iff.2 (List.forall₂_same.2 fun t _ => t.isReadOff h)

theorem hasNumerals (h : MakesObjects make) (m : Manifest) :
    (make (m.membersWith make)).HasNumerals :=
  h.hasNumerals (by simp [membersWith, TableRecord.hasNumerals h])

theorem parse?_text (m : Manifest) :
    parse? m.text.toList = some (.object (m.membersWith .object)) := by
  rw [text, String.toList_append]
  exact (parse?_pretty (m.hasNumerals makesObjects_object)).2

/-- The text of a manifest's file is read as a value that holds the manifest. -/
theorem exists_parse?_text (m : Manifest) :
    ∃ j, parse? m.text.toList = some j ∧ m.IsReadOff j :=
  ⟨_, m.parse?_text, m.isReadOff makesObjects_object⟩

end Manifest

end SpillSelection
