import SpillSelection.Json.Decode
import SpillSelection.Proofs.Outcome
/-!
# Fields that are found by name

A record is written as an object whose members have names of their own, so that every one of them
is found by its name: in whatever order the fields are asked for (`memberFields_eq`), and also when
the members were sorted (`exists_perm_sortedObject`).
-/

namespace SpillSelection

/-! ## Entries of different names -/

namespace ByName

variable {α : Type}

theorem insert_perm {name : String} {value : α} {entries : List (String × α)}
    (h : name ∉ entries.map (·.1)) :
    (insert name value entries).Perm ((name, value) :: entries) := by
  induction entries with
  | nil => exact .refl _
  | cons e rest ih =>
    obtain ⟨other, later⟩ : name ≠ e.1 ∧ name ∉ rest.map (·.1) := by simpa using h
    rw [insert, if_neg other]
    split
    case isTrue => exact .refl _
    case isFalse => exact ((ih later).cons e).trans (.swap _ _ _)

/-- Entries of different names are all kept. -/
theorem foldl_insert_perm {entries : List (String × α)} (added : List (String × α))
    (h : ((added ++ entries).map (·.1)).Nodup) :
    (added.foldl (fun sorted m => insert m.1 m.2 sorted) entries).Perm (added ++ entries) := by
  -- Each insertion changes the entries that the next one meets, so these are general.
  induction added generalizing entries with
  | nil => exact .refl _
  | cons m added ih =>
    have new : m.1 ∉ entries.map (·.1) := fun old =>
      (List.nodup_cons.1 h).1 (List.map_append ▸ List.mem_append_right _ old)
    have placed : (insert m.1 m.2 entries).Perm (m :: entries) := insert_perm new
    have all : (added ++ insert m.1 m.2 entries).Perm (m :: (added ++ entries)) :=
      (placed.append_left added).trans List.perm_middle
    exact (ih ((all.map (·.1)).nodup_iff.2 h)).trans all

theorem mem_foldl_insert {added entries : List (String × α)} {m : String × α}
    (h : m ∈ added.foldl (fun sorted m => insert m.1 m.2 sorted) entries) :
    m ∈ entries ∨ m ∈ added := by
  induction added generalizing entries with
  | nil => exact .inl h
  | cons first others ih =>
    rcases ih h with old | later
    · rcases mem_insert old with rfl | old
      · exact .inr List.mem_cons_self
      · exact .inl old
    · exact .inr (List.mem_cons_of_mem _ later)

end ByName

namespace Json

/-! ## Members -/

theorem find?_of_mem {members : List (String × Json)} (nodup : (members.map (·.1)).Nodup)
    {m : String × Json} (hm : m ∈ members) : members.find? (·.1 == m.1) = some m := by
  induction members with
  | nil => cases hm
  | cons first others ih =>
    rw [List.map_cons, List.nodup_cons] at nodup
    rcases List.mem_cons.1 hm with rfl | hm
    · simp
    · have other : first.1 ≠ m.1 := fun same => nodup.1 (same ▸ List.mem_map_of_mem hm)
      rw [List.find?_cons_of_neg (by simpa using other)]
      exact ih nodup.2 hm

theorem member?_of_mem {members sorted : List (String × Json)} (perm : sorted.Perm members)
    (nodup : (members.map (·.1)).Nodup) {m : String × Json} (hm : m ∈ members) :
    member? m.1 (.object sorted) = some m.2 := by
  have found := find?_of_mem ((perm.map (·.1)).nodup_iff.2 nodup) (perm.mem_iff.2 hm)
  rw [member?, found, Option.map_some]

/-- An object of members with different names has all of them. -/
theorem exists_perm_sortedObject {members : List (String × Json)}
    (h : (members.map (·.1)).Nodup) :
    ∃ sorted, sortedObject members = .object sorted ∧ sorted.Perm members := by
  have perm : (members.foldl (fun sorted m => ByName.insert m.1 m.2 sorted) []).Perm
      (members ++ []) := ByName.foldl_insert_perm members (by rwa [List.append_nil])
  rw [List.append_nil] at perm
  exact ⟨_, rfl, perm⟩

/-- Members with names of their own are found by name. -/
theorem memberFields_eq {members : List (String × Json)} (nodup : (members.map (·.1)).Nodup)
    (names : List String) :
    ∃ f : Fields, memberFields names members = .ok f ∧ ∀ m ∈ members, f m.1 = some m.2 := by
  have single (name : String) : isRepeated members name = false := by
    have count : (members.filter (·.1 == name)).length = (members.map (·.1)).count name := by
      rw [List.count, List.countP_map, List.countP_eq_length_filter]
      rfl
    have once := List.nodup_iff_count.1 nodup name
    simp only [isRepeated, count, decide_eq_false_iff_not]
    omega
  have none : names.find? (isRepeated members) = none := by simp [single]
  exact ⟨_, by rw [memberFields, none], fun m hm => by simp [find?_of_mem nodup hm]⟩

theorem asList_array {α : Type} (decode : Decoder α) (items : List Json) :
    asList decode (.array items) = items.mapM decode := rfl

/-- A list is read when each of its items is. -/
theorem asList_map {α : Type} {decode : Decoder α} {encode : α → Json}
    (h : ∀ a, decode (encode a) = .ok a) (as : List α) :
    asList decode (.array (as.map encode)) = .ok as := by
  rw [asList_array]
  induction as with
  | nil => rfl
  | cons a as ih =>
    rw [List.map_cons, List.mapM_cons, h, ih]
    rfl

end Json

end SpillSelection
