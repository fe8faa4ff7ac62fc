import Mathlib.Data.List.Perm.Basic
import SpillSelection.Catalog.Listing
import SpillSelection.Proofs.CatalogHistory
import SpillSelection.Standard.Catalog
/-!
# The order of registrations

Groups of declarations make a catalog exactly if no slot is filled twice, and as a catalog has
nothing beside its slots and labels, it does not matter in which order the groups come
(`groups_in_any_order`).
-/

namespace SpillSelection

namespace Catalog

variable {c c₁ c₂ : Catalog} {groups groups' : List (List Declaration)}

/-- The entries of some groups, in the order in which they are registered. -/
def entriesOf (groups : List (List Declaration)) : List Entry :=
  groups.flatten.flatMap Declaration.entries

/-- The slots that some groups fill. -/
def slotsOf (groups : List (List Declaration)) : List Slot :=
  groups.flatten.flatMap Declaration.slots

theorem map_slot_entriesOf (groups : List (List Declaration)) :
    (entriesOf groups).map Entry.slot = slotsOf groups := by
  rw [entriesOf, slotsOf, List.map_flatMap]
  exact List.flatMap_congr fun d _ => d.map_slot_entries

theorem entriesOf_perm (perm : groups.Perm groups') :
    (entriesOf groups).Perm (entriesOf groups') :=
  perm.flatten.flatMap_right _

theorem find?_empty (s : Slot) : empty.find? s = none := by
  rw [Option.eq_none_iff_forall_ne_some]
  intro f found
  exact not_registered_empty (find?_eq_some_iff.1 found)

theorem ofGroups_ok_iff :
    ofGroups groups = .ok c ↔ empty.registerAll (entriesOf groups) = (c, none) := by
  rw [ofGroups, declare, entriesOf]
  split
  case h_1 made => simp [made]
  case h_2 made => simp [made]

/-- What a group declares is found. -/
theorem find?_ofGroups (made : ofGroups groups = .ok c) {d : Declaration} (hd : d ∈ groups.flatten)
    {e : Entry} (he : e ∈ d.entries) : c.find? e.slot = some e.function :=
  (find?_registerAll_iff (ofGroups_ok_iff.1 made)).2
    (.inr ⟨e, List.mem_flatMap.2 ⟨d, hd, he⟩, rfl⟩)

/-- What a group declares is found, whatever is added to the catalog later. -/
theorem find?_after_ofGroups (made : ofGroups groups = .ok c) {group : List Declaration}
    (among : group ∈ groups) {d : Declaration} (hd : d ∈ group) {e : Entry} (he : e ∈ d.entries)
    (changes : List Change) : (c.after changes).find? e.slot = some e.function :=
  find?_after_of_some (find?_ofGroups made (List.mem_flatten.2 ⟨group, among, hd⟩) he) changes

theorem ofGroups_succeeds_iff : (∃ c, ofGroups groups = .ok c) ↔ (slotsOf groups).Nodup := by
  have accepted : (∃ c, ofGroups groups = .ok c) ↔
      (empty.registerAll (entriesOf groups)).2 = none := by
    simp only [ofGroups_ok_iff, Prod.ext_iff, exists_and_right, exists_eq', true_and]
  rw [accepted, registerAll_succeeds_iff, map_slot_entriesOf]
  exact and_iff_left fun e _ => find?_empty e.slot

/-- Accepted entries leave the same in any order. -/
theorem eq_of_registerAll_perm {es es' : List Entry} (perm : es.Perm es')
    (h₁ : c.registerAll es = (c₁, none)) (h₂ : c.registerAll es' = (c₂, none)) : c₁ = c₂ := by
  refine ext_find? (fun k o => ?_) fun s => ?_
  · have first := c.label_registerAll es k o
    have second := c.label_registerAll es' k o
    rw [h₁] at first
    rw [h₂] at second
    exact first.trans second.symm
  · ext f
    rw [find?_registerAll_iff h₁, find?_registerAll_iff h₂]
    simp only [perm.mem_iff]

/-- Another order of the groups makes the same catalog. -/
theorem ofGroups_perm (made : ofGroups groups = .ok c) (perm : groups.Perm groups') :
    ofGroups groups' = .ok c := by
  have nodup : (slotsOf groups').Nodup :=
    (perm.flatten.flatMap_right _).nodup_iff.1 (ofGroups_succeeds_iff.1 ⟨c, made⟩)
  obtain ⟨c', made'⟩ := ofGroups_succeeds_iff.2 nodup
  rw [ofGroups_ok_iff] at made
  have same : c = c' :=
    eq_of_registerAll_perm (entriesOf_perm perm) made (ofGroups_ok_iff.1 made')
  rwa [same]

end Catalog

/-- Groups of declarations make a catalog exactly if together they fill no slot twice, and then
they do so in every order, with the same answer to every lookup and the same listing. -/
theorem groups_in_any_order (groups : List (List Declaration)) :
    ((∃ c, Catalog.ofGroups groups = .ok c) ↔ (Catalog.slotsOf groups).Nodup) ∧
    ∀ c groups', Catalog.ofGroups groups = .ok c → groups.Perm groups' →
      ∃ c', Catalog.ofGroups groups' = .ok c' ∧
        (∀ k o base, c'.lookup k o base = c.lookup k o base) ∧ c'.listing = c.listing := by
  refine ⟨Catalog.ofGroups_succeeds_iff, fun c groups' made perm => ?_⟩
  exact ⟨c, Catalog.ofGroups_perm made perm, fun _ _ _ => rfl, rfl⟩

/-- Groups of the standard catalog. A cut of one name is in them for spills and for beam records,
and as a variable for spills only. -/
def eventGroups : List (List Declaration) :=
  [Standard.selectors, Standard.events, Standard.neutrinos]

theorem nodup_eventGroups : (Catalog.slotsOf eventGroups).Nodup := by
  decide +kernel

/-- The groups make a catalog backwards too, and it reads the same. -/
theorem groups_in_any_order_eventGroups : ∃ c c', Catalog.ofGroups eventGroups = .ok c ∧
    Catalog.ofGroups eventGroups.reverse = .ok c' ∧
    (∀ k o base, c'.lookup k o base = c.lookup k o base) ∧ c'.listing = c.listing := by
  obtain ⟨accepted, anyOrder⟩ := groups_in_any_order eventGroups
  obtain ⟨c, made⟩ := accepted.2 nodup_eventGroups
  obtain ⟨c', backwards, lookups, listing⟩ :=
    anyOrder c eventGroups.reverse made (List.reverse_perm _).symm
  exact ⟨c, c', made, backwards, lookups, listing⟩

end SpillSelection
