import Mathlib.Data.List.Nodup
import SpillSelection.Catalog.Listing
import SpillSelection.Proofs.CatalogHistory
import SpillSelection.Proofs.RegistryHistory
/-!
# Listings

A listing names what can be looked up, and nothing else. Whatever happened to a catalog, its
registries keep their labels, and a name gets into one of them only as the canonical name of a base
name (`canonical_after`). So the names of a listing are those whose base names are found
(`listing_is_lookups`).
-/

namespace SpillSelection

/-! ## Registries -/

def Kind.text : Kind → String
  | .ofCut => "cut"
  | .ofVariable => "variable"
  | .ofSelector => "selector"

/-- The label of the registry of a kind for an object type. -/
def registryLabel (k : Kind) (o : ObjectType) : String := k.text ++ "<" ++ o.text ++ ">"

/-- All registries in the order of listings: cuts, variables and selectors, and for each of them the
object types. -/
def registries : List (Kind × ObjectType) :=
  [.ofCut, .ofVariable, .ofSelector].flatMap fun k => ObjectType.all.map fun o => (k, o)

def registryLabels : List String := registries.map fun r => registryLabel r.1 r.2

theorem mem_registries (r : Kind × ObjectType) : r ∈ registries := by
  obtain ⟨k, o⟩ := r
  cases k <;> simp [registries, ObjectType.mem_all]

theorem nodup_registryLabels : registryLabels.Nodup := by
  decide

theorem registryLabel_injective {k k' : Kind} {o o' : ObjectType}
    (same : registryLabel k o = registryLabel k' o') : (k, o) = (k', o') :=
  List.inj_on_of_nodup_map nodup_registryLabels (mem_registries (k, o)) (mem_registries (k', o'))
    same

theorem ObjectType.canonicalName_inj (o : ObjectType) {base base' : String} :
    o.canonicalName base = o.canonicalName base' ↔ base = base' := by
  unfold canonicalName
  cases o.side? with
  | none => rfl
  | some s => exact String.append_right_inj _

theorem Registry.isEmpty_eq_false_iff {α : Type} {r : Registry α} :
    r.isEmpty = false ↔ r.names ≠ [] := by
  simp [isEmpty, names]

namespace Catalog

variable {c : Catalog}

/-! ## Canonical names -/

/-- The registries have their labels, and every name in them is made of a base name. -/
structure Canonical (c : Catalog) : Prop where
  labels : ∀ k o, c.label k o = registryLabel k o
  names : ∀ s f, c.find? s = some f → ∃ base, s.object.canonicalName base = s.name

theorem canonical_empty : empty.Canonical where
  labels k o := by rcases k with _ | _ | _ <;> rcases o with ⟨_ | _⟩ | ⟨_ | _⟩ | _ | _ | _ <;> rfl
  names s f found := absurd (find?_eq_some_iff.1 found) not_registered_empty

theorem Canonical.registerAll (h : c.Canonical) (es : List Entry) :
    (c.registerAll es).1.Canonical where
  labels k o := (c.label_registerAll es k o).trans (h.labels k o)
  names s f found := by
    obtain ⟨accepted, -, -, registered, -⟩ := c.exists_accepted es
    rcases (find?_registerAll_iff registered).1 found with before | ⟨e, -, filled⟩
    · exact h.names s f before
    · obtain ⟨rfl, -⟩ := Sigma.mk.inj filled
      cases e with
      | ofCut base f | ofVariable base f | ofSelector base f => exact ⟨base, rfl⟩

/-- One step, accepted or not. -/
theorem Canonical.change (h : c.Canonical) (x : Change) : (c.change x).1.Canonical := by
  cases x with
  | declare d =>
    rw [change_declare]
    exact h.registerAll d.entries
  | publish categories =>
    rw [Catalog.change]
    rcases c.publish_cases categories with ⟨-, classify, -, published, -⟩ | ⟨-, e, refused, -⟩
    · rw [published]
      exact h.registerAll _
    · rwa [refused]

theorem Canonical.after (h : c.Canonical) (changes : List Change) :
    (c.after changes).Canonical := by
  induction changes generalizing c with
  | nil => exact h
  | cons x changes ih => exact ih (h.change x)

/-! ## What is listed -/

/-- The registry of a kind for an object type. -/
def registry (c : Catalog) (r : Kind × ObjectType) : Registry (Signature r.2.Carrier r.1.Result) :=
  (c.tables r.1).get r.2

/-- A listing has the registries that are not empty. -/
theorem listing_eq (c : Catalog) :
    c.listing = (registries.filter fun r => !(c.registry r).isEmpty).map fun r =>
      ⟨(c.registry r).label, (c.registry r).names⟩ := by
  simp [listing, Tables.listing, registries, List.filter_map, Function.comp_def, registry, tables]

/-- A name stands in the listing of the registry with a label. -/
def Lists (c : Catalog) (label name : String) : Prop :=
  ∃ l ∈ c.listing, l.registry = label ∧ name ∈ l.names

theorem mem_listing_iff {l : Listing} :
    l ∈ c.listing ↔ ∃ r, (c.registry r).isEmpty = false ∧
      ⟨(c.registry r).label, (c.registry r).names⟩ = l := by
  simp [listing_eq, mem_registries]

/-- What is listed under a label is what the slots with that label hold. -/
theorem Canonical.lists_iff (h : c.Canonical) {k : Kind} {o : ObjectType} {name : String} :
    c.Lists (registryLabel k o) name ↔ ∃ f, c.find? ⟨k, o, name⟩ = some f := by
  constructor
  · rintro ⟨l, listed, label, member⟩
    obtain ⟨⟨k', o'⟩, -, rfl⟩ := mem_listing_iff.1 listed
    have same : registryLabel k' o' = registryLabel k o := (h.labels k' o').symm.trans label
    cases registryLabel_injective same
    exact Registry.mem_names_iff.1 member
  · intro found
    have member : name ∈ (c.registry (k, o)).names := Registry.mem_names_iff.2 found
    have some : (c.registry (k, o)).isEmpty = false :=
      Registry.isEmpty_eq_false_iff.2 (List.ne_nil_of_mem member)
    exact ⟨_, mem_listing_iff.2 ⟨(k, o), some, rfl⟩, h.labels k o, member⟩

/-- A listing that is in order and names what can be looked up. -/
structure ListsLookups (c : Catalog) : Prop where
  /-- Each registry is listed once at most, in the fixed order. -/
  order : (c.listing.map (·.registry)).Sublist registryLabels
  once : (c.listing.map (·.registry)).Nodup
  filled : ∀ l ∈ c.listing, l.names ≠ []
  increasing : ∀ l ∈ c.listing, l.names.Pairwise fun a b => Text.utf8 a < Text.utf8 b
  /-- A name is listed if it is made of a base name that is found. -/
  listed : ∀ k o name, c.Lists (registryLabel k o) name ↔
    ∃ base, o.canonicalName base = name ∧ ∃ f, c.lookup k o base = .ok f
  /-- It is made of one base name only. -/
  unique : ∀ k o name, c.Lists (registryLabel k o) name → ∃! base, o.canonicalName base = name
  /-- On a side, what is listed has the word of the side in front. -/
  ofSide : ∀ k o s name, o.side? = some s → c.Lists (registryLabel k o) name →
    ∃ base, name = s.text ++ "_" ++ base

theorem Canonical.labels_sublist (h : c.Canonical) :
    (c.listing.map (·.registry)).Sublist registryLabels := by
  have labels : c.listing.map (·.registry) =
      (registries.filter fun r => !(c.registry r).isEmpty).map fun r => registryLabel r.1 r.2 := by
    rw [listing_eq, List.map_map]
    exact List.map_congr_left fun r _ => h.labels r.1 r.2
  rw [labels]
  exact List.filter_sublist.map _

theorem Canonical.lists_iff_lookup (h : c.Canonical) {k : Kind} {o : ObjectType} {name : String} :
    c.Lists (registryLabel k o) name ↔
      ∃ base, o.canonicalName base = name ∧ ∃ f, c.lookup k o base = .ok f := by
  rw [h.lists_iff]
  constructor
  · rintro ⟨f, found⟩
    obtain ⟨base, canonical⟩ := h.names _ f found
    change o.canonicalName base = name at canonical
    subst canonical
    exact ⟨base, rfl, f, lookup_ok_iff.2 found⟩
  · rintro ⟨base, rfl, f, found⟩
    exact ⟨f, lookup_ok_iff.1 found⟩

theorem Canonical.listsLookups (h : c.Canonical) : c.ListsLookups where
  order := h.labels_sublist
  once := h.labels_sublist.nodup nodup_registryLabels
  filled := by
    intro l listed
    obtain ⟨r, some, rfl⟩ := mem_listing_iff.1 listed
    exact Registry.isEmpty_eq_false_iff.1 some
  increasing := by
    intro l listed
    obtain ⟨r, -, rfl⟩ := mem_listing_iff.1 listed
    exact (c.registry r).names_increasing
  listed k o name := h.lists_iff_lookup
  unique k o name listed := by
    obtain ⟨base, rfl, -⟩ := h.lists_iff_lookup.1 listed
    exact ⟨base, rfl, fun other same => o.canonicalName_inj.1 same⟩
  ofSide k o s name side listed := by
    obtain ⟨base, rfl, -⟩ := h.lists_iff_lookup.1 listed
    rw [ObjectType.canonicalName, side]
    exact ⟨base, rfl⟩

end Catalog

/-- Whatever happened to a catalog, accepted or not, its listing has each registry once at most and
in the fixed order, without those that are empty; the names of one increase in the order of their
bytes, and they are those whose base names, one for each name, are found. -/
theorem listing_is_lookups (changes : List Change) :
    (Catalog.empty.after changes).ListsLookups :=
  (Catalog.canonical_empty.after changes).listsLookups

/-- A declaration that is refused half way leaves names behind, and they are listed. -/
example : taggedOnBoth.listing =
    [⟨"cut<true_interaction>", ["true_tagged"]⟩, ⟨"cut<reco_interaction>", ["reco_tagged"]⟩,
      ⟨"variable<true_interaction>", ["true_tagged"]⟩,
      ⟨"variable<reco_interaction>", ["reco_tagged"]⟩] := by
  decide

end SpillSelection
