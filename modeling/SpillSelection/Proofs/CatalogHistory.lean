import SpillSelection.Category
import SpillSelection.Proofs.Slots
/-!
# The history of a catalog

A catalog is filled by declarations, and is given a classifier of categories later. Each of these
steps may fail, and one that fails may leave a part of a declaration behind. `catalog_only_grows`
says what a step can do, accepted or not, and with it what any number of steps can: a name once
found never changes its meaning, and at most one classifier comes.
-/

namespace SpillSelection

/-- A step that changes a catalog. -/
inductive Change where
  | declare (d : Declaration)
  | publish (categories : List Category)

/-- The slot of the classifier. -/
def categorySlot : Slot := .ofBase .ofVariable categoryName (.interaction .truth)

/-- The entry of a classifier. -/
def classifierEntry (classify : Interaction .truth → Float) : Entry :=
  .ofVariable categoryName ⟨.interaction .truth, .bound classify⟩

namespace Catalog

/-- Compiles a classifier and then registers it: the catalog afterwards, and the error if there was
one. -/
def publish (c : Catalog) (categories : List Category) : Catalog × Option SelectionError :=
  match c.classifier categories with
  | .error e => (c, some e)
  | .ok classify =>
    let (c, e?) := c.registerAll [classifierEntry classify]
    (c, e?.map .registry)

/-- The catalog after a step, and the error if there was one. -/
def change (c : Catalog) : Change → Catalog × Option SelectionError
  | .declare d =>
    let (c, e?) := c.declare [d]
    (c, e?.map .registry)
  | .publish categories => c.publish categories

/-- The catalog after some steps, whether they were accepted or not. -/
def after (c : Catalog) (changes : List Change) : Catalog :=
  changes.foldl (fun c x => (c.change x).1) c

/-- Every name that is found keeps its function, and so its arity. -/
def Keeps (c c' : Catalog) : Prop :=
  ∀ k o base f, c.lookup k o base = .ok f → c'.lookup k o base = .ok f

/-- Slots that were free are filled, and what is looked up elsewhere is as it was. -/
structure Adds (c c' : Catalog) (slots : List Slot) : Prop where
  free : ∀ s ∈ slots, c.find? s = none
  filled : ∀ s ∈ slots, (c'.find? s).isSome
  others : ∀ k o base, .ofBase k base o ∉ slots → c'.lookup k o base = c.lookup k o base

variable {c : Catalog} {es : List Entry}

/-! ## Entries -/

theorem lookup_registerAll_of_not_mem {k : Kind} {o : ObjectType} {base : String}
    (other : .ofBase k base o ∉ es.map Entry.slot) :
    (c.registerAll es).1.lookup k o base = c.lookup k o base :=
  lookup_congr (c.label_registerAll es k o) (find?_registerAll_of_not_mem other)

theorem find?_of_registerAll {e : Entry} (accepted : (c.registerAll es).2 = none) (he : e ∈ es) :
    (c.registerAll es).1.find? e.slot = some e.function :=
  (find?_registerAll_iff (Prod.ext rfl accepted)).2 (.inr ⟨e, he, rfl⟩)

theorem adds_registerAll (accepted : (c.registerAll es).2 = none) :
    c.Adds (c.registerAll es).1 (es.map Entry.slot) where
  free s hs := by
    obtain ⟨e, he, rfl⟩ := List.mem_map.1 hs
    exact (registerAll_succeeds_iff.1 accepted).2 e he
  filled s hs := by
    obtain ⟨e, he, rfl⟩ := List.mem_map.1 hs
    rw [find?_of_registerAll accepted he]
    rfl
  others _ _ _ other := lookup_registerAll_of_not_mem other

/-! ## Declarations -/

theorem change_declare (c : Catalog) (d : Declaration) :
    c.change (.declare d) =
      ((c.registerAll d.entries).1, (c.registerAll d.entries).2.map .registry) := by
  simp [change, declare]

/-! ## Classifiers -/

/-- What the cuts of a category say of an interaction. -/
def fits (c : Catalog) (category : Category) : Interaction .truth → Bool :=
  passesAll (category.cuts.map fun cut => c.holds (.interaction .truth) cut.name cut.parameters)

/-- The cuts of a category are on offer for truth interactions. -/
def OffersCuts (c : Catalog) (category : Category) : Prop :=
  ∀ cut ∈ category.cuts,
    c.offersCut (.interaction .truth) cut.name cut.parameters.length = true

theorem bucket_ok_iff {category : Category} {bucket : Interaction .truth → Bool} :
    c.bucket category = .ok bucket ↔ c.OffersCuts category ∧ c.fits category = bucket :=
  ok_return_iff fun _ => ok_mapM_map_iff fun _ _ => bindCut_ok_iff

theorem classifier_ok_iff {categories : List Category} {classify : Interaction .truth → Float} :
    c.classifier categories = .ok classify ↔
      (∀ category ∈ categories, c.OffersCuts category) ∧
        firstIndex (categories.map c.fits) = classify := by
  rw [classifier, ok_map_iff]
  simp only [ok_mapM_map_iff fun _ _ => bucket_ok_iff]
  constructor
  · rintro ⟨_, ⟨offered, rfl⟩, rfl⟩
    exact ⟨offered, rfl⟩
  · rintro ⟨offered, rfl⟩
    exact ⟨_, ⟨offered, rfl⟩, rfl⟩

/-- A catalog can be given the classifier of some categories. -/
def Admits (c : Catalog) (categories : List Category) : Prop :=
  (∀ category ∈ categories, c.OffersCuts category) ∧ c.find? categorySlot = none

/-- A classifier that is admitted is registered. Nothing is changed by another, which is refused. -/
theorem publish_cases (c : Catalog) (categories : List Category) :
    (c.Admits categories ∧ ∃ classify,
        (c.registerAll [classifierEntry classify]).2 = none ∧
        c.publish categories = ((c.registerAll [classifierEntry classify]).1, none) ∧
        c.publishCategories categories = .ok (c.registerAll [classifierEntry classify]).1) ∨
      ¬c.Admits categories ∧ ∃ e, c.publish categories = (c, some e) ∧
        c.publishCategories categories = .error e := by
  unfold publish publishCategories
  cases compiled : c.classifier categories with
  | error e =>
    refine .inr ⟨fun admitted => ?_, e, rfl, rfl⟩
    cases compiled.symm.trans (classifier_ok_iff.2 ⟨admitted.1, rfl⟩)
  | ok classify =>
    have offered := (classifier_ok_iff.1 compiled).1
    have slot : (classifierEntry classify).slot = categorySlot := rfl
    cases made : c.register (classifierEntry classify) with
    | ok c' =>
      have accepted : c.registerAll [classifierEntry classify] = (c', none) := by
        rw [registerAll, made]
        rfl
      have free : c.find? categorySlot = none := slot ▸ register_succeeds_iff.1 ⟨c', made⟩
      refine .inl ⟨⟨offered, free⟩, classify, by rw [accepted], by simp only [accepted]; rfl, ?_⟩
      rw [accepted]
      exact congrArg (Except.mapError SelectionError.registry) made
    | error e =>
      have refused : c.registerAll [classifierEntry classify] = (c, some e) := by
        rw [registerAll, made]
      refine .inr ⟨fun admitted => ?_, .registry e, by simp only [refused]; rfl, ?_⟩
      · obtain ⟨c', accepted⟩ := register_succeeds_iff.2 (slot.symm ▸ admitted.2)
        cases made.symm.trans accepted
      · exact congrArg (Except.mapError SelectionError.registry) made

/-! ## Steps -/

/-- A slot that is filled stays as it is, whatever the step and however it ends. -/
theorem find?_change_of_some {s : Slot} {f : s.Function} (found : c.find? s = some f)
    (x : Change) : (c.change x).1.find? s = some f := by
  cases x with
  | declare d =>
    rw [change_declare]
    exact find?_registerAll_of_some found d.entries
  | publish categories =>
    rw [change]
    rcases c.publish_cases categories with ⟨-, classify, -, published, -⟩ | ⟨-, e, refused, -⟩
    · rw [published]
      exact find?_registerAll_of_some found _
    · rwa [refused]

theorem find?_after_of_some {s : Slot} {f : s.Function} (found : c.find? s = some f)
    (changes : List Change) : (c.after changes).find? s = some f := by
  induction changes generalizing c with
  | nil => exact found
  | cons x changes ih => exact ih (find?_change_of_some found x)

theorem keeps_after (c : Catalog) (changes : List Change) : c.Keeps (c.after changes) := by
  intro k o base f found
  rw [lookup_ok_iff] at found ⊢
  exact find?_after_of_some found changes

end Catalog

/-- What can happen to a catalog, whatever happened to it before. A name that is found keeps its
function through any number of steps. A declaration touches no names but its own, and when it is
accepted these are all new and stand for what it declares. Categories are published exactly if
their cuts are on offer and no classifier is there; this adds the name of the classifier, after
which no other is ever published, and a failure changes nothing. -/
theorem catalog_only_grows (c : Catalog) :
    (∀ changes, c.Keeps (c.after changes)) ∧
    (∀ d, (∀ k o base, .ofBase k base o ∉ d.slots →
        (c.change (.declare d)).1.lookup k o base = c.lookup k o base) ∧
      ((c.change (.declare d)).2 = none → c.Adds (c.change (.declare d)).1 d.slots ∧
        ∀ e ∈ d.entries, (c.change (.declare d)).1.find? e.slot = some e.function)) ∧
    ∀ categories,
      ((c.change (.publish categories)).2 = none ↔ c.Admits categories) ∧
      (∀ e, (c.change (.publish categories)).2 = some e →
        c.publishCategories categories = .error e ∧ (c.change (.publish categories)).1 = c) ∧
      ((c.change (.publish categories)).2 = none →
        c.publishCategories categories = .ok (c.change (.publish categories)).1 ∧
        c.Adds (c.change (.publish categories)).1 [categorySlot] ∧
        ∀ changes later, (((c.change (.publish categories)).1.after changes).change
          (.publish later)).2 ≠ none) := by
  refine ⟨c.keeps_after, fun d => ?_, fun categories => ?_⟩
  · rw [Catalog.change_declare, ← d.map_slot_entries]
    refine ⟨fun k o base => Catalog.lookup_registerAll_of_not_mem, fun accepted => ?_⟩
    have accepted : (c.registerAll d.entries).2 = none := Option.map_eq_none_iff.1 accepted
    exact ⟨Catalog.adds_registerAll accepted, fun e => Catalog.find?_of_registerAll accepted⟩
  · rw [Catalog.change]
    rcases c.publish_cases categories with
      ⟨admitted, classify, accepted, published, program⟩ | ⟨refused, e, published, program⟩
    · rw [published]
      refine ⟨by simp [admitted], by simp, fun _ =>
        ⟨program, Catalog.adds_registerAll accepted, fun changes later again => ?_⟩⟩
      -- The classifier is still there, so its slot is not free.
      have there := Catalog.find?_after_of_some
        (Catalog.find?_of_registerAll accepted (List.mem_singleton_self _)) changes
      rw [Catalog.change] at again
      rcases Catalog.publish_cases _ later with ⟨⟨-, free⟩, -⟩ | ⟨-, e, failed, -⟩
      · cases there.symm.trans free
      · rw [failed] at again
        cases again
    · rw [published]
      refine ⟨by simp [refused], fun e' same => ?_, by simp⟩
      cases same
      exact ⟨program, rfl⟩

/-- A variable of reco interactions. -/
def taggedVariable : Declaration :=
  .ofVariable "tagged" (.on (.interaction .reco) (.plain fun i => ofInt64 i.nuId))

/-- A cut of the same name for both sides. -/
def taggedCut : Declaration := .ofCut "tagged" (.interactions fun _ => .plain fun i => 0 ≤ i.nuId)

/-- The catalog of the variable. -/
def taggedOnReco : Catalog := (Catalog.empty.change (.declare taggedVariable)).1

/-- That catalog with what is registered of the cut before it is refused. -/
def taggedOnBoth : Catalog := (taggedOnReco.change (.declare taggedCut)).1

/-- A category of one cut. -/
def oneCut (cut : String) : List Category := [{ name := "only", cuts := [{ name := cut }] }]

/-- The cut is refused when it comes to its variable of reco interactions, and the one that was
there keeps its function. What the cut leaves is enough for a classifier, after which no other
comes, and one with an unknown cut changes nothing. -/
theorem catalog_only_grows_tagged :
    Catalog.empty.Adds taggedOnReco taggedVariable.slots ∧
    (taggedOnReco.change (.declare taggedCut)).2 =
      some (.registry (.duplicateName "variable<reco_interaction>" "reco_tagged")) ∧
    (∃ f, taggedOnReco.lookup .ofVariable (.interaction .reco) "tagged" = .ok f ∧
      taggedOnBoth.lookup .ofVariable (.interaction .reco) "tagged" = .ok f) ∧
    (taggedOnBoth.change (.publish (oneCut "unknown"))).1 = taggedOnBoth ∧
    taggedOnBoth.Admits (oneCut "!tagged") ∧
    taggedOnBoth.Adds (taggedOnBoth.change (.publish (oneCut "!tagged"))).1 [categorySlot] ∧
    ((taggedOnBoth.change (.publish (oneCut "!tagged"))).1.change (.publish [])).2 ≠ none := by
  obtain ⟨-, declared, -⟩ := catalog_only_grows .empty
  obtain ⟨keeps, -⟩ := catalog_only_grows taggedOnReco
  obtain ⟨-, -, published⟩ := catalog_only_grows taggedOnBoth
  have accepted : (taggedOnBoth.change (.publish (oneCut "!tagged"))).2 = none := rfl
  obtain ⟨admits, -, adds⟩ := published (oneCut "!tagged")
  obtain ⟨-, added, once⟩ := adds accepted
  refine ⟨((declared taggedVariable).2 rfl).1, rfl, ?_, ?_, admits.1 accepted, added, once [] []⟩
  · exact ⟨_, rfl, keeps [.declare taggedCut] .ofVariable (.interaction .reco) "tagged" _ rfl⟩
  · exact ((published (oneCut "unknown")).2.1 _ rfl).2

end SpillSelection
