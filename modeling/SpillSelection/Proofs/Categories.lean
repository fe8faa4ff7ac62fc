import SpillSelection.Proofs.Alignment
import SpillSelection.Proofs.CatalogHistory
import SpillSelection.Proofs.WholeNumbers
/-!
# The first category that fits

A classifier gives the position of the first category whose cuts all hold (`IsFirstFit`), as a
float, and no number when there is none. A branch with the classifier takes its value on the truth
interaction of every row that passes (`first_category_wins`).
-/

namespace SpillSelection

namespace Catalog

variable {c c' : Catalog} {categories : List Category} {classify : Interaction .truth → Float}
  {i : Interaction .truth}

/-! ## Cuts of categories -/

/-- What a cut of a category says of an interaction; with a `!` it says the opposite. -/
def cutHolds (c : Catalog) (i : Interaction .truth) (cut : CategoryCut) : Bool :=
  c.holds (.interaction .truth) cut.name cut.parameters i

/-- A category is the first all of whose cuts hold. -/
structure IsFirstFit (c : Catalog) (categories : List Category) (i : Interaction .truth) (k : Nat) :
    Prop where
  fits : ∃ category, categories[k]? = some category ∧ ∀ cut ∈ category.cuts, c.cutHolds i cut = true
  first : ∀ j < k, ∀ category, categories[j]? = some category →
    ∃ cut ∈ category.cuts, c.cutHolds i cut = false

/-- Categories after the first that fits do not matter. -/
theorem IsFirstFit.append {k : Nat} (h : c.IsFirstFit categories i k) (more : List Category) :
    c.IsFirstFit (categories ++ more) i k := by
  obtain ⟨⟨category, found, holds⟩, first⟩ := h
  have inside : k < categories.length := (List.getElem?_eq_some_iff.1 found).1
  refine ⟨⟨category, ?_, holds⟩, fun j before => ?_⟩
  · rw [List.getElem?_append_left inside]
    exact found
  · rw [List.getElem?_append_left (Nat.lt_trans before inside)]
    exact first j before

theorem fits_eq_all (c : Catalog) (category : Category) (i : Interaction .truth) :
    c.fits category i = category.cuts.all (c.cutHolds i) := by
  rw [fits, passesAll, List.all_map]
  rfl

theorem fits_iff {category : Category} :
    c.fits category i = true ↔ ∀ cut ∈ category.cuts, c.cutHolds i cut = true := by
  rw [fits_eq_all, List.all_eq_true]

theorem fits_eq_false_iff {category : Category} :
    c.fits category i = false ↔ ∃ cut ∈ category.cuts, c.cutHolds i cut = false := by
  simp [fits_eq_all]

/-! ## Positions -/

/-- The position of the first category that fits. -/
def position? (c : Catalog) (categories : List Category) (i : Interaction .truth) : Option Nat :=
  categories.findIdx? fun category => c.fits category i

theorem classify_eq (h : c.classifier categories = .ok classify) (i : Interaction .truth) :
    classify i = match c.position? categories i with
      | some k => Float.ofNat k
      | none => nan := by
  obtain ⟨-, rfl⟩ := classifier_ok_iff.1 h
  rw [firstIndex, List.findIdx?_map]
  rfl

theorem position?_eq_some_iff {k : Nat} :
    c.position? categories i = some k ↔ c.IsFirstFit categories i k := by
  rw [position?, List.findIdx?_eq_some_iff_getElem]
  constructor
  · rintro ⟨inside, fits, earlier⟩
    refine ⟨⟨_, List.getElem?_eq_getElem inside, fits_iff.1 fits⟩, ?_⟩
    intro j before category found
    obtain ⟨_, rfl⟩ := List.getElem?_eq_some_iff.1 found
    exact fits_eq_false_iff.1 (Bool.not_eq_true _ ▸ earlier j before)
  · rintro ⟨⟨category, found, holds⟩, earlier⟩
    obtain ⟨inside, rfl⟩ := List.getElem?_eq_some_iff.1 found
    refine ⟨inside, fits_iff.2 holds, fun j before => ?_⟩
    have fails := fits_eq_false_iff.2
      (earlier j before _ (List.getElem?_eq_getElem (Nat.lt_trans before inside)))
    rw [fails]
    exact Bool.false_ne_true

theorem position?_eq_none_iff :
    c.position? categories i = none ↔
      ∀ category ∈ categories, ∃ cut ∈ category.cuts, c.cutHolds i cut = false := by
  rw [position?, List.findIdx?_eq_none_iff]
  simp only [fits_eq_false_iff]

/-! ## Values -/

section Values

variable (h : c.classifier categories = .ok classify)
include h

theorem classify_eq_iff {x : Float} :
    classify i = x ∧ x.isNaN = false ↔ ∃ k, c.IsFirstFit categories i k ∧ Float.ofNat k = x := by
  rw [classify_eq h]
  simp only [← position?_eq_some_iff]
  cases c.position? categories i with
  | none =>
    constructor
    · rintro ⟨rfl, number⟩
      cases isNaN_nan.symm.trans number
    · rintro ⟨k, none, -⟩
      cases none
  | some k =>
    constructor
    · rintro ⟨rfl, -⟩
      exact ⟨k, rfl, rfl⟩
    · rintro ⟨_, found, rfl⟩
      cases found
      exact ⟨rfl, WholeNumbers.isNaN_ofNat k⟩

theorem classify_eq_ofNat_iff {k : Nat} (small : k < 2 ^ 53) :
    classify i = Float.ofNat k ↔ c.IsFirstFit categories i k := by
  constructor
  · intro same
    obtain ⟨j, first, float⟩ := (classify_eq_iff h).1 ⟨same, WholeNumbers.isNaN_ofNat k⟩
    rwa [← (WholeNumbers.ofNat_inj small).1 float]
  · intro first
    exact ((classify_eq_iff h).2 ⟨k, first, rfl⟩).1

theorem isNaN_classify_iff : (classify i).isNaN = true ↔
    ∀ category ∈ categories, ∃ cut ∈ category.cuts, c.cutHolds i cut = false := by
  rw [← position?_eq_none_iff, classify_eq h]
  cases c.position? categories i with
  | none => exact iff_of_true isNaN_nan rfl
  | some k =>
    refine iff_of_false (fun none => ?_) nofun
    cases none.symm.trans (WholeNumbers.isNaN_ofNat k)

/-- More categories change no value that is a number. -/
theorem classify_append {more : List Category} {classify' : Interaction .truth → Float}
    (h' : c.classifier (categories ++ more) = .ok classify') (number : (classify i).isNaN = false) :
    classify' i = classify i := by
  obtain ⟨k, first, float⟩ := (classify_eq_iff h).1 ⟨rfl, number⟩
  exact ((classify_eq_iff h').2 ⟨k, first.append more, float⟩).1

/-- Of the cuts of a category it matters only which they are. -/
theorem classifier_congr {categories' : List Category}
    (same : List.Forall₂ (fun a b => ∀ cut, cut ∈ a.cuts ↔ cut ∈ b.cuts) categories categories') :
    c.classifier categories' = .ok classify := by
  obtain ⟨offered, rfl⟩ := classifier_ok_iff.1 h
  have fits : categories.map c.fits = categories'.map c.fits := by
    refine map_eq_map_of_forall₂ same fun a _ b cuts => funext fun i => ?_
    rw [Bool.eq_iff_iff, fits_iff, fits_iff]
    simp only [cuts]
  refine classifier_ok_iff.2 ⟨fun b hb => ?_, by rw [fits]⟩
  obtain ⟨a, ha, cuts⟩ := exists_of_mem_forall₂ same hb
  intro cut hcut
  exact offered a ha cut ((cuts cut).2 hcut)

end Values

/-! ## The published classifier -/

/-- Publishing puts the classifier into its slot, and there it stays. -/
theorem find?_published (h : c.classifier categories = .ok classify)
    (published : c.publishCategories categories = .ok c') (changes : List Change) :
    (c'.after changes).find? categorySlot = some (.bound classify) := by
  obtain ⟨classify', made, registered⟩ := ok_bind_iff.1 published
  cases h.symm.trans made
  have registered : c.register (classifierEntry classify) = .ok c' := ok_mapError_iff.1 registered
  exact find?_after_of_some (find?_register_self registered) changes

variable {entries : List CutEntry} {v : VariableEntry} {s : Side}

section Found

variable (found : c.variableTables.function? (.interaction .truth) v.name = some (.bound classify))
  (plain : v.selector = none)
include found plain

/-- A branch with the classifier compiles when its cuts are on offer and it has no parameters. -/
theorem category_wellFormed_iff (named : v.name ≠ "") :
    c.WellFormed entries v (.interactions s) (.interaction .truth) ↔
      v.parameters = [] ∧ ∀ e ∈ entries, c.offersEntry e = true := by
  have offered : c.variableTables.offers (.interaction .truth) v.name v.parameters.length = true ↔
      v.parameters = [] := by
    rw [Tables.offers, found]
    simp [Signature.arity, Arity.admits]
  have cuts (e : CutEntry) : c.offersEntry e = true ↔ (baseName e.name).1 ≠ "" ∧
      c.cutTables.offers e.object.objectType (baseName e.name).1 e.parameters.length = true := by
    simp [offersEntry, offersCut]
  constructor
  · intro w
    exact ⟨offered.1 (w.plain plain), fun e he => (cuts e).2 (w.offered e he)⟩
  · rintro ⟨none, offers⟩
    refine ⟨named, ?_, fun e he => (cuts e).1 (offers e he), ?_, ?_, fun _ => offered.2 none, ?_⟩
    · simp [plain]
    · intro event
      cases event
    · intro event
      cases event
    · simp [plain]

theorem rowValue_of_category (simulated : Bool) (spill : Spill) (i : Interaction s) :
    c.rowValue v (.interaction .truth) simulated spill i =
      valueOr classify (spill.subject? simulated i .truth) := by
  have value : c.interactionValue v = classify := by
    funext x
    simp only [interactionValue, plain, Catalog.value, found, Signature.apply]
  rw [rowValue, value]

end Found

end Catalog

/-- A classifier gives the position of the first category whose cuts all hold, and no number exactly
when every category has a cut that does not. Below 2^53 the positions are told apart by their
floats. More categories change no value that is a number, and it does not matter in which order or
how often a category has its cuts. Once the classifier is published a branch with it compiles when
its cuts are on offer, and takes one value for each row that passes: the classifier's value on the
row's truth interaction, and no number when the row has none. -/
theorem first_category_wins {c : Catalog} {categories : List Category}
    {classify : Interaction .truth → Float} (h : c.classifier categories = .ok classify) :
    (∀ i,
      (∀ x, classify i = x ∧ x.isNaN = false ↔
        ∃ k, c.IsFirstFit categories i k ∧ Float.ofNat k = x) ∧
      (∀ k < 2 ^ 53, classify i = Float.ofNat k ↔ c.IsFirstFit categories i k) ∧
      ((classify i).isNaN = true ↔
        ∀ category ∈ categories, ∃ cut ∈ category.cuts, c.cutHolds i cut = false)) ∧
    (∀ more classify', c.classifier (categories ++ more) = .ok classify' →
      ∀ i, (classify i).isNaN = false → classify' i = classify i) ∧
    (∀ categories', List.Forall₂ (fun a b => ∀ cut, cut ∈ a.cuts ↔ cut ∈ b.cuts)
        categories categories' → c.classifier categories' = .ok classify) ∧
    ∀ c', c.publishCategories categories = .ok c' → ∀ (changes : List Change)
      (entries : List CutEntry) (v : VariableEntry) (s : Side) (simulated : Bool),
      v.name = categoryName → v.selector = none →
      ((∃ b, (c'.after changes).branch entries v (.interactions s) (.interaction .truth)
          simulated = .ok b) ↔
        v.parameters = [] ∧ ∀ e ∈ entries, (c'.after changes).offersEntry e = true) ∧
      ∀ b, (c'.after changes).branch entries v (.interactions s) (.interaction .truth)
          simulated = .ok b →
        ∀ spill, b.evaluate spill =
          ((c'.after changes).passing entries s simulated spill).map fun i =>
            valueOr classify (spill.subject? simulated i .truth) := by
  refine ⟨fun i => ⟨fun x => Catalog.classify_eq_iff h,
    fun k small => Catalog.classify_eq_ofNat_iff h small, Catalog.isNaN_classify_iff h⟩,
    fun more classify' h' i => Catalog.classify_append h h',
    fun categories' => Catalog.classifier_congr h, ?_⟩
  intro c' published changes entries v s simulated named plain
  have found : (c'.after changes).variableTables.function? (.interaction .truth) v.name =
      some (.bound classify) := by
    rw [named]
    exact Catalog.find?_published h published changes
  have some : v.name ≠ "" := by
    rw [named]
    decide
  refine ⟨?_, fun b compiled spill => ?_⟩
  · rw [← Catalog.category_wellFormed_iff (s := s) found plain some]
    simp [branch_ok_iff]
  · rw [evaluate_of_single compiled trivial]
    exact List.map_congr_left fun i _ =>
      Catalog.rowValue_of_category found plain simulated spill i

/-- Interactions that are not contained, and then all the others. -/
def uncontainedFirst : List Category :=
  [{ name := "out", cuts := [{ name := "!contained" }] }, { name := "in" }]

/-- The first row is matched with an interaction that is not contained, and the second with none. -/
theorem first_category_wins_matchedSpill :
    ∃ classify c' b, containedCatalog.classifier uncontainedFirst = .ok classify ∧
      containedCatalog.publishCategories uncontainedFirst = .ok c' ∧
      c'.branch [] { name := categoryName } (.interactions .reco) (.interaction .truth) true =
        .ok b ∧
      classify { isContained := true } = 1 ∧ b.evaluate matchedSpill = [0, nan] := by
  obtain ⟨classify, compiled⟩ :
      ∃ classify, containedCatalog.classifier uncontainedFirst = .ok classify := ⟨_, rfl⟩
  obtain ⟨c', published⟩ :
      ∃ c', containedCatalog.publishCategories uncontainedFirst = .ok c' := ⟨_, rfl⟩
  obtain ⟨values, -, -, branches⟩ := first_category_wins compiled
  obtain ⟨compiles, emits⟩ :=
    branches c' published [] [] { name := categoryName } .reco true rfl rfl
  obtain ⟨b, made⟩ := compiles.2 ⟨rfl, by simp⟩
  have out : classify { id := 7 } = 0 := by
    refine ((values _).2.1 0 (by decide)).2 ⟨⟨_, rfl, ?_⟩, nofun⟩
    rintro _ (_ | ⟨_, ⟨⟩⟩)
    rfl
  have inside : classify { isContained := true } = 1 := by
    refine ((values _).2.1 1 (by decide)).2 ⟨⟨_, rfl, nofun⟩, ?_⟩
    rintro j before _ found
    cases Nat.lt_one_iff.1 before
    cases found
    exact ⟨_, .head _, rfl⟩
  have rows : b.evaluate matchedSpill = [classify { id := 7 }, nan] := emits b made matchedSpill
  rw [out] at rows
  exact ⟨classify, c', b, compiled, published, made, inside, rows⟩

end SpillSelection
