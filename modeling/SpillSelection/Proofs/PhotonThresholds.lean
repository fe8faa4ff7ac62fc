import SpillSelection.Proofs.FloatOrder
import SpillSelection.Proofs.Inversion
import SpillSelection.Proofs.RegistrationOrder
/-!
# Thresholds on photons

Some cuts on the primary photons of an interaction count those that reach a threshold, and one
compares the greatest of their energies with it. An energy that is not a number reaches no threshold
and does not count for the greatest either, so both ways agree (`photon_thresholds_agree`).
-/

namespace SpillSelection

variable {s : Side} {t a b : Float}

/-! ## The greatest energy -/

/-- The greater of two floats reaches what either does. -/
theorem le_maxNumber_iff : t ≤ maxNumber a b ↔ t ≤ a ∨ t ≤ b := by
  unfold maxNumber
  cases ha : a.isNaN with
  | true => simp [FloatOrder.not_le_of_isNaN ha]
  | false =>
    cases hb : b.isNaN with
    | true => simp [FloatOrder.not_le_of_isNaN hb]
    | false =>
      -- Of two numbers the greater one reaches what the other does.
      by_cases less : a < b
      · have reaches (h : t ≤ a) : t ≤ b := FloatOrder.le_trans h (FloatOrder.le_of_lt less)
        simpa [less] using reaches
      · have reaches (h : t ≤ b) : t ≤ a :=
          FloatOrder.le_trans h (FloatOrder.le_of_not_lt ha hb less)
        simpa [less] using reaches

theorem le_foldl_maxNumber_iff (energies : List Float) (start : Float) :
    t ≤ energies.foldl maxNumber start ↔ t ≤ start ∨ ∃ energy ∈ energies, t ≤ energy := by
  induction energies generalizing start with
  | nil => simp
  | cons energy energies ih =>
    rw [List.foldl_cons, ih, le_maxNumber_iff, List.exists_mem_cons_iff, or_assoc]

namespace Interaction

variable {i : Interaction s}

/-- The greatest energy reaches a threshold when that of some photon does. -/
theorem leadingPhotonKe?_any_iff :
    i.leadingPhotonKe?.any (t ≤ ·) = true ↔ ∃ p ∈ i.primaryPhotons, t ≤ p.ke := by
  unfold leadingPhotonKe?
  cases i.primaryPhotons with
  | nil => simp
  | cons p photons => simp [le_foldl_maxNumber_iff]

/-! ## Counts -/

theorem primariesAbove_photon :
    i.primariesAbove Pid.photon t = i.primaryPhotons.countP (t ≤ ·.ke) := by
  rw [primariesAbove, primaryPhotons, List.countP_filter]
  congr 1
  funext p
  rw [Bool.and_comm]

theorem one_le_primariesAbove_iff :
    1 ≤ i.primariesAbove Pid.photon t ↔ ∃ p ∈ i.primaryPhotons, t ≤ p.ke := by
  rw [primariesAbove_photon, Nat.one_le_iff_ne_zero, ← Nat.pos_iff_ne_zero, List.countP_pos_iff]
  simp only [decide_eq_true_eq]

/-- No more primaries reach a higher threshold. -/
theorem primariesAbove_antitone (pid : Int64) (le : a ≤ b) :
    i.primariesAbove pid b ≤ i.primariesAbove pid a := by
  apply List.countP_mono_left
  intro p _ reaches
  simp only [Bool.and_eq_true, decide_eq_true_eq] at reaches ⊢
  exact ⟨reaches.1, FloatOrder.le_trans le reaches.2⟩

end Interaction

/-! ## Cuts by name -/

theorem Scoped.mem_interactions {R : Type} (f : (s : Side) → Signature (Interaction s) R)
    (s : Side) : ⟨.interaction s, f s⟩ ∈ Scoped.interactions f := by
  cases s <;> simp [Scoped.interactions]

/-- A catalog that was made with a cut binds its name, whatever is added to it later. -/
theorem Catalog.bindCut_after {c : Catalog} {groups : List (List Declaration)}
    (made : ofGroups groups = .ok c) {group : List Declaration} (among : group ∈ groups)
    {name : String} {fs : Scoped Bool} (declared : .ofCut name fs ∈ group) {o : ObjectType}
    {f : Signature o.Carrier Bool} (member : ⟨o, f⟩ ∈ fs) (plain : (baseName name).2 = false)
    (named : name ≠ "") {parameters : List Float}
    (admits : f.arity.admits parameters.length = true) (what : String) (changes : List Change) :
    (c.after changes).bindCut what o name parameters = .ok (f.apply parameters) := by
  have entry : Entry.ofCut name ⟨o, f⟩ ∈ (Declaration.ofCut name fs).entries :=
    List.mem_append_left _ (List.mem_map_of_mem member)
  have found : (c.after changes).cutTables.function? o name = some f :=
    find?_after_ofGroups made among declared entry changes
  have base := baseName_of_plain plain
  rw [bindCut_ok_iff]
  constructor
  · simp [offersCut, base, named, Tables.offers, found, admits]
  · funext x
    simp [holds, base, found]

/-- In a catalog with the standard cuts on interactions, those on photons can be given any
threshold. The greatest energy of a primary photon reaches it exactly if at least one of them does,
so exactly if it is not so that none does. If two do, so does the greatest, and if it is not so that
fewer than four do, two do. Of two thresholds, no more primaries of a class reach the higher one. -/
theorem photon_thresholds_agree :
    (∀ (groups : List (List Declaration)) (c : Catalog), Catalog.ofGroups groups = .ok c →
      Standard.interactionCuts ∈ groups → Standard.pions ∈ groups →
      ∀ (changes : List Change) (s : Side) (t : Float),
      ∃ leading none two four : Interaction s → Bool,
        (c.after changes).bindCut "cut" (.interaction s) "leading_photon_ke_cut" [t] =
          .ok leading ∧
        (c.after changes).bindCut "cut" (.interaction s) "no_photons" [t] = .ok none ∧
        (c.after changes).bindCut "cut" (.interaction s) "at_least_two_photons" [t] = .ok two ∧
        (c.after changes).bindCut "cut" (.interaction s) "less_than_four_photons" [t] = .ok four ∧
        ∀ i, (leading i = true ↔ 1 ≤ i.primariesAbove Pid.photon t) ∧
          (leading i = true ↔ none i = false) ∧ (two i = true → leading i = true) ∧
          (four i = false → two i = true)) ∧
    ∀ (s : Side) (i : Interaction s) (pid : Int64) (t₁ t₂ : Float), t₁ ≤ t₂ →
      i.primariesAbove pid t₂ ≤ i.primariesAbove pid t₁ := by
  constructor
  · intro groups c made cuts pions changes s t
    have absent : Standard.absent "no_photons" Pid.photon ∈ Standard.interactionCuts := by
      simp [Standard.interactionCuts]
    refine ⟨fun i => i.leadingPhotonKe?.any (t ≤ ·), Interaction.hasNone Pid.photon [t],
      fun i => 2 ≤ i.primariesAbove Pid.photon t, fun i => i.primariesAbove Pid.photon t < 4,
      ?_, ?_, ?_, ?_, ?_⟩
    · exact Catalog.bindCut_after made pions (.tail _ (.tail _ (.head _)))
        (Scoped.mem_interactions _ s) rfl (by decide) rfl "cut" changes
    · exact Catalog.bindCut_after made cuts absent
        (Scoped.mem_interactions _ s) rfl (by decide) rfl "cut" changes
    · exact Catalog.bindCut_after made pions (.head _)
        (Scoped.mem_interactions _ s) rfl (by decide) rfl "cut" changes
    · exact Catalog.bindCut_after made pions (.tail _ (.head _))
        (Scoped.mem_interactions _ s) rfl (by decide) rfl "cut" changes
    · intro i
      have leading : i.leadingPhotonKe?.any (t ≤ ·) = true ↔ 1 ≤ i.primariesAbove Pid.photon t := by
        rw [Interaction.leadingPhotonKe?_any_iff, Interaction.one_le_primariesAbove_iff]
      have none : i.hasNone Pid.photon [t] = false ↔ 1 ≤ i.primariesAbove Pid.photon t := by
        simp [Interaction.hasNone, Nat.one_le_iff_ne_zero]
      simp only [leading, none, decide_eq_true_eq, decide_eq_false_iff_not, true_and]
      omega
  · intro s i pid t₁ t₂ le
    exact Interaction.primariesAbove_antitone pid le

/-- A primary shower of a photon. -/
def primaryShower (energy : Float) : Particle .reco :=
  { core := { pid := Pid.photon, isPrimary := true, caloKe := energy } }

/-- Two photons behind one whose energy is no number. -/
def hiddenPhotons : Interaction .reco where
  particles := [primaryShower nan, primaryShower 60, primaryShower 30]

/-- The groups with the cuts on photons. -/
def photonGroups : List (List Declaration) := [Standard.interactionCuts, Standard.pions]

theorem photon_thresholds_agree_hiddenPhotons :
    ∃ c leading none, Catalog.ofGroups photonGroups = .ok c ∧
      c.bindCut "cut" (.interaction .reco) "leading_photon_ke_cut" [30] = .ok leading ∧
      c.bindCut "cut" (.interaction .reco) "no_photons" [30] = .ok none ∧
      leading hiddenPhotons = true ∧ none hiddenPhotons = false ∧
      hiddenPhotons.primariesAbove Pid.photon 40 ≤ hiddenPhotons.primariesAbove Pid.photon 30 := by
  obtain ⟨c, made⟩ := Catalog.ofGroups_succeeds_iff.2 (by decide +kernel :
    (Catalog.slotsOf photonGroups).Nodup)
  obtain ⟨cuts, counts⟩ := photon_thresholds_agree
  obtain ⟨leading, none, two, four, bound, absent, -, -, agree⟩ :=
    cuts photonGroups c made (.head _) (.tail _ (.head _)) [] .reco 30
  obtain ⟨reached, inverse, -⟩ := agree hiddenPhotons
  have holds : leading hiddenPhotons = true := reached.2 (by decide +kernel)
  exact ⟨c, leading, none, made, bound, absent, holds, inverse.1 holds,
    counts .reco hiddenPhotons Pid.photon 30 40 (by decide +kernel)⟩

end SpillSelection
