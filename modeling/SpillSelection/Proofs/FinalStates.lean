import SpillSelection.Physics.FinalState
import SpillSelection.Proofs.WholeNumbers
/-!
# Final states and classes

The visible final state is made of primaries of the five classes, with one exception: all that is
numbered below the proton and is no muon is held to the threshold of showers, so a primary that is
numbered below every class may be visible too. It has no part in the momenta across the beam, but it
is counted, and so is its energy, which on the reco side is no number (`final_state_classified`).
-/

namespace SpillSelection

variable {s : Side}

/-- A sum with a term that is not a number is none. -/
theorem isNaN_sum {x : Float} {xs : List Float} (member : x ∈ xs) (h : x.isNaN = true) :
    (sum xs).isNaN = true := by
  -- From that term on every partial sum is none.
  have stays (start : Float) (rest : List Float) (noNumber : start.isNaN = true) :
      (rest.foldl (· + ·) start).isNaN = true := by
    induction rest generalizing start with
    | nil => exact noNumber
    | cons y rest ih => exact ih _ (FloatOrder.isNaN_add_of_left noNumber y)
  obtain ⟨before, rest, rfl⟩ := List.append_of_mem member
  rw [sum, List.foldl_append, List.foldl_cons]
  exact stays _ rest (FloatOrder.isNaN_add_of_right _ h)

/-! ## Particles -/

/-- What is numbered below the classes is none of them. -/
theorem Pid.ne_of_lt {pid c : Int64} (below : pid < photon) (ofClass : photon ≤ c) : pid ≠ c :=
  Int64.ne_of_lt (Int64.lt_of_lt_of_le below ofClass)

theorem Pid.mass_of_lt {pid : Int64} (below : pid < photon) : mass pid = nan := by
  unfold mass
  rw [if_neg (ne_of_lt below (by decide)), if_neg (ne_of_lt below (by decide)),
    if_neg (ne_of_lt below (by decide)), if_neg (ne_of_lt below (by decide)),
    if_neg (ne_of_lt below (by decide))]

namespace Particle

variable {p : Particle s}

/-- A primary of one of the five classes. -/
def isClassified (p : Particle s) : Bool :=
  p.isPrimary && Pid.photon ≤ p.pid && p.pid ≤ Pid.proton

/-- A primary that is numbered below every class and exceeds the threshold of showers. -/
def isStray (p : Particle s) : Bool :=
  p.isPrimary && p.pid < Pid.photon && Threshold.shower < p.ke

theorem pid_lt_of_isStray (h : p.isStray = true) : p.pid < Pid.photon := by
  simp only [isStray, Bool.and_eq_true, decide_eq_true_eq] at h
  exact h.1.2

/-- No visible particle is numbered above the classes. -/
theorem isPrimary_of_isVisible (h : p.isVisible = true) :
    p.isPrimary = true ∧ p.pid ≤ Pid.proton := by
  constructor
  · simp only [isVisible, Bool.and_eq_true] at h
    exact h.1
  · by_contra notBelow
    have above : Pid.proton < p.pid := Int64.not_le.1 notBelow
    have notMuon : p.pid ≠ Pid.muon := (Int64.ne_of_lt (Int64.lt_trans (by decide) above)).symm
    have notProton : p.pid ≠ Pid.proton := (Int64.ne_of_lt above).symm
    have notShower : ¬p.pid < Pid.proton := Int64.lt_asymm above
    simp [isVisible, notMuon, notProton, notShower] at h

/-- Below the classes it is the strays that are visible. -/
theorem isVisible_of_lt (below : p.pid < Pid.photon) : p.isVisible = p.isStray := by
  have notMuon : p.pid ≠ Pid.muon := Pid.ne_of_lt below (by decide)
  have notProton : p.pid ≠ Pid.proton := Pid.ne_of_lt below (by decide)
  have belowProton : p.pid < Pid.proton := Int64.lt_trans below (by decide)
  simp [isVisible, isStray, notMuon, notProton, belowProton, below]

/-- A visible particle is a primary of one of the classes, or a stray. -/
theorem isClassified_of_isVisible (h : p.isVisible = true) : p.isClassified = !p.isStray := by
  obtain ⟨primary, notAbove⟩ := isPrimary_of_isVisible h
  by_cases below : p.pid < Pid.photon
  · rw [isVisible_of_lt below] at h
    have notClass : ¬Pid.photon ≤ p.pid := Int64.not_le.2 below
    simp [isClassified, h, notClass]
  · have ofClass : Pid.photon ≤ p.pid := Int64.not_lt.1 below
    simp [isClassified, isStray, primary, ofClass, notAbove, below]

theorem isVisible_of_isStray (h : p.isStray = true) : p.isVisible = true := by
  rw [isVisible_of_lt (pid_lt_of_isStray h), h]

/-- A reconstructed particle that is numbered below the classes has no mass, and so no energy. -/
theorem isNaN_visibleEnergy {p : Particle .reco} (h : p.isStray = true) :
    p.visibleEnergy.isNaN = true := by
  have below := pid_lt_of_isStray h
  have noMass : p.mass = nan := Pid.mass_of_lt below
  unfold visibleEnergy energy
  rw [if_neg (Pid.ne_of_lt below (by decide)), noMass]
  exact FloatOrder.isNaN_add_of_right _ isNaN_nan

end Particle

/-! ## Interactions -/

namespace Interaction

/-- An interaction with its primaries of the five classes only. -/
def classified (i : Interaction s) : Interaction s :=
  { i with particles := i.particles.filter Particle.isClassified }

def strays (i : Interaction s) : List (Particle s) := i.particles.filter Particle.isStray

/-- Of what is visible the strays are lost. -/
theorem visible_classified (i : Interaction s) :
    i.classified.visible = i.visible.filter fun p => !p.isStray := by
  unfold visible classified
  rw [List.filter_filter, List.filter_filter]
  congr 1
  funext p
  cases h : p.isVisible with
  | true => simp [Particle.isClassified_of_isVisible h]
  | false => simp

theorem strays_eq (i : Interaction s) : i.strays = i.visible.filter Particle.isStray := by
  unfold strays visible
  rw [List.filter_filter]
  congr 1
  funext p
  cases h : p.isStray with
  | true => simp [Particle.isVisible_of_isStray h]
  | false => simp

theorem length_visible (i : Interaction s) :
    i.visible.length = i.classified.visible.length + i.strays.length := by
  rw [visible_classified, strays_eq, Nat.add_comm]
  simpa using List.length_eq_length_filter_add Particle.isStray

theorem visible_of_strays_eq_nil {i : Interaction s} (none : i.strays = []) :
    i.classified.visible = i.visible := by
  rw [visible_classified, List.filter_eq_self]
  intro p member
  rw [strays_eq, List.filter_eq_nil_iff] at none
  simpa using none p member

/-! ## Transverse momenta and energy -/

/-- A stray is neither a lepton nor a hadron. -/
theorem addParticle_of_isStray {p : Particle s} (h : p.isStray = true) (sums : TransverseSums) :
    sums.addParticle p = sums := by
  have below := Particle.pid_lt_of_isStray h
  have notElectron : p.pid ≠ Pid.electron := Pid.ne_of_lt below (by decide)
  have notMuon : p.pid ≠ Pid.muon := Pid.ne_of_lt below (by decide)
  have notHadron : ¬Pid.muon < p.pid := by
    intro above
    exact absurd (Int64.lt_trans above below) (by decide)
  simp [TransverseSums.addParticle, notElectron, notMuon, notHadron]

theorem transverseSums_classified (i : Interaction s) :
    i.classified.transverseSums = i.transverseSums := by
  unfold transverseSums
  -- A particle that is left out is one that changes no sum.
  rw [visible_classified, List.foldl_filter]
  congr 1
  funext sums p
  cases h : p.isStray with
  | true => exact (addParticle_of_isStray h sums).symm
  | false => rfl

theorem isNaN_visibleEnergy {i : Interaction .reco} (some : i.strays ≠ []) :
    i.visibleEnergy.isNaN = true := by
  obtain ⟨p, member⟩ := List.exists_mem_of_ne_nil _ some
  rw [strays_eq, List.mem_filter] at member
  have energy := Particle.isNaN_visibleEnergy member.2
  exact FloatOrder.isNaN_div_of_left (isNaN_sum (List.mem_map_of_mem member.1) energy) _

end Interaction

/-- Without the particles that are no primaries of the five classes, an interaction keeps its
momentum imbalance across the beam and the angles there. What is visible of those particles are the
strays: nothing numbered above the classes is visible. When there are none, the number and the
energy of what is visible are kept too. When there are some, the number is not, and on the reco side
the energy was no number. -/
theorem final_state_classified (i : Interaction s) :
    (i.classified.transverseImbalance = i.transverseImbalance ∧
      i.classified.recoilAngle = i.recoilAngle ∧ i.classified.boostingAngle = i.boostingAngle) ∧
    (∀ p ∈ i.visible, p.isPrimary = true ∧ p.pid ≤ Pid.proton) ∧
    i.visible.length = i.classified.visible.length + i.strays.length ∧
    (i.strays = [] → i.classified.visibleCount = i.visibleCount ∧
      i.classified.visibleEnergy = i.visibleEnergy) ∧
    (i.strays ≠ [] →
      (i.classified.visible.length < 2 ^ 53 → i.classified.visibleCount ≠ i.visibleCount) ∧
      (s = .reco → i.visibleEnergy.isNaN = true)) := by
  refine ⟨?_, ?_, i.length_visible, ?_, ?_⟩
  · simp only [Interaction.transverseImbalance, Interaction.recoilAngle,
      Interaction.boostingAngle, i.transverseSums_classified, and_self]
  · intro p member
    exact Particle.isPrimary_of_isVisible (List.mem_filter.1 member).2
  · intro none
    simp only [Interaction.visibleCount, Interaction.visibleEnergy,
      Interaction.visible_of_strays_eq_nil none, and_self]
  · intro some
    constructor
    · intro small same
      have count := (WholeNumbers.ofNat_inj small).1 same.symm
      have lost := List.length_pos_iff.2 some
      have := i.length_visible
      omega
    · intro reco
      subst reco
      exact Interaction.isNaN_visibleEnergy some

/-- A primary shower with a number for its class. -/
def showerOf (pid : Int64) : Particle .reco :=
  { core := { pid := pid, isPrimary := true, caloKe := 100 } }

/-- A photon, and a primary that is numbered above the classes. -/
def unknownAbove : Interaction .reco where
  particles := [showerOf Pid.photon, showerOf 5]

/-- A photon, and a primary that is numbered below the classes. -/
def unknownBelow : Interaction .reco where
  particles := [showerOf Pid.photon, showerOf (-1)]

theorem final_state_classified_unknown :
    unknownAbove.strays = [] ∧ unknownAbove.classified.visibleCount = unknownAbove.visibleCount ∧
      unknownAbove.classified.visibleEnergy = unknownAbove.visibleEnergy ∧
      unknownBelow.strays ≠ [] ∧
      unknownBelow.classified.visibleCount ≠ unknownBelow.visibleCount ∧
      unknownBelow.visibleEnergy.isNaN = true := by
  have none : unknownAbove.strays = [] := by decide +kernel
  have some : unknownBelow.strays ≠ [] := by decide +kernel
  obtain ⟨-, -, -, kept, -⟩ := final_state_classified unknownAbove
  obtain ⟨-, -, -, -, lost⟩ := final_state_classified unknownBelow
  obtain ⟨changed, energy⟩ := lost some
  exact ⟨none, (kept none).1, (kept none).2, some, changed (by decide +kernel), energy rfl⟩

/-- A primary that is numbered below the classes is counted, and hides the energy of the others. -/
theorem final_state_unknownBelow :
    unknownBelow.visibleCount = 2 ∧ unknownBelow.classified.visibleCount = 1 ∧
      unknownBelow.visibleEnergy.isNaN = true ∧
      unknownBelow.classified.visibleEnergy.isNaN = false := by
  decide +kernel

end SpillSelection
