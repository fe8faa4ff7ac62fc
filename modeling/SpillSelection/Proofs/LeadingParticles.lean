import SpillSelection.Proofs.Alignment
import SpillSelection.Proofs.CatalogHistory
import SpillSelection.Proofs.FloatOrder
import SpillSelection.Proofs.RegistrationOrder
/-!
# The leading particle of a class

The search for the leading particle keeps the best one so far, and starts from no energy at all.
`Scanned` is what it knows after some particles; from that, the particle that it finds is the first
of the most energetic ones (`IsLeading`), and it finds none only when no particle of the class has
any energy. A branch with a selector of the standard catalog reads the variable of that particle
(`leading_read_by_branches`).
-/

namespace SpillSelection

variable {s : Side}

/-! ## The search -/

/-- A particle at a position is of a class and has energy, no other of its class has more, and those
before it have less, or none that is a number. -/
structure IsLeading (pid : Int64) (particles : List (Particle s)) (k : Nat) (p : Particle s) :
    Prop where
  found : particles[k]? = some p
  ofClass : p.pid = pid
  positive : 0 < p.ke
  most : ∀ q ∈ particles, q.pid = pid → ¬p.ke < q.ke
  first : ∀ j < k, ∀ q, particles[j]? = some q → q.pid = pid → q.ke < p.ke ∨ q.ke.isNaN = true

/-- What the search knows of the particles it has seen: no energy of the class exceeds the one that
it keeps, which is that of the leading particle, or nothing. -/
structure Scanned (pid : Int64) (seen : List (Particle s)) (state : Option Nat × Float) :
    Prop where
  bound : ∀ q ∈ seen, q.pid = pid → ¬state.2 < q.ke
  nothing : state.1 = none → state.2 = 0
  leading : ∀ k, state.1 = some k → ∃ p, IsLeading pid seen k p ∧ state.2 = p.ke

section Search

variable {pid : Int64} {seen particles : List (Particle s)} {p q : Particle s} {k l : Nat}
  {state : Option Nat × Float}

theorem Scanned.nil (pid : Int64) : Scanned (s := s) pid [] (none, 0) where
  bound := by simp
  nothing _ := rfl
  leading := by simp

/-- A particle with more energy than what the search keeps has energy. -/
theorem Scanned.positive (h : Scanned pid seen state) (more : state.2 < p.ke) : 0 < p.ke := by
  cases best : state.1 with
  | none => rwa [← h.nothing best]
  | some k =>
    obtain ⟨leader, leads, same⟩ := h.leading k best
    rw [same] at more
    exact FloatOrder.lt_trans leads.positive more

/-- A particle with more energy than what the search keeps is the leading one so far. -/
theorem Scanned.isLeading_last (h : Scanned pid seen state) (ofClass : p.pid = pid)
    (more : state.2 < p.ke) : IsLeading pid (seen ++ [p]) seen.length p where
  found := List.getElem?_concat_length
  ofClass := ofClass
  positive := h.positive more
  most q member same := by
    rcases List.mem_append.1 member with member | member
    · intro above
      exact h.bound q member same (FloatOrder.lt_trans more above)
    · rw [List.mem_singleton.1 member]
      exact FloatOrder.not_lt_self p.ke
  first j before q at_ same := by
    rw [List.getElem?_append_left before] at at_
    exact FloatOrder.lt_or_isNaN (h.bound q (List.mem_of_getElem? at_) same) more

/-- A leading particle stays so when one comes that does not exceed it. -/
theorem IsLeading.append (h : IsLeading pid seen k p) (less : q.pid = pid → ¬p.ke < q.ke) :
    IsLeading pid (seen ++ [q]) k p := by
  have inside : k < seen.length := (List.getElem?_eq_some_iff.1 h.found).1
  refine ⟨?_, h.ofClass, h.positive, ?_, ?_⟩
  · rw [List.getElem?_append_left inside]
    exact h.found
  · intro r member
    rcases List.mem_append.1 member with member | member
    · exact h.most r member
    · rw [List.mem_singleton.1 member]
      exact less
  · intro j before r at_
    rw [List.getElem?_append_left (Nat.lt_trans before inside)] at at_
    exact h.first j before r at_

/-- One more particle. -/
theorem Scanned.keepLeading (h : Scanned pid seen state) (p : Particle s) :
    Scanned pid (seen ++ [p]) (Interaction.keepLeading pid state (p, seen.length)) := by
  unfold Interaction.keepLeading
  by_cases better : p.pid = pid ∧ state.2 < p.ke
  · rw [if_pos better]
    have leads := h.isLeading_last better.1 better.2
    refine ⟨leads.most, by simp, fun k same => ?_⟩
    cases same
    exact ⟨p, leads, rfl⟩
  · rw [if_neg better]
    have less (same : p.pid = pid) : ¬state.2 < p.ke := fun more => better ⟨same, more⟩
    refine ⟨fun q member same => ?_, h.nothing, fun k best => ?_⟩
    · rcases List.mem_append.1 member with member | member
      · exact h.bound q member same
      · rw [List.mem_singleton.1 member] at same ⊢
        exact less same
    · obtain ⟨leader, leads, energy⟩ := h.leading k best
      rw [energy] at less
      exact ⟨leader, leads.append less, energy⟩

theorem scanned_foldl (pid : Int64) (particles : List (Particle s)) :
    Scanned pid particles
      (particles.zipIdx.foldl (Interaction.keepLeading pid) (none, 0)) := by
  -- The position of a particle is the number of those before it, so the list grows at its end.
  induction particles using List.reverseRecOn with
  | nil => exact Scanned.nil pid
  | append_singleton seen p ih =>
    rw [List.zipIdx_append, List.foldl_append]
    simpa using ih.keepLeading p

/-- There is one leading particle at most. -/
theorem IsLeading.position_unique (hp : IsLeading pid particles k p)
    (hq : IsLeading pid particles l q) : k = l := by
  have notBefore {k l : Nat} {p q : Particle s} (hp : IsLeading pid particles k p)
      (hq : IsLeading pid particles l q) : ¬k < l := by
    intro before
    rcases hq.first k before p hp.found hp.ofClass with less | noNumber
    · exact hp.most q (List.mem_of_getElem? hq.found) hq.ofClass less
    · have number : p.ke.isNaN = false := (FloatOrder.lt_iff_rank.1 hp.positive).2.1
      rw [number] at noNumber
      cases noNumber
  have := notBefore hp hq
  have := notBefore hq hp
  omega

end Search

namespace Interaction

variable {pid : Int64} {i : Interaction s}

theorem leading?_eq_none_iff :
    i.leading? pid = none ↔ ∀ p ∈ i.particles, p.pid = pid → ¬0 < p.ke := by
  have scan := scanned_foldl pid i.particles
  constructor
  · intro none
    rw [← scan.nothing none]
    exact scan.bound
  · intro nothing
    cases best : i.leading? pid with
    | none => rfl
    | some k =>
      obtain ⟨p, leads, -⟩ := scan.leading k best
      exact absurd leads.positive (nothing p (List.mem_of_getElem? leads.found) leads.ofClass)

theorem leading?_eq_some_iff {k : Nat} :
    i.leading? pid = some k ↔ ∃ p, IsLeading pid i.particles k p := by
  have scan := scanned_foldl pid i.particles
  constructor
  · intro best
    obtain ⟨p, leads, -⟩ := scan.leading k best
    exact ⟨p, leads⟩
  · rintro ⟨p, leads⟩
    cases best : i.leading? pid with
    | none =>
      have nothing := leading?_eq_none_iff.1 best p (List.mem_of_getElem? leads.found) leads.ofClass
      exact absurd leads.positive nothing
    | some l =>
      obtain ⟨q, other, -⟩ := scan.leading l best
      rw [other.position_unique leads]

end Interaction

/-! ## Branches that read it -/

/-- The names of the selectors, and the classes that they look for. -/
def leaders : List (String × Int64) :=
  [("leading_photon", Pid.photon), ("leading_electron", Pid.electron),
    ("leading_muon", Pid.muon), ("leading_pion", Pid.pion), ("leading_proton", Pid.proton)]

theorem selectors_eq : Standard.selectors = leaders.map fun l => Standard.leader l.1 l.2 := rfl

section Selected

variable {pid : Int64} {f : Particle s → Float} {i : Interaction s}

theorem ofSelected_of_isLeading {k : Nat} {p : Particle s} (leads : IsLeading pid i.particles k p) :
    ofSelected (Interaction.leading? pid) f i = f p := by
  unfold ofSelected
  rw [Interaction.leading?_eq_some_iff.2 ⟨p, leads⟩, Option.bind_some, leads.found]
  rfl

theorem isNaN_ofSelected_iff :
    (ofSelected (Interaction.leading? pid) f i).isNaN = true ↔
      (∀ p ∈ i.particles, p.pid = pid → ¬0 < p.ke) ∨
        ∃ k p, IsLeading pid i.particles k p ∧ (f p).isNaN = true := by
  cases best : i.leading? pid with
  | none =>
    have nothing := Interaction.leading?_eq_none_iff.1 best
    have value : ofSelected (Interaction.leading? pid) f i = nan := by
      rw [ofSelected, best]
      rfl
    rw [value]
    exact iff_of_true isNaN_nan (.inl nothing)
  | some k =>
    obtain ⟨p, leads⟩ := Interaction.leading?_eq_some_iff.1 best
    rw [ofSelected_of_isLeading leads]
    constructor
    · intro noNumber
      exact .inr ⟨k, p, leads, noNumber⟩
    · rintro (nothing | ⟨l, q, other, noNumber⟩)
      · exact absurd leads.positive (nothing p (List.mem_of_getElem? leads.found) leads.ofClass)
      · have same := leads.found
        rw [leads.position_unique other, other.found] at same
        rwa [← Option.some.inj same]

end Selected

namespace Catalog

variable {c c₀ : Catalog} {groups : List (List Declaration)} {v : VariableEntry} {t : Side}
  {l : String × Int64}

/-- A catalog that was made with the selectors has them, whatever was added to it later. -/
theorem selector_after (made : ofGroups groups = .ok c₀) (among : Standard.selectors ∈ groups)
    (changes : List Change) (hl : l ∈ leaders) (t : Side) :
    (c₀.after changes).selectorTables.function? (.interaction t) l.1 =
      some (.plain (Interaction.leading? l.2)) := by
  have declared : Standard.leader l.1 l.2 ∈ Standard.selectors := by
    rw [selectors_eq]
    exact List.mem_map_of_mem hl
  have entry : Entry.ofSelector l.1 ⟨.interaction t, .plain (Interaction.leading? l.2)⟩ ∈
      (Standard.leader l.1 l.2).entries := by
    cases t <;> simp [Standard.leader, Declaration.entries, Scoped.interactions]
  exact find?_after_ofGroups made among declared entry changes

/-- A request with a selector takes one value of the interaction on the side of its target. -/
theorem rowValue_of_selector {target : Target} {selector : String}
    {pick : Interaction t → Option Nat} (selects : v.selector = some selector)
    (side : target.side? = some t)
    (found : c.selectorTables.function? (.interaction t) selector = some (.plain pick))
    (simulated : Bool) (spill : Spill) (i : Interaction s) :
    c.rowValue v target simulated spill i =
      valueOr (ofSelected pick (c.value (.particle t) v)) (spill.subject? simulated i t) := by
  have value : c.interactionValue v = ofSelected pick (c.value (.particle t) v) := by
    funext x
    simp only [interactionValue, selects, selected?, found, ofSelected, Signature.apply]
  cases target with
  | interaction u | particle u =>
    cases Option.some.inj side
    rw [rowValue, value]
  | event | neutrino => cases side

end Catalog

/-- The search finds the first of the most energetic particles of a class, which is one of the
interaction's own, and none exactly when no particle of the class has energy. In a catalog with the
selectors a branch with one of them takes one value for each row that passes: that of its variable
for the leading particle of the row's interaction, and no number exactly when there is no such
particle, or its own value is none. -/
theorem leading_read_by_branches :
    (∀ (s : Side) (i : Interaction s) (pid : Int64),
      (∀ k, i.leading? pid = some k ↔ ∃ p, IsLeading pid i.particles k p) ∧
      (i.leading? pid = none ↔ ∀ p ∈ i.particles, p.pid = pid → ¬0 < p.ke) ∧
      ∀ k, i.leading? pid = some k → k < i.particles.length) ∧
    ∀ (groups : List (List Declaration)) (c₀ : Catalog), Catalog.ofGroups groups = .ok c₀ →
      Standard.selectors ∈ groups → ∀ (changes : List Change) (entries : List CutEntry)
      (v : VariableEntry) (s t : Side) (target : Target) (simulated : Bool) (b : Branch),
      ∀ l ∈ leaders, v.selector = some l.1 → target.side? = some t →
      (c₀.after changes).branch entries v (.interactions s) target simulated = .ok b →
      ∃ f, (c₀.after changes).bindVariable (.particle t) v = .ok f ∧
        (∀ spill, b.evaluate spill =
          ((c₀.after changes).passing entries s simulated spill).map fun i =>
            valueOr (ofSelected (Interaction.leading? l.2) f) (spill.subject? simulated i t)) ∧
        ∀ x : Interaction t,
          (∀ k p, IsLeading l.2 x.particles k p →
            ofSelected (Interaction.leading? l.2) f x = f p) ∧
          ((ofSelected (Interaction.leading? l.2) f x).isNaN = true ↔
            (∀ p ∈ x.particles, p.pid = l.2 → ¬0 < p.ke) ∨
              ∃ k p, IsLeading l.2 x.particles k p ∧ (f p).isNaN = true) := by
  refine ⟨fun s i pid => ⟨fun k => Interaction.leading?_eq_some_iff,
    Interaction.leading?_eq_none_iff, fun k best => ?_⟩, ?_⟩
  · obtain ⟨p, leads⟩ := Interaction.leading?_eq_some_iff.1 best
    exact (List.getElem?_eq_some_iff.1 leads.found).1
  · intro groups c₀ made among changes entries v s t target simulated b l hl selects side h
    have found := Catalog.selector_after made among changes hl t
    have offered := ((branch_ok_iff.1 h).1.lifted l.1 t selects side).2
    refine ⟨_, Catalog.bindVariable_ok_iff.2 ⟨offered, rfl⟩, fun spill => ?_, fun x =>
      ⟨fun k p => ofSelected_of_isLeading, isNaN_ofSelected_iff⟩⟩
    have single : IsSingleValued v target := by
      cases target <;> simp [IsSingleValued, selects]
    rw [evaluate_of_single h single]
    exact List.map_congr_left fun i _ =>
      Catalog.rowValue_of_selector selects side found simulated spill i

/-- A shower of a photon. -/
def photonShower (energy length : Float) : Particle .reco :=
  { core := { pid := Pid.photon, caloKe := energy, length := length } }

/-- Photons of which two have the most energy, behind one whose energy is no number. -/
def tiedPhotons : Interaction .reco where
  particles := [photonShower nan 1, photonShower 5 2, photonShower 3 3, photonShower 5 4]

/-- The length of the leading photon. -/
def photonLength : VariableEntry :=
  { name := "length", selector := some "leading_photon" }

/-- The selectors, and the length of a particle. -/
def lengthGroups : List (List Declaration) :=
  [Standard.selectors, [Standard.ofCore "length" (·.length)]]

/-- Of two photons with equal energies the first is read, and no number where there is none. -/
theorem leading_read_by_branches_tiedPhotons :
    ∃ c b f, Catalog.ofGroups lengthGroups = .ok c ∧
      c.branch [] photonLength (.interactions .reco) (.interaction .reco) true = .ok b ∧
      c.bindVariable (.particle .reco) photonLength = .ok f ∧
      b.evaluate { reco := [tiedPhotons, {}] } = [f (photonShower 5 2), nan] := by
  obtain ⟨found, read⟩ := leading_read_by_branches
  obtain ⟨c, b, made, compiled⟩ : ∃ c b, Catalog.ofGroups lengthGroups = .ok c ∧
      c.branch [] photonLength (.interactions .reco) (.interaction .reco) true = .ok b :=
    ⟨_, _, rfl, rfl⟩
  obtain ⟨f, bound, values, value⟩ := read lengthGroups c made (.head _) [] [] photonLength .reco
    .reco (.interaction .reco) true b ("leading_photon", Pid.photon) (.head _) rfl rfl compiled
  obtain ⟨p, leads⟩ := ((found .reco tiedPhotons Pid.photon).1 1).1 (by decide +kernel)
  have first : p = photonShower 5 2 := (Option.some.inj leads.found).symm
  have lengths : ofSelected (s := .reco) (Interaction.leading? Pid.photon) f tiedPhotons =
      f (photonShower 5 2) := by
    rw [← first]
    exact (value tiedPhotons).1 1 p leads
  have nothing : ofSelected (s := .reco) (Interaction.leading? Pid.photon) f {} = nan := rfl
  have rows : b.evaluate { reco := [tiedPhotons, {}] } =
      [tiedPhotons, {}].map (ofSelected (s := .reco) (Interaction.leading? Pid.photon) f) :=
    values _
  refine ⟨c, b, f, made, compiled, bound, ?_⟩
  rw [rows, List.map_cons, List.map_singleton, lengths, nothing]

end SpillSelection
