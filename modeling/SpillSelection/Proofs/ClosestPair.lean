import SpillSelection.Physics.PhotonPair
import SpillSelection.Proofs.FloatOrder
/-!
# The photon pair that is kept

The search keeps the first pair of photons until one is strictly closer to the pion. When the mass
of the first pair is a number, so is that of the pair that is kept, and no other is closer. When it
is not, nothing is strictly closer than what is not a number, and the first pair stays whatever the
others are (`photonPair_isClosest`).
-/

namespace SpillSelection

variable {s : Side}

/-! ## Pairs -/

/-- The pairs of a list are its sublists of two. -/
theorem mem_pairs_iff {α : Type} {a b : α} {l : List α} : (a, b) ∈ pairs l ↔ [a, b].Sublist l := by
  induction l with
  | nil => simp [pairs]
  | cons x l ih =>
    rw [pairs, List.mem_append, ih, List.mem_map, List.cons_sublist_cons', List.singleton_sublist]
    constructor
    · rintro (⟨y, hy, same⟩ | h)
      · cases same
        exact .inr ⟨rfl, hy⟩
      · exact .inl h
    · rintro (h | ⟨rfl, hb⟩)
      · exact .inr h
      · exact .inl ⟨b, hb, rfl⟩

theorem pairs_eq_nil_iff {α : Type} {l : List α} : pairs l = [] ↔ l.length < 2 := by
  match l with
  | [] | [_] => simp [pairs]
  | _ :: _ :: _ => simp [pairs]

namespace PhotonPair

variable {a b : Particle s} {pair other best : PhotonPair s} {seen rest : List (PhotonPair s)}

/-- The leading photon has no less energy than the other one. -/
theorem subleading_ke_le (vertex : Vec3) (leading : (ofPhotons vertex a b).leading.ke.isNaN = false)
    (subleading : (ofPhotons vertex a b).subleading.ke.isNaN = false) :
    (ofPhotons vertex a b).subleading.ke ≤ (ofPhotons vertex a b).leading.ke := by
  unfold ofPhotons at *
  by_cases less : b.ke < a.ke
  · rw [if_pos less]
    exact FloatOrder.le_of_lt less
  · rw [if_neg less] at *
    exact FloatOrder.le_of_not_lt leading subleading less

theorem isFinite_pionMass : pionMass.isFinite := by decide +kernel

/-- A distance is a number when the mass is. -/
theorem isNaN_distance : pair.distance.isNaN = pair.mass.isNaN :=
  FloatOrder.isNaN_abs.trans (FloatOrder.isNaN_sub isFinite_pionMass)

/-! ## The search -/

/-- One of some pairs whose mass is a number, and no other that has one is closer to the pion. -/
structure IsClosest (among : PhotonPair s → Prop) (best : PhotonPair s) : Prop where
  mem : among best
  number : best.mass.isNaN = false
  least : ∀ pair, among pair → pair.mass.isNaN = false → best.distance ≤ pair.distance

theorem isClosest_singleton (number : pair.mass.isNaN = false) : IsClosest (· ∈ [pair]) pair where
  mem := List.mem_singleton_self pair
  number := number
  least other member _ := by
    rw [List.mem_singleton.1 member]
    exact FloatOrder.le_self (isNaN_distance.trans number)

/-- The closest pair of those seen is compared with one more. -/
theorem IsClosest.keepCloser (h : IsClosest (· ∈ seen) best) (pair : PhotonPair s) :
    ∃ next, keepCloser (some best) pair = some next ∧ IsClosest (· ∈ pair :: seen) next := by
  by_cases closer : pair.distance < best.distance
  · have number : pair.mass.isNaN = false := isNaN_distance ▸ (FloatOrder.lt_iff_rank.1 closer).1
    refine ⟨pair, if_pos closer, List.mem_cons_self, number, ?_⟩
    intro other member valid
    rcases List.mem_cons.1 member with rfl | member
    · exact FloatOrder.le_self (isNaN_distance.trans number)
    · exact FloatOrder.le_trans (FloatOrder.le_of_lt closer) (h.least other member valid)
  · refine ⟨best, if_neg closer, List.mem_cons_of_mem _ h.mem, h.number, ?_⟩
    intro other member valid
    rcases List.mem_cons.1 member with rfl | member
    · exact FloatOrder.le_of_not_lt (isNaN_distance.trans valid) (isNaN_distance.trans h.number)
        closer
    · exact h.least other member valid

theorem IsClosest.foldl (h : IsClosest (· ∈ seen) best) (rest : List (PhotonPair s)) :
    ∃ last, rest.foldl SpillSelection.keepCloser (some best) = some last ∧
      IsClosest (· ∈ rest.reverse ++ seen) last := by
  induction rest generalizing best seen with
  | nil => exact ⟨best, rfl, h⟩
  | cons pair rest ih =>
    obtain ⟨next, kept, closest⟩ := h.keepCloser pair
    rw [List.foldl_cons, kept, List.reverse_cons, List.append_assoc]
    exact ih closest

/-- Nothing is strictly closer than a distance that is not a number. -/
theorem keepCloser_of_isNaN (h : best.mass.isNaN = true) (pair : PhotonPair s) :
    keepCloser (some best) pair = some best := by
  refine if_neg fun closer => ?_
  have number := (FloatOrder.lt_iff_rank.1 closer).2.1
  rw [isNaN_distance, h] at number
  cases number

theorem foldl_of_isNaN (h : best.mass.isNaN = true) (rest : List (PhotonPair s)) :
    rest.foldl keepCloser (some best) = some best := by
  induction rest with
  | nil => rfl
  | cons pair rest ih => rw [List.foldl_cons, keepCloser_of_isNaN h, ih]

end PhotonPair

/-! ## Interactions -/

namespace Interaction

variable {i : Interaction s} {pair best : PhotonPair s}

/-- Two primary photons of an interaction. -/
def IsPhotonPair (i : Interaction s) (pair : PhotonPair s) : Prop :=
  ∃ a b, [a, b].Sublist i.primaryPhotons ∧ PhotonPair.ofPhotons i.vertex a b = pair

/-- The photon pairs in the order of the search. -/
def photonPairs (i : Interaction s) : List (PhotonPair s) :=
  (pairs i.primaryPhotons).map fun p => PhotonPair.ofPhotons i.vertex p.1 p.2

theorem mem_photonPairs_iff : pair ∈ i.photonPairs ↔ i.IsPhotonPair pair := by
  simp only [photonPairs, List.mem_map, Prod.exists, mem_pairs_iff, IsPhotonPair]

theorem photonPairs_eq_nil_iff : i.photonPairs = [] ↔ i.primaryPhotons.length < 2 := by
  rw [photonPairs, List.map_eq_nil_iff, pairs_eq_nil_iff]

/-- What the search keeps is decided by the mass of the first pair. -/
theorem photonPair?_of_cons {first : PhotonPair s} {rest : List (PhotonPair s)}
    (h : i.photonPairs = first :: rest) :
    (first.mass.isNaN = true → i.photonPair? = some first) ∧
    (first.mass.isNaN = false →
      ∃ best, i.photonPair? = some best ∧ PhotonPair.IsClosest i.IsPhotonPair best) := by
  have search : i.photonPair? = rest.foldl keepCloser (some first) := by
    change i.photonPairs.foldl keepCloser none = _
    rw [h]
    rfl
  rw [search]
  refine ⟨fun h => PhotonPair.foldl_of_isNaN h rest, fun number => ?_⟩
  obtain ⟨best, kept, closest⟩ := (PhotonPair.isClosest_singleton number).foldl rest
  have same (pair : PhotonPair s) : pair ∈ rest.reverse ++ [first] ↔ i.IsPhotonPair pair := by
    rw [← mem_photonPairs_iff, h, List.mem_append, List.mem_reverse, List.mem_singleton,
      List.mem_cons, or_comm]
  exact ⟨best, kept, (same best).1 closest.mem, closest.number, fun pair h =>
    closest.least pair ((same pair).2 h)⟩

theorem exists_photonPair? (h : i.photonPairs ≠ []) :
    ∃ best, i.photonPair? = some best ∧ i.IsPhotonPair best := by
  obtain ⟨first, rest, cons⟩ := List.exists_cons_of_ne_nil h
  obtain ⟨stays, improves⟩ := photonPair?_of_cons cons
  cases number : first.mass.isNaN with
  | true => exact ⟨first, stays number, mem_photonPairs_iff.1 (cons ▸ List.mem_cons_self)⟩
  | false =>
    obtain ⟨best, found, closest⟩ := improves number
    exact ⟨best, found, closest.mem⟩

theorem photonPair?_eq_none_iff : i.photonPair? = none ↔ i.primaryPhotons.length < 2 := by
  rw [← photonPairs_eq_nil_iff]
  constructor
  · intro nothing
    by_contra nonempty
    obtain ⟨best, found, -⟩ := exists_photonPair? nonempty
    rw [nothing] at found
    cases found
  · intro empty
    change i.photonPairs.foldl keepCloser none = none
    rw [empty]
    rfl

theorem isPhotonPair_of_photonPair? (h : i.photonPair? = some best) : i.IsPhotonPair best := by
  have nonempty : i.photonPairs ≠ [] := by
    intro empty
    rw [photonPair?_eq_none_iff.2 (photonPairs_eq_nil_iff.1 empty)] at h
    cases h
  obtain ⟨pair, found, isPair⟩ := exists_photonPair? nonempty
  rw [h] at found
  cases found
  exact isPair

/-- The search finds nothing with fewer than two photons, and what it finds is a pair of them with
the more energetic one first. The closest pair is found if the mass of the first two photons is a
number. If it is not, the first two are what is found. -/
theorem photonPair_isClosest (i : Interaction s) :
    (i.photonPair? = none ↔ i.primaryPhotons.length < 2) ∧
    (∀ best, i.photonPair? = some best → i.IsPhotonPair best ∧
      (best.leading.ke.isNaN = false → best.subleading.ke.isNaN = false →
        best.subleading.ke ≤ best.leading.ke)) ∧
    ∀ a b rest, i.primaryPhotons = a :: b :: rest →
      ((PhotonPair.ofPhotons i.vertex a b).mass.isNaN = false →
        ∃ best, i.photonPair? = some best ∧ PhotonPair.IsClosest i.IsPhotonPair best) ∧
      ((PhotonPair.ofPhotons i.vertex a b).mass.isNaN = true →
        i.photonPair? = some (PhotonPair.ofPhotons i.vertex a b)) := by
  refine ⟨photonPair?_eq_none_iff, fun best found => ?_, fun a b rest photons => ?_⟩
  · obtain ⟨a, b, sub, rfl⟩ := isPhotonPair_of_photonPair? found
    exact ⟨⟨a, b, sub, rfl⟩, PhotonPair.subleading_ke_le i.vertex⟩
  · have first : i.photonPairs = PhotonPair.ofPhotons i.vertex a b ::
        i.photonPairs.tail := by
      rw [photonPairs, photons]
      rfl
    exact (photonPair?_of_cons first).symm

/-- A primary photon of so much energy that converts at a point. -/
def photonAt (energy : Float) (point : Vec3) : Particle .truth :=
  { core := { isPrimary := true, startPoint := point }, energyInit := energy }

/-- Two photons across from a vertex, and one that converts at it. -/
def lastAtVertex : Interaction .truth where
  vertex := ⟨1, 1, 1⟩
  particles := [photonAt 100 ⟨11, 1, 1⟩, photonAt 50 ⟨1, 11, 1⟩, photonAt 100 ⟨1, 1, 1⟩]

theorem photonPair_lastAtVertex :
    ∃ best, lastAtVertex.photonPair? = some best ∧
      PhotonPair.IsClosest lastAtVertex.IsPhotonPair best :=
  ((photonPair_isClosest lastAtVertex).2.2 _ _ _ rfl).1 (by decide +kernel)

/-- The same photons with the one at the vertex first. -/
def firstAtVertex : Interaction .truth where
  vertex := ⟨1, 1, 1⟩
  particles := [photonAt 100 ⟨1, 1, 1⟩, photonAt 100 ⟨11, 1, 1⟩, photonAt 50 ⟨1, 11, 1⟩]

/-- A pair whose mass is a number is missed when the first pair's is none. -/
theorem photonPair_firstAtVertex :
    (∃ pair, firstAtVertex.IsPhotonPair pair ∧ pair.mass.isNaN = false) ∧
      ∃ best, firstAtVertex.photonPair? = some best ∧ best.mass.isNaN = true := by
  refine ⟨⟨_, ⟨photonAt 100 ⟨11, 1, 1⟩, photonAt 50 ⟨1, 11, 1⟩, ?_, rfl⟩, ?_⟩, ?_⟩
  · exact (List.Sublist.refl _).cons _
  · decide +kernel
  · exact Option.map_eq_some_iff.1 (by decide +kernel :
      firstAtVertex.photonPair?.map (·.mass.isNaN) = some true)

end Interaction

end SpillSelection
