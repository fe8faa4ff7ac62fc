import Mathlib.Data.List.Find
import Mathlib.Data.List.Nodup
import SpillSelection.Proofs.TruthOnData
/-!
# The join by id

A row reaches the other side of its spill by ids alone: its match ids are looked up, and what is
found is all that cuts, variables and particle cuts read there. So two spills with the same rows
give the same values when every look-up finds the same (`interpret_joinsAlike`). Where ids are told
apart, the order of the other side's interactions plays no part in that (`order_is_idle`).
-/

namespace SpillSelection

/-- The spill with other interactions on a side. -/
def Spill.withInteractions (spill : Spill) : (s : Side) → List (Interaction s) → Spill
  | .truth, truth => { spill with truth := truth }
  | .reco, reco => { spill with reco := reco }

/-- No two interactions of a side have one id, and no two particles of any of them. -/
structure Spill.DistinctIds (spill : Spill) (s : Side) : Prop where
  interactions : ((spill.interactions s).map (·.id)).Nodup
  particles : ((spill.particles s).map (·.core.id)).Nodup

/-- Two spills with the same rows on a side and the same results of every look-up. -/
structure Spill.JoinsAlike (s : Side) (spill spill' : Spill) : Prop where
  header : spill.header = spill'.header
  rows : spill.interactions s = spill'.interactions s
  neutrinos : spill.mc = spill'.mc
  interaction? : ∀ t id, spill.interaction? t id = spill'.interaction? t id
  particle? : ∀ t id, spill.particle? t id = spill'.particle? t id

variable {c : Catalog} {entries : List CutEntry} {v : VariableEntry} {target : Target}
  {simulated : Bool} {s : Side} {spill spill' : Spill}

/-! ## Spills that are joined alike -/

namespace Spill.JoinsAlike

theorem matched? (h : JoinsAlike s spill spill') {t : Side} (i : Interaction t) :
    spill.matched? i = spill'.matched? i := by
  unfold Spill.matched?
  rw [funext (h.interaction? t.opposite)]

theorem matchedParticle? (h : JoinsAlike s spill spill') {t : Side} (p : Particle t) :
    spill.matchedParticle? p = spill'.matchedParticle? p := by
  unfold Spill.matchedParticle?
  rw [funext (h.particle? t.opposite)]

theorem counterpart? (h : JoinsAlike s spill spill') {t : Side} (i : Interaction t) (u : Side) :
    spill.counterpart? i u = spill'.counterpart? i u := by
  cases t <;> cases u
  · rfl
  · exact h.matched? i
  · exact h.matched? i
  · rfl

theorem particleCounterpart? (h : JoinsAlike s spill spill') {t : Side} (p : Particle t)
    (u : Side) : spill.particleCounterpart? p u = spill'.particleCounterpart? p u := by
  cases t <;> cases u
  · rfl
  · exact h.matchedParticle? p
  · exact h.matchedParticle? p
  · rfl

theorem subject? (h : JoinsAlike s spill spill') {t : Side} (i : Interaction t) (u : Side) :
    spill.subject? simulated i u = spill'.subject? simulated i u := by
  unfold Spill.subject?
  rw [h.counterpart? i u]

theorem neutrinoOf? (h : JoinsAlike s spill spill') (i : Interaction .truth) :
    spill.neutrinoOf? i = spill'.neutrinoOf? i := by
  unfold Spill.neutrinoOf?
  rw [h.neutrinos]

theorem cutAllows (h : JoinsAlike s spill spill') (i : Interaction s) {e : CutEntry}
    (same : e.object = .event → c.holds .event e.name e.parameters spill =
      c.holds .event e.name e.parameters spill') :
    c.cutAllows simulated spill i e = c.cutAllows simulated spill' i e := by
  unfold Catalog.cutAllows
  rcases object : e.object with t | t | _ | _
  · simp only [h.counterpart? i t]
  · rfl
  · exact same object
  · simp only [h.header]

theorem particleCutAllows (h : JoinsAlike s spill spill') {t : Side} (p : Particle t)
    (e : CutEntry) :
    c.particleCutAllows simulated spill p e = c.particleCutAllows simulated spill' p e := by
  unfold Catalog.particleCutAllows
  rcases e.object with u | u | _ | _
  · rfl
  · simp only [h.particleCounterpart? p u]
  · rfl
  · rfl

theorem passing (h : JoinsAlike s spill spill')
    (cuts : ∀ e ∈ entries, e.object = .event → c.holds .event e.name e.parameters spill =
      c.holds .event e.name e.parameters spill') :
    c.passing entries s simulated spill = c.passing entries s simulated spill' := by
  unfold Catalog.passing
  rw [h.rows]
  refine List.filter_congr fun i _ => ?_
  unfold Catalog.rowPasses
  rw [Bool.eq_iff_iff, List.all_eq_true, List.all_eq_true]
  exact forall₂_congr fun e he => by rw [h.cutAllows i (cuts e he)]

theorem rowValue (h : JoinsAlike s spill spill') (i : Interaction s)
    (value : target = .event → c.value .event v spill = c.value .event v spill') :
    c.rowValue v target simulated spill i = c.rowValue v target simulated spill' i := by
  unfold Catalog.rowValue
  rcases target with t | t | _ | _
  · simp only [h.subject? i t]
  · simp only [h.subject? i t]
  · exact value rfl
  · simp only [h.subject? i .truth, funext h.neutrinoOf?]

theorem rowValues (h : JoinsAlike s spill spill') (i : Interaction s)
    (value : target = .event → c.value .event v spill = c.value .event v spill') :
    c.rowValues entries v target simulated spill i =
      c.rowValues entries v target simulated spill' i := by
  unfold Catalog.rowValues
  split
  case h_1 t _ =>
    have particles (p : Particle t) : entries.all (c.particleCutAllows simulated spill p) =
        entries.all (c.particleCutAllows simulated spill' p) := by
      rw [funext (h.particleCutAllows p)]
    simp only [h.subject? i t, particles]
  case h_2 => rw [h.rowValue i value]

end Spill.JoinsAlike

/-- Spills that are joined alike yield the same values, as far as cuts and variables of the spill
itself say the same. -/
theorem interpret_joinsAlike (h : Spill.JoinsAlike s spill spill')
    (cuts : ∀ e ∈ entries, e.object = .event → c.holds .event e.name e.parameters spill =
      c.holds .event e.name e.parameters spill')
    (value : target = .event → c.value .event v spill = c.value .event v spill') :
    c.interpret entries v s target simulated spill =
      c.interpret entries v s target simulated spill' := by
  unfold Catalog.interpret
  rw [h.passing cuts]
  exact List.flatMap_congr fun i _ => h.rowValues i value

/-! ## Reordered interactions -/

/-- With distinct keys a look-up by key finds the same in any order. -/
theorem find?_key_perm {α κ : Type} [BEq κ] [LawfulBEq κ] {key : α → κ} {xs ys : List α}
    (perm : xs.Perm ys) (distinct : (ys.map key).Nodup) (k : κ) :
    xs.find? (fun x => key x == k) = ys.find? fun x => key x == k := by
  refine (List.find?_eq_find?_of_perm perm.symm ?_).symm
  rintro x ⟨hx, keyX⟩ y ⟨hy, keyY⟩
  exact List.inj_on_of_nodup_map distinct hx hy ((eq_of_beq keyX).trans (eq_of_beq keyY).symm)

/-- Reordering the interactions of the other side changes no look-up. -/
theorem joinsAlike_of_perm (distinct : spill.DistinctIds s.opposite)
    {others : List (Interaction s.opposite)} (perm : others.Perm (spill.interactions s.opposite)) :
    Spill.JoinsAlike s (spill.withInteractions s.opposite others) spill := by
  have interaction (id : Int64) :
      others.find? (·.id == id) = spill.interaction? s.opposite id :=
    find?_key_perm perm distinct.interactions id
  have particle (id : Int64) : (others.flatMap (·.particles)).find? (fun p => p.core.id == id) =
      spill.particle? s.opposite id :=
    find?_key_perm (perm.flatMap_right _) distinct.particles id
  cases s
  · refine ⟨rfl, rfl, rfl, fun t id => ?_, fun t id => ?_⟩
    · cases t
      · rfl
      · exact interaction id
    · cases t
      · rfl
      · exact particle id
  · refine ⟨rfl, rfl, rfl, fun t id => ?_, fun t id => ?_⟩
    · cases t
      · exact interaction id
      · rfl
    · cases t
      · exact particle id
      · rfl

/-- The rows of a side give the same values however the interactions of the other side are ordered,
if no id comes twice there and cuts and variables of the spill itself do not tell the two orders
apart. -/
theorem order_is_idle {b : Branch}
    (h : c.branch entries v (.interactions s) target simulated = .ok b)
    (distinct : spill.DistinctIds s.opposite) {others : List (Interaction s.opposite)}
    (perm : others.Perm (spill.interactions s.opposite))
    (cuts : ∀ e ∈ entries, e.object = .event →
      c.holds .event e.name e.parameters (spill.withInteractions s.opposite others) =
        c.holds .event e.name e.parameters spill)
    (value : target = .event →
      c.value .event v (spill.withInteractions s.opposite others) = c.value .event v spill) :
    b.evaluate (spill.withInteractions s.opposite others) = b.evaluate spill := by
  obtain ⟨-, rfl⟩ := branch_ok_iff.1 h
  simp only [evaluation_eq_interpret]
  exact interpret_joinsAlike (joinsAlike_of_perm distinct perm) cuts value

/-- A reco interaction that is matched with the second of two truth interactions, with a particle
that is matched with one of the particles there. -/
def joinedSpill : Spill where
  reco := [
    { id := 0, matchIds := [8]
      particles := [{ core := { id := 1, isContained := true, matchIds := [4] } }] }]
  truth := [
    { id := 7, particles := [{ core := { id := 3 } }] },
    { id := 8, isContained := true
      particles := [{ core := { id := 5 } }, { core := { id := 4, isContained := true } }] }]

/-- The interactions and the particles whose truth is contained. -/
def containedTruthCuts : List CutEntry :=
  [{ name := "contained", object := .interaction .truth },
    { name := "contained", object := .particle .truth }]

/-- Whether the reco particles that pass these cuts are contained themselves. -/
def containedPairs : Except SelectionError Branch :=
  containmentCatalog.branch containedTruthCuts { name := "contained" } (.interactions .reco)
    (.particle .reco) true

/-- With the truth interactions in the other order both look-ups still find their objects. -/
theorem order_is_idle_joinedSpill : ∃ b, containedPairs = .ok b ∧
    joinedSpill.DistinctIds .truth ∧ joinedSpill.truth.reverse.map (·.id) = [8, 7] ∧
    b.evaluate joinedSpill = [1] ∧
    b.evaluate (joinedSpill.withInteractions .truth joinedSpill.truth.reverse) =
      b.evaluate joinedSpill := by
  have distinct : joinedSpill.DistinctIds .truth := ⟨by decide, by decide⟩
  have noEvent : ∀ e ∈ containedTruthCuts, e.object ≠ .event := by decide
  refine ⟨_, rfl, distinct, rfl, rfl, ?_⟩
  exact order_is_idle (s := .reco) (show containedPairs = .ok _ from rfl) distinct
    (List.reverse_perm _) (fun e he event => absurd event (noEvent e he)) nofun

end SpillSelection
