import SpillSelection.Catalog.Scoped
import SpillSelection.Proofs.Requests
/-!
# Row by row

The meaning of a request without compiling it. `Catalog.interpret` walks the interactions of a
side; for each it asks every cut in the order of the list, and for one that passes it takes the
values of the variable. `branch_refines_interpret` shows that a compiled branch, which sorts its
cuts by object first and drops some of them, yields the same values.
-/

namespace SpillSelection

variable {s : Side}

/-! ## The specification -/

/-- The interaction of a side that belongs to an interaction: itself on its own side, and on the
other side the first one with the first of its match ids. -/
def Spill.counterpart? (spill : Spill) : {s : Side} → Interaction s → (t : Side) →
    Option (Interaction t)
  | .truth, i, .truth | .reco, i, .reco => some i
  | .truth, i, .reco => i.matchIds.head?.bind fun id => spill.reco.find? (·.id == id)
  | .reco, i, .truth => i.matchIds.head?.bind fun id => spill.truth.find? (·.id == id)

/-- The particle of a side that belongs to a particle: itself on its own side, and on the other
side the first one, in whichever interaction, with the first of its match ids. -/
def Spill.particleCounterpart? (spill : Spill) : {s : Side} → Particle s → (t : Side) →
    Option (Particle t)
  | .truth, p, .truth | .reco, p, .reco => some p
  | .truth, p, .reco => p.core.matchIds.head?.bind fun id =>
    (spill.reco.flatMap (·.particles)).find? (·.core.id == id)
  | .reco, p, .truth => p.core.matchIds.head?.bind fun id =>
    (spill.truth.flatMap (·.particles)).find? (·.core.id == id)

/-- The neutrino that a truth interaction comes from: the one at the place that it names, if there
is such a place. -/
def Spill.neutrinoOf? (spill : Spill) (i : Interaction .truth) : Option Neutrino :=
  match i.nuId.toInt with
  | .ofNat place => spill.mc[place]?
  | .negSucc _ => none

/-- The interaction that a variable on a side is about. On data a row that is not itself truth
has none there. -/
def Spill.subject? (spill : Spill) (simulated : Bool) (i : Interaction s) (t : Side) :
    Option (Interaction t) :=
  if t = .truth ∧ s ≠ .truth ∧ ¬simulated then none else spill.counterpart? i t

/-- What a predicate says of a match that may be missing: without one a row fails on simulation and
passes on data. -/
def onMatch {α : Type} (simulated : Bool) (holds : α → Bool) : Option α → Bool
  | some a => holds a
  | none => !simulated

/-- What a cut on a side says. On data truth cuts pass whatever there is. -/
def verdict {α : Type} (simulated : Bool) (t : Side) (holds : α → Bool) (object : Option α) :
    Bool :=
  if t = .truth ∧ ¬simulated then true else onMatch simulated holds object

namespace Catalog

/-- Whether a row passes one cut. -/
def cutAllows (c : Catalog) (simulated : Bool) (spill : Spill) (i : Interaction s)
    (e : CutEntry) : Bool :=
  match e.object with
  | .event => c.holds .event e.name e.parameters spill
  | .beam =>
    if simulated then true
    else match spill.header.beam with
      | some beam => c.holds .beam e.name e.parameters beam
      | none => false
  | .interaction t =>
    verdict simulated t (c.holds (.interaction t) e.name e.parameters) (spill.counterpart? i t)
  | .particle _ => true

/-- Whether a particle passes one cut. -/
def particleCutAllows (c : Catalog) (simulated : Bool) (spill : Spill) (p : Particle s)
    (e : CutEntry) : Bool :=
  match e.object with
  | .particle t =>
    verdict simulated t (c.holds (.particle t) e.name e.parameters)
      (spill.particleCounterpart? p t)
  | _ => true

/-- The one value of a row, for every target but the particles themselves. -/
def rowValue (c : Catalog) (v : VariableEntry) (target : Target) (simulated : Bool)
    (spill : Spill) (i : Interaction s) : Float :=
  match target with
  | .event => c.value .event v spill
  | .neutrino =>
    valueOr (c.value .neutrino v) ((spill.subject? simulated i .truth).bind spill.neutrinoOf?)
  | .interaction t | .particle t => valueOr (c.interactionValue v) (spill.subject? simulated i t)

/-- The values of a row. Without a selector a particle target gives one for each particle of its
interaction that passes the cuts. -/
def rowValues (c : Catalog) (entries : List CutEntry) (v : VariableEntry) (target : Target)
    (simulated : Bool) (spill : Spill) (i : Interaction s) : List Float :=
  match target, v.selector with
  | .particle t, none =>
    match spill.subject? simulated i t with
    | some x =>
      (x.particles.filter fun p => entries.all (c.particleCutAllows simulated spill p)).map
        (c.value (.particle t) v)
    | none => []
  | target, _ => [c.rowValue v target simulated spill i]

/-- Whether a row passes the cuts, one after another in their order. -/
def rowPasses (c : Catalog) (entries : List CutEntry) (simulated : Bool) (spill : Spill)
    (i : Interaction s) : Bool :=
  entries.all (c.cutAllows simulated spill i)

/-- The rows that pass, in the order of their interactions. -/
def passing (c : Catalog) (entries : List CutEntry) (s : Side) (simulated : Bool)
    (spill : Spill) : List (Interaction s) :=
  (spill.interactions s).filter (c.rowPasses entries simulated spill)

/-- The values of a request for a spill, row by row. -/
def interpret (c : Catalog) (entries : List CutEntry) (v : VariableEntry) (s : Side)
    (target : Target) (simulated : Bool) (spill : Spill) : List Float :=
  (c.passing entries s simulated spill).flatMap (c.rowValues entries v target simulated spill)

end Catalog

/-! ## Look-ups -/

theorem Spill.counterpart?_opposite (spill : Spill) (i : Interaction s) :
    spill.counterpart? i s.opposite = spill.matched? i := by
  cases s <;> rfl

theorem Spill.particleCounterpart?_self (spill : Spill) (p : Particle s) :
    spill.particleCounterpart? p s = some p := by
  cases s <;> rfl

theorem Spill.particleCounterpart?_opposite (spill : Spill) (p : Particle s) :
    spill.particleCounterpart? p s.opposite = spill.matchedParticle? p := by
  cases s <;> rfl

theorem Spill.neutrinoOf?_eq (spill : Spill) (i : Interaction .truth) :
    spill.neutrinoOf? i = spill.neutrino? i.nuId := by
  unfold neutrinoOf? neutrino?
  simp only [Int64.le_iff_toInt_le]
  cases i.nuId.toInt with
  | ofNat place => rfl
  | negSucc place => rfl

/-! ## Rows that pass -/

/-- A match passes a list of cuts when it passes each, and so does a missing one. -/
theorem matchPasses_eq_all {α : Type} (simulated : Bool) (cuts : List (α → Bool))
    (best : Option α) :
    matchPasses simulated cuts best =
      cuts.all fun passes => onMatch simulated passes best := by
  unfold matchPasses passesAll
  rcases best with _ | a
  · cases cuts <;> cases simulated <;> simp [onMatch]
  · cases cuts <;> simp [onMatch]

namespace BoundCut

theorem onEvents_cons (cut : BoundCut) (cuts : List BoundCut) :
    onEvents (cut :: cuts) = match cut with
      | .event passes => passes :: onEvents cuts
      | _ => onEvents cuts := by
  cases cut <;> rfl

theorem onInteractions_cons (cut : BoundCut) (cuts : List BoundCut) (s : Side) :
    onInteractions (cut :: cuts) s = match cut with
      | .interaction t passes =>
        if h : t = s then (h ▸ passes) :: onInteractions cuts s else onInteractions cuts s
      | _ => onInteractions cuts s := by
  rcases cut with ⟨t, _⟩ | _ | _
  · by_cases h : t = s <;> simp [onInteractions, h]
  · rfl
  · rfl

theorem onParticles_cons (cut : BoundCut) (cuts : List BoundCut) (s : Side) :
    onParticles (cut :: cuts) s = match cut with
      | .particle t passes =>
        if h : t = s then (h ▸ passes) :: onParticles cuts s else onParticles cuts s
      | _ => onParticles cuts s := by
  rcases cut with _ | ⟨t, _⟩ | _
  · rfl
  · by_cases h : t = s <;> simp [onParticles, h]
  · rfl

end BoundCut

/-- Whether a row passes a bound cut. -/
def BoundCut.admits (simulated : Bool) (spill : Spill) (row : Row s) : BoundCut → Bool
  | .interaction t passes => onMatch simulated passes (row.on t)
  | .event passes => passes spill
  | .particle _ _ => true

/-- Sorting the cuts by what they are about changes nothing for a row. -/
theorem Row.passes_eq_all (simulated : Bool) (cuts : List BoundCut) (spill : Spill) (row : Row s) :
    (passesAll (BoundCut.onEvents cuts) spill && row.passes simulated cuts) =
      cuts.all (BoundCut.admits simulated spill row) := by
  unfold Row.passes passesAll
  rw [matchPasses_eq_all]
  -- One more cut is put in front of one of the three groups, or of none.
  induction cuts with
  | nil => rfl
  | cons cut cuts ih =>
    rw [List.all_cons, ← ih, BoundCut.onEvents_cons, BoundCut.onInteractions_cons,
      BoundCut.onInteractions_cons]
    rcases cut with ⟨t, passes⟩ | ⟨t, passes⟩ | passes
    · cases s <;> cases t <;>
        simp [BoundCut.admits, Row.on, Side.opposite, onMatch, Bool.and_assoc, Bool.and_left_comm]
    · rfl
    · simp [BoundCut.admits, Bool.and_assoc]

theorem Spill.rows_eq_filter (simulated : Bool) (cuts : List BoundCut) (spill : Spill) :
    spill.rows simulated cuts s =
      ((spill.interactions s).map (Row.ofInteraction simulated spill)).filter fun row =>
        cuts.all (BoundCut.admits simulated spill row) := by
  unfold Spill.rows
  simp only [← Row.passes_eq_all]
  split
  case isTrue passed => simp [passed]
  case isFalse failed => simp [failed]

theorem Row.on_ofInteraction (simulated : Bool) (spill : Spill) (i : Interaction s) (t : Side) :
    (Row.ofInteraction simulated spill i).on t = spill.subject? simulated i t := by
  cases s <;> cases t <;> cases simulated <;> rfl

theorem participants_allow (c : Catalog) (entries : List CutEntry) (simulated : Bool)
    (spill : Spill) (i : Interaction s) :
    (entries.filterMap (c.participant? simulated)).all
        (BoundCut.admits simulated spill (Row.ofInteraction simulated spill i)) =
      c.rowPasses entries simulated spill i := by
  rw [List.all_filterMap]
  unfold Catalog.rowPasses
  congr 1
  funext e
  unfold Catalog.participant? Catalog.cutAllows
  rcases e.object with t | t | _ | _
  · cases s <;> cases t <;> cases simulated <;> rfl
  · cases t <;> cases simulated <;> rfl
  · rfl
  · cases simulated with
    | true => rfl
    | false => cases h : spill.header.beam <;> simp [BoundCut.admits, onBeam, h]

/-! ## Particles that pass -/

/-- Whether a particle passes a bound cut. -/
def BoundCut.qualifies (simulated : Bool) (spill : Spill) (p : Particle s) : BoundCut → Bool
  | .particle t passes => onMatch simulated passes (spill.particleCounterpart? p t)
  | _ => true

theorem Particle.qualifies_eq_all (simulated : Bool) (cuts : List BoundCut) (spill : Spill)
    (p : Particle s) :
    Particle.qualifies simulated cuts spill p =
      cuts.all (BoundCut.qualifies simulated spill p) := by
  unfold Particle.qualifies passesAll
  rw [matchPasses_eq_all]
  induction cuts with
  | nil => rfl
  | cons cut cuts ih =>
    rw [List.all_cons, ← ih, BoundCut.onParticles_cons, BoundCut.onParticles_cons]
    rcases cut with _ | ⟨t, passes⟩ | _
    · rfl
    · have own := spill.particleCounterpart?_self p
      have other := spill.particleCounterpart?_opposite p
      cases s <;> simp only [Side.opposite] at other <;> cases t <;>
        simp [BoundCut.qualifies, Side.opposite, own, other, onMatch, Bool.and_assoc,
          Bool.and_left_comm]
    · rfl

theorem participants_qualify (c : Catalog) (entries : List CutEntry) (simulated : Bool)
    (spill : Spill) :
    Particle.qualifies (s := s) simulated (entries.filterMap (c.participant? simulated)) spill =
      fun p => entries.all (c.particleCutAllows simulated spill p) := by
  funext p
  rw [Particle.qualifies_eq_all, List.all_filterMap]
  congr 1
  funext e
  unfold Catalog.participant? Catalog.particleCutAllows
  rcases e.object with t | t | _ | _
  · cases t <;> cases simulated <;> rfl
  · cases s <;> cases t <;> cases simulated <;> rfl
  · rfl
  · cases simulated <;> rfl

/-! ## Refinement -/

/-- An extraction takes the values that the specification gives a row. -/
theorem extraction_eq_rowValues (c : Catalog) (entries : List CutEntry) (v : VariableEntry)
    (target : Target) (simulated : Bool) (spill : Spill) (i : Interaction s) :
    c.extraction simulated (entries.filterMap (c.participant? simulated)) v target spill
        (Row.ofInteraction simulated spill i) =
      c.rowValues entries v target simulated spill i := by
  unfold Catalog.extraction Catalog.rowValues
  rcases target with t | t | _ | _
  · simp [Extractor.ofInteraction, Row.on_ofInteraction, Catalog.rowValue]
  · cases hs : v.selector with
    | none =>
      cases subject : spill.subject? simulated i t <;>
        simp only [Option.isSome_none, Bool.false_eq_true, if_false, Extractor.ofParticles,
          Row.on_ofInteraction, participants_qualify, subject]
    | some selector => simp [Extractor.ofInteraction, Row.on_ofInteraction, Catalog.rowValue]
  · simp [Extractor.ofEvent, Catalog.rowValue]
  · simp [Extractor.ofNeutrino, Row.on_ofInteraction, Catalog.rowValue,
      funext spill.neutrinoOf?_eq]

/-- The rows that the cuts that take part let pass are those of the specification. -/
theorem rows_eq_map_passing (c : Catalog) (entries : List CutEntry) (simulated : Bool)
    (spill : Spill) :
    spill.rows simulated (entries.filterMap (c.participant? simulated)) s =
      (c.passing entries s simulated spill).map (Row.ofInteraction simulated spill) := by
  have passes : (fun row => (entries.filterMap (c.participant? simulated)).all
      (BoundCut.admits simulated spill row)) ∘ Row.ofInteraction (s := s) simulated spill =
      c.rowPasses entries simulated spill :=
    funext (participants_allow c entries simulated spill)
  rw [Spill.rows_eq_filter, List.filter_map, passes]
  rfl

/-- The evaluation of a request by the cuts that take part takes the values of its rows. -/
theorem evaluation_eq_interpret (c : Catalog) (entries : List CutEntry) (v : VariableEntry)
    (target : Target) (simulated : Bool) (spill : Spill) :
    c.evaluation simulated (entries.filterMap (c.participant? simulated)) v target
        (.interactions s) spill = c.interpret entries v s target simulated spill := by
  simp only [Catalog.evaluation, Extractor.evaluate, rows_eq_map_passing, List.flatMap_map,
    extraction_eq_rowValues]
  rfl

/-- A compiled branch yields what the row by row specification says, on every spill. -/
theorem branch_refines_interpret {c : Catalog} {entries : List CutEntry} {v : VariableEntry}
    {target : Target} {simulated : Bool} {b : Branch}
    (h : c.branch entries v (.interactions s) target simulated = .ok b) (spill : Spill) :
    b.evaluate spill = c.interpret entries v s target simulated spill := by
  obtain ⟨-, rfl⟩ := branch_ok_iff.1 h
  exact evaluation_eq_interpret c entries v target simulated spill

/-- A catalog with one cut for the interactions of both sides, which is also a variable. -/
def containedCatalog : Catalog :=
  (Catalog.empty.declare [.ofCut "contained" (.interactions fun _ => .plain (·.isContained))]).1

/-- Two contained reco interactions, of which the first is matched with a truth interaction that is
not contained. -/
def matchedSpill : Spill where
  reco := [{ id := 0, isContained := true, matchIds := [7] }, { id := 1, isContained := true }]
  truth := [{ id := 7 }]

/-- A catalog with one variable, the energy of a neutrino. -/
def energyCatalog : Catalog :=
  (Catalog.empty.declare [.ofVariable "energy" (.on .neutrino (.plain (·.energy)))]).1

/-- Two neutrinos, and three reco interactions. The truth interaction of the first comes from the
second neutrino, that of the second from none, and the third has no match. -/
def twoNeutrinos : Spill where
  reco := [{ matchIds := [7] }, { matchIds := [8] }, {}]
  truth := [{ id := 7, nuId := 1 }, { id := 8, nuId := -1 }]
  mc := [{ energy := 1 }, { energy := 2 }]

/-- An inverted truth cut keeps the matched row of a simulated spill and rejects the other. A
variable of the neutrino reads it through the match. -/
theorem branch_refines_interpret_matchedSpill :
    (∃ b, containedCatalog.branch [{ name := "!contained", object := .interaction .truth }]
        { name := "contained" } (.interactions .reco) (.interaction .reco) true = .ok b ∧
      b.evaluate matchedSpill = [1] ∧
      b.evaluate matchedSpill =
        containedCatalog.interpret [{ name := "!contained", object := .interaction .truth }]
          { name := "contained" } .reco (.interaction .reco) true matchedSpill) ∧
    ∃ b, energyCatalog.branch [] { name := "energy" } (.interactions .reco) .neutrino true = .ok b ∧
      b.evaluate twoNeutrinos = [2, nan, nan] ∧
      b.evaluate twoNeutrinos =
        energyCatalog.interpret [] { name := "energy" } .reco .neutrino true twoNeutrinos :=
  ⟨⟨_, rfl, rfl, branch_refines_interpret rfl matchedSpill⟩,
    ⟨_, rfl, rfl, branch_refines_interpret rfl twoNeutrinos⟩⟩

end SpillSelection
