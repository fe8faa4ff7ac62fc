import Mathlib.Data.List.FinRange
import Mathlib.Data.List.Nodup
import SpillSelection.Proofs.RowSemantics
/-!
# Mutual matches

The rows of a simulated spill can be driven from either side. When best matches go both ways they
pair interactions of the two sides, and a paired row is the same row seen from either end: the same
cuts read the same objects (`cutAllows_congr`), and so do variables (`rowValues_congr`). Where only
paired interactions pass, both sides yield the same values up to order (`reco_perm_truth`).
-/

namespace SpillSelection

variable {c : Catalog} {entries : List CutEntry} {v : VariableEntry} {target : Target}
  {spill : Spill} {s s' : Side}

/-! ## Pairs -/

/-- The position on a side of the interaction that an interaction is matched best with. -/
def Spill.matchPosition? (spill : Spill) (i : Interaction s) (t : Side) :
    Option (Fin (spill.interactions t).length) :=
  i.matchIds.head?.bind fun id => (spill.interactions t).findFinIdx? (·.id == id)

/-- Best matches go both ways: a reco interaction is matched with a truth interaction exactly when
that very truth interaction is matched with it. Interactions are told apart by their positions, as
several may have one id. -/
def Spill.IsMutual (spill : Spill) : Prop :=
  ∀ (j : Fin (spill.interactions .reco).length) (k : Fin (spill.interactions .truth).length),
    spill.matchPosition? ((spill.interactions .reco).get j) .truth = some k ↔
      spill.matchPosition? ((spill.interactions .truth).get k) .reco = some j

instance : Decidable spill.IsMutual :=
  inferInstanceAs (Decidable (∀ (_ : Fin _) (_ : Fin _), _ = _ ↔ _ = _))

/-- Every interaction of both sides is matched. -/
def Spill.IsMatched (spill : Spill) : Prop :=
  ∀ s, ∀ i ∈ spill.interactions s, (spill.matched? i).isSome

theorem matched?_eq (spill : Spill) (i : Interaction s) :
    spill.matched? i =
      (spill.matchPosition? i s.opposite).map (spill.interactions s.opposite).get := by
  unfold Spill.matched? Spill.matchPosition? Spill.interaction?
  cases i.matchIds.head? with
  | none => rfl
  | some id => exact List.find?_eq_map_findFinIdx?_getElem

/-! ## Rows by their counterparts -/

/-- What a cut says of a row depends on its counterparts only. -/
theorem cutAllows_congr {simulated : Bool} {i : Interaction s} {j : Interaction s'}
    (same : ∀ t, spill.counterpart? i t = spill.counterpart? j t) (e : CutEntry) :
    c.cutAllows simulated spill i e = c.cutAllows simulated spill j e := by
  unfold Catalog.cutAllows
  rcases e.object with t | t | _ | _
  · simp only [same t]
  · rfl
  · rfl
  · rfl

theorem rowPasses_congr {simulated : Bool} {i : Interaction s} {j : Interaction s'}
    (same : ∀ t, spill.counterpart? i t = spill.counterpart? j t) :
    c.rowPasses entries simulated spill i = c.rowPasses entries simulated spill j :=
  congrArg entries.all (funext (cutAllows_congr same))

theorem subject?_of_simulated (spill : Spill) (i : Interaction s) (t : Side) :
    spill.subject? true i t = spill.counterpart? i t := by
  simp [Spill.subject?]

/-- On simulation the values of a row depend on its counterparts only. -/
theorem rowValues_congr {i : Interaction s} {j : Interaction s'}
    (same : ∀ t, spill.counterpart? i t = spill.counterpart? j t) :
    c.rowValues entries v target true spill i = c.rowValues entries v target true spill j := by
  have value : c.rowValue v target true spill i = c.rowValue v target true spill j := by
    unfold Catalog.rowValue
    simp only [subject?_of_simulated, same]
  unfold Catalog.rowValues
  split
  case h_1 => simp only [subject?_of_simulated, same]
  case h_2 => rw [value]

/-- Two interactions that are matched with each other have the same counterparts. -/
theorem counterpart?_eq_of_matched {r : Interaction .reco} {t : Interaction .truth}
    (forth : spill.matched? r = some t) (back : spill.matched? t = some r) (side : Side) :
    spill.counterpart? r side = spill.counterpart? t side := by
  cases side with
  | truth => exact forth
  | reco => exact back.symm

/-! ## Rows that pass are matched -/

/-- Either every interaction is matched, or there are cuts on the interactions of both sides, which
only matched rows pass on simulation. -/
def OnlyMatchedPass (entries : List CutEntry) (spill : Spill) : Prop :=
  spill.IsMatched ∨ ∀ s, ∃ e ∈ entries, e.object = .interaction s

theorem matched?_of_rowPasses (only : OnlyMatchedPass entries spill) {i : Interaction s}
    (hi : i ∈ spill.interactions s) (passes : c.rowPasses entries true spill i = true) :
    (spill.matched? i).isSome := by
  rcases only with matched | cuts
  · exact matched s i hi
  · obtain ⟨e, he, object⟩ := cuts s.opposite
    have allowed : c.cutAllows true spill i e = true := List.all_eq_true.1 passes e he
    -- Without a match the cut on the other side would have rejected the row.
    rw [← spill.counterpart?_opposite, Option.isSome_iff_ne_none]
    intro none
    simp [Catalog.cutAllows, object, verdict, none, onMatch] at allowed

/-! ## Pairing the rows -/

/-- The positions of the rows of a side that pass. -/
def Catalog.passingPositions (c : Catalog) (entries : List CutEntry) (s : Side) (spill : Spill) :
    List (Fin (spill.interactions s).length) :=
  (List.finRange _).filter fun j =>
    c.rowPasses entries true spill ((spill.interactions s).get j)

theorem interpret_eq_flatMap_positions :
    c.interpret entries v s target true spill =
      (c.passingPositions entries s spill).flatMap fun j =>
        c.rowValues entries v target true spill ((spill.interactions s).get j) := by
  have positions : c.passing entries s true spill =
      (c.passingPositions entries s spill).map (spill.interactions s).get := by
    unfold Catalog.passing Catalog.passingPositions
    conv_lhs => rw [← List.map_get_finRange (spill.interactions s), List.filter_map]
    rfl
  unfold Catalog.interpret
  rw [positions, List.flatMap_map]

theorem nodup_passingPositions : (c.passingPositions entries s spill).Nodup :=
  (List.nodup_finRange _).filter _

theorem mem_passingPositions_iff {j : Fin (spill.interactions s).length} :
    j ∈ c.passingPositions entries s spill ↔
      c.rowPasses entries true spill ((spill.interactions s).get j) = true := by
  simp [Catalog.passingPositions]

theorem exists_matchPosition (only : OnlyMatchedPass entries spill)
    {j : Fin (spill.interactions s).length} (hj : j ∈ c.passingPositions entries s spill)
    (t : Side) (other : s.opposite = t) :
    ∃ k, spill.matchPosition? ((spill.interactions s).get j) t = some k := by
  subst other
  have matched := matched?_of_rowPasses only (List.get_mem _ j) (mem_passingPositions_iff.1 hj)
  rw [matched?_eq, Option.isSome_map] at matched
  exact Option.isSome_iff_exists.1 matched

/-- Items that each have a partner can be replaced by their partners. -/
theorem flatMap_eq_flatMap_filterMap {α β γ : Type} {xs : List α} {partner? : α → Option β}
    {f : α → List γ} {g : β → List γ}
    (same : ∀ a ∈ xs, ∃ b, partner? a = some b ∧ f a = g b) :
    xs.flatMap f = (xs.filterMap partner?).flatMap g := by
  induction xs with
  | nil => rfl
  | cons a xs ih =>
    obtain ⟨b, hb, hf⟩ := same a (by simp)
    have rest := ih fun a' ha' => same a' (by simp [ha'])
    rw [List.flatMap_cons, List.filterMap_cons_some hb, List.flatMap_cons, hf, rest]

/-- Lists whose items are paired one to one, and give the same where they are paired, give the same
together up to order. -/
theorem flatMap_perm_of_pairing {α β γ : Type} {xs : List α} {ys : List β}
    (partner? : α → Option β) {f : α → List γ} {g : β → List γ} (xsNodup : xs.Nodup)
    (ysNodup : ys.Nodup) (injective : ∀ a a' b, partner? a = some b → partner? a' = some b → a = a')
    (same : ∀ a ∈ xs, ∃ b, partner? a = some b ∧ f a = g b)
    (mem_iff : ∀ b, b ∈ ys ↔ ∃ a ∈ xs, partner? a = some b) :
    (xs.flatMap f).Perm (ys.flatMap g) := by
  have partners : (xs.filterMap partner?).Perm ys := by
    have nodup : (xs.filterMap partner?).Nodup := xsNodup.filterMap injective
    rw [List.perm_ext_iff_of_nodup nodup ysNodup]
    intro b
    rw [List.mem_filterMap, mem_iff]
  rw [flatMap_eq_flatMap_filterMap same]
  exact partners.flatMap_right g

theorem counterpart?_eq_of_mutual (bothWays : spill.IsMutual)
    {j : Fin (spill.interactions .reco).length} {k : Fin (spill.interactions .truth).length}
    (h : spill.matchPosition? ((spill.interactions .reco).get j) .truth = some k) (side : Side) :
    spill.counterpart? ((spill.interactions .reco).get j) side =
      spill.counterpart? ((spill.interactions .truth).get k) side := by
  refine counterpart?_eq_of_matched ?_ ?_ side
  · rw [matched?_eq]
    exact congrArg (Option.map _) h
  · rw [matched?_eq]
    exact congrArg (Option.map _) ((bothWays j k).1 h)

/-- Both sides give the same values up to order. -/
theorem interpret_perm (bothWays : spill.IsMutual) (only : OnlyMatchedPass entries spill) :
    (c.interpret entries v .reco target true spill).Perm
      (c.interpret entries v .truth target true spill) := by
  rw [interpret_eq_flatMap_positions, interpret_eq_flatMap_positions]
  refine flatMap_perm_of_pairing
    (fun j => spill.matchPosition? ((spill.interactions .reco).get j) .truth)
    nodup_passingPositions nodup_passingPositions (fun j j' k hj hj' => ?_) (fun j hj => ?_)
    fun k => ⟨fun hk => ?_, ?_⟩
  -- A truth interaction leads back to one position only.
  · have back := (bothWays j k).1 hj
    exact Option.some.inj (back.symm.trans ((bothWays j' k).1 hj'))
  -- A row that passes has a partner, with the same values.
  · obtain ⟨k, hk⟩ := exists_matchPosition only hj .truth rfl
    exact ⟨k, hk, rowValues_congr (counterpart?_eq_of_mutual bothWays hk)⟩
  -- Partners pass together.
  · obtain ⟨j, hj⟩ := exists_matchPosition only hk .reco rfl
    have forth := (bothWays j k).2 hj
    refine ⟨j, ?_, forth⟩
    rw [mem_passingPositions_iff] at hk ⊢
    rwa [rowPasses_congr (counterpart?_eq_of_mutual bothWays forth)]
  · rintro ⟨j, hj, forth⟩
    rw [mem_passingPositions_iff] at hj ⊢
    rwa [← rowPasses_congr (counterpart?_eq_of_mutual bothWays forth)]

/-- On a simulated spill whose best matches go both ways, the rows of the reco side give the values
that those of the truth side give, up to order, when every interaction is matched or there are cuts
on the interactions of both sides. -/
theorem reco_perm_truth {reco truth : Branch}
    (hreco : c.branch entries v (.interactions .reco) target true = .ok reco)
    (htruth : c.branch entries v (.interactions .truth) target true = .ok truth)
    (bothWays : spill.IsMutual)
    (only : spill.IsMatched ∨ (∃ e ∈ entries, e.object = .interaction .truth) ∧
      ∃ e ∈ entries, e.object = .interaction .reco) :
    (reco.evaluate spill).Perm (truth.evaluate spill) := by
  obtain ⟨-, rfl⟩ := branch_ok_iff.1 hreco
  obtain ⟨-, rfl⟩ := branch_ok_iff.1 htruth
  simp only [evaluation_eq_interpret]
  refine interpret_perm bothWays (only.imp_right fun ⟨onTruth, onReco⟩ side => ?_)
  cases side with
  | truth => exact onTruth
  | reco => exact onReco

/-- A catalog with two cuts for the interactions of both sides, which are also variables. -/
def positionCatalog : Catalog :=
  (Catalog.empty.declare [.ofCut "contained" (.interactions fun _ => .plain (·.isContained)),
    .ofCut "fiducial" (.interactions fun _ => .plain (·.isFiducial))]).1

/-- The pairs of fiducial interactions. -/
def fiducialCuts : List CutEntry :=
  [{ name := "fiducial", object := .interaction .truth },
    { name := "fiducial", object := .interaction .reco }]

/-- Whether the reco interactions of fiducial pairs are contained, with the rows of a side. -/
def fiducialPairs (s : Side) : Except SelectionError Branch :=
  positionCatalog.branch fiducialCuts { name := "contained" } (.interactions s)
    (.interaction .reco) true

/-- Two pairs in crossed order, and a reco interaction without a match. -/
def crossedSpill : Spill where
  reco := [{ id := 0, isFiducial := true, matchIds := [8] },
    { id := 1, isFiducial := true, isContained := true, matchIds := [7] },
    { id := 2, isFiducial := true, isContained := true }]
  truth := [{ id := 7, isFiducial := true, matchIds := [1] },
    { id := 8, isFiducial := true, matchIds := [0, 1] }]

/-- The two pairs come in either order, and the interaction without a match drops out. -/
theorem reco_perm_truth_crossedSpill :
    ∃ reco truth, fiducialPairs .reco = .ok reco ∧ fiducialPairs .truth = .ok truth ∧
      crossedSpill.IsMutual ∧ reco.evaluate crossedSpill = [0, 1] ∧
      truth.evaluate crossedSpill = [1, 0] ∧
      (reco.evaluate crossedSpill).Perm (truth.evaluate crossedSpill) := by
  have bothWays : crossedSpill.IsMutual := by decide
  have onTruth : ∃ e ∈ fiducialCuts, e.object = .interaction .truth := ⟨_, .head _, rfl⟩
  have onReco : ∃ e ∈ fiducialCuts, e.object = .interaction .reco := ⟨_, .tail _ (.head _), rfl⟩
  refine ⟨_, _, rfl, rfl, bothWays, rfl, rfl, ?_⟩
  exact reco_perm_truth (show fiducialPairs .reco = .ok _ from rfl)
    (show fiducialPairs .truth = .ok _ from rfl) bothWays (.inr ⟨onTruth, onReco⟩)

end SpillSelection
