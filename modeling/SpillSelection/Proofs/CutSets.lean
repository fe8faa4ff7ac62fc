import Mathlib.Data.List.Flatten
import SpillSelection.Proofs.RowSemantics
/-!
# Cut lists as sets

A cut list asks every cut of every row, so it matters which cuts stand in it, but not where or how
often. A longer list can only lose rows and particles: `evaluation_sublist` compares any two lists
of which one has all members of the other. `cuts_act_as_set` collects what follows for branches.
-/

namespace SpillSelection

variable {c : Catalog} {A B : List CutEntry} {v : VariableEntry} {mode : Mode} {target : Target}
  {simulated : Bool} {s : Side}

/-! ## Requests with fewer cuts -/

/-- A request stays well formed when cuts are left out. -/
theorem Catalog.WellFormed.of_subset (w : c.WellFormed B v mode target) (sub : A ⊆ B) :
    c.WellFormed A v mode target where
  named := w.named
  selectable := w.selectable
  offered e he := w.offered e (sub he)
  eventCuts h e he := w.eventCuts h e (sub he)
  eventTarget := w.eventTarget
  plain := w.plain
  lifted := w.lifted

/-! ## More cuts, fewer values -/

theorem all_of_subset {α : Type} {p : α → Bool} {xs ys : List α} (sub : xs ⊆ ys)
    (h : ys.all p = true) : xs.all p = true :=
  List.all_eq_true.2 fun x hx => List.all_eq_true.1 h x (sub hx)

theorem passing_sublist (sub : A ⊆ B) (spill : Spill) :
    (c.passing B s simulated spill).Sublist (c.passing A s simulated spill) :=
  List.monotone_filter_right _ fun _ passes => all_of_subset sub passes

theorem rowValues_sublist (sub : A ⊆ B) (spill : Spill) (i : Interaction s) :
    (c.rowValues B v target simulated spill i).Sublist
      (c.rowValues A v target simulated spill i) := by
  unfold Catalog.rowValues
  split
  case h_1 t _ =>
    -- Only the particles of a row are chosen by cuts once the row itself has passed.
    cases spill.subject? simulated i t with
    | none => exact List.Sublist.refl _
    | some x =>
      exact (List.monotone_filter_right _ fun _ passes => all_of_subset sub passes).map _
  case h_2 => exact List.Sublist.refl _

theorem interpret_sublist (sub : A ⊆ B) (spill : Spill) :
    (c.interpret B v s target simulated spill).Sublist
      (c.interpret A v s target simulated spill) := by
  unfold Catalog.interpret
  refine List.Sublist.trans (List.Sublist.flatMap_right _ fun i _ => ?_)
    ((passing_sublist sub spill).flatMap _)
  exact rowValues_sublist sub spill i

theorem onEvents_subset {cuts cuts' : List BoundCut} (sub : cuts ⊆ cuts') :
    BoundCut.onEvents cuts ⊆ BoundCut.onEvents cuts' :=
  List.filterMap_subset _ sub

theorem ofPassing_sublist {cuts cuts' : List (Spill → Bool)} (sub : cuts ⊆ cuts')
    (f : Spill → Float) (spill : Spill) :
    (ofPassing cuts' f spill).Sublist (ofPassing cuts f spill) := by
  unfold ofPassing
  by_cases passes : passesAll cuts' spill = true
  · have fewer : passesAll cuts spill = true := all_of_subset sub passes
    rw [if_pos passes, if_pos fewer]
  · rw [if_neg passes]
    exact List.nil_sublist _

/-- The values by a list of cuts are among those by any part of it, in the same order. -/
theorem evaluation_sublist (sub : A ⊆ B) (spill : Spill) :
    (c.evaluation simulated (B.filterMap (c.participant? simulated)) v target mode spill).Sublist
      (c.evaluation simulated (A.filterMap (c.participant? simulated)) v target mode spill) := by
  rcases mode with s | _
  · rw [evaluation_eq_interpret, evaluation_eq_interpret]
    exact interpret_sublist sub spill
  · exact ofPassing_sublist (onEvents_subset (List.filterMap_subset _ sub)) _ spill

/-! ## Branches -/

/-- Cut lists with the same members compile alike and yield the same values, whatever their order
and however often a cut is repeated. A list with further cuts, wherever they are put in, yields some
of the values in the same order. -/
theorem cuts_act_as_set (c : Catalog) (v : VariableEntry) (mode : Mode) (target : Target)
    (simulated : Bool) (A B : List CutEntry) :
    ((∀ e, e ∈ B ↔ e ∈ A) →
      ((∃ b, c.branch B v mode target simulated = .ok b) ↔
        ∃ a, c.branch A v mode target simulated = .ok a) ∧
      ∀ a b, c.branch A v mode target simulated = .ok a →
        c.branch B v mode target simulated = .ok b →
        ∀ spill, b.evaluate spill = a.evaluate spill) ∧
    (A ⊆ B → ∀ a b, c.branch A v mode target simulated = .ok a →
      c.branch B v mode target simulated = .ok b →
      ∀ spill, (b.evaluate spill).Sublist (a.evaluate spill)) := by
  have fewer {A B : List CutEntry} {a b : Branch} (sub : A ⊆ B)
      (ha : c.branch A v mode target simulated = .ok a)
      (hb : c.branch B v mode target simulated = .ok b) (spill : Spill) :
      (b.evaluate spill).Sublist (a.evaluate spill) := by
    obtain ⟨-, rfl⟩ := branch_ok_iff.1 ha
    obtain ⟨-, rfl⟩ := branch_ok_iff.1 hb
    exact evaluation_sublist sub spill
  refine ⟨fun same => ⟨?_, fun a b ha hb spill => ?_⟩, fun sub a b => fewer sub⟩
  · have forth : A ⊆ B := fun e => (same e).2
    have back : B ⊆ A := fun e => (same e).1
    simp only [branch_ok_iff, exists_and_left, exists_eq', and_true]
    exact ⟨fun w => w.of_subset forth, fun w => w.of_subset back⟩
  · exact (fewer (fun e => (same e).2) ha hb spill).antisymm
      (fewer (fun e => (same e).1) hb ha spill)

/-- The contained reco interactions of a simulated sample. -/
def containedCut : CutEntry := { name := "contained", object := .interaction .reco }

/-- The interactions that are matched with a truth interaction that is not contained. -/
def uncontainedTruthCut : CutEntry := { name := "!contained", object := .interaction .truth }

/-- Whether the reco interactions that pass some cuts are contained. -/
def containedBranch (cuts : List CutEntry) : Except SelectionError Branch :=
  containedCatalog.branch cuts { name := "contained" } (.interactions .reco) (.interaction .reco)
    true

/-- Of two contained reco interactions a cut on truth keeps the matched one, wherever and however
often it is asked. -/
theorem cuts_act_as_set_matchedSpill :
    ∃ a b b', containedBranch [containedCut] = .ok a ∧
      containedBranch [uncontainedTruthCut, containedCut] = .ok b ∧
      containedBranch [containedCut, uncontainedTruthCut, containedCut] = .ok b' ∧
      a.evaluate matchedSpill = [1, 1] ∧ b.evaluate matchedSpill = [1] ∧
      (b.evaluate matchedSpill).Sublist (a.evaluate matchedSpill) ∧
      b'.evaluate matchedSpill = b.evaluate matchedSpill := by
  have law := cuts_act_as_set containedCatalog { name := "contained" } (.interactions .reco)
    (.interaction .reco) true
  have more : [containedCut] ⊆ [uncontainedTruthCut, containedCut] := by simp
  have same (e : CutEntry) : e ∈ [containedCut, uncontainedTruthCut, containedCut] ↔
      e ∈ [uncontainedTruthCut, containedCut] := by simp [or_comm]
  refine ⟨_, _, _, rfl, rfl, rfl, rfl, rfl, ?_, ?_⟩
  · exact (law _ _).2 more _ _ rfl rfl matchedSpill
  · exact ((law _ _).1 same).2 _ _ rfl rfl matchedSpill

end SpillSelection
