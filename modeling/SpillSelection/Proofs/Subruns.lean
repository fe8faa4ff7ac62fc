import SpillSelection.Records
/-!
# First spills of subruns

The reader marks spills one after another, and remembers the subruns that it met. Its marks have a
meaning without that memory: a spill is marked exactly if no earlier one is of its subrun
(`read_eq_delivered`). So of the spills of one subrun the first is marked and no other
(`filter_delivered`).
-/

namespace SpillSelection

/-- No earlier spill is of the subrun of a spill. -/
def Spill.opensSubrun (earlier : List Spill) (spill : Spill) : Bool :=
  earlier.all fun e => e.subrun != spill.subrun

/-- A spill with a mark instead of its own. -/
def Spill.marked (first : Bool) (spill : Spill) : Spill :=
  { spill with header := { spill.header with firstInSubrun := first } }

@[simp] theorem Spill.subrun_marked (first : Bool) (spill : Spill) :
    (spill.marked first).subrun = spill.subrun := rfl

/-- The spills among some records. -/
def spillsOf (items : List RecordItem) : List Spill := items.filterMap Except.toOption

/-- Some spills that come after others, each marked if no spill before it is of its subrun. -/
def deliveredAfter (earlier spills : List Spill) : List Spill :=
  spills.mapIdx fun k spill => spill.marked (spill.opensSubrun (earlier ++ spills.take k))

/-- Some spills, each marked if no spill before it is of its subrun. -/
def delivered (spills : List Spill) : List Spill := deliveredAfter [] spills

/-! ## The reader's marks -/

namespace SubrunMarker

variable {m : SubrunMarker} {earlier : List Spill}

/-- The marker met the subruns of some spills, and no others. -/
def Met (m : SubrunMarker) (earlier : List Spill) : Prop :=
  ∀ u, u ∈ m.seen ↔ u ∈ earlier.map Spill.subrun

theorem not_contains_eq_opensSubrun (met : m.Met earlier) (spill : Spill) :
    (!m.seen.contains spill.subrun) = spill.opensSubrun earlier := by
  have mem : spill.subrun ∈ m.seen ↔ ¬∀ e ∈ earlier, e.subrun ≠ spill.subrun := by
    rw [met, List.mem_map]
    simp
  rw [Bool.eq_iff_iff]
  simp [Spill.opensSubrun, mem]

theorem mark_spill (met : m.Met earlier) (spill : Spill) :
    (m.mark spill).2 = spill.marked (spill.opensSubrun earlier) := by
  rw [← not_contains_eq_opensSubrun met]
  rfl

theorem Met.mark (met : m.Met earlier) (spill : Spill) :
    (m.mark spill).1.Met (earlier ++ [spill]) := by
  intro u
  rw [List.map_append, List.mem_append, ← met u]
  unfold SubrunMarker.mark
  by_cases known : spill.subrun ∈ m.seen
  · -- A subrun that was met before is not remembered again.
    have kept : u ∈ m.seen ↔ u ∈ m.seen ∨ u = spill.subrun :=
      ⟨.inl, fun h => h.elim id fun same => same ▸ known⟩
    simpa [known] using kept
  · simp [known, or_comm]

/-- The marker yields every spill with a mark that says whether an earlier spill, before the records
or among them, is of its subrun. -/
theorem scan_eq_mapIdx (met : m.Met earlier) (items : List RecordItem) :
    (m.scan items).map (·.1) = items.mapIdx fun k item =>
      item.map fun spill =>
        spill.marked (spill.opensSubrun (earlier ++ spillsOf (items.take k))) := by
  induction items generalizing m earlier with
  | nil => rfl
  | cons item items ih =>
    rw [List.mapIdx_cons]
    cases item with
    | error e =>
      rw [scan, List.map_cons, ih met]
      rfl
    | ok spill =>
      have next := ih (met.mark spill)
      simp only [List.append_assoc, List.singleton_append] at next
      rw [scan, List.map_cons, next, mark_spill met]
      simp [spillsOf, Except.toOption, Except.map]

end SubrunMarker

theorem spillsOf_map_ok (spills : List Spill) : spillsOf (spills.map .ok) = spills := by
  simp [spillsOf, List.filterMap_map, Function.comp_def, Except.toOption]

/-- A source without errors yields the spills that are written in it with the marks of `delivered`,
whatever marks they are written with. -/
theorem read_eq_delivered {source : List UInt8} {written : List Spill}
    (h : Records.unmarked source = written.map .ok) :
    Records.read source = (delivered written).map .ok := by
  have nothing : SubrunMarker.Met {} [] := fun u => by simp
  have marks := SubrunMarker.scan_eq_mapIdx nothing (written.map .ok)
  unfold Records.read Records.delivered
  rw [h, marks, delivered, deliveredAfter]
  refine List.ext_getElem (by simp) fun k _ _ => ?_
  simp only [List.getElem_mapIdx, List.getElem_map, ← List.map_take, spillsOf_map_ok]
  rfl

/-! ## The spills of a subrun -/

theorem deliveredAfter_cons (earlier : List Spill) (spill : Spill) (spills : List Spill) :
    deliveredAfter earlier (spill :: spills) =
      spill.marked (spill.opensSubrun earlier) :: deliveredAfter (earlier ++ [spill]) spills := by
  simp [deliveredAfter]

theorem length_delivered (spills : List Spill) : (delivered spills).length = spills.length := by
  simp [delivered, deliveredAfter]

/-- Once a subrun was met, no spill of it is marked any more. -/
theorem filter_deliveredAfter_of_met {earlier : List Spill} {subrun : Subrun}
    (met : subrun ∈ earlier.map Spill.subrun) (spills : List Spill) :
    (deliveredAfter earlier spills).filter (·.subrun == subrun) =
      (spills.filter (·.subrun == subrun)).map (Spill.marked false) := by
  induction spills generalizing earlier with
  | nil => rfl
  | cons spill spills ih =>
    have later : subrun ∈ (earlier ++ [spill]).map Spill.subrun := by
      rw [List.map_append]
      exact List.mem_append_left _ met
    rw [deliveredAfter_cons, List.filter_cons, List.filter_cons, ih later, Spill.subrun_marked]
    by_cases same : spill.subrun = subrun
    · have known : spill.opensSubrun earlier = false := by
        obtain ⟨e, he, rfl⟩ := List.mem_map.1 met
        exact List.all_eq_false.2 ⟨e, he, by simp [same]⟩
      simp [same, known]
    · simp [same]

theorem filter_deliveredAfter {earlier : List Spill} {subrun : Subrun}
    (new : subrun ∉ earlier.map Spill.subrun) {spills : List Spill} {first : Spill}
    {rest : List Spill} (h : spills.filter (·.subrun == subrun) = first :: rest) :
    (deliveredAfter earlier spills).filter (·.subrun == subrun) =
      first.marked true :: rest.map (Spill.marked false) := by
  induction spills generalizing earlier with
  | nil => cases h
  | cons spill spills ih =>
    rw [deliveredAfter_cons, List.filter_cons, Spill.subrun_marked]
    rw [List.filter_cons] at h
    by_cases same : spill.subrun = subrun
    · have opens : spill.opensSubrun earlier = true := by
        refine List.all_eq_true.2 fun e he => ?_
        have other : e.subrun ≠ subrun := fun met => new (met ▸ List.mem_map_of_mem he)
        simpa [same] using other
      have met : subrun ∈ (earlier ++ [spill]).map Spill.subrun := by simp [same]
      rw [filter_deliveredAfter_of_met met]
      simp only [same, BEq.rfl, if_true, List.cons.injEq] at h ⊢
      obtain ⟨rfl, rfl⟩ := h
      exact ⟨by rw [opens], rfl⟩
    · have still : subrun ∉ (earlier ++ [spill]).map Spill.subrun := by
        rw [List.map_append, List.mem_append, not_or]
        exact ⟨new, by simpa using Ne.symm same⟩
      have skipped : (spill.subrun == subrun) = false := by simpa using same
      rw [skipped, if_neg Bool.false_ne_true] at h ⊢
      exact ih still h

/-- Of the spills of a subrun the first is marked and the others are not. -/
theorem filter_delivered {subrun : Subrun} {spills : List Spill} {first : Spill}
    {rest : List Spill} (h : spills.filter (·.subrun == subrun) = first :: rest) :
    (delivered spills).filter (·.subrun == subrun) =
      first.marked true :: rest.map (Spill.marked false) :=
  filter_deliveredAfter (by simp) h

end SpillSelection
