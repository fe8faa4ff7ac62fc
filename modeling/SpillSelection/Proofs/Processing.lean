import SpillSelection.Proofs.Alignment
/-!
# Processing a sample

The records of a sample go through the tables of all its trees together. What comes out is for each
tree what it would fill alone: `process_ok_iff` says which tables some records fill, and
`trees_fill_alone` compares that with the trees taken one by one. The same tables come from walking
the trees with one running slot, which always meets a table (`foldlM_appendBySlot`).
-/

namespace SpillSelection

/-- A fold of steps that all succeed ends in the state for all items. -/
theorem foldlM_eq_pure {m : Type → Type} [Monad m] [LawfulMonad m] {α σ : Type} {f : σ → α → m σ}
    (state : List α → σ) (step : ∀ earlier x, f (state earlier) x = pure (state (earlier ++ [x])))
    (earlier xs : List α) : xs.foldlM f (state earlier) = pure (state (earlier ++ xs)) := by
  induction xs generalizing earlier with
  | nil => rw [List.foldlM_nil, List.append_nil]
  | cons x xs ih =>
    rw [List.foldlM_cons, step, pure_bind, ih, List.append_assoc, List.singleton_append]

/-! ## Filled tables -/

/-- The table that some spills fill. -/
def TableSpec.filled (t : TableSpec) (spills : List Spill) : Table where
  name := t.name
  columns := t.columns
  rows := (spills.flatMap fun spill =>
    (replicate (t.branches.map fun b => b.evaluate spill)).map
      (TableRow.ofValues spill.header)).toArray
  spills := spills.length

/-- The exposure table of a tree. -/
def CompiledTree.exposureTable (t : CompiledTree) : TableSpec := ⟨exposureName t.name, t.exposure⟩

@[simp] theorem CompiledTree.branches_exposureTable (t : CompiledTree) :
    t.exposureTable.branches = t.exposure := rfl

/-- The tables that some spills fill for a tree: its main table and, if it counts exposure, its
exposure table. -/
def CompiledTree.filled (t : CompiledTree) (spills : List Spill) : List Table :=
  t.mainTable.filled spills ::
    if t.exposure.isEmpty then [] else [t.exposureTable.filled spills]

theorem TableSpec.filled_nil (t : TableSpec) : t.filled [] = t.empty := rfl

theorem TableSpec.append_filled (t : TableSpec) (spills : List Spill) (spill : Spill) :
    t.append spill (t.filled spills) = t.filled (spills ++ [spill]) := by
  simp [append, Table.append, filled]

theorem CompiledTree.map_filled_tables (t : CompiledTree) (spills : List Spill) :
    t.tables.map (·.filled spills) = t.filled spills := by
  unfold tables exposureTable? filled
  cases t.exposure.isEmpty
  · rfl
  · rfl

namespace CompiledSample

theorem map_filled_tables (s : CompiledSample) (spills : List Spill) :
    s.tables.map (·.filled spills) = s.trees.flatMap (·.filled spills) := by
  rw [tables, List.map_flatMap]
  exact List.flatMap_congr fun t _ => t.map_filled_tables spills

/-! ## All trees together -/

/-- One spill more for every table. -/
theorem step_filled (s : CompiledSample) (earlier : List Spill) (spill : Spill) :
    s.step (s.tables.map (·.filled earlier)) (.ok spill) =
      .ok (s.tables.map (·.filled (earlier ++ [spill]))) := by
  have tables : List.zipWith (TableSpec.append spill) s.tables (s.tables.map (·.filled earlier)) =
      s.tables.map (·.filled (earlier ++ [spill])) := by
    rw [List.zipWith_map_right, List.zipWith_self]
    exact List.map_congr_left fun t _ => t.append_filled earlier spill
  exact congrArg Except.ok tables

theorem foldlM_step_filled (s : CompiledSample) (earlier spills : List Spill) :
    (spills.map Except.ok).foldlM s.step (s.tables.map (·.filled earlier)) =
      .ok (s.tables.map (·.filled (earlier ++ spills))) := by
  rw [List.foldlM_map]
  exact foldlM_eq_pure (f := fun tables spill => s.step tables (.ok spill))
    (fun earlier => s.tables.map (·.filled earlier)) s.step_filled earlier spills

theorem process_spills (s : CompiledSample) (spills : List Spill) :
    s.process (spills.map .ok) = .ok (s.trees.flatMap (·.filled spills)) := by
  rw [← map_filled_tables]
  exact s.foldlM_step_filled [] spills

/-- The first error ends the processing, whatever comes after it. -/
theorem process_error (s : CompiledSample) (spills : List Spill) (e : RecordError)
    (rest : List RecordItem) : s.process (spills.map .ok ++ .error e :: rest) = .error e := by
  have before := s.foldlM_step_filled [] spills
  unfold process
  rw [List.foldlM_append]
  simp only [TableSpec.filled_nil] at before
  rw [before]
  rfl

end CompiledSample

/-- Records are spills throughout, or spills up to a first error. -/
theorem spills_or_error (items : List RecordItem) :
    (∃ spills : List Spill, items = spills.map .ok) ∨
      ∃ (spills : List Spill) (e : RecordError) (rest : List RecordItem),
        items = spills.map .ok ++ .error e :: rest := by
  induction items with
  | nil => exact .inl ⟨[], rfl⟩
  | cons item items ih =>
    cases item with
    | error e => exact .inr ⟨[], e, items, rfl⟩
    | ok spill =>
      rcases ih with ⟨spills, rfl⟩ | ⟨spills, e, rest, rfl⟩
      · exact .inl ⟨spill :: spills, rfl⟩
      · exact .inr ⟨spill :: spills, e, rest, rfl⟩

theorem process_ok_iff {s : CompiledSample} {items : List RecordItem} {tables : List Table} :
    s.process items = .ok tables ↔
      ∃ spills : List Spill, items = spills.map .ok ∧
        s.trees.flatMap (·.filled spills) = tables := by
  constructor
  · intro h
    rcases spills_or_error items with ⟨spills, rfl⟩ | ⟨spills, e, rest, rfl⟩
    · rw [s.process_spills] at h
      cases h
      exact ⟨spills, rfl, rfl⟩
    · rw [s.process_error] at h
      cases h
  · rintro ⟨spills, rfl, rfl⟩
    exact s.process_spills spills

/-! ## Tree after tree -/

/-- Appends the values of some branches to the table in a slot, if there is one. -/
def appendAt (spill : Spill) (branches : List Branch) (slot : Nat) (tables : List Table) :
    Option (List Table) :=
  tables[slot]?.map fun table =>
    tables.set slot (table.append spill.header (branches.map fun b => b.evaluate spill))

/-- Appends a spill to the tables of a tree, of which the first is in a slot. A tree with exposure
branches takes the next slot too. The slot after them comes along. -/
def CompiledTree.appendFrom (spill : Spill) (state : Nat × List Table) (t : CompiledTree) :
    Option (Nat × List Table) := do
  let tables ← appendAt spill t.branches state.1 state.2
  if t.exposure.isEmpty then return (state.1 + 1, tables)
  else return (state.1 + 2, ← appendAt spill t.exposure (state.1 + 1) tables)

/-- Appends a spill to the tables of a sample, tree after tree with one running slot. There is no
result when a slot holds no table. -/
def CompiledSample.appendBySlot (s : CompiledSample) (tables : List Table) (spill : Spill) :
    Option (List Table) :=
  (s.trees.foldlM (CompiledTree.appendFrom spill) (0, tables)).map (·.2)

theorem appendAt_filled (t : TableSpec) (earlier : List Spill) (spill : Spill)
    (before after : List Table) :
    appendAt spill t.branches before.length (before ++ t.filled earlier :: after) =
      some (before ++ t.filled (earlier ++ [spill]) :: after) := by
  have found : (before ++ t.filled earlier :: after)[before.length]? = some (t.filled earlier) := by
    rw [List.getElem?_append_right (Nat.le_refl _), Nat.sub_self]
    rfl
  have replaced (table : Table) : (before ++ t.filled earlier :: after).set before.length table =
      before ++ table :: after := by
    rw [List.set_append_right _ _ (Nat.le_refl _), Nat.sub_self]
    rfl
  rw [appendAt, found, Option.map_some, replaced, ← t.append_filled]
  rfl

/-- A tree finds its tables in the slots from the first of them on. -/
theorem CompiledTree.appendFrom_filled (t : CompiledTree) (earlier : List Spill) (spill : Spill)
    (before after : List Table) :
    appendFrom spill (before.length, before ++ (t.filled earlier ++ after)) t =
      some ((before ++ t.filled (earlier ++ [spill])).length,
        before ++ (t.filled (earlier ++ [spill]) ++ after)) := by
  have main (after : List Table) : appendAt spill t.branches before.length
      (before ++ t.mainTable.filled earlier :: after) =
        some (before ++ t.mainTable.filled (earlier ++ [spill]) :: after) :=
    appendAt_filled t.mainTable earlier spill before after
  unfold appendFrom filled
  simp only [List.cons_append, main, Option.bind_eq_bind, Option.bind_some]
  cases t.exposure.isEmpty with
  | true => simp
  | false =>
    -- The exposure table stands where the tables before it and the main table end.
    have exposure : appendAt spill t.exposure (before.length + 1)
        (before ++ t.mainTable.filled (earlier ++ [spill]) ::
          t.exposureTable.filled earlier :: after) =
        some (before ++ t.mainTable.filled (earlier ++ [spill]) ::
          t.exposureTable.filled (earlier ++ [spill]) :: after) := by
      simpa using appendAt_filled t.exposureTable earlier spill
        (before ++ [t.mainTable.filled (earlier ++ [spill])]) after
    simp [exposure]

theorem foldlM_appendFrom (trees : List CompiledTree) (earlier : List Spill) (spill : Spill)
    (before : List Table) :
    trees.foldlM (CompiledTree.appendFrom spill)
        (before.length, before ++ trees.flatMap (·.filled earlier)) =
      some ((before ++ trees.flatMap (·.filled (earlier ++ [spill]))).length,
        before ++ trees.flatMap (·.filled (earlier ++ [spill]))) := by
  induction trees generalizing before with
  | nil => simp
  | cons t trees ih =>
    rw [List.flatMap_cons, List.foldlM_cons, t.appendFrom_filled, List.flatMap_cons]
    have next := ih (before ++ t.filled (earlier ++ [spill]))
    rw [List.append_assoc, List.append_assoc] at next
    exact next

theorem CompiledSample.appendBySlot_filled (s : CompiledSample) (earlier : List Spill)
    (spill : Spill) :
    s.appendBySlot (s.trees.flatMap (·.filled earlier)) spill =
      some (s.trees.flatMap (·.filled (earlier ++ [spill]))) := by
  have walk := foldlM_appendFrom s.trees earlier spill []
  rw [List.nil_append, List.nil_append, List.length_nil] at walk
  rw [appendBySlot, walk]
  rfl

/-- The running slot meets a table for every tree and every spill. -/
theorem CompiledSample.foldlM_appendBySlot (s : CompiledSample) (earlier spills : List Spill) :
    spills.foldlM s.appendBySlot (s.trees.flatMap (·.filled earlier)) =
      some (s.trees.flatMap (·.filled (earlier ++ spills))) := by
  exact foldlM_eq_pure (fun earlier => s.trees.flatMap (·.filled earlier)) s.appendBySlot_filled
    earlier spills

/-- Records without an error fill for every tree, in the order of the trees, the tables that the
tree fills alone, and the walk by slots fills the same. Of records with an error the first is what
processing ends with. -/
theorem trees_fill_alone (s : CompiledSample) :
    (∀ items,
      (∃ spills : List Spill, items = spills.map .ok ∧
        s.process items = .ok (s.trees.flatMap (·.filled spills)) ∧
        ∀ t, CompiledSample.process ⟨s.sample, [t]⟩ items = .ok (t.filled spills)) ∨
      ∃ (spills : List Spill) (e : RecordError) (rest : List RecordItem),
        items = spills.map .ok ++ .error e :: rest ∧ s.process items = .error e) ∧
    ∀ spills : List Spill, spills.foldlM s.appendBySlot (s.tables.map TableSpec.empty) =
      some (s.trees.flatMap (·.filled spills)) := by
  constructor
  · intro items
    rcases spills_or_error items with ⟨spills, rfl⟩ | ⟨spills, e, rest, rfl⟩
    · refine .inl ⟨spills, rfl, s.process_spills spills, fun t => ?_⟩
      rw [CompiledSample.process_spills]
      simp
    · exact .inr ⟨spills, e, rest, rfl, s.process_error spills e rest⟩
  · intro spills
    have empty : s.tables.map TableSpec.empty = s.trees.flatMap (·.filled []) :=
      s.map_filled_tables []
    rw [empty]
    exact s.foldlM_appendBySlot [] spills

end SpillSelection
