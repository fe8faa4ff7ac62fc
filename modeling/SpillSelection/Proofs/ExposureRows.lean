import SpillSelection.Proofs.Processing
import SpillSelection.Proofs.Subruns
/-!
# Exposure of a sample

What stands in the exposure table of a tree after a whole sample was read. It has a row for every
spill that passes the flagged cuts on spills (`exposureRows_eq`). A simulated subrun gives its
exposure with its first spill or not at all (`exposureRows_of_subrun`); the exposure of data is
counted spill by spill. `exposure_counts_source` puts this together for every source without errors.
-/

namespace SpillSelection

/-! ## What counts -/

/-- The cuts on an object that take part in counting exposure. -/
def exposureCuts (entries : List CutEntry) (object : CutObject) : List CutEntry :=
  entries.filter fun e => e.decrementsExposure && e.object == object

namespace Catalog

/-- Whether a spill passes the cuts on spills that take part. -/
def countsSpill (c : Catalog) (entries : List CutEntry) (spill : Spill) : Bool :=
  (exposureCuts entries .event).all fun e => c.holds .event e.name e.parameters spill

/-- Whether a beam record passes the cuts on beam records that take part. -/
def countsBeam (c : Catalog) (entries : List CutEntry) (beam : BeamRecord) : Bool :=
  (exposureCuts entries .beam).all fun e => c.holds .beam e.name e.parameters beam

/-- Livetime and protons on target of a spill that is counted. -/
def exposureOf (c : Catalog) (entries : List CutEntry) (simulated : Bool) (h : Header) :
    List Float :=
  if simulated then
    if h.firstInSubrun then [h.ngenevt, h.pot] else [0, 0]
  else
    [Float.ofNat (h.bnbInfo.length + h.numiInfo.length) + Float.ofNat h.noffbeamBnb.toNat +
        Float.ofNat h.noffbeamNumi.toNat,
      ((h.bnbInfo.filter (c.countsBeam entries)).map (·.tor875)).foldl (· + ·) (-0.0)]

/-- The exposure rows of some spills. -/
def exposureRows (c : Catalog) (entries : List CutEntry) (simulated : Bool)
    (spills : List Spill) : List TableRow :=
  (spills.filter (c.countsSpill entries)).map fun spill =>
    .ofValues spill.header (c.exposureOf entries simulated spill.header)

end Catalog

/-! ## The branches -/

variable {c : Catalog} {entries : List CutEntry} {simulated : Bool}

/-- A list of results, as long as each is one of an item. -/
theorem filterMap_eq_of_forall₂ {α β : Type} {p : α → Prop} {f : α → Option β} {xs : List α}
    {ys : List β} (each : List.Forall₂ (fun x y => p x ∧ f x = some y) xs ys) :
    xs.filterMap f = ys := by
  induction each with
  | nil => rfl
  | cons h _ ih => rw [List.filterMap_cons_some h.2, ih]

theorem exposureCuts_cons (e : CutEntry) (entries : List CutEntry) (object : CutObject) :
    exposureCuts (e :: entries) object = if e.decrementsExposure && e.object == object then
      e :: exposureCuts entries object else exposureCuts entries object :=
  List.filter_cons

/-- The cuts that take part, sorted by what they are about. -/
theorem exposureCuts_sorted (c : Catalog) (entries : List CutEntry) :
    ExposureCut.onEvents ((entries.filter (·.decrementsExposure)).filterMap c.exposureCut?) =
        (exposureCuts entries .event).map (fun e => c.holds .event e.name e.parameters) ∧
      ExposureCut.onBeams ((entries.filter (·.decrementsExposure)).filterMap c.exposureCut?) =
        (exposureCuts entries .beam).map fun e => c.holds .beam e.name e.parameters := by
  induction entries with
  | nil => exact ⟨rfl, rfl⟩
  | cons e entries ih =>
    obtain ⟨events, beams⟩ := ih
    rw [exposureCuts_cons, exposureCuts_cons, List.filter_cons]
    cases e.decrementsExposure with
    | false => exact ⟨events, beams⟩
    | true =>
      rw [if_pos rfl, List.filterMap_cons]
      unfold Catalog.exposureCut? at events beams ⊢
      rcases e.object with t | t | _ | _
      · exact ⟨events, beams⟩
      · exact ⟨events, beams⟩
      · exact ⟨congrArg (_ :: ·) events, beams⟩
      · exact ⟨events, congrArg (_ :: ·) beams⟩

/-- What exposure branches are, by the cuts that take part. -/
theorem exposureBranches_eq {branches : List Branch}
    (h : c.exposureBranches entries simulated = .ok branches) :
    branches = [
      ⟨"livetime", fun spill =>
        if c.countsSpill entries spill then [spill.livetime simulated] else []⟩,
      ⟨"pot", fun spill =>
        if c.countsSpill entries spill then
          [spill.pot simulated ((exposureCuts entries .beam).map fun e =>
            c.holds .beam e.name e.parameters)]
        else []⟩] := by
  simp only [Catalog.exposureBranches, ok_bind_iff, ok_pure_iff] at h
  obtain ⟨cuts, each, rfl⟩ := h
  simp only [ok_mapM_iff, exposureCut_ok_iff] at each
  obtain ⟨events, beams⟩ := exposureCuts_sorted c entries
  rw [filterMap_eq_of_forall₂ each] at events beams
  have counted (spill : Spill) :
      passesAll (ExposureCut.onEvents cuts) spill = c.countsSpill entries spill := by
    rw [events, passesAll, List.all_map]
    rfl
  have gated (f : Spill → Float) : ofPassing (ExposureCut.onEvents cuts) f =
      fun spill => if c.countsSpill entries spill then [f spill] else [] := by
    funext spill
    rw [ofPassing, counted]
  rw [gated, gated, beams]
  rfl

/-- What a counted spill gives is its exposure. -/
theorem livetime_pot_eq (c : Catalog) (entries : List CutEntry) (simulated : Bool) (spill : Spill) :
    [spill.livetime simulated, spill.pot simulated ((exposureCuts entries .beam).map fun e =>
      c.holds .beam e.name e.parameters)] = c.exposureOf entries simulated spill.header := by
  have beams : passesAll ((exposureCuts entries .beam).map fun e =>
      c.holds .beam e.name e.parameters) = c.countsBeam entries := by
    funext beam
    rw [passesAll, List.all_map]
    rfl
  unfold Spill.livetime Spill.pot Catalog.exposureOf
  rw [beams]
  cases simulated with
  | false => rfl
  | true => cases first : spill.header.firstInSubrun <;> simp [first]

/-! ## The table -/

/-- A spill gives one row if it is counted, and none if it is not. -/
theorem replicate_exposure {branches : List Branch}
    (h : c.exposureBranches entries simulated = .ok branches) (spill : Spill) :
    replicate (branches.map fun b => b.evaluate spill) =
      if c.countsSpill entries spill then [c.exposureOf entries simulated spill.header]
      else [] := by
  rw [exposureBranches_eq h, ← livetime_pot_eq]
  simp only [List.map_cons, List.map_nil]
  cases c.countsSpill entries spill with
  | false => rfl
  | true => rfl

theorem flatMap_ite_eq_map_filter {α β : Type} (p : α → Bool) (f : α → β) (xs : List α) :
    (xs.flatMap fun x => if p x then [f x] else []) = (xs.filter p).map f := by
  induction xs with
  | nil => rfl
  | cons x xs ih =>
    rw [List.flatMap_cons, List.filter_cons, ih]
    split <;> rfl

theorem exposureRows_eq {t : CompiledTree}
    (h : c.exposureBranches entries simulated = .ok t.exposure) (spills : List Spill) :
    (t.exposureTable.filled spills).rows.toList = c.exposureRows entries simulated spills := by
  unfold TableSpec.filled CompiledTree.exposureTable Catalog.exposureRows
  simp only [replicate_exposure h]
  rw [← flatMap_ite_eq_map_filter]
  refine List.flatMap_congr fun spill _ => ?_
  cases c.countsSpill entries spill with
  | false => rfl
  | true => rfl

/-- Of the rows of a simulated subrun the first holds its exposure, if its first spill is counted,
and all others hold nothing. -/
theorem exposureRows_of_subrun {written : List Spill} {subrun : Subrun} {first : Spill}
    {rest : List Spill} (h : written.filter (·.subrun == subrun) = first :: rest) :
    ((c.exposureRows entries true (delivered written)).filter fun row =>
        (row.run, row.subrun) == subrun).map (·.values) =
      (if c.countsSpill entries (first.marked true) then
        [[first.header.ngenevt, first.header.pot]] else []) ++
      ((rest.map (Spill.marked false)).filter (c.countsSpill entries)).map fun _ => [0, 0] := by
  have own : (c.exposureRows entries true (delivered written)).filter (fun row =>
        (row.run, row.subrun) == subrun) =
      c.exposureRows entries true ((delivered written).filter (·.subrun == subrun)) := by
    unfold Catalog.exposureRows
    rw [List.filter_map, List.filter_filter, List.filter_filter]
    simp only [Bool.and_comm]
    rfl
  have zero : ∀ spill ∈ (rest.map (Spill.marked false)).filter (c.countsSpill entries),
      c.exposureOf entries true spill.header = [0, 0] := by
    intro spill hspill
    obtain ⟨_, -, rfl⟩ := List.mem_map.1 (List.mem_of_mem_filter hspill)
    rfl
  rw [own, filter_delivered h, Catalog.exposureRows, List.map_map, List.filter_cons]
  rw [← List.map_congr_left zero]
  split
  · rfl
  · rfl

/-! ## Samples -/

variable {tree : Tree} {compiled : CompiledTree} {s : CompiledSample}

theorem tree_exposure (h : c.tree tree simulated = .ok compiled)
    (asked : tree.addExposure = true) :
    compiled.name = tree.name ∧ c.exposureBranches tree.cuts simulated = .ok compiled.exposure := by
  obtain ⟨_, _, -, made, rfl⟩ := tree_ok_iff.1 h
  rw [if_pos asked] at made
  exact ⟨rfl, made⟩

/-- A tree that asks for its exposure fills two tables. -/
theorem filled_of_addExposure (h : c.tree tree simulated = .ok compiled)
    (asked : tree.addExposure = true) (spills : List Spill) :
    compiled.filled spills =
      [compiled.mainTable.filled spills, compiled.exposureTable.filled spills] := by
  have two := exposureBranches_eq (tree_exposure h asked).2
  have some : compiled.exposure.isEmpty = false := by rw [two]; rfl
  rw [CompiledTree.filled, some]
  rfl

theorem filled_infix (ht : compiled ∈ s.trees) (spills : List Spill) :
    compiled.filled spills <:+: s.trees.flatMap (·.filled spills) := by
  obtain ⟨before, after, trees⟩ := List.append_of_mem ht
  rw [trees, List.flatMap_append, List.flatMap_cons]
  exact ⟨before.flatMap (·.filled spills), after.flatMap (·.filled spills),
    List.append_assoc _ _ _⟩

/-- A table with the exposure of the spills of a source. -/
structure Catalog.CountsSource (c : Catalog) (tree : Tree) (simulated : Bool)
    (written : List Spill) (table : Table) : Prop where
  name : table.name = exposureName tree.name
  columns : table.columns = ["livetime", "pot"]
  spills : table.spills = written.length
  rows : table.rows.toList = c.exposureRows tree.cuts simulated (delivered written)
  /-- A simulated subrun is counted with its first spill or not at all. -/
  subruns : simulated = true → ∀ subrun first rest,
    written.filter (·.subrun == subrun) = first :: rest →
    (table.rows.toList.filter fun row => (row.run, row.subrun) == subrun).map (·.values) =
      (if c.countsSpill tree.cuts (first.marked true) then
        [[first.header.ngenevt, first.header.pot]] else []) ++
      ((rest.map (Spill.marked false)).filter (c.countsSpill tree.cuts)).map fun _ => [0, 0]

theorem countsSource_exposureTable (h : c.tree tree simulated = .ok compiled)
    (asked : tree.addExposure = true) (written : List Spill) :
    c.CountsSource tree simulated written (compiled.exposureTable.filled (delivered written)) := by
  obtain ⟨name, branches⟩ := tree_exposure h asked
  refine ⟨congrArg exposureName name, ?_, length_delivered written,
    exposureRows_eq branches _, ?_⟩
  · show compiled.exposure.map (·.name) = _
    rw [exposureBranches_eq branches]
    rfl
  · rintro rfl subrun first rest own
    rw [exposureRows_eq branches]
    exact exposureRows_of_subrun own

/-- Exposure branches depend on the cuts that take part, and on nothing else of a tree. -/
theorem exposure_congr {tree' : Tree} {compiled' : CompiledTree}
    (h : c.tree tree simulated = .ok compiled) (h' : c.tree tree' simulated = .ok compiled')
    (asked : tree.addExposure = true) (asked' : tree'.addExposure = true)
    (same : tree'.cuts.filter (·.decrementsExposure) = tree.cuts.filter (·.decrementsExposure)) :
    compiled'.exposure = compiled.exposure := by
  have branches := (tree_exposure h asked).2
  have branches' := (tree_exposure h' asked').2
  unfold Catalog.exposureBranches at branches branches'
  rw [same, branches] at branches'
  exact (Except.ok.inj branches').symm

/-- For every source without errors a tree that asks for its exposure fills, next to its main table,
a table with a row for each spill that passes the flagged cuts on spills. On simulation the row
holds what the spill reports if no earlier spill of the source is of its subrun, and else zeros; on
data it holds what the spill and those of its beam records report that pass the flagged cuts. Apart
from these cuts nothing in the tree plays a part. -/
theorem exposure_counts_source (h : c.tree tree simulated = .ok compiled)
    (asked : tree.addExposure = true) (ht : compiled ∈ s.trees) {source : List UInt8}
    {written : List Spill} (noErrors : Records.unmarked source = written.map .ok) :
    (∃ tables main exposure, s.process (Records.read source) = .ok tables ∧
      [main, exposure] <:+: tables ∧ main.name = tree.name ∧
      c.CountsSource tree simulated written exposure) ∧
    ∀ tree' compiled', c.tree tree' simulated = .ok compiled' → tree'.addExposure = true →
      tree'.cuts.filter (·.decrementsExposure) = tree.cuts.filter (·.decrementsExposure) →
      compiled'.exposure = compiled.exposure := by
  constructor
  · refine ⟨s.trees.flatMap (·.filled (delivered written)), _, _, ?_,
      filled_of_addExposure h asked (delivered written) ▸ filled_infix ht _,
      (tree_exposure h asked).1, countsSource_exposureTable h asked written⟩
    rw [read_eq_delivered noErrors]
    exact s.process_spills _
  · intro tree' compiled' h' asked' same
    exact exposure_congr h h' asked asked' same

/-- A catalog with one cut on spills: whether they have an event number. -/
def numberedCatalog : Catalog :=
  (Catalog.empty.declare [.ofCut "numbered" (.on .event (.plain fun spill =>
    spill.header.event != 0))]).1

/-- A tree that counts the numbered spills, and keeps rows of the others. -/
def numberedTree : Tree where
  name := "t"
  mode := .interactions .reco
  simOnly := false
  addExposure := true
  cuts := [{ name := "numbered", object := .event, decrementsExposure := true },
    { name := "!numbered", object := .event }]
  branches := []

/-- Two subruns in turn, where the first spill of the second has no number. All but the first spill
claim to be the first of their subruns. -/
def numberedSource : List UInt8 :=
  Text.utf8 ("[[1,5,1,true,false,2.5,10.5]]\n" ++ "[[1,6,0,true,true,2.5,10.5]]\n" ++
    "[[1,5,2,true,true,2.5,10.5]]\n" ++ "[[1,6,3,true,true,2.5,10.5]]\n")

theorem places_of_numberedSource :
    ((Records.unmarked numberedSource).map fun item =>
      item.toOption.map fun spill => (spill.subrun, spill.header.event)) =
    [some ((1, 5), 1), some ((1, 6), 0), some ((1, 5), 2), some ((1, 6), 3)] := by
  decide +kernel

theorem countsSpill_numberedTree : numberedCatalog.countsSpill numberedTree.cuts =
    fun spill => spill.header.event != 0 := by
  funext spill
  exact Bool.and_true _

/-- The spills of the source, each with its subrun and its event number. -/
theorem spills_of_numberedSource : ∃ a b a' b' : Spill,
    Records.unmarked numberedSource = [a, b, a', b'].map .ok ∧
      (a.subrun = (1, 5) ∧ a.header.event = 1) ∧ (b.subrun = (1, 6) ∧ b.header.event = 0) ∧
      (a'.subrun = (1, 5) ∧ a'.header.event = 2) ∧ (b'.subrun = (1, 6) ∧ b'.header.event = 3) := by
  have places := places_of_numberedSource
  rcases spills_or_error (Records.unmarked numberedSource) with
    ⟨written, noErrors⟩ | ⟨written, e, rest, error⟩
  · rw [noErrors] at places ⊢
    rcases written with _ | ⟨a, _ | ⟨b, _ | ⟨a', _ | ⟨b', _ | ⟨_, _⟩⟩⟩⟩⟩ <;>
      simp [Except.toOption] at places
    exact ⟨a, b, a', b', rfl, places⟩
  · -- An error has no place, and all records do.
    have noPlace : none ∈ (Records.unmarked numberedSource).map fun item =>
        item.toOption.map fun spill => (spill.subrun, spill.header.event) := by
      rw [error, List.map_append, List.map_cons]
      exact List.mem_append_right _ List.mem_cons_self
    rw [places] at noPlace
    simp at noPlace

/-- The first subrun is counted with its first spill. The second is not counted at all, because its
first spill is not, although a later one is. -/
theorem exposure_counts_source_numberedSource :
    ∃ compiled : CompiledTree, ∃ written : List Spill, ∃ first : Spill, ∃ exposure : Table,
      numberedCatalog.tree numberedTree true = .ok compiled ∧ numberedTree.addExposure = true ∧
        Records.unmarked numberedSource = written.map .ok ∧ written.head? = some first ∧
        numberedCatalog.CountsSource numberedTree true written exposure ∧
        (exposure.rows.toList.filter fun row => (row.run, row.subrun) == (1, 5)).map (·.values) =
          [[first.header.ngenevt, first.header.pot], [0, 0]] ∧
        (exposure.rows.toList.filter fun row => (row.run, row.subrun) == (1, 6)).map (·.values) =
          [[0, 0]] := by
  obtain ⟨compiled, compiles⟩ : ∃ compiled, numberedCatalog.tree numberedTree true = .ok compiled :=
    ⟨_, rfl⟩
  obtain ⟨a, b, a', b', noErrors, ⟨ha, na⟩, ⟨hb, nb⟩, ⟨ha', na'⟩, ⟨hb', nb'⟩⟩ :=
    spills_of_numberedSource
  let sample : Sample := { name := "s", path := "p", simulated := true, disabled := false }
  obtain ⟨⟨_, _, exposure, -, -, -, counts⟩, -⟩ :=
    exposure_counts_source (s := ⟨sample, [compiled]⟩) compiles rfl (by simp) noErrors
  have five := counts.subruns rfl (1, 5) a [a'] (by simp [ha, hb, ha', hb'])
  have six := counts.subruns rfl (1, 6) b [b'] (by simp [ha, hb, ha', hb'])
  rw [countsSpill_numberedTree] at five six
  refine ⟨compiled, _, a, exposure, compiles, rfl, noErrors, rfl, counts, ?_, ?_⟩
  · rw [five]
    simp [Spill.marked, List.filter_cons, na, na']
  · rw [six]
    simp [Spill.marked, List.filter_cons, nb, nb']

end SpillSelection
