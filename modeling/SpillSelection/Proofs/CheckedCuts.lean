import SpillSelection.Proofs.TableNames
/-!
# Cuts that are checked

Cuts are compiled with each branch of their tree, and those that count for exposure with the
exposure that the tree asks for. In a configuration that was read every branch has a target, so a
tree with branches has all of its cuts checked. A tree without branches has no others checked than
those of its exposure, and the rest may name anything (`checked_cuts_resolve`).
-/

namespace SpillSelection

/-- A cut's name, without its `!`, is registered for the object of the cut and takes as many
parameters as the cut has. Rows of spills are cut by what is said of spills and of beams only. -/
structure Catalog.Resolves (c : Catalog) (mode : Mode) (e : CutEntry) : Prop where
  named : (baseName e.name).1 ≠ ""
  offered :
    c.cutTables.offers e.object.objectType (baseName e.name).1 e.parameters.length = true
  applicable : mode = .event → e.object = .event ∨ e.object = .beam

/-- Whether a cut is compiled with its tree. -/
def Tree.checks (t : Tree) (e : CutEntry) : Bool :=
  !t.branches.isEmpty || t.addExposure && e.decrementsExposure

/-- The tree with no other cuts than those that are compiled with it. -/
def Tree.withCheckedCuts (t : Tree) : Tree := { t with cuts := t.cuts.filter t.checks }

def Config.withCheckedCuts (config : Config) : Config :=
  { config with trees := config.trees.map Tree.withCheckedCuts }

variable {c c' : Catalog} {e : CutEntry} {t : Tree} {simulated : Bool}

namespace Catalog

theorem Resolves.of_event (h : c.Resolves .event e) (mode : Mode) : c.Resolves mode e :=
  ⟨h.named, h.offered, fun _ => h.applicable rfl⟩

theorem resolves_of_exposureCut {x : ExposureCut} (h : c.exposureCut e = .ok x) :
    c.Resolves .event e := by
  obtain ⟨applicable, offers⟩ := exposureCut_succeeds_iff.1 ⟨x, h⟩
  rw [offersEntry, offersCut, Bool.and_eq_true, bne_iff_ne] at offers
  exact ⟨offers.1, offers.2, fun _ => applicable⟩

theorem resolves_of_exposureBranches {entries : List CutEntry} {branches : List Branch}
    (h : c.exposureBranches entries simulated = .ok branches) :
    ∀ e ∈ entries, e.decrementsExposure → c.Resolves .event e := by
  obtain ⟨cuts, bound, -⟩ := ok_bind_iff.1 h
  intro e he flagged
  obtain ⟨x, made⟩ := mapM_succeeds_iff.1 ⟨cuts, bound⟩ e (List.mem_filter.2 ⟨he, flagged⟩)
  exact resolves_of_exposureCut made

theorem resolves_of_branch {entries : List CutEntry} {v : VariableEntry} {mode : Mode}
    {target : Target} {b : Branch} (h : c.branch entries v mode target simulated = .ok b) :
    ∀ e ∈ entries, c.Resolves mode e := by
  intro e he
  have good := (branch_ok_iff.1 h).1
  exact ⟨(good.offered e he).1, (good.offered e he).2, fun event => good.eventCuts event e he⟩

theorem cutTables_of_withCategories {config : Config} (h : c.withCategories config = .ok c') :
    c'.cutTables = c.cutTables := by
  unfold withCategories at h
  split at h
  · cases h
    rfl
  · simp only [publishCategories, ok_mapError_iff, ok_bind_iff] at h
    obtain ⟨classify, -, registered⟩ := h
    obtain ⟨_, -, rfl⟩ := ok_map_iff.1 registered
    rfl

end Catalog

/-! ## Trees -/

/-- In a tree that was read every branch has a target. -/
theorem Config.targets_ne_nil_of_parse {text : String} {config : Config}
    (h : parse text = .ok config) (ht : t ∈ config.trees) :
    ∀ b ∈ t.branches, b.scope.targets ≠ [] := by
  intro b hb
  obtain ⟨d, digest, valid, becomes⟩ := exists_draft_of_parse h
  obtain ⟨draft, hdraft, same⟩ := exists_of_mem_forall₂ becomes.trees ht
  obtain ⟨request, hrequest, sameRequest⟩ := exists_of_mem_forall₂ same.branches hb
  have scope := ((valid.trees draft hdraft).branches request hrequest).scope
  rw [sameRequest.scope]
  exact fun none => scope (targets_isEmpty_iff.1 (List.isEmpty_iff.2 none))

/-- A compiled tree's checked cuts resolve. -/
theorem resolves_of_tree {compiled : CompiledTree} (h : c.tree t simulated = .ok compiled)
    (targets : ∀ b ∈ t.branches, b.scope.targets ≠ []) :
    ∀ e ∈ t.cuts, t.checks e → c.Resolves t.mode e := by
  intro e he checked
  obtain ⟨groups, exposure, each, made, -⟩ := tree_ok_iff.1 h
  rcases Bool.or_eq_true_iff.1 checked with some | counted
  · obtain ⟨b, hb⟩ := List.exists_mem_of_ne_nil t.branches (by simpa using some)
    obtain ⟨target, htarget⟩ := List.exists_mem_of_ne_nil _ (targets b hb)
    obtain ⟨group, made⟩ := mapM_succeeds_iff.1 ⟨groups, each⟩ b hb
    obtain ⟨branch, made⟩ := mapM_succeeds_iff.1 ⟨group, made⟩ target htarget
    exact Catalog.resolves_of_branch made e he
  · obtain ⟨asked, flagged⟩ := Bool.and_eq_true_iff.1 counted
    rw [if_pos asked] at made
    exact (Catalog.resolves_of_exposureBranches made e he flagged).of_event t.mode

/-- A tree compiles to the same branches without the cuts that are not checked. -/
theorem tree_withCheckedCuts (c : Catalog) (t : Tree) (simulated : Bool) :
    c.tree t.withCheckedCuts simulated = c.tree t simulated := by
  cases branches : t.branches with
  | nil =>
    have exposure : t.addExposure → c.exposureBranches t.withCheckedCuts.cuts simulated =
        c.exposureBranches t.cuts simulated := by
      intro asked
      unfold Catalog.exposureBranches Tree.withCheckedCuts Tree.checks
      simp [branches, asked, List.filter_filter]
    unfold Catalog.tree
    simp only [Tree.withCheckedCuts, branches, List.mapM_nil] at exposure ⊢
    split
    case isTrue asked => rw [exposure asked]
    case isFalse => rfl
  | cons b others =>
    have all : t.cuts.filter t.checks = t.cuts :=
      List.filter_eq_self.2 fun e _ => by simp [Tree.checks, branches]
    rw [Tree.withCheckedCuts, all]

theorem sample_withCheckedCuts (c : Catalog) (trees : List Tree) :
    c.sample (trees.map Tree.withCheckedCuts) = c.sample trees := by
  funext s
  unfold Catalog.sample
  rw [List.filter_map, List.mapM_map]
  simp only [Function.comp_def, tree_withCheckedCuts]
  rfl

/-! ## Configurations -/

/-- When a configuration that was read compiles, all cuts that are checked resolve. The other cuts
play no part in what it compiles to, nor in whether it does. -/
theorem checked_cuts_resolve {text : String} {config : Config}
    (parsed : Config.parse text = .ok config) (c : Catalog) :
    (∀ a, Analysis.compile config c = .ok a → ∀ s ∈ config.enabled, ∀ t ∈ config.trees,
      t.appliesTo s → ∀ e ∈ t.cuts, t.checks e → c.Resolves t.mode e) ∧
    Analysis.samples <$> Analysis.compile config.withCheckedCuts c =
      Analysis.samples <$> Analysis.compile config c := by
  constructor
  · intro a compiled s hs t ht applies e he checked
    obtain ⟨-, c', published, each⟩ := compile_ok_iff.1 compiled
    obtain ⟨sample, made⟩ := mapM_succeeds_iff.1 ⟨a.samples, ok_mapM_iff.2 each⟩ s hs
    have trees := (sample_ok_iff.1 made).2
    obtain ⟨tree, made⟩ := mapM_succeeds_iff.1 ⟨sample.trees, ok_mapM_iff.2 trees⟩ t
      (List.mem_filter.2 ⟨ht, applies⟩)
    have resolves :=
      resolves_of_tree made (Config.targets_ne_nil_of_parse parsed ht) e he checked
    exact ⟨resolves.named, Catalog.cutTables_of_withCategories published ▸ resolves.offered,
      resolves.applicable⟩
  · have categories : c.withCategories config.withCheckedCuts = c.withCategories config := rfl
    have samples : config.withCheckedCuts.enabled = config.enabled := rfl
    have trees (c : Catalog) : c.sample config.withCheckedCuts.trees = c.sample config.trees :=
      sample_withCheckedCuts c config.trees
    unfold Analysis.compile
    rw [categories, samples]
    simp only [trees, map_bind, map_pure]

/-- A configuration that was read and compiled. -/
def compiledFrom (text : String) (c : Catalog) : Option (Config × Analysis) := do
  let config ← (Config.parse text).toOption
  let a ← (Analysis.compile config c).toOption
  return (config, a)

theorem compiledFrom_eq_some_iff {text : String} {config : Config} {a : Analysis} :
    compiledFrom text c = some (config, a) ↔
      Config.parse text = .ok config ∧ Analysis.compile config c = .ok a := by
  simp [compiledFrom, Option.bind_eq_some_iff, toOption_eq_some_iff]

/-- A sample of data, and a tree of reco interactions with one cut and what else is said of it. -/
def treeWithCut (cut rest : String) : String :=
  "general.output = \"o\"\n" ++
  "[[sample]]\nname = \"a\"\npath = \"r\"\n" ++
  "[[tree]]\nname = \"t\"\nmode = \"reco\"\n" ++
  "cut = [\x7b name = \"" ++ cut ++ "\", type = \"reco\" \x7d]\n" ++ rest

/-- The sample of `treeWithCut`. -/
def dataSample : Sample := ⟨"a", "r", false, false⟩

/-- The tree of `treeWithCut`. -/
def treeOfCut (cut : String) (branches : List BranchRequest) : Tree :=
  ⟨"t", .interactions .reco, false, false, [{ name := cut, object := .interaction .reco }],
    branches⟩

theorem checked_cuts_resolve_contained : ∃ config a,
    Config.parse (treeWithCut "!contained"
      "branch = [\x7b name = \"contained\", type = \"reco\" \x7d]\n") = .ok config ∧
    Analysis.compile config containedCatalog = .ok a ∧
    containedCatalog.Resolves (.interactions .reco)
      { name := "!contained", object := .interaction .reco } := by
  have evaluated : (compiledFrom (treeWithCut "!contained"
      "branch = [\x7b name = \"contained\", type = \"reco\" \x7d]\n") containedCatalog).map
        (fun r => (r.1.enabled, r.1.trees)) =
      some ([dataSample],
        [treeOfCut "!contained" [⟨{ name := "contained" }, .interaction .reco⟩]]) := by
    decide +kernel
  obtain ⟨⟨config, a⟩, found, parts⟩ := Option.map_eq_some_iff.1 evaluated
  obtain ⟨parsed, compiled⟩ := compiledFrom_eq_some_iff.1 found
  obtain ⟨samples, trees⟩ := Prod.mk.inj parts
  exact ⟨config, a, parsed, compiled, (checked_cuts_resolve parsed containedCatalog).1 a compiled
    dataSample (by simp [samples]) _ (trees ▸ List.mem_singleton_self _) rfl _
    (List.mem_singleton_self _) rfl⟩

/-- A tree without branches compiles with a cut that is registered nowhere. -/
theorem unresolved_cut_compiles : ∃ config a, ∃ t ∈ config.trees, ∃ e ∈ t.cuts,
    Config.parse (treeWithCut "no_such_cut" "") = .ok config ∧
    Analysis.compile config .empty = .ok a ∧ dataSample ∈ config.enabled ∧
    t.appliesTo dataSample ∧ ¬Catalog.empty.Resolves t.mode e := by
  have evaluated : (compiledFrom (treeWithCut "no_such_cut" "") .empty).map
        (fun r => (r.1.enabled, r.1.trees)) =
      some ([dataSample], [treeOfCut "no_such_cut" []]) := by
    decide +kernel
  obtain ⟨⟨config, a⟩, found, parts⟩ := Option.map_eq_some_iff.1 evaluated
  obtain ⟨parsed, compiled⟩ := compiledFrom_eq_some_iff.1 found
  obtain ⟨samples, trees⟩ := Prod.mk.inj parts
  refine ⟨config, a, treeOfCut "no_such_cut" [], trees ▸ List.mem_singleton_self _, _,
    List.mem_singleton_self _, parsed, compiled, by simp [samples], rfl, fun resolves => ?_⟩
  exact absurd resolves.offered (by decide)

end SpillSelection
