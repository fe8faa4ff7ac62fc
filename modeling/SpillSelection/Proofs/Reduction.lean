import SpillSelection.Config
import SpillSelection.Proofs.Outcome
/-!
# Drafts that reduce

Which drafts of configurations are accepted, and what they become. `Draft.IsValid` says clause by
clause what a draft must be, and `Draft.Becomes` relates it to the configuration that says the same
with a number in the place of every reference. Reduction decides the one and computes the other
(`reduce_ok_iff`), so it succeeds exactly on valid drafts (`reduce_accepts_valid`).
-/

namespace SpillSelection

/-! ## Names -/

/-- A letter of ASCII. -/
def IsLetter (c : Char) : Prop := 'a' ≤ c ∧ c ≤ 'z' ∨ 'A' ≤ c ∧ c ≤ 'Z'

/-- A letter followed by letters, digits and underscores. -/
def IsName (text : String) : Prop :=
  ∃ first rest, text.toList = first :: rest ∧ IsLetter first ∧
    ∀ c ∈ rest, IsLetter c ∨ '0' ≤ c ∧ c ≤ '9' ∨ c = '_'

/-- A name, perhaps after one exclamation mark. -/
def IsCutReference (text : String) : Prop :=
  ∃ name, IsName name ∧ (text = name ∨ text = "!" ++ name)

theorem isAlpha_iff {c : Char} : c.isAlpha = true ↔ IsLetter c := by
  have alpha : c.isAlpha = (c.isUpper || c.isLower) := rfl
  have upper : c.isUpper = decide ('A' ≤ c ∧ c ≤ 'Z') := rfl
  have lower : c.isLower = (decide ('a' ≤ c) && decide (c ≤ 'z')) := rfl
  simp only [alpha, upper, lower, IsLetter, Bool.or_eq_true, Bool.and_eq_true, decide_eq_true_eq]
  exact or_comm

theorem isIdentifier_iff {text : String} : isIdentifier text = true ↔ IsName text := by
  have later {c : Char} : (c.isAlphanum || c = '_') = true ↔
      IsLetter c ∨ '0' ≤ c ∧ c ≤ '9' ∨ c = '_' := by
    simp [Char.isAlphanum, isAlpha_iff, Char.isDigit, Char.le_def, or_assoc]
  unfold isIdentifier IsName
  cases text.toList with
  | nil => simp
  | cons first rest => simp [isAlpha_iff, ← later]

theorem not_isLetter_mark : ¬IsLetter '!' := by
  unfold IsLetter
  decide

theorem isCutName_iff {text : String} : isCutName text = true ↔ IsCutReference text := by
  rw [isCutName, isIdentifier_iff]
  unfold baseName
  split
  case h_1 base marked =>
    have text_eq : text = "!" ++ String.ofList base := by
      rw [← String.toList_inj, marked, String.toList_append, String.toList_ofList]
      simp
    constructor
    · intro h
      exact ⟨_, h, .inr text_eq⟩
    · rintro ⟨name, h, same | same⟩
      -- A name does not begin with the mark.
      · obtain ⟨first, rest, chars, letter, -⟩ := h
        rw [← same, marked] at chars
        cases chars
        exact absurd letter not_isLetter_mark
      · rwa [(String.append_right_inj "!").1 (text_eq.symm.trans same)]
  case h_2 plain =>
    constructor
    · intro h
      exact ⟨text, h, .inl rfl⟩
    · rintro ⟨name, h, same | same⟩
      · rwa [same]
      · refine absurd ?_ (plain name.toList)
        rw [same, String.toList_append]
        simp

theorem Config.checkIdentifier_ok_iff {location what name : String} {u : Unit} :
    checkIdentifier location what name = .ok u ↔ IsName name := by
  rw [checkIdentifier, ← isIdentifier_iff]
  split <;> simp [*]

theorem Config.checkCutName_ok_iff {location name : String} {u : Unit} :
    checkCutName location name = .ok u ↔ IsCutReference name := by
  rw [checkCutName, ← isCutName_iff]
  split <;> simp [*]

/-! ## Names that are used once -/

namespace Config

theorem firstRepeated?_go_eq_none_iff {seen names : List String} :
    firstRepeated?.go seen names = none ↔ names.Nodup ∧ ∀ n ∈ names, n ∉ seen := by
  induction names generalizing seen with
  | nil => simp [firstRepeated?.go]
  | cons n ns ih =>
    simp only [firstRepeated?.go, List.nodup_cons, List.forall_mem_cons]
    by_cases hn : n ∈ seen
    · simp [hn]
    · simp only [List.contains_eq_mem, hn, decide_false, Bool.false_eq_true, if_false, ih,
        List.mem_cons, not_or]
      constructor
      · rintro ⟨nodup, fresh⟩
        exact ⟨⟨fun hmem => (fresh n hmem).1 rfl, nodup⟩, not_false, fun m hm => (fresh m hm).2⟩
      · rintro ⟨⟨new, nodup⟩, -, fresh⟩
        exact ⟨nodup, fun m hm => ⟨fun same => new (same ▸ hm), fresh m hm⟩⟩

theorem checkUnique_ok_iff {location : String} {flaw : String → Flaw} {names : List String}
    {u : Unit} : checkUnique location flaw names = .ok u ↔ names.Nodup := by
  have none_iff : firstRepeated? names = none ↔ names.Nodup := by
    simp [firstRepeated?, firstRepeated?_go_eq_none_iff]
  rw [checkUnique, ← none_iff]
  split <;> simp [*]

end Config

/-! ## Parameters -/

namespace Parameter

/-- The number that a parameter is, or that it refers to. -/
inductive StandsFor (named : List (String × Float)) : Parameter → Float → Prop
  | number (x : Float) : StandsFor named (.number x) x
  | reference (name : String) (x : Float) : named.lookup name = some x →
      StandsFor named (.reference ("@" ++ name)) x

/-- A parameter that is a number or refers to a named one. -/
def IsGiven (named : List (String × Float)) : Parameter → Prop
  | .number _ => True
  | .reference text => ∃ name ∈ named.map (·.1), text = "@" ++ name

variable {named : List (String × Float)} {p : Parameter}

theorem isGiven_iff : p.IsGiven named ↔ ∃ x, p.StandsFor named x := by
  have key {name : String} : name ∈ named.map (·.1) ↔ ∃ x, named.lookup name = some x := by
    rw [← Option.isSome_iff_exists, List.lookup_isSome_iff, List.mem_map]
    exact exists_congr fun p => and_congr_right fun _ => by rw [beq_iff_eq, eq_comm]
  constructor
  · cases p with
    | number x => exact fun _ => ⟨x, .number x⟩
    | reference text =>
      rintro ⟨name, mem, rfl⟩
      obtain ⟨x, found⟩ := key.1 mem
      exact ⟨x, .reference name x found⟩
  · rintro ⟨x, _ | ⟨name, _, found⟩⟩
    · trivial
    · exact ⟨name, key.2 ⟨x, found⟩, rfl⟩

end Parameter

namespace Config

variable {named : List (String × Float)}

theorem resolve_ok_iff {location : String} {p : Parameter} {x : Float} :
    resolve location named p = .ok x ↔ p.StandsFor named x := by
  cases p with
  | number y =>
    simp only [resolve, Except.ok.injEq]
    constructor
    · rintro rfl
      exact .number y
    · rintro ⟨⟩
      rfl
  | reference text =>
    unfold resolve
    dsimp only
    split
    case h_1 name marked =>
      obtain rfl : text = "@" ++ String.ofList name := by
        rw [← String.toList_inj, marked, String.toList_append, String.toList_ofList]
        simp
      have found : (Parameter.reference ("@" ++ String.ofList name)).StandsFor named x ↔
          named.lookup (String.ofList name) = some x := by
        refine ⟨fun h => ?_, .reference _ x⟩
        generalize same : Parameter.reference ("@" ++ String.ofList name) = p at h
        cases h with
        | number => cases same
        | reference other _ found =>
          rwa [(String.append_right_inj "@").1 (Parameter.reference.inj same)]
      rw [found]
      split <;> simp [*]
    case h_2 plain =>
      constructor
      · rintro ⟨⟩
      · intro h
        cases h with
        | reference name _ _ => exact absurd (by simp) (plain name.toList)

theorem resolveAll_ok_iff {location : String} {ps : List Parameter} {xs : List Float} :
    resolveAll location named ps = .ok xs ↔ List.Forall₂ (Parameter.StandsFor named) ps xs := by
  simp only [resolveAll, ok_mapM_iff, resolve_ok_iff]

theorem forall_isGiven_iff {ps : List Parameter} :
    (∀ p ∈ ps, p.IsGiven named) ↔ ∃ xs, List.Forall₂ (Parameter.StandsFor named) ps xs := by
  simp only [exists_forall₂_iff, Parameter.isGiven_iff]

end Config

/-! ## What a draft must be -/

namespace Draft

variable (named : List (String × Float))

structure Cut.IsValid (c : Draft.Cut) : Prop where
  name : IsCutReference c.name
  typed : c.object ≠ none
  parameters : ∀ p ∈ c.parameters, p.IsGiven named

structure CategoryCut.IsValid (c : Draft.CategoryCut) : Prop where
  name : IsCutReference c.name
  parameters : ∀ p ∈ c.parameters, p.IsGiven named

structure Category.IsValid (c : Draft.Category) : Prop where
  name : IsName c.name
  cuts : ∀ cut ∈ c.cuts, cut.IsValid named

structure Branch.IsValid (b : Draft.Branch) : Prop where
  name : IsName b.name
  scope : b.scope ≠ .beam
  parameters : ∀ p ∈ b.parameters, p.IsGiven named
  selector : ∀ selector ∈ b.selector, IsName selector

/-- The names of the columns that a branch asks for, one for every target. -/
def Branch.columns (b : Draft.Branch) : List String :=
  b.scope.targets.map fun target =>
    VariableEntry.branchName { name := b.name, selector := b.selector } target

structure Tree.IsValid (t : Draft.Tree) : Prop where
  name : IsName t.name
  mode : t.mode ∈ ["true", "reco", "event"]
  cuts : ∀ cut ∈ t.cuts, cut.IsValid named
  branches : ∀ b ∈ t.branches, b.IsValid named
  columns : (t.branches.flatMap Branch.columns).Nodup

structure IsValid (d : Draft) : Prop where
  parameters : ∀ p ∈ d.parameters, IsName p.1
  samples : ∀ s ∈ d.samples, IsName s.name
  sampleNames : (d.samples.map (·.name)).Nodup
  categories : ∀ c ∈ d.categories, c.IsValid d.parameters
  categoryNames : (d.categories.map (·.name)).Nodup
  trees : ∀ t ∈ d.trees, t.IsValid d.parameters
  treeNames : (d.trees.map (·.name)).Nodup

/-! ## What a draft becomes -/

/-- The sample that a draft describes. -/
def Sample.reduced (s : Draft.Sample) : SpillSelection.Sample := ⟨s.name, s.path, s.isMc, s.disable⟩

structure Cut.Becomes (c : Draft.Cut) (entry : CutEntry) : Prop where
  name : entry.name = c.name
  object : c.object = some entry.object
  parameters : List.Forall₂ (Parameter.StandsFor named) c.parameters entry.parameters
  decrementsExposure : entry.decrementsExposure = c.decrementsExposure

structure CategoryCut.Becomes (c : Draft.CategoryCut) (cut : SpillSelection.CategoryCut) :
    Prop where
  name : cut.name = c.name
  parameters : List.Forall₂ (Parameter.StandsFor named) c.parameters cut.parameters

structure Category.Becomes (c : Draft.Category) (category : SpillSelection.Category) : Prop where
  name : category.name = c.name
  cuts : List.Forall₂ (CategoryCut.Becomes named) c.cuts category.cuts

structure Branch.Becomes (b : Draft.Branch) (request : BranchRequest) : Prop where
  name : request.entry.name = b.name
  parameters : List.Forall₂ (Parameter.StandsFor named) b.parameters request.entry.parameters
  selector : request.entry.selector = b.selector
  scope : request.scope = b.scope

structure Tree.Becomes (t : Draft.Tree) (tree : SpillSelection.Tree) : Prop where
  name : tree.name = t.name
  mode : tree.mode.text = t.mode
  simOnly : tree.simOnly = t.simOnly
  addExposure : tree.addExposure = t.addExposure
  cuts : List.Forall₂ (Cut.Becomes named) t.cuts tree.cuts
  branches : List.Forall₂ (Branch.Becomes named) t.branches tree.branches

/-- The configuration has all parts of the draft in their order, with a number in the place of every
reference and nothing else changed. -/
structure Becomes (d : Draft) (digest : String) (c : Config) : Prop where
  output : c.output = d.output
  samples : c.samples = d.samples.map Sample.reduced
  categories : List.Forall₂ (Category.Becomes d.parameters) d.categories c.categories
  trees : List.Forall₂ (Tree.Becomes d.parameters) d.trees c.trees
  digest : c.digest = digest

end Draft

/-! ## The parts of a draft -/

namespace Config

variable {named : List (String × Float)} {location : String}

theorem reduceSample_ok_iff {s : Draft.Sample} {sample : Sample} :
    reduceSample s = .ok sample ↔ IsName s.name ∧ s.reduced = sample := by
  simp only [reduceSample, ok_bind_iff, checkIdentifier_ok_iff, ok_pure_iff, Draft.Sample.reduced]
  constructor
  · rintro ⟨_, name, rfl⟩
    exact ⟨name, rfl⟩
  · rintro ⟨name, rfl⟩
    exact ⟨(), name, rfl⟩

theorem reduceCut_ok_iff (location : String) (c : Draft.Cut) (entry : CutEntry) :
    reduceCut location named c = .ok entry ↔ c.IsValid named ∧ c.Becomes named entry := by
  simp only [reduceCut, ok_bind_iff, checkCutName_ok_iff]
  constructor
  · rintro ⟨_, name, made⟩
    split at made
    · cases made
    · rename_i object typed
      obtain ⟨xs, resolved, made⟩ := ok_bind_iff.1 made
      rw [resolveAll_ok_iff] at resolved
      cases made
      have given := forall_isGiven_iff.2 ⟨xs, resolved⟩
      exact ⟨⟨name, by simp [typed], given⟩, rfl, typed, resolved, rfl⟩
  · rintro ⟨valid, becomes⟩
    obtain ⟨name, object, parameters, decrements⟩ := entry
    obtain ⟨rfl, typed, resolved, rfl⟩ := becomes
    refine ⟨(), valid.name, ?_⟩
    simp only [typed]
    exact ok_bind_iff.2 ⟨parameters, resolveAll_ok_iff.2 resolved, rfl⟩

theorem reduceCategory_ok_iff {c : Draft.Category} {category : Category} :
    reduceCategory named c = .ok category ↔ c.IsValid named ∧ c.Becomes named category := by
  have each (cut : Draft.CategoryCut) (cut' : CategoryCut) :
      (do
        checkCutName ("category[" ++ c.name ++ "]") cut.name
        return (⟨cut.name, ← resolveAll ("category[" ++ c.name ++ "]") named cut.parameters⟩ :
          CategoryCut)) = Except.ok cut' ↔ cut.IsValid named ∧ cut.Becomes named cut' := by
    simp only [ok_bind_iff, checkCutName_ok_iff, resolveAll_ok_iff, ok_pure_iff]
    constructor
    · rintro ⟨_, name, xs, resolved, rfl⟩
      exact ⟨⟨name, forall_isGiven_iff.2 ⟨xs, resolved⟩⟩, rfl, resolved⟩
    · rintro ⟨valid, becomes⟩
      obtain ⟨name, parameters⟩ := cut'
      obtain ⟨rfl, resolved⟩ := becomes
      exact ⟨(), valid.name, parameters, resolved, rfl⟩
  simp only [reduceCategory, ok_bind_iff, checkIdentifier_ok_iff, ok_pure_iff, ok_mapM_iff, each,
    List.forall₂_and_left]
  constructor
  · rintro ⟨_, name, cuts, ⟨valid, becomes⟩, rfl⟩
    exact ⟨⟨name, valid⟩, rfl, becomes⟩
  · rintro ⟨valid, becomes⟩
    obtain ⟨name, cuts⟩ := category
    obtain ⟨rfl, becomes⟩ := becomes
    exact ⟨(), valid.name, cuts, ⟨valid.cuts, becomes⟩, rfl⟩

theorem targets_isEmpty_iff {scope : Scope} : scope.targets.isEmpty = true ↔ scope = .beam := by
  cases scope <;> simp [Scope.targets]

theorem checkSelector_ok_iff {selector : Option String} {u : Unit} :
    checkSelector location selector = .ok u ↔ ∀ s ∈ selector, IsName s := by
  cases selector with
  | none => simp [checkSelector]
  | some s => simp [checkSelector, checkIdentifier_ok_iff]

theorem reduceBranch_ok_iff (location : String) (b : Draft.Branch) (request : BranchRequest) :
    reduceBranch location named b = .ok request ↔ b.IsValid named ∧ b.Becomes named request := by
  simp only [reduceBranch, ok_bind_iff, checkIdentifier_ok_iff]
  constructor
  · rintro ⟨_, name, made⟩
    split at made
    · cases made
    · rename_i targets
      rw [targets_isEmpty_iff] at targets
      simp only [ok_bind_iff, resolveAll_ok_iff, checkSelector_ok_iff, ok_pure_iff] at made
      obtain ⟨xs, resolved, _, selector, rfl⟩ := made
      have given := forall_isGiven_iff.2 ⟨xs, resolved⟩
      exact ⟨⟨name, targets, given, selector⟩, rfl, resolved, rfl, rfl⟩
  · rintro ⟨valid, becomes⟩
    obtain ⟨⟨name, parameters, selector⟩, scope⟩ := request
    obtain ⟨rfl, resolved, rfl, rfl⟩ := becomes
    refine ⟨(), valid.name, ?_⟩
    rw [if_neg (mt targets_isEmpty_iff.1 valid.scope)]
    simp only [ok_bind_iff, resolveAll_ok_iff, checkSelector_ok_iff, ok_pure_iff]
    exact ⟨parameters, resolved, (), valid.selector, rfl⟩

theorem reduceMode_ok_iff {text : String} {mode : Mode} :
    reduceMode location text = .ok mode ↔ mode.text = text := by
  unfold reduceMode Mode.ofText?
  constructor
  · intro h
    split at h
    · rename_i found
      cases h
      simpa using List.find?_some found
    · cases h
  · rintro rfl
    rcases mode with (_ | _) | _ <;> rfl

theorem exists_mode_iff {text : String} :
    (∃ mode : Mode, mode.text = text) ↔ text ∈ ["true", "reco", "event"] := by
  constructor
  · rintro ⟨(_ | _) | _, rfl⟩ <;> decide
  · intro h
    simp only [List.mem_cons, List.not_mem_nil, or_false] at h
    rcases h with rfl | rfl | rfl
    · exact ⟨.interactions .truth, rfl⟩
    · exact ⟨.interactions .reco, rfl⟩
    · exact ⟨.event, rfl⟩

/-- A check that gives an item the same with every position. -/
theorem checkEach_ok_iff {α β : Type} {check : Nat → α → Check β} {p : α → Prop} {r : α → β → Prop}
    (h : ∀ n x y, check n x = .ok y ↔ p x ∧ r x y) {xs : List α} {ys : List β} :
    checkEach check xs = .ok ys ↔ (∀ x ∈ xs, p x) ∧ List.Forall₂ r xs ys := by
  have items : List.Forall₂ (fun item : α × Nat => (r item.1 · : β → Prop)) xs.zipIdx ys ↔
      List.Forall₂ r (xs.zipIdx.map (·.1)) ys := List.forall₂_map_left_iff.symm
  have members : (∀ item ∈ xs.zipIdx, p item.1) ↔ ∀ x ∈ xs.zipIdx.map (·.1), p x :=
    List.forall_mem_map.symm
  simp only [checkEach, ok_mapM_iff, h, List.forall₂_and_left]
  rw [items, members, List.zipIdx_map_fst]

theorem reduceCuts_ok_iff {location : Nat → String} {cs : List Draft.Cut}
    {entries : List CutEntry} :
    checkEach (fun n => reduceCut (location n) named) cs = .ok entries ↔
      (∀ c ∈ cs, c.IsValid named) ∧ List.Forall₂ (Draft.Cut.Becomes named) cs entries :=
  checkEach_ok_iff fun n => reduceCut_ok_iff (location n)

theorem reduceBranches_ok_iff {location : Nat → String} {bs : List Draft.Branch}
    {requests : List BranchRequest} :
    checkEach (fun n => reduceBranch (location n) named) bs = .ok requests ↔
      (∀ b ∈ bs, b.IsValid named) ∧ List.Forall₂ (Draft.Branch.Becomes named) bs requests :=
  checkEach_ok_iff fun n => reduceBranch_ok_iff (location n)

theorem columns_of_becomes {bs : List Draft.Branch} {requests : List BranchRequest}
    (h : List.Forall₂ (Draft.Branch.Becomes named) bs requests) :
    requests.flatMap BranchRequest.columns = bs.flatMap Draft.Branch.columns := by
  have columns : bs.map Draft.Branch.columns = requests.map BranchRequest.columns := by
    refine map_eq_map_of_forall₂ h fun b _ request becomes => ?_
    obtain ⟨⟨name, parameters, selector⟩, scope⟩ := request
    obtain ⟨rfl, -, rfl, rfl⟩ := becomes
    rfl
  rw [List.flatMap_def, List.flatMap_def, columns]

theorem reduceTree_ok_iff {t : Draft.Tree} {tree : Tree} :
    reduceTree named t = .ok tree ↔ t.IsValid named ∧ t.Becomes named tree := by
  simp only [reduceTree, ok_bind_iff, checkIdentifier_ok_iff, reduceMode_ok_iff,
    checkUnique_ok_iff, ok_pure_iff]
  constructor
  · rintro ⟨_, name, mode, modeText, cuts, cutsMade, branches, branchesMade, _, unique, rfl⟩
    obtain ⟨validCuts, cutsBecome⟩ := reduceCuts_ok_iff.1 cutsMade
    obtain ⟨validBranches, branchesBecome⟩ := reduceBranches_ok_iff.1 branchesMade
    rw [columns_of_becomes branchesBecome] at unique
    exact ⟨⟨name, exists_mode_iff.1 ⟨mode, modeText⟩, validCuts, validBranches, unique⟩,
      rfl, modeText, rfl, rfl, cutsBecome, branchesBecome⟩
  · rintro ⟨valid, becomes⟩
    obtain ⟨name, mode, simOnly, addExposure, cuts, branches⟩ := tree
    obtain ⟨rfl, modeText, rfl, rfl, cutsBecome, branchesBecome⟩ := becomes
    refine ⟨(), valid.name, mode, modeText, cuts, reduceCuts_ok_iff.2 ⟨valid.cuts, cutsBecome⟩,
      branches, reduceBranches_ok_iff.2 ⟨valid.branches, branchesBecome⟩, (), ?_, rfl⟩
    rw [columns_of_becomes branchesBecome]
    exact valid.columns

/-! ## Drafts -/

end Config

namespace Draft.Becomes

variable {d : Draft} {digest : String} {c : Config}

theorem sampleNames (h : d.Becomes digest c) : c.samples.map (·.name) = d.samples.map (·.name) := by
  rw [h.samples, List.map_map]
  rfl

theorem categoryNames (h : d.Becomes digest c) :
    c.categories.map (·.name) = d.categories.map (·.name) :=
  (map_eq_map_of_forall₂ h.categories fun _ _ _ becomes => becomes.name.symm).symm

theorem treeNames (h : d.Becomes digest c) : c.trees.map (·.name) = d.trees.map (·.name) :=
  (map_eq_map_of_forall₂ h.trees fun _ _ _ becomes => becomes.name.symm).symm

end Draft.Becomes

namespace Config

/-- Reduction succeeds on a valid draft with what the draft becomes, and else fails. -/
theorem reduce_ok_iff {d : Draft} {digest : String} {c : Config} :
    reduce d digest = .ok c ↔ d.IsValid ∧ d.Becomes digest c := by
  have parameterNames {u : Unit} :
      (d.parameters.forM fun p => checkIdentifier "parameters" "parameter" p.1) = .ok u ↔
        ∀ p ∈ d.parameters, IsName p.1 := by
    rw [ok_forM_iff]
    exact forall₂_congr fun _ _ => checkIdentifier_ok_iff
  simp only [reduce, ok_bind_iff, parameterNames, checkUnique_ok_iff, ok_pure_iff,
    ok_mapM_map_iff fun _ _ => reduceSample_ok_iff, ok_mapM_iff, reduceCategory_ok_iff,
    reduceTree_ok_iff, List.forall₂_and_left]
  constructor
  · rintro ⟨_, parameters, _, ⟨samples, rfl⟩, _, sampleNames, categories,
      ⟨validCategories, categoriesBecome⟩, _, categoryNames, trees, ⟨validTrees, treesBecome⟩, _,
      treeNames, rfl⟩
    have becomes : d.Becomes digest ⟨d.output, _, categories, trees, digest⟩ :=
      ⟨rfl, rfl, categoriesBecome, treesBecome, rfl⟩
    exact ⟨{
      parameters := parameters
      samples := samples
      sampleNames := becomes.sampleNames ▸ sampleNames
      categories := validCategories
      categoryNames := becomes.categoryNames ▸ categoryNames
      trees := validTrees
      treeNames := becomes.treeNames ▸ treeNames }, becomes⟩
  · rintro ⟨valid, becomes⟩
    have sampleNames := becomes.sampleNames ▸ valid.sampleNames
    have categoryNames := becomes.categoryNames ▸ valid.categoryNames
    have treeNames := becomes.treeNames ▸ valid.treeNames
    obtain ⟨output, samples, categories, trees, digest⟩ := c
    obtain ⟨rfl, rfl, categoriesBecome, treesBecome, rfl⟩ := becomes
    exact ⟨(), valid.parameters, _, ⟨valid.samples, rfl⟩, (), sampleNames, categories,
      ⟨valid.categories, categoriesBecome⟩, (), categoryNames, trees, ⟨valid.trees, treesBecome⟩,
      (), treeNames, rfl⟩

/-- A configuration that was read is what a valid draft becomes. -/
theorem exists_draft_of_parse {text : String} {c : Config} (h : parse text = .ok c) :
    ∃ (d : Draft) (digest : String), d.IsValid ∧ d.Becomes digest c := by
  unfold parse at h
  split at h
  · exact ⟨_, _, reduce_ok_iff.1 h⟩
  · cases h

end Config

/-! ## Valid drafts become something -/

namespace Draft

variable {named : List (String × Float)}

theorem Cut.IsValid.exists_becomes {c : Draft.Cut} (h : c.IsValid named) :
    ∃ entry, c.Becomes named entry := by
  obtain ⟨object, typed⟩ := Option.ne_none_iff_exists'.1 h.typed
  obtain ⟨parameters, resolved⟩ := Config.forall_isGiven_iff.1 h.parameters
  exact ⟨⟨c.name, object, parameters, c.decrementsExposure⟩, rfl, typed, resolved, rfl⟩

theorem CategoryCut.IsValid.exists_becomes {c : Draft.CategoryCut} (h : c.IsValid named) :
    ∃ cut, c.Becomes named cut := by
  obtain ⟨parameters, resolved⟩ := Config.forall_isGiven_iff.1 h.parameters
  exact ⟨⟨c.name, parameters⟩, rfl, resolved⟩

theorem Category.IsValid.exists_becomes {c : Draft.Category} (h : c.IsValid named) :
    ∃ category, c.Becomes named category := by
  obtain ⟨cuts, become⟩ := exists_forall₂_iff.2 fun cut hcut => (h.cuts cut hcut).exists_becomes
  exact ⟨⟨c.name, cuts⟩, rfl, become⟩

theorem Branch.IsValid.exists_becomes {b : Draft.Branch} (h : b.IsValid named) :
    ∃ request, b.Becomes named request := by
  obtain ⟨parameters, resolved⟩ := Config.forall_isGiven_iff.1 h.parameters
  exact ⟨⟨⟨b.name, parameters, b.selector⟩, b.scope⟩, rfl, resolved, rfl, rfl⟩

theorem Tree.IsValid.exists_becomes {t : Draft.Tree} (h : t.IsValid named) :
    ∃ tree, t.Becomes named tree := by
  obtain ⟨mode, modeText⟩ := Config.exists_mode_iff.2 h.mode
  obtain ⟨cuts, cutsBecome⟩ := exists_forall₂_iff.2 fun c hc => (h.cuts c hc).exists_becomes
  obtain ⟨branches, branchesBecome⟩ :=
    exists_forall₂_iff.2 fun b hb => (h.branches b hb).exists_becomes
  exact ⟨⟨t.name, mode, t.simOnly, t.addExposure, cuts, branches⟩, rfl, modeText, rfl, rfl,
    cutsBecome, branchesBecome⟩

theorem IsValid.exists_becomes {d : Draft} (h : d.IsValid) (digest : String) :
    ∃ c, d.Becomes digest c := by
  obtain ⟨categories, categoriesBecome⟩ :=
    exists_forall₂_iff.2 fun c hc => (h.categories c hc).exists_becomes
  obtain ⟨trees, treesBecome⟩ := exists_forall₂_iff.2 fun t ht => (h.trees t ht).exists_becomes
  exact ⟨⟨d.output, d.samples.map Sample.reduced, categories, trees, digest⟩, rfl, rfl,
    categoriesBecome, treesBecome, rfl⟩

end Draft

/-- Reduction succeeds exactly on valid drafts, and makes of each what the draft becomes. -/
theorem reduce_accepts_valid (d : Draft) (digest : String) :
    ((∃ c, Config.reduce d digest = .ok c) ↔ d.IsValid) ∧
    ∀ c, Config.reduce d digest = .ok c → d.Becomes digest c := by
  refine ⟨⟨?_, fun valid => ?_⟩, fun c reduced => (Config.reduce_ok_iff.1 reduced).2⟩
  · rintro ⟨c, reduced⟩
    exact (Config.reduce_ok_iff.1 reduced).1
  · obtain ⟨c, becomes⟩ := valid.exists_becomes digest
    exact ⟨c, Config.reduce_ok_iff.2 ⟨valid, becomes⟩⟩

/-- A draft that uses one parameter in a category, in a negated cut and in a branch. -/
def threeReferences : Draft where
  output := "o"
  parameters := [("least", 0.5)]
  samples := [⟨"mc", "r", true, false⟩]
  categories := [⟨"numu", [⟨"energetic", [.reference "@least", .number 2]⟩]⟩]
  trees := [{
    name := "t"
    mode := "reco"
    cuts := [⟨"!energetic", some (.interaction .reco), [.number 1, .reference "@least"], false⟩]
    branches := [⟨"energy", .bothParticles, [.reference "@least"], some "leading"⟩] }]

/-- The configuration that it becomes. -/
def threeNumbers : Config where
  output := "o"
  samples := [⟨"mc", "r", true, false⟩]
  categories := [⟨"numu", [⟨"energetic", [0.5, 2]⟩]⟩]
  trees := [⟨"t", .interactions .reco, false, false,
    [⟨"!energetic", .interaction .reco, [1, 0.5], false⟩],
    [⟨⟨"energy", [0.5], some "leading"⟩, .bothParticles⟩]⟩]
  digest := "d"

theorem reduce_threeReferences : Config.reduce threeReferences "d" = .ok threeNumbers := by
  rfl

/-- So the draft is valid, and nothing but its references is changed. -/
theorem reduce_accepts_valid_threeReferences :
    threeReferences.IsValid ∧ threeReferences.Becomes "d" threeNumbers := by
  obtain ⟨accepted, becomes⟩ := reduce_accepts_valid threeReferences "d"
  exact ⟨accepted.1 ⟨threeNumbers, reduce_threeReferences⟩,
    becomes threeNumbers reduce_threeReferences⟩

end SpillSelection
