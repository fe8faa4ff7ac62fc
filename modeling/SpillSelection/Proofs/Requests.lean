import SpillSelection.Proofs.CutLists
/-!
# Requests that compile

When a request compiles, and to what. `branch_ok_iff` is the whole compiler in one statement: a
request for rows of interactions compiles when it has no fault, its cuts are on offer and its
variable is, and then its branch takes the values of an extraction on every row that passes.
`compiles_iff_wellFormed` collects the conditions for all modes, and shows that the kind of sample
plays no part in them.
-/

namespace SpillSelection

/-! ## Variables -/

namespace Catalog

variable {c : Catalog} {s : Side} {v : VariableEntry}

/-- The particle that a selector picks. -/
def selected? (c : Catalog) (selector : String) (i : Interaction s) : Option (Particle s) :=
  match c.selectorTables.function? (.interaction s) selector with
  | some f => (f.apply [] i).bind (i.particles[·]?)
  | none => none

/-- The number that a variable gives for an interaction, with a selector that of the particle it
picks. -/
def interactionValue (c : Catalog) (v : VariableEntry) (i : Interaction s) : Float :=
  match v.selector with
  | none => c.value (.interaction s) v i
  | some selector => valueOr (c.value (.particle s) v) (c.selected? selector i)

/-- Whether a variable of interactions is on offer; a selector takes no parameters. -/
def offersOnInteraction (c : Catalog) (s : Side) (v : VariableEntry) : Bool :=
  match v.selector with
  | none => c.variableTables.offers (.interaction s) v.name v.parameters.length
  | some selector => c.selectorTables.offers (.interaction s) selector 0 &&
    c.variableTables.offers (.particle s) v.name v.parameters.length

/-- Whether a variable is on offer for a target. -/
def offersOn (c : Catalog) (v : VariableEntry) : Target → Bool
  | .event => c.variableTables.offers .event v.name v.parameters.length
  | .neutrino => c.variableTables.offers .neutrino v.name v.parameters.length
  | .interaction t => c.offersOnInteraction t v
  | .particle t =>
    if v.selector.isSome then c.offersOnInteraction t v
    else c.variableTables.offers (.particle t) v.name v.parameters.length

/-- The values that a request takes of a row. -/
def extraction (c : Catalog) (simulated : Bool) (cuts : List BoundCut) (v : VariableEntry) :
    Target → Extractor s
  | .event => .ofEvent (c.value .event v)
  | .neutrino => .ofNeutrino (c.value .neutrino v)
  | .interaction t => .ofInteraction t (c.interactionValue v)
  | .particle t =>
    if v.selector.isSome then .ofInteraction t (c.interactionValue v)
    else .ofParticles simulated cuts t (c.value (.particle t) v)

theorem interactionVariable_ok_iff {f : Interaction s → Float} :
    c.interactionVariable s v = .ok f ↔
      c.offersOnInteraction s v = true ∧ c.interactionValue v = f := by
  unfold interactionVariable offersOnInteraction
  cases hs : v.selector with
  | none =>
    have same : c.interactionValue v = c.value (.interaction s) v := by
      funext i
      simp only [interactionValue, hs]
    rw [same]
    exact bindVariable_ok_iff
  | some selector =>
    have picks (g : Signature (Interaction s) (Option Nat))
        (hg : c.selectorTables.function? (.interaction s) selector = some g) :
        ofSelected (g.apply []) (c.value (.particle s) v) = c.interactionValue v := by
      funext i
      simp only [interactionValue, hs, selected?, hg, ofSelected]
    rw [ok_bind_iff, Bool.and_eq_true]
    constructor
    · rintro ⟨select, hsel, hval⟩
      obtain ⟨g, hg, -, rfl⟩ := Tables.bind_ok_iff.1 hsel
      obtain ⟨offered, rfl⟩ := (ok_return_iff fun _ => bindVariable_ok_iff).1 hval
      exact ⟨⟨Tables.bind_succeeds_iff.1 ⟨_, hsel⟩, offered⟩, (picks g hg).symm⟩
    · rintro ⟨⟨selects, offered⟩, rfl⟩
      obtain ⟨select, hsel⟩ :
          ∃ select, c.selectorTables.bind (.interaction s) selector [] = .ok select :=
        Tables.bind_succeeds_iff.2 selects
      obtain ⟨g, hg, -, rfl⟩ := Tables.bind_ok_iff.1 hsel
      exact ⟨_, hsel, (ok_return_iff fun _ => bindVariable_ok_iff).2 ⟨offered, picks g hg⟩⟩

theorem extractor_ok_iff {simulated : Bool} {cuts : List BoundCut} {target : Target}
    {extract : Extractor s} :
    c.extractor simulated cuts v target = .ok extract ↔
      c.offersOn v target = true ∧ c.extraction simulated cuts v target = extract := by
  unfold extractor offersOn extraction
  rcases target with t | t | _ | _
  · exact ok_return_iff fun _ => interactionVariable_ok_iff
  · dsimp only
    split
    · exact ok_return_iff fun _ => interactionVariable_ok_iff
    · exact ok_return_iff fun _ => bindVariable_ok_iff
  · exact ok_return_iff fun _ => bindVariable_ok_iff
  · exact ok_return_iff fun _ => bindVariable_ok_iff

/-! ## Requests -/

/-- The values that a request takes of a spill. -/
def evaluation (c : Catalog) (simulated : Bool) (cuts : List BoundCut) (v : VariableEntry)
    (target : Target) : Mode → Spill → List Float
  | .event => ofPassing (BoundCut.onEvents cuts) (c.value .event v)
  | .interactions s => Extractor.evaluate (s := s) (c.extraction simulated cuts v target)
    simulated cuts

theorem evaluator_ok_iff {simulated : Bool} {cuts : List BoundCut} {mode : Mode} {target : Target}
    {f : Spill → List Float} :
    c.evaluator cuts v mode target simulated = .ok f ↔
      ((mode = .event → target = .event) ∧ c.offersOn v target = true) ∧
        c.evaluation simulated cuts v target mode = f := by
  unfold evaluator evaluation
  rcases mode with s | _
  · simpa using ok_return_iff fun _ => extractor_ok_iff
  · by_cases same : target = .event
    · subst same
      simpa [offersOn] using ok_return_iff fun _ => bindVariable_ok_iff
    · simp [same, throw, throwThe, MonadExceptOf.throw]

end Catalog

theorem VariableEntry.fault?_eq_none_iff {v : VariableEntry} {target : Target} :
    v.fault? target = none ↔ v.name ≠ "" ∧ (v.selector.isSome → target.side?.isSome) := by
  unfold fault?
  split
  case isTrue empty => simp [empty]
  case isFalse named => cases v.selector <;> cases target.side? <;> simp [named]

/-- A request that a catalog can meet in a mode. -/
structure Catalog.WellFormed (c : Catalog) (entries : List CutEntry) (v : VariableEntry)
    (mode : Mode) (target : Target) : Prop where
  named : v.name ≠ ""
  /-- A selector comes with a target on one side. -/
  selectable : v.selector.isSome → target.side?.isSome
  offered : ∀ e ∈ entries, (baseName e.name).1 ≠ "" ∧
    c.cutTables.offers e.object.objectType (baseName e.name).1 e.parameters.length = true
  eventCuts : mode = .event → ∀ e ∈ entries, e.object = .event ∨ e.object = .beam
  eventTarget : mode = .event → target = .event
  plain : v.selector = none →
    c.variableTables.offers target.objectType v.name v.parameters.length = true
  lifted : ∀ selector t, v.selector = some selector → target.side? = some t →
    c.selectorTables.offers (.interaction t) selector 0 = true ∧
      c.variableTables.offers (.particle t) v.name v.parameters.length = true

variable {c : Catalog} {entries : List CutEntry} {v : VariableEntry} {mode : Mode} {target : Target}
  {simulated : Bool}

theorem Catalog.offersOn_iff (selectable : v.selector.isSome → target.side?.isSome) :
    c.offersOn v target = true ↔
      (v.selector = none →
        c.variableTables.offers target.objectType v.name v.parameters.length = true) ∧
      ∀ selector t, v.selector = some selector → target.side? = some t →
        c.selectorTables.offers (.interaction t) selector 0 = true ∧
          c.variableTables.offers (.particle t) v.name v.parameters.length = true := by
  unfold offersOn offersOnInteraction
  cases hs : v.selector with
  | none => cases target <;> simp [Target.objectType]
  | some selector =>
    rw [hs] at selectable
    cases target <;> simp_all [Target.side?]

theorem Mode.allows_iff (object : CutObject) :
    mode.allows object = true ↔ (mode = .event → object = .event ∨ object = .beam) := by
  unfold allows
  cases mode <;> cases object <;> simp

/-- A request compiles when it is well formed, and then to its evaluation by the cuts that take
part. -/
theorem branch_ok_iff {b : Branch} :
    c.branch entries v mode target simulated = .ok b ↔ c.WellFormed entries v mode target ∧
      ⟨v.branchName target, c.evaluation simulated
        (entries.filterMap (c.participant? simulated)) v target mode⟩ = b := by
  have good : c.WellFormed entries v mode target ↔ v.fault? target = none ∧
      (∀ e ∈ entries, mode.allows e.object = true ∧ c.offersEntry e = true) ∧
      (mode = .event → target = .event) ∧ c.offersOn v target = true := by
    simp only [VariableEntry.fault?_eq_none_iff, Mode.allows_iff]
    constructor
    · intro w
      refine ⟨⟨w.named, w.selectable⟩, fun e he => ⟨fun h => w.eventCuts h e he, ?_⟩,
        w.eventTarget, (Catalog.offersOn_iff w.selectable).2 ⟨w.plain, w.lifted⟩⟩
      simpa [Catalog.offersEntry, Catalog.offersCut] using w.offered e he
    · rintro ⟨⟨named, selectable⟩, cuts, eventTarget, offers⟩
      obtain ⟨plain, lifted⟩ := (Catalog.offersOn_iff selectable).1 offers
      refine ⟨named, selectable, fun e he => ?_, fun h e he => (cuts e he).1 h, eventTarget, plain,
        lifted⟩
      simpa [Catalog.offersEntry, Catalog.offersCut] using (cuts e he).2
  unfold Catalog.branch
  rw [good]
  cases v.fault? target with
  | some e => simp [throw, throwThe, MonadExceptOf.throw]
  | none =>
    simp only [ok_bind_iff, boundCuts_ok_iff, Catalog.evaluator_ok_iff, ok_pure_iff,
      true_and]
    constructor
    · rintro ⟨cuts, ⟨entriesGood, rfl⟩, f, ⟨⟨eventTarget, offers⟩, rfl⟩, rfl⟩
      exact ⟨⟨entriesGood, eventTarget, offers⟩, rfl⟩
    · rintro ⟨⟨entriesGood, eventTarget, offers⟩, rfl⟩
      exact ⟨_, ⟨entriesGood, rfl⟩, _, ⟨⟨eventTarget, offers⟩, rfl⟩, rfl⟩

theorem outcome_extractor {s : Side} (cuts cuts' : List BoundCut) (simulated simulated' : Bool) :
    outcome (c.extractor simulated cuts v target : Except SelectionError (Extractor s)) =
      outcome (c.extractor simulated' cuts' v target : Except SelectionError (Extractor s)) := by
  unfold Catalog.extractor
  rcases target with t | t | _ | _
  · rfl
  · dsimp only
    split
    · rfl
    · exact outcome_bind_congr rfl fun _ _ => rfl
  · rfl
  · rfl

theorem outcome_evaluator (cuts cuts' : List BoundCut) (simulated simulated' : Bool) :
    outcome (c.evaluator cuts v mode target simulated) =
      outcome (c.evaluator cuts' v mode target simulated') := by
  unfold Catalog.evaluator
  rcases mode with s | _
  · exact outcome_bind_congr (outcome_extractor (s := s) cuts cuts' simulated simulated')
      fun _ _ => rfl
  · dsimp only
    split
    · rfl
    · exact outcome_bind_congr rfl fun _ _ => rfl

/-- A request ends the same way for both kinds of sample. -/
theorem outcome_branch (simulated simulated' : Bool) :
    outcome (c.branch entries v mode target simulated) =
      outcome (c.branch entries v mode target simulated') := by
  unfold Catalog.branch
  dsimp only
  split
  · rfl
  refine outcome_bind_congr (outcome_boundCuts entries simulated') fun cuts cuts' => ?_
  exact outcome_bind_congr (outcome_evaluator cuts cuts' simulated simulated') fun _ _ => rfl

/-! ## Exposure -/

/-- Cuts that exposure can be counted with: those that are flagged for it are on offer, and are
about spills or their beam records. -/
def Catalog.CountsExposure (c : Catalog) (entries : List CutEntry) : Prop :=
  ∀ e ∈ entries, e.decrementsExposure → (e.object = .event ∨ e.object = .beam) ∧
    (baseName e.name).1 ≠ "" ∧
    c.cutTables.offers e.object.objectType (baseName e.name).1 e.parameters.length = true

/-- The cut of an entry in counting exposure, if it is about spills or their beam records. -/
def Catalog.exposureCut? (c : Catalog) (e : CutEntry) : Option ExposureCut :=
  match e.object with
  | .event => some (.event (c.holds .event e.name e.parameters))
  | .beam => some (.beam (c.holds .beam e.name e.parameters))
  | _ => none

theorem exposureCut_ok_iff {e : CutEntry} {x : ExposureCut} :
    c.exposureCut e = .ok x ↔ c.offersEntry e = true ∧ c.exposureCut? e = some x := by
  unfold Catalog.exposureCut Catalog.exposureCut? Catalog.offersEntry
  rcases e.object with s | s | _ | _
  · simp [throw, throwThe, MonadExceptOf.throw]
  · simp [throw, throwThe, MonadExceptOf.throw]
  · rw [Option.some.injEq]
    exact ok_return_iff fun _ => Catalog.bindCut_ok_iff
  · rw [Option.some.injEq]
    exact ok_return_iff fun _ => Catalog.bindCut_ok_iff

theorem exposureCut_succeeds_iff {e : CutEntry} :
    (∃ x, c.exposureCut e = .ok x) ↔
      (e.object = .event ∨ e.object = .beam) ∧ c.offersEntry e = true := by
  have counted : (∃ x, c.exposureCut? e = some x) ↔ e.object = .event ∨ e.object = .beam := by
    unfold Catalog.exposureCut?
    cases e.object <;> simp
  simp only [exposureCut_ok_iff, exists_and_left, counted]
  exact and_comm

/-- Requests and exposure compile exactly when they are well formed, and when they do not they fail
with one error for both kinds of sample. Only flagged cuts matter to exposure. -/
theorem compiles_iff_wellFormed (c : Catalog) (entries : List CutEntry) (v : VariableEntry)
    (mode : Mode) (target : Target) :
    outcome (c.branch entries v mode target true) =
        outcome (c.branch entries v mode target false) ∧
      (∀ simulated, (∃ b, c.branch entries v mode target simulated = .ok b) ↔
        c.WellFormed entries v mode target) ∧
      outcome (c.exposureBranches entries true) = outcome (c.exposureBranches entries false) ∧
      ∀ simulated, outcome (c.exposureBranches entries simulated) =
          outcome (c.exposureBranches (entries.filter (·.decrementsExposure)) simulated) ∧
        ((∃ bs, c.exposureBranches entries simulated = .ok bs) ↔ c.CountsExposure entries) := by
  refine ⟨outcome_branch true false, fun simulated => ?_, ?_, fun simulated => ⟨?_, ?_⟩⟩
  · simp [branch_ok_iff]
  · exact outcome_bind_congr rfl fun _ _ => rfl
  · unfold Catalog.exposureBranches
    rw [List.filter_filter]
    simp only [Bool.and_self]
  · have offered (e : CutEntry) : c.offersEntry e = true ↔ (baseName e.name).1 ≠ "" ∧
        c.cutTables.offers e.object.objectType (baseName e.name).1 e.parameters.length = true := by
      simp [Catalog.offersEntry, Catalog.offersCut]
    calc (∃ bs, c.exposureBranches entries simulated = .ok bs)
        ↔ ∃ cuts, (entries.filter (·.decrementsExposure)).mapM c.exposureCut = .ok cuts := by
          simp [Catalog.exposureBranches]
      _ ↔ ∀ e ∈ entries.filter (·.decrementsExposure),
            (e.object = .event ∨ e.object = .beam) ∧ c.offersEntry e = true := by
          simp only [mapM_succeeds_iff, exposureCut_succeeds_iff]
      _ ↔ c.CountsExposure entries := by
          simp only [List.mem_filter, offered, Catalog.CountsExposure, and_imp]

end SpillSelection
