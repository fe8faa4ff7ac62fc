import SpillSelection.Proofs.CutSets
/-!
# Inverted cuts

A `!` in front of a cut's name inverts what the cut says of an object. What becomes of a row is
another matter, as the object may be missing or the cut may take no part: a further cut and its
inverse may also both keep a row that passed so far, or both reject it. `Share` names the three
cases, `CutObject.share` says which one it is for a row, and `inverse_shares_rows` proves it.
-/

namespace SpillSelection

/-- The cut with a `!` in front of its name. -/
def CutEntry.inverse (e : CutEntry) : CutEntry := { e with name := "!" ++ e.name }

/-! ## Shares -/

/-- Which of a cut and its inverse keep an object. -/
inductive Share where
  | exactlyOne
  | both
  | neither
deriving DecidableEq

namespace Share

/-- Whether this is how a cut and its inverse keep an object. -/
def Holds : Share → (cut inverse : Bool) → Prop
  | exactlyOne, cut, inverse => cut ≠ inverse
  | both, cut, inverse => cut = true ∧ inverse = true
  | neither, cut, inverse => cut = false ∧ inverse = false

instance : (share : Share) → (cut inverse : Bool) → Decidable (share.Holds cut inverse)
  | exactlyOne, cut, inverse => inferInstanceAs (Decidable (cut ≠ inverse))
  | both, cut, inverse => inferInstanceAs (Decidable (cut = true ∧ inverse = true))
  | neither, cut, inverse => inferInstanceAs (Decidable (cut = false ∧ inverse = false))

theorem exactlyOne_of_not {cut inverse : Bool} (h : inverse = !cut) :
    exactlyOne.Holds cut inverse := by
  subst h
  simp [Holds]

/-- The share of an object by cuts on a side, where it may be missing. -/
def ofObject {α : Type} (simulated : Bool) (t : Side) (object : Option α) : Share :=
  if t = .truth ∧ ¬simulated then both
  else match object with
    | some _ => exactlyOne
    | none => if simulated then neither else both

end Share

variable {s : Side}

/-- The share of a row by cuts on an object. On simulation an unmatched row fails cuts on the other
side, and on data it passes them; beam records are not simulated, and may be missing on data. -/
def CutObject.share (object : CutObject) (simulated : Bool) (spill : Spill) (row : Row s) : Share :=
  match object with
  | .interaction t => .ofObject simulated t (row.on t)
  | .particle _ => .both
  | .event => .exactlyOne
  | .beam =>
    if simulated then .both
    else if spill.header.beam.isSome then .exactlyOne
    else .neither

/-- The share of a particle by cuts on an object. -/
def CutObject.particleShare (object : CutObject) (simulated : Bool) (spill : Spill)
    (p : Particle s) : Share :=
  match object with
  | .particle t => .ofObject simulated t (spill.particleCounterpart? p t)
  | _ => .both

/-! ## Inverted names -/

theorem baseName_inverse (name : String) : baseName ("!" ++ name) = (name, true) := by
  have first : ("!" ++ name).toList = '!' :: name.toList := by simp
  simp [baseName, first]

theorem baseName_of_plain {name : String} (plain : (baseName name).2 = false) :
    baseName name = (name, false) := by
  unfold baseName at plain ⊢
  split
  case h_1 inverted => simp [inverted] at plain
  case h_2 => rfl

namespace Catalog

variable {c : Catalog} {o : ObjectType} {name : String} {parameters : List Float} {e : CutEntry}

theorem offersCut_inverse (plain : (baseName name).2 = false) (count : Nat) :
    c.offersCut o ("!" ++ name) count = c.offersCut o name count := by
  simp only [offersCut, baseName_inverse, baseName_of_plain plain]

/-- A cut that is on offer and its inverse disagree on every object. -/
theorem holds_inverse (plain : (baseName name).2 = false)
    (offered : c.offersCut o name parameters.length = true) (x : o.Carrier) :
    c.holds o ("!" ++ name) parameters x = !c.holds o name parameters x := by
  obtain ⟨f, hf, -⟩ : ∃ f, c.cutTables.function? o name = some f ∧
      f.arity.admits parameters.length = true := by
    -- A name that is not registered would say no both ways.
    simpa [offersCut, baseName_of_plain plain, Tables.offers, Option.any_eq_true] using
      (Bool.and_eq_true_iff.1 offered).2
  simp [holds, baseName_inverse, baseName_of_plain plain, hf]

theorem offersEntry_inverse (plain : (baseName e.name).2 = false) :
    c.offersEntry e.inverse = c.offersEntry e :=
  offersCut_inverse plain _

end Catalog

/-! ## Shares of rows and particles -/

theorem verdict_share {α : Type} {cut inverse : α → Bool} (opposite : ∀ a, inverse a = !cut a)
    (simulated : Bool) (t : Side) (object : Option α) :
    (Share.ofObject simulated t object).Holds (verdict simulated t cut object)
      (verdict simulated t inverse object) := by
  unfold Share.ofObject verdict
  split
  case isTrue => exact ⟨rfl, rfl⟩
  case isFalse =>
    cases object with
    | some a => exact Share.exactlyOne_of_not (opposite a)
    | none => cases simulated <;> exact ⟨rfl, rfl⟩

/-- Where a cut takes part, the object that it reads on a row is the one that a variable reads. -/
theorem Share.ofObject_subject? (simulated : Bool) (spill : Spill) (i : Interaction s) (t : Side) :
    Share.ofObject simulated t (spill.subject? simulated i t) =
      Share.ofObject simulated t (spill.counterpart? i t) := by
  cases s <;> cases t <;> cases simulated <;> rfl

section

variable {c : Catalog} {e : CutEntry} {simulated : Bool}

theorem cutAllows_share (plain : (baseName e.name).2 = false) (offered : c.offersEntry e = true)
    (spill : Spill) (i : Interaction s) :
    (e.object.share simulated spill (Row.ofInteraction simulated spill i)).Holds
      (c.cutAllows simulated spill i e) (c.cutAllows simulated spill i e.inverse) := by
  obtain ⟨name, object, parameters, _⟩ := e
  have opposite (x : object.objectType.Carrier) :
      c.holds object.objectType ("!" ++ name) parameters x =
        !c.holds object.objectType name parameters x :=
    Catalog.holds_inverse plain offered x
  rcases object with t | t | _ | _
  · simp only [CutObject.share, Row.on_ofInteraction, Share.ofObject_subject?]
    exact verdict_share opposite simulated t _
  · exact ⟨rfl, rfl⟩
  · exact Share.exactlyOne_of_not (opposite spill)
  · simp only [CutObject.share, Catalog.cutAllows, CutEntry.inverse]
    cases simulated with
    | true => exact ⟨rfl, rfl⟩
    | false =>
      cases spill.header.beam with
      | none => exact ⟨rfl, rfl⟩
      | some beam => exact Share.exactlyOne_of_not (opposite beam)

theorem particleCutAllows_share (plain : (baseName e.name).2 = false)
    (offered : c.offersEntry e = true) (spill : Spill) (p : Particle s) :
    (e.object.particleShare simulated spill p).Holds (c.particleCutAllows simulated spill p e)
      (c.particleCutAllows simulated spill p e.inverse) := by
  obtain ⟨name, object, parameters, _⟩ := e
  rcases object with t | t | _ | _
  · exact ⟨rfl, rfl⟩
  · exact verdict_share (Catalog.holds_inverse plain offered) simulated t _
  · exact ⟨rfl, rfl⟩
  · exact ⟨rfl, rfl⟩

/-! ## One more cut -/

theorem rows_append (entries : List CutEntry) (spill : Spill) :
    spill.rows simulated ((entries ++ [e]).filterMap (c.participant? simulated)) s =
      (spill.rows simulated (entries.filterMap (c.participant? simulated)) s).filter fun row =>
        c.cutAllows simulated spill row.own e := by
  have last : c.rowPasses (s := s) (entries ++ [e]) simulated spill =
      fun i => c.cutAllows simulated spill i e && c.rowPasses entries simulated spill i := by
    funext i
    simp [Catalog.rowPasses, List.all_append, Bool.and_comm]
  rw [rows_eq_map_passing, rows_eq_map_passing, List.filter_map, Catalog.passing, last,
    ← List.filter_filter]
  rfl

theorem qualifies_append (entries : List CutEntry) (spill : Spill) (p : Particle s) :
    Particle.qualifies simulated ((entries ++ [e]).filterMap (c.participant? simulated)) spill p =
      (Particle.qualifies simulated (entries.filterMap (c.participant? simulated)) spill p &&
        c.particleCutAllows simulated spill p e) := by
  simp only [participants_qualify, List.all_append, List.all_cons, List.all_nil, Bool.and_true]

theorem boundCuts_append_inverse (plain : (baseName e.name).2 = false) {mode : Mode}
    {entries : List CutEntry} {withCut : List BoundCut}
    (h : c.boundCuts mode simulated (entries ++ [e]) = .ok withCut) :
    c.offersEntry e = true ∧
      c.boundCuts mode simulated entries =
        .ok (entries.filterMap (c.participant? simulated)) ∧
      c.boundCuts mode simulated (entries ++ [e.inverse]) =
        .ok ((entries ++ [e.inverse]).filterMap (c.participant? simulated)) ∧
      (entries ++ [e]).filterMap (c.participant? simulated) = withCut := by
  obtain ⟨good, taking⟩ := boundCuts_ok_iff.1 h
  obtain ⟨allowed, offered⟩ := good e (by simp)
  have earlier : ∀ e' ∈ entries, mode.allows e'.object = true ∧ c.offersEntry e' = true :=
    fun e' he' => good e' (by simp [he'])
  refine ⟨offered, boundCuts_ok_iff.2 ⟨earlier, rfl⟩, boundCuts_ok_iff.2 ⟨fun e' he' => ?_, rfl⟩,
    taking⟩
  rcases List.mem_append.1 he' with he' | he'
  · exact earlier e' he'
  · obtain rfl : e' = e.inverse := by simpa using he'
    exact ⟨allowed, (Catalog.offersEntry_inverse plain).trans offered⟩

/-- Behind a list of cuts, a cut and its inverse share the rows that the list lets pass as
`CutObject.share` says, and the particles as `CutObject.particleShare` says. If the cut compiles, so
does its inverse. -/
theorem inverse_shares_rows {entries : List CutEntry} {withCut : List BoundCut}
    (plain : (baseName e.name).2 = false)
    (h : c.boundCuts (.interactions s) simulated (entries ++ [e]) = .ok withCut) :
    ∃ cuts withInverse,
      c.boundCuts (.interactions s) simulated entries = .ok cuts ∧
      c.boundCuts (.interactions s) simulated (entries ++ [e.inverse]) = .ok withInverse ∧
      ∀ spill : Spill,
        (∃ byCut byInverse : Row s → Bool,
          spill.rows simulated withCut s = (spill.rows simulated cuts s).filter byCut ∧
          spill.rows simulated withInverse s = (spill.rows simulated cuts s).filter byInverse ∧
          ∀ row ∈ spill.rows simulated cuts s,
            (e.object.share simulated spill row).Holds (byCut row) (byInverse row)) ∧
        ∀ t, ∀ p : Particle t, p.qualifies simulated cuts spill = true →
          (e.object.particleShare simulated spill p).Holds (p.qualifies simulated withCut spill)
            (p.qualifies simulated withInverse spill) := by
  obtain ⟨offered, hcuts, hinverse, rfl⟩ := boundCuts_append_inverse plain h
  refine ⟨_, _, hcuts, hinverse, fun spill => ⟨⟨_, _, rows_append entries spill,
    rows_append entries spill, fun row hrow => ?_⟩, fun t p qualifies => ?_⟩⟩
  · rw [rows_eq_map_passing] at hrow
    obtain ⟨i, -, rfl⟩ := List.mem_map.1 hrow
    exact cutAllows_share plain offered spill i
  · rw [qualifies_append, qualifies_append, qualifies, Bool.true_and, Bool.true_and]
    exact particleCutAllows_share plain offered spill p

end

/-- The interactions that are matched with a contained truth interaction. -/
def containedTruthCut : CutEntry := { name := "contained", object := .interaction .truth }

/-- Of two rows the inverse of a truth cut keeps the matched one, and neither keeps the other. -/
theorem inverse_shares_rows_matchedSpill :
    ∃ withCut cuts withInverse,
      containedCatalog.boundCuts (.interactions .reco) true [containedCut, containedTruthCut] =
        .ok withCut ∧
      containedCatalog.boundCuts (.interactions .reco) true [containedCut] = .ok cuts ∧
      containedCatalog.boundCuts (.interactions .reco) true
        [containedCut, containedTruthCut.inverse] = .ok withInverse ∧
      (matchedSpill.rows true cuts .reco).map (·.own.id) = [0, 1] ∧
      (matchedSpill.rows true withCut .reco).map (·.own.id) = [] ∧
      (matchedSpill.rows true withInverse .reco).map (·.own.id) = [0] ∧
      ∃ byCut byInverse : Row .reco → Bool,
        matchedSpill.rows true withCut .reco = (matchedSpill.rows true cuts .reco).filter byCut ∧
        matchedSpill.rows true withInverse .reco =
          (matchedSpill.rows true cuts .reco).filter byInverse ∧
        ∀ row ∈ matchedSpill.rows true cuts .reco,
          (containedTruthCut.object.share true matchedSpill row).Holds (byCut row)
            (byInverse row) := by
  have compiles : ∃ withCut, containedCatalog.boundCuts (.interactions .reco) true
      ([containedCut] ++ [containedTruthCut]) = .ok withCut := ⟨_, rfl⟩
  obtain ⟨withCut, h⟩ := compiles
  obtain ⟨cuts, withInverse, hcuts, hinverse, law⟩ := inverse_shares_rows rfl h
  have rows := (law matchedSpill).1
  refine ⟨withCut, cuts, withInverse, h, hcuts, hinverse, ?_, ?_, ?_, rows⟩
  · cases hcuts
    rfl
  · cases h
    rfl
  · cases hinverse
    rfl

end SpillSelection
