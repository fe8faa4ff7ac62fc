import SpillSelection.Exposure
import SpillSelection.Proofs.Outcome
/-!
# Names that resolve

Which names a catalog offers and what they compute, said without looking anything up in steps:
`Catalog.holds` is what a cut says of an object and `Catalog.value` what a variable gives.
`bindCut_ok_iff` and `bindVariable_ok_iff` show that binding a name yields exactly these, and that
it succeeds exactly on the names on offer; nothing later opens the lookup again.
-/

namespace SpillSelection

/-! ## Tables -/

theorem Signature.bind_ok_iff {T R : Type} {f : Signature T R} {called : String}
    {parameters : List Float} {g : T → R} :
    f.bind called parameters = .ok g ↔
      f.arity.admits parameters.length = true ∧ f.apply parameters = g := by
  unfold bind
  split <;> simp_all

namespace Tables

variable {R : Type}

/-- The function of a base name for an object type. -/
def function? (t : Tables R) (o : ObjectType) (base : String) : Option (Signature o.Carrier R) :=
  (t.get o).find? (o.canonicalName base)

/-- Whether a base name is registered for an object type and takes so many parameters. -/
def offers (t : Tables R) (o : ObjectType) (base : String) (count : Nat) : Bool :=
  (t.function? o base).any fun f => f.arity.admits count

theorem bind_ok_iff {t : Tables R} {o : ObjectType} {base : String} {parameters : List Float}
    {g : o.Carrier → R} :
    t.bind o base parameters = .ok g ↔ ∃ f, t.function? o base = some f ∧
      f.arity.admits parameters.length = true ∧ f.apply parameters = g := by
  unfold bind lookup function?
  simp only [ok_bind_iff, ok_mapError_iff, Registry.get_ok_iff, Signature.bind_ok_iff]

theorem bind_succeeds_iff {t : Tables R} {o : ObjectType} {base : String}
    {parameters : List Float} :
    (∃ g, t.bind o base parameters = .ok g) ↔ t.offers o base parameters.length = true := by
  simp [bind_ok_iff, offers, Option.any_eq_true]

end Tables

/-! ## Cuts and variables -/

namespace Catalog

variable {c : Catalog} {o : ObjectType}

/-- What a cut says of an object: its function with its parameters, inverted by a `!` in front of
the name. A name that is not registered says no. -/
def holds (c : Catalog) (o : ObjectType) (name : String) (parameters : List Float)
    (x : o.Carrier) : Bool :=
  match c.cutTables.function? o (baseName name).1 with
  | some f => if (baseName name).2 then !f.apply parameters x else f.apply parameters x
  | none => false

/-- The number that a variable gives for an object. -/
def value (c : Catalog) (o : ObjectType) (v : VariableEntry) (x : o.Carrier) : Float :=
  match c.variableTables.function? o v.name with
  | some f => f.apply v.parameters x
  | none => nan

/-- Whether a cut's name, without its `!`, is a name on offer. -/
def offersCut (c : Catalog) (o : ObjectType) (name : String) (count : Nat) : Bool :=
  (baseName name).1 != "" && c.cutTables.offers o (baseName name).1 count

theorem bindCut_ok_iff {what name : String} {parameters : List Float} {p : o.Carrier → Bool} :
    c.bindCut what o name parameters = .ok p ↔
      c.offersCut o name parameters.length = true ∧ c.holds o name parameters = p := by
  have inverted (f : Signature o.Carrier Bool)
      (h : c.cutTables.function? o (baseName name).1 = some f) :
      invertIf (baseName name).2 (f.apply parameters) = c.holds o name parameters := by
    funext x
    rw [holds, h, invertIf]
    cases (baseName name).2 <;> simp
  unfold bindCut offersCut
  dsimp only
  split
  case isTrue empty => simp [empty]
  case isFalse named =>
    rw [ok_map_iff]
    constructor
    · rintro ⟨g, hg, rfl⟩
      obtain ⟨f, hf, -, rfl⟩ := Tables.bind_ok_iff.1 hg
      exact ⟨by simpa [named] using Tables.bind_succeeds_iff.1 ⟨_, hg⟩, (inverted f hf).symm⟩
    · rintro ⟨offered, rfl⟩
      obtain ⟨g, hg⟩ := Tables.bind_succeeds_iff.2 (by simpa [named] using offered)
      obtain ⟨f, hf, -, rfl⟩ := Tables.bind_ok_iff.1 hg
      exact ⟨_, hg, inverted f hf⟩

theorem bindVariable_ok_iff {v : VariableEntry} {g : o.Carrier → Float} :
    c.bindVariable o v = .ok g ↔
      c.variableTables.offers o v.name v.parameters.length = true ∧ c.value o v = g := by
  unfold bindVariable value
  constructor
  · intro h
    obtain ⟨f, hf, -, rfl⟩ := Tables.bind_ok_iff.1 h
    exact ⟨Tables.bind_succeeds_iff.1 ⟨_, h⟩, by simp [hf]⟩
  · rintro ⟨offered, rfl⟩
    obtain ⟨g, hg⟩ := Tables.bind_succeeds_iff.2 offered
    obtain ⟨f, hf, -, rfl⟩ := Tables.bind_ok_iff.1 hg
    simpa [hf] using hg

end Catalog

end SpillSelection
