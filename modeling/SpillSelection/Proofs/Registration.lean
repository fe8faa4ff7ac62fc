import SpillSelection.Catalog.Scoped
import SpillSelection.Proofs.Resolution
/-!
# What registrations leave behind

A catalog holds what was registered, and nothing else: `registered_declare_iff` says which names
stand for what after a list of declarations that were all accepted. As a declared cut is registered
a second time as a variable, `cuts_are_variables` follows for every list of declarations: what a cut
says can be asked for as a number, under the same name and with the same parameters.
-/

namespace SpillSelection

/-! ## Registries -/

namespace Registry

variable {α : Type} {r r' : Registry α} {name other : String} {a b : α}

theorem register_ok_iff : r.register name a = .ok r' ↔ r.find? name = none ∧ r.add name a = r' := by
  unfold register isRegistered
  cases r.find? name <;> simp

/-- A new name changes nothing but itself. -/
theorem find?_add_eq_some_iff (new : r.find? name = none) :
    (r.add name a).find? other = some b ↔ r.find? other = some b ∨ other = name ∧ b = a := by
  by_cases same : other = name
  · subst same
    rw [find?_add_self, new]
    simp [eq_comm]
  · rw [find?_add_of_ne r same]
    simp [same]

end Registry

/-! ## One registration -/

/-- What a name of a catalog can stand for. -/
inductive Item where
  | ofCut (f : (o : ObjectType) × Signature o.Carrier Bool)
  | ofVariable (f : (o : ObjectType) × Signature o.Carrier Float)
  | ofSelector (f : (o : ObjectType) × Signature o.Carrier (Option Nat))

namespace Entry

/-- What an entry registers. -/
def item : Entry → Item
  | ofCut _ f => .ofCut f
  | ofVariable _ f => .ofVariable f
  | ofSelector _ f => .ofSelector f

/-- The name that an entry is registered under. -/
def name : Entry → String
  | ofCut base f => f.1.canonicalName base
  | ofVariable base f => f.1.canonicalName base
  | ofSelector base f => f.1.canonicalName base

end Entry

/-- A name stands for a function of an object type. -/
def Tables.Registered {R : Type} (t : Tables R) (name : String)
    (f : (o : ObjectType) × Signature o.Carrier R) : Prop :=
  (t.get f.1).find? name = some f.2

/-- A name of a catalog stands for something. -/
def Catalog.Registered (c : Catalog) (name : String) : Item → Prop
  | .ofCut f => c.cutTables.Registered name f
  | .ofVariable f => c.variableTables.Registered name f
  | .ofSelector f => c.selectorTables.Registered name f

theorem Tables.registered_register_iff {R : Type} {t t' : Tables R} {o : ObjectType} {base : String}
    {f : Signature o.Carrier R} (h : t.register o base f = .ok t') (name : String)
    (g : (o : ObjectType) × Signature o.Carrier R) :
    t'.Registered name g ↔ t.Registered name g ∨ name = o.canonicalName base ∧ g = ⟨o, f⟩ := by
  obtain ⟨r, registered, rfl⟩ := ok_map_iff.1 h
  obtain ⟨new, rfl⟩ := Registry.register_ok_iff.1 registered
  obtain ⟨p, g⟩ := g
  unfold Registered
  dsimp only
  by_cases same : p = o
  · subst same
    rw [get_set_self, Registry.find?_add_eq_some_iff new]
    simp
  · rw [get_set_of_ne t same]
    simp [same]

namespace Catalog

variable {c c' : Catalog} {name : String} {x : Item}

/-- An accepted entry adds its own name. -/
theorem registered_register_iff {e : Entry} (h : c.register e = .ok c') :
    c'.Registered name x ↔ c.Registered name x ∨ name = e.name ∧ x = e.item := by
  rcases e with ⟨base, o, f⟩ | ⟨base, o, f⟩ | ⟨base, o, f⟩
  all_goals
    obtain ⟨t, registered, rfl⟩ := ok_map_iff.1 h
    have own := Tables.registered_register_iff registered name
    cases x with
    | ofCut g => simp [Registered, Entry.item, Entry.name, own]
    | ofVariable g => simp [Registered, Entry.item, Entry.name, own]
    | ofSelector g => simp [Registered, Entry.item, Entry.name, own]

/-! ## Histories -/

/-- Accepted entries add their own names. -/
theorem registered_registerAll_iff {es : List Entry} (h : c.registerAll es = (c', none)) :
    c'.Registered name x ↔ c.Registered name x ∨ ∃ e ∈ es, name = e.name ∧ x = e.item := by
  induction es generalizing c with
  | nil =>
    cases h
    simp
  | cons e es ih =>
    rw [registerAll] at h
    split at h
    case h_1 next accepted =>
      rw [ih h, registered_register_iff accepted, or_assoc]
      simp
    case h_2 => cases h

theorem not_registered_empty : ¬empty.Registered name x := by
  have nothing {R : Type} (kind : String) (f : (o : ObjectType) × Signature o.Carrier R) :
      ¬(Tables.empty kind).Registered name f := by
    obtain ⟨⟨_ | _⟩ | ⟨_ | _⟩ | _ | _ | _, f⟩ := f <;> exact nofun
  cases x with
  | ofCut f => exact nothing "cut" f
  | ofVariable f => exact nothing "variable" f
  | ofSelector f => exact nothing "selector" f

/-- The names of a catalog are those of the declarations that it was filled from. -/
theorem registered_declare_iff {ds : List Declaration} (h : empty.declare ds = (c, none)) :
    c.Registered name x ↔ ∃ d ∈ ds, ∃ e ∈ d.entries, name = e.name ∧ x = e.item := by
  rw [registered_registerAll_iff h]
  simp only [not_registered_empty, false_or, List.mem_flatMap]
  constructor
  · rintro ⟨e, ⟨d, hd, he⟩, registers⟩
    exact ⟨d, hd, e, he, registers⟩
  · rintro ⟨d, hd, e, he, registers⟩
    exact ⟨e, ⟨d, hd, he⟩, registers⟩

end Catalog

/-! ## Cuts as variables -/

namespace Signature

variable {T : Type}

/-- A variable is what a cut says, one for yes and zero for no, and takes the same parameters. -/
structure IsFlagOf (g : Signature T Float) (f : Signature T Bool) : Prop where
  binds : ∀ called parameters,
    (∃ x, g.bind called parameters = .ok x) ↔ ∃ p, f.bind called parameters = .ok p
  value : ∀ called parameters x p, g.bind called parameters = .ok x →
    f.bind called parameters = .ok p → ∀ t, x t = if p t then 1 else 0

theorem isFlagOf_map (f : Signature T Bool) : (f.map flag).IsFlagOf f where
  binds called parameters := by simp [bind_ok_iff]
  value called parameters x p hx hp t := by
    obtain ⟨-, rfl⟩ := bind_ok_iff.1 hx
    obtain ⟨-, rfl⟩ := bind_ok_iff.1 hp
    exact apply_map flag f parameters t

end Signature

theorem Scoped.mem_flags_iff {fs : Scoped Bool} {g : (o : ObjectType) × Signature o.Carrier Float} :
    g ∈ fs.flags ↔ ∃ f ∈ fs, f.1 ≠ .beam ∧ ⟨f.1, f.2.map flag⟩ = g := by
  simp [flags, and_assoc]

namespace Declaration

theorem ofCut_mem_entries_iff {d : Declaration} {base : String}
    {f : (o : ObjectType) × Signature o.Carrier Bool} :
    .ofCut base f ∈ d.entries ↔ ∃ fs, d = .ofCut base fs ∧ f ∈ fs := by
  constructor
  · intro h
    cases d with
    | ofCut _ fs =>
      rcases List.mem_append.1 h with h | h
      · obtain ⟨_, hf, ⟨⟩⟩ := List.mem_map.1 h
        exact ⟨fs, rfl, hf⟩
      · obtain ⟨_, -, ⟨⟩⟩ := List.mem_map.1 h
    | ofVariable | ofSelector => obtain ⟨_, -, ⟨⟩⟩ := List.mem_map.1 h
  · rintro ⟨fs, rfl, hf⟩
    exact List.mem_append_left _ (List.mem_map_of_mem hf)

theorem ofVariable_mem_entries_iff {d : Declaration} {base : String}
    {g : (o : ObjectType) × Signature o.Carrier Float} :
    .ofVariable base g ∈ d.entries ↔ (∃ fs, d = .ofVariable base fs ∧ g ∈ fs) ∨
      ∃ fs, d = .ofCut base fs ∧ g ∈ fs.flags := by
  constructor
  · intro h
    cases d with
    | ofCut _ fs =>
      rcases List.mem_append.1 h with h | h
      · obtain ⟨_, -, ⟨⟩⟩ := List.mem_map.1 h
      · obtain ⟨_, hg, ⟨⟩⟩ := List.mem_map.1 h
        exact .inr ⟨fs, rfl, hg⟩
    | ofVariable _ fs =>
      obtain ⟨_, hg, ⟨⟩⟩ := List.mem_map.1 h
      exact .inl ⟨fs, rfl, hg⟩
    | ofSelector => obtain ⟨_, -, ⟨⟩⟩ := List.mem_map.1 h
  · rintro (⟨fs, rfl, hg⟩ | ⟨fs, rfl, hg⟩)
    · exact List.mem_map_of_mem hg
    · exact List.mem_append_right _ (List.mem_map_of_mem hg)

end Declaration

/-- In a catalog whose declarations were all accepted, every cut that is not about beam records is
also a variable of its name. A variable of beam records was declared as one. -/
theorem cuts_are_variables {ds : List Declaration} {c : Catalog}
    (h : Catalog.empty.declare ds = (c, none)) :
    (∀ o, o ≠ .beam → ∀ name f, (c.cutTables.get o).find? name = some f →
      ∃ g, (c.variableTables.get o).find? name = some g ∧ g.IsFlagOf f) ∧
    ∀ name g, (c.variableTables.get .beam).find? name = some g →
      ∃ base fs, .ofVariable base fs ∈ ds ∧ ⟨.beam, g⟩ ∈ fs ∧
        ObjectType.canonicalName .beam base = name := by
  constructor
  · intro o notBeam name f registered
    have cut : c.Registered name (.ofCut ⟨o, f⟩) := registered
    obtain ⟨d, hd, e, he, rfl, same⟩ := (Catalog.registered_declare_iff h).1 cut
    cases e with
    | ofVariable | ofSelector => cases same
    | ofCut base f' =>
      cases same
      obtain ⟨fs, rfl, hf⟩ := Declaration.ofCut_mem_entries_iff.1 he
      have flagged : ⟨o, f.map flag⟩ ∈ fs.flags := Scoped.mem_flags_iff.2 ⟨_, hf, notBeam, rfl⟩
      have entry : .ofVariable base ⟨o, f.map flag⟩ ∈ (Declaration.ofCut base fs).entries :=
        Declaration.ofVariable_mem_entries_iff.2 (.inr ⟨fs, rfl, flagged⟩)
      have flagVariable : c.Registered (o.canonicalName base) (.ofVariable ⟨o, f.map flag⟩) :=
        (Catalog.registered_declare_iff h).2 ⟨_, hd, _, entry, rfl, rfl⟩
      exact ⟨f.map flag, flagVariable, f.isFlagOf_map⟩
  · intro name g registered
    have beamVariable : c.Registered name (.ofVariable ⟨.beam, g⟩) := registered
    obtain ⟨d, hd, e, he, rfl, same⟩ := (Catalog.registered_declare_iff h).1 beamVariable
    cases e with
    | ofCut | ofSelector => cases same
    | ofVariable base g' =>
      cases same
      rcases Declaration.ofVariable_mem_entries_iff.1 he with ⟨fs, rfl, hg⟩ | ⟨fs, rfl, hg⟩
      · exact ⟨base, fs, hd, hg, rfl⟩
      -- A flag is never about beam records.
      · obtain ⟨f, -, notBeam, same⟩ := Scoped.mem_flags_iff.1 hg
        exact absurd (congrArg Sigma.fst same) notBeam

/-- Cuts of one base name for several object types, and a variable of beam records, which one of
these cuts is about. -/
def busyDeclarations : List Declaration :=
  [.ofCut "busy" (.interactions fun _ => .plain fun i => !i.particles.isEmpty),
    .ofCut "busy" (.on .event (.parameterized (.atLeast 1) fun parameters spill =>
      parameters.length ≤ spill.reco.length)),
    .ofCut "busy" (.on .beam (.bound fun _ => true)),
    .ofVariable "toroid" (.on .beam (.plain (·.tor875)))]

/-- With two parameters the cut on spills fails one with a single reco interaction, and its variable
is zero there; neither is had without parameters. The cut on beam records is no variable. -/
theorem cuts_are_variables_busy : ∃ c cut value,
    Catalog.empty.declare busyDeclarations = (c, none) ∧
      (c.cutTables.get .event).find? "busy" = some cut ∧
      (c.variableTables.get .event).find? "busy" = some value ∧
      (∃ x, value.bind "busy" [1, 2] = .ok x ∧ x { reco := [{}] } = 0) ∧
      (¬∃ x, value.bind "busy" [] = .ok x) ∧
      (c.cutTables.get .beam).isRegistered "busy" = true ∧
      (c.variableTables.get .beam).find? "busy" = none := by
  obtain ⟨c, accepted⟩ : ∃ c, Catalog.empty.declare busyDeclarations = (c, none) := ⟨_, rfl⟩
  have law := cuts_are_variables accepted
  obtain ⟨cut, registered, passes, binds, fails, needs⟩ :
      ∃ cut, (c.cutTables.get .event).find? "busy" = some cut ∧
        ∃ p, cut.bind "busy" [1, 2] = .ok p ∧ p { reco := [{}] } = false ∧
          cut.bind "busy" [] = .error ⟨"busy", .atLeast 1, 0⟩ := by
    cases accepted
    exact ⟨_, rfl, _, rfl, rfl, rfl⟩
  obtain ⟨value, found, flagOf⟩ := law.1 .event nofun "busy" cut registered
  refine ⟨c, cut, value, accepted, registered, found, ?_, ?_, ?_, ?_⟩
  · obtain ⟨x, hx⟩ := (flagOf.binds "busy" [1, 2]).2 ⟨passes, binds⟩
    have zero := flagOf.value "busy" [1, 2] x passes hx binds { reco := [{}] }
    rw [fails] at zero
    exact ⟨x, hx, zero⟩
  · rw [flagOf.binds, needs]
    rintro ⟨p, impossible⟩
    cases impossible
  · cases accepted
    rfl
  · rw [Option.eq_none_iff_forall_ne_some]
    intro g registered
    -- Only a declared variable of that name could stand there.
    obtain ⟨base, fs, declared, -, name⟩ := law.2 "busy" g registered
    obtain rfl : base = "busy" := name
    simp [busyDeclarations] at declared

end SpillSelection
