import SpillSelection.Proofs.Registration
/-!
# The slots of a catalog

A catalog is read by slots: what a function is for, of which objects, and under which name. A
registration fills the slot of its entry when that is free, and is refused when it is taken; it
touches no other slot. `registerAll_succeeds_iff` says from the slots alone when a list of entries
is accepted; `find?_registerAll_iff`, `find?_registerAll_of_some` and `find?_registerAll_of_not_mem`
say what it leaves in a slot, the last two also when it is refused half way.
A catalog has nothing beside its slots and its labels (`ext_find?`).
-/

namespace SpillSelection

/-! ## Slots -/

/-- What a function of a catalog is for. -/
inductive Kind where
  | ofCut
  | ofVariable
  | ofSelector
deriving DecidableEq, Repr

/-- What the functions of a kind give. -/
abbrev Kind.Result : Kind → Type
  | ofCut => Bool
  | ofVariable => Float
  | ofSelector => Option Nat

structure Slot where
  kind : Kind
  object : ObjectType
  name : String
deriving DecidableEq, Repr

namespace Slot

/-- What a slot can hold. -/
abbrev Function (s : Slot) : Type := Signature s.object.Carrier s.kind.Result

/-- The slot of a base name. -/
abbrev ofBase (k : Kind) (base : String) (o : ObjectType) : Slot := ⟨k, o, o.canonicalName base⟩

/-- A function of a slot, as what a name stands for. -/
def item : (s : Slot) → s.Function → Item
  | ⟨.ofCut, o, _⟩, f => .ofCut ⟨o, f⟩
  | ⟨.ofVariable, o, _⟩, f => .ofVariable ⟨o, f⟩
  | ⟨.ofSelector, o, _⟩, f => .ofSelector ⟨o, f⟩

end Slot

namespace Entry

/-- The slot that an entry fills. -/
def slot : Entry → Slot
  | ofCut base f => .ofBase .ofCut base f.1
  | ofVariable base f => .ofBase .ofVariable base f.1
  | ofSelector base f => .ofBase .ofSelector base f.1

/-- What an entry puts into its slot. -/
def function : (e : Entry) → e.slot.Function
  | ofCut _ f => f.2
  | ofVariable _ f => f.2
  | ofSelector _ f => f.2

/-- An entry as its slot with what it puts there. -/
def filling (e : Entry) : (s : Slot) × s.Function := ⟨e.slot, e.function⟩

theorem filling_eq_iff {e : Entry} {s : Slot} {f : s.Function} :
    e.filling = ⟨s, f⟩ ↔ s.name = e.name ∧ s.item f = e.item := by
  constructor
  · rintro ⟨⟩
    cases e <;> exact ⟨rfl, rfl⟩
  · obtain ⟨k, o, name⟩ := s
    rintro ⟨rfl, same⟩
    rcases e with ⟨base, p, g⟩ | ⟨base, p, g⟩ | ⟨base, p, g⟩
    all_goals
      cases k <;> cases same
      rfl

end Entry

/-- The slots that a declaration fills: of a cut also those of a variable, unless it is about beam
records. -/
def Declaration.slots : Declaration → List Slot
  | ofCut base fs =>
    (fs.map (·.1)).map (.ofBase .ofCut base) ++
      ((fs.map (·.1)).filter (· != .beam)).map (.ofBase .ofVariable base)
  | ofVariable base fs => (fs.map (·.1)).map (.ofBase .ofVariable base)
  | ofSelector base fs => (fs.map (·.1)).map (.ofBase .ofSelector base)

theorem Declaration.map_slot_entries (d : Declaration) : d.entries.map Entry.slot = d.slots := by
  cases d with
  | ofCut base fs =>
    simp [entries, slots, Scoped.flags, List.filter_map, Function.comp_def, Entry.slot]
  | ofVariable base fs => simp [entries, slots, Function.comp_def, Entry.slot]
  | ofSelector base fs => simp [entries, slots, Function.comp_def, Entry.slot]

/-! ## Reading a catalog -/

namespace Catalog

/-- The tables of a kind. -/
def tables (c : Catalog) : (k : Kind) → Tables k.Result
  | .ofCut => c.cutTables
  | .ofVariable => c.variableTables
  | .ofSelector => c.selectorTables

/-- What a slot holds. -/
def find? (c : Catalog) (s : Slot) : Option s.Function :=
  ((c.tables s.kind).get s.object).find? s.name

/-- What a base name is for an object type, or that there is no such name. -/
def lookup (c : Catalog) (k : Kind) (o : ObjectType) (base : String) :
    Except RegistryError (Signature o.Carrier k.Result) :=
  (c.tables k).lookup o base

/-- The label of a registry. -/
def label (c : Catalog) (k : Kind) (o : ObjectType) : String := ((c.tables k).get o).label

variable {c c' : Catalog} {s : Slot}

theorem find?_eq_some_iff {f : s.Function} :
    c.find? s = some f ↔ c.Registered s.name (s.item f) := by
  obtain ⟨_ | _ | _, o, name⟩ := s <;> rfl

theorem lookup_eq (c : Catalog) (k : Kind) (o : ObjectType) (base : String) :
    c.lookup k o base = (c.find? (.ofBase k base o)).elim
      (.error (.nameNotFound (c.label k o) (o.canonicalName base))) .ok := by
  change ((c.tables k).get o).get (o.canonicalName base) = (((c.tables k).get o).find? _).elim _ _
  unfold Registry.get
  cases ((c.tables k).get o).find? (o.canonicalName base) <;> rfl

theorem lookup_ok_iff {k : Kind} {o : ObjectType} {base : String}
    {f : Signature o.Carrier k.Result} :
    c.lookup k o base = .ok f ↔ c.find? (.ofBase k base o) = some f :=
  Registry.get_ok_iff

/-- A lookup depends on the slot and on the label that an error names. -/
theorem lookup_congr {k : Kind} {o : ObjectType} {base : String}
    (labels : c'.label k o = c.label k o)
    (same : c'.find? (.ofBase k base o) = c.find? (.ofBase k base o)) :
    c'.lookup k o base = c.lookup k o base := by
  rw [lookup_eq, lookup_eq, same, labels]

/-! ## One registration -/

theorem register_succeeds_iff {e : Entry} :
    (∃ c', c.register e = .ok c') ↔ c.find? e.slot = none := by
  rcases e with ⟨base, o, f⟩ | ⟨base, o, f⟩ | ⟨base, o, f⟩
  all_goals
    simp only [register, Tables.register, ok_map_iff, Registry.register_ok_iff]
    constructor
    · rintro ⟨_, _, ⟨_, ⟨free, -⟩, -⟩, -⟩
      exact free
    · intro free
      exact ⟨_, _, ⟨_, ⟨free, rfl⟩, rfl⟩, rfl⟩

theorem find?_register_self {e : Entry} (h : c.register e = .ok c') :
    c'.find? e.slot = some e.function := by
  rw [find?_eq_some_iff, registered_register_iff h]
  exact .inr (Entry.filling_eq_iff.1 rfl)

theorem find?_register_of_ne {e : Entry} (h : c.register e = .ok c') (ne : s ≠ e.slot) :
    c'.find? s = c.find? s := by
  have other (f : s.Function) : ¬(s.name = e.name ∧ s.item f = e.item) := fun same =>
    ne (congrArg Sigma.fst (Entry.filling_eq_iff.2 same)).symm
  ext f
  rw [find?_eq_some_iff, find?_eq_some_iff, registered_register_iff h, or_iff_left (other f)]

theorem label_register {e : Entry} (h : c.register e = .ok c') (k : Kind) (o : ObjectType) :
    c'.label k o = c.label k o := by
  have kept {R : Type} {t t' : Tables R} {p : ObjectType} {base : String}
      {f : Signature p.Carrier R} (h : t.register p base f = .ok t') :
      (t'.get o).label = (t.get o).label := by
    obtain ⟨r, registered, rfl⟩ := ok_map_iff.1 h
    obtain ⟨-, rfl⟩ := Registry.register_ok_iff.1 registered
    by_cases same : o = p
    · subst same
      rw [Tables.get_set_self]
      rfl
    · rw [Tables.get_set_of_ne t same]
  cases e with
  | ofCut base f =>
    obtain ⟨t, registered, rfl⟩ := ok_map_iff.1 h
    cases k with
    | ofCut => exact kept registered
    | ofVariable | ofSelector => rfl
  | ofVariable base f =>
    obtain ⟨t, registered, rfl⟩ := ok_map_iff.1 h
    cases k with
    | ofVariable => exact kept registered
    | ofCut | ofSelector => rfl
  | ofSelector base f =>
    obtain ⟨t, registered, rfl⟩ := ok_map_iff.1 h
    cases k with
    | ofSelector => exact kept registered
    | ofCut | ofVariable => rfl

/-! ## Lists of entries -/

/-- Of a list of entries the first part is accepted, and all of it when there is no error. -/
theorem exists_accepted (c : Catalog) (es : List Entry) :
    ∃ accepted rest, accepted ++ rest = es ∧
      c.registerAll accepted = ((c.registerAll es).1, none) ∧
      ((c.registerAll es).2 = none → rest = []) := by
  induction es generalizing c with
  | nil => exact ⟨[], [], rfl, rfl, fun _ => rfl⟩
  | cons e es ih =>
    cases made : c.register e with
    | ok c₁ =>
      obtain ⟨accepted, rest, rfl, registered, all⟩ := ih c₁
      exact ⟨e :: accepted, rest, rfl, by simpa [registerAll, made] using registered,
        by simpa [registerAll, made] using all⟩
    | error err =>
      exact ⟨[], e :: es, rfl, by simp [registerAll, made], by simp [registerAll, made]⟩

/-- Entries are accepted exactly if their slots are free and are not filled twice. -/
theorem registerAll_succeeds_iff {es : List Entry} :
    (c.registerAll es).2 = none ↔
      (es.map Entry.slot).Nodup ∧ ∀ e ∈ es, c.find? e.slot = none := by
  induction es generalizing c with
  | nil => simp [registerAll]
  | cons e es ih =>
    rw [registerAll]
    cases made : c.register e with
    | error err =>
      have taken : c.find? e.slot ≠ none := fun free => by
        obtain ⟨c', registered⟩ := register_succeeds_iff.2 free
        cases made.symm.trans registered
      simp [taken]
    | ok c₁ =>
      have free : c.find? e.slot = none := register_succeeds_iff.1 ⟨c₁, made⟩
      -- After the first entry a slot is free if it was free before and is not that entry's.
      have later (e' : Entry) : c₁.find? e'.slot = none ↔
          e'.slot ≠ e.slot ∧ c.find? e'.slot = none := by
        by_cases same : e'.slot = e.slot
        · rw [same, find?_register_self made]
          simp
        · rw [find?_register_of_ne made same]
          simp [same]
      simp only [ih, later, List.map_cons, List.nodup_cons, List.mem_map, List.forall_mem_cons,
        free, true_and, not_exists, not_and]
      constructor
      · rintro ⟨nodup, each⟩
        exact ⟨⟨fun e' he' => (each e' he').1, nodup⟩, fun e' he' => (each e' he').2⟩
      · rintro ⟨⟨new, nodup⟩, each⟩
        exact ⟨nodup, fun e' he' => ⟨new e' he', each e' he'⟩⟩

theorem label_registerAll (c : Catalog) (es : List Entry) (k : Kind) (o : ObjectType) :
    (c.registerAll es).1.label k o = c.label k o := by
  induction es generalizing c with
  | nil => rfl
  | cons e es ih =>
    rw [registerAll]
    cases made : c.register e with
    | ok c₁ => exact (ih c₁).trans (label_register made k o)
    | error err => rfl

/-- What accepted entries leave in a slot. -/
theorem find?_registerAll_iff {es : List Entry} (h : c.registerAll es = (c', none))
    {f : s.Function} :
    c'.find? s = some f ↔ c.find? s = some f ∨ ∃ e ∈ es, e.filling = ⟨s, f⟩ := by
  simp only [find?_eq_some_iff, registered_registerAll_iff h, Entry.filling_eq_iff]

/-- A slot that is filled stays as it is, also when an entry is refused. -/
theorem find?_registerAll_of_some {f : s.Function} (h : c.find? s = some f) (es : List Entry) :
    (c.registerAll es).1.find? s = some f := by
  obtain ⟨accepted, _, -, registered, -⟩ := c.exists_accepted es
  exact (find?_registerAll_iff registered).2 (.inl h)

/-- Entries change no slots but their own. -/
theorem find?_registerAll_of_not_mem {es : List Entry} (h : s ∉ es.map Entry.slot) :
    (c.registerAll es).1.find? s = c.find? s := by
  obtain ⟨accepted, rest, rfl, registered, -⟩ := c.exists_accepted es
  ext f
  rw [find?_registerAll_iff registered, or_iff_left]
  rintro ⟨e, he, filled⟩
  have slot : e.slot = s := congrArg Sigma.fst filled
  exact h (slot ▸ List.mem_map_of_mem (List.mem_append_left rest he))

end Catalog

/-! ## Nothing beside slots and labels -/

namespace ByName

variable {α : Type} {entries entries' : List (String × α)}

theorem Sorted.mem_iff (h : Sorted entries) {name : String} {value : α} :
    (name, value) ∈ entries ↔ entries.lookup name = some value := by
  induction entries with
  | nil => simp
  | cons e rest ih =>
    obtain ⟨first, later⟩ := List.pairwise_cons.1 h
    obtain ⟨n, v⟩ := e
    by_cases same : name = n
    · subst same
      have once : (name, value) ∉ rest := fun again => String.lt_irrefl name (first _ again)
      simp [once, eq_comm]
    · have other : (name == n) = false := beq_false_of_ne same
      simp [List.lookup_cons, other, same, ih later]

theorem Sorted.nodup (h : Sorted entries) : entries.Nodup := by
  refine List.Pairwise.imp (fun {a b} before same => ?_) h
  subst same
  exact String.lt_irrefl a.1 before

/-- Entries in order are known by the values of the names. -/
theorem Sorted.eq_of_lookup_eq (h : Sorted entries) (h' : Sorted entries')
    (same : ∀ name, entries.lookup name = entries'.lookup name) : entries = entries' := by
  have perm : entries.Perm entries' := by
    rw [List.perm_ext_iff_of_nodup h.nodup h'.nodup]
    rintro ⟨name, value⟩
    rw [h.mem_iff, h'.mem_iff, same]
  exact perm.eq_of_pairwise (fun _ _ _ _ before after => absurd after (String.lt_asymm before)) h h'

end ByName

theorem Registry.ext_find? {α : Type} {r r' : Registry α} (labels : r.label = r'.label)
    (same : ∀ name, r.find? name = r'.find? name) : r = r' := by
  have entries : r.entries = r'.entries := r.sorted.eq_of_lookup_eq r'.sorted same
  cases r
  cases r'
  cases labels
  cases entries
  rfl

theorem Tables.ext_get {R : Type} {t t' : Tables R} (same : ∀ o, t.get o = t'.get o) : t = t' := by
  cases t
  cases t'
  congr
  · exact same (.interaction .truth)
  · exact same (.interaction .reco)
  · exact same (.particle .truth)
  · exact same (.particle .reco)
  · exact same .event
  · exact same .beam
  · exact same .neutrino

theorem Catalog.ext_find? {c c' : Catalog} (labels : ∀ k o, c.label k o = c'.label k o)
    (same : ∀ s, c.find? s = c'.find? s) : c = c' := by
  have tables (k : Kind) : c.tables k = c'.tables k :=
    Tables.ext_get fun o => Registry.ext_find? (labels k o) fun name => same ⟨k, o, name⟩
  cases c
  cases c'
  congr
  · exact tables .ofCut
  · exact tables .ofVariable
  · exact tables .ofSelector

end SpillSelection
