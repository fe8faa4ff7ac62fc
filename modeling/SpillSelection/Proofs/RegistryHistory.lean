import Mathlib.Data.Finset.Card
import SpillSelection.Proofs.ByteOrder
import SpillSelection.Proofs.Slots
/-!
# The history of a registry

A registry is filled by calls, and those that use a taken name are refused. As a call looks at
nothing but its own name (`call_cases`), a name stands for the value of the first call that used it
(`find?_after`). `first_call_wins` says this of every way to read a registry, and of how the calls
themselves end.
-/

namespace SpillSelection

namespace Registry

variable {α : Type} {r : Registry α} {name : String}

/-! ## Reading a registry -/

theorem isRegistered_iff : r.isRegistered name = true ↔ ∃ a, r.find? name = some a :=
  Option.isSome_iff_exists

theorem mem_names_iff : name ∈ r.names ↔ ∃ a, r.find? name = some a := by
  unfold names
  rw [List.mem_map]
  constructor
  · rintro ⟨⟨_, a⟩, entry, rfl⟩
    exact ⟨a, r.sorted.mem_iff.1 entry⟩
  · rintro ⟨a, found⟩
    exact ⟨(name, a), r.sorted.mem_iff.2 found, rfl⟩

/-- Names are listed in the order of their bytes. -/
theorem names_increasing (r : Registry α) :
    r.names.Pairwise fun a b => Text.utf8 a < Text.utf8 b := by
  rw [names, List.pairwise_map]
  exact r.sorted.imp Text.utf8_lt_iff.2

theorem card_names (r : Registry α) : r.names.toFinset.card = r.size := by
  have nodup : r.names.Nodup := by
    refine r.names_increasing.imp fun {a b} before same => ?_
    subst same
    exact List.lt_irrefl _ before
  rw [List.toFinset_card_of_nodup nodup, names, List.length_map, size]

theorem isEmpty_iff : r.isEmpty = true ↔ r.size = 0 := List.isEmpty_iff_length_eq_zero

/-! ## Calls -/

/-- The registry after a value was to be registered, whether it was accepted or not. -/
def call (r : Registry α) (x : String × α) : Registry α :=
  match r.register x.1 x.2 with
  | .ok r' => r'
  | .error _ => r

/-- The registry after some calls. -/
def after (r : Registry α) (calls : List (String × α)) : Registry α := calls.foldl call r

theorem register_error_iff {a : α} {e : RegistryError} :
    r.register name a = .error e ↔
      (∃ b, r.find? name = some b) ∧ e = .duplicateName r.label name := by
  rw [← isRegistered_iff, register]
  split
  case isTrue taken => simp [taken, eq_comm]
  case isFalse free => simp [free]

/-- What a call can do. A free name is added, and a call of a taken one changes nothing. -/
theorem call_cases (r : Registry α) (x : String × α) :
    (r.find? x.1 = none ∧ r.call x = r.add x.1 x.2) ∨
      (∃ a, r.find? x.1 = some a) ∧ r.call x = r := by
  unfold call register isRegistered
  cases r.find? x.1 with
  | none => exact .inl ⟨rfl, rfl⟩
  | some a => exact .inr ⟨⟨a, rfl⟩, rfl⟩

theorem call_of_taken {x : String × α} (taken : ∃ a, r.find? x.1 = some a) : r.call x = r := by
  obtain ⟨a, taken⟩ := taken
  rcases r.call_cases x with ⟨free, -⟩ | ⟨-, same⟩
  · cases free.symm.trans taken
  · exact same

theorem label_call (r : Registry α) (x : String × α) : (r.call x).label = r.label := by
  rcases r.call_cases x with ⟨-, added⟩ | ⟨-, same⟩
  · rw [added]
    rfl
  · rw [same]

/-- A taken name keeps what it stands for, and a free one is given to the call that uses it. -/
theorem find?_call (r : Registry α) (x : String × α) (name : String) :
    (r.call x).find? name = (r.find? name).or ([x].lookup name) := by
  obtain ⟨n, value⟩ := x
  by_cases same : name = n
  · subst same
    rcases r.call_cases (name, value) with ⟨free, added⟩ | ⟨⟨a, taken⟩, unchanged⟩
    · rw [added, find?_add_self, free]
      simp
    · rw [unchanged, taken]
      rfl
  · have other : [(n, value)].lookup name = none :=
      List.lookup_eq_none_iff.2 (by simpa using same)
    rw [other, Option.or_none]
    rcases r.call_cases (n, value) with ⟨-, added⟩ | ⟨-, unchanged⟩
    · rw [added, find?_add_of_ne r same]
    · rw [unchanged]

/-! ## Histories -/

theorem label_after (r : Registry α) (calls : List (String × α)) :
    (r.after calls).label = r.label := by
  induction calls generalizing r with
  | nil => rfl
  | cons x calls ih => exact (ih (r.call x)).trans (r.label_call x)

/-- After some calls a name stands for what it stood for before, or else for the value of the first
of them that uses it. -/
theorem find?_after (r : Registry α) (calls : List (String × α)) (name : String) :
    (r.after calls).find? name = (r.find? name).or (calls.lookup name) := by
  induction calls generalizing r with
  | nil => simp [after]
  | cons x calls ih =>
    calc ((r.call x).after calls).find? name
      _ = ((r.call x).find? name).or (calls.lookup name) := ih (r.call x)
      _ = ((r.find? name).or ([x].lookup name)).or (calls.lookup name) := by rw [find?_call]
      _ = (r.find? name).or ((x :: calls).lookup name) := by
        rw [Option.or_assoc, ← List.lookup_append, List.singleton_append]

/-- The names that some calls use. -/
def usedNames (calls : List (String × α)) : List String := calls.map (·.1)

/-- The first call that uses a name has a value. -/
def IsFirst (calls : List (String × α)) (name : String) (a : α) : Prop :=
  ∃ earlier later, calls = earlier ++ (name, a) :: later ∧ name ∉ usedNames earlier

variable {calls : List (String × α)}

theorem lookup_eq_some_iff_isFirst {a : α} : calls.lookup name = some a ↔ IsFirst calls name a := by
  have unused (earlier : List (String × α)) :
      (∀ x ∈ earlier, (name != x.1) = true) ↔ name ∉ usedNames earlier := by
    rw [usedNames, List.mem_map, not_exists]
    exact forall_congr' fun x => by rw [bne_iff_ne, not_and, ne_comm]
  simp only [List.lookup_eq_some_iff, unused, IsFirst]

theorem exists_lookup_iff_mem_usedNames :
    (∃ a, calls.lookup name = some a) ↔ name ∈ usedNames calls := by
  rw [← Option.isSome_iff_exists, List.lookup_isSome_iff, usedNames, List.mem_map]
  exact exists_congr fun x => and_congr_right fun _ => by rw [beq_iff_eq, eq_comm]

/-- A registry with a label that keeps of every name the first of its calls, however it is read. -/
structure KeepsFirst (r : Registry α) (label : String) (calls : List (String × α)) : Prop where
  /-- One more call is refused exactly if its name was used. -/
  refused : ∀ name a e,
    r.register name a = .error e ↔ name ∈ usedNames calls ∧ e = .duplicateName label name
  unchanged : ∀ name a, name ∈ usedNames calls → r.call (name, a) = r
  found : ∀ name a, r.get name = .ok a ↔ IsFirst calls name a
  missing : ∀ name e, r.get name = .error e ↔ name ∉ usedNames calls ∧ e = .nameNotFound label name
  registered : ∀ name, r.isRegistered name = true ↔ ∃ a, r.get name = .ok a
  increasing : r.names.Pairwise fun a b => Text.utf8 a < Text.utf8 b
  listed : ∀ name, name ∈ r.names ↔ name ∈ usedNames calls
  size : r.size = (usedNames calls).toFinset.card
  isEmpty : r.isEmpty = true ↔ r.size = 0

end Registry

/-- After any calls, accepted or not, a registry that was empty keeps of every name the first call.
As this holds of the calls before any other one, it says of each call whether it is refused. -/
theorem first_call_wins {α : Type} (label : String) (calls : List (String × α)) :
    ((Registry.empty label).after calls).KeepsFirst label calls := by
  have label_eq : ((Registry.empty label).after calls).label = label :=
    Registry.label_after _ calls
  have find?_eq (name : String) :
      ((Registry.empty label).after calls).find? name = calls.lookup name :=
    Registry.find?_after _ calls name
  have taken_iff (name : String) :
      (∃ a, ((Registry.empty label).after calls).find? name = some a) ↔
        name ∈ Registry.usedNames calls := by
    rw [find?_eq, Registry.exists_lookup_iff_mem_usedNames]
  -- From here on all is read off the label and the look-up.
  generalize (Registry.empty label).after calls = r at label_eq find?_eq taken_iff
  have listed (name : String) : name ∈ r.names ↔ name ∈ Registry.usedNames calls := by
    rw [Registry.mem_names_iff, taken_iff]
  exact {
    refused := fun name a e => by rw [Registry.register_error_iff, taken_iff, label_eq]
    unchanged := fun name a again => Registry.call_of_taken ((taken_iff name).2 again)
    found := fun name a => by
      rw [Registry.get_ok_iff, find?_eq, Registry.lookup_eq_some_iff_isFirst]
    missing := fun name e => by
      rw [Registry.get_error_iff, label_eq, ← taken_iff, Option.eq_none_iff_forall_ne_some,
        not_exists]
    registered := fun name => by simp only [Registry.isRegistered_iff, Registry.get_ok_iff]
    increasing := r.names_increasing
    listed
    size := by rw [← List.toFinset.ext listed, r.card_names]
    isEmpty := Registry.isEmpty_iff }

/-- The second call of a name is refused, and names outside of ASCII are listed after the others. -/
example :
    let r := (Registry.empty "cut<spill>").after [("é", 1), ("z", 2), ("é", 3), ("", 4)]
    r.names = ["", "z", "é"] ∧ r.get "é" = .ok 1 ∧
      r.get "e" = .error (.nameNotFound "cut<spill>" "e") := by
  decide

end SpillSelection
