import SpillSelection.ByName
/-!
# Registries

A registry holds named values under a label. A name is registered once and its value never
changes: `register` refuses a name that is taken, and changes no other name's value.
-/

namespace SpillSelection

/-- Why a registry refuses a name. -/
inductive RegistryError where
  | duplicateName (registry name : String)
  | nameNotFound (registry name : String)
deriving DecidableEq, Repr

def RegistryError.message : RegistryError → String
  | .duplicateName registry name => registry ++ ": `" ++ name ++ "` is already registered"
  | .nameNotFound registry name => registry ++ ": `" ++ name ++ "` is not registered"

structure Registry (α : Type) where
  label : String
  entries : List (String × α) := []
  sorted : ByName.Sorted entries := by exact List.Pairwise.nil

namespace Registry

variable {α : Type}

instance : Inhabited (Registry α) := ⟨{ label := "" }⟩

def empty (label : String) : Registry α := { label }

/-- The value of a name. -/
def find? (r : Registry α) (name : String) : Option α := r.entries.lookup name

def isRegistered (r : Registry α) (name : String) : Bool := (r.find? name).isSome

/-- The registered names, in increasing order. -/
def names (r : Registry α) : List String := r.entries.map (·.1)

def size (r : Registry α) : Nat := r.entries.length

def isEmpty (r : Registry α) : Bool := r.entries.isEmpty

def get (r : Registry α) (name : String) : Except RegistryError α :=
  match r.find? name with
  | some a => .ok a
  | none => .error (.nameNotFound r.label name)

theorem get_ok_iff {r : Registry α} {name : String} {a : α} :
    r.get name = .ok a ↔ r.find? name = some a := by
  unfold get
  cases r.find? name <;> simp

theorem get_error_iff {r : Registry α} {name : String} {e : RegistryError} :
    r.get name = .error e ↔ r.find? name = none ∧ e = .nameNotFound r.label name := by
  unfold get
  cases r.find? name <;> simp [eq_comm]

/-- The registry with one more name. -/
def add (r : Registry α) (name : String) (a : α) : Registry α where
  label := r.label
  entries := ByName.insert name a r.entries
  sorted := r.sorted.insert name a

def register (r : Registry α) (name : String) (a : α) : Except RegistryError (Registry α) :=
  if r.isRegistered name then .error (.duplicateName r.label name) else .ok (r.add name a)

@[simp] theorem find?_add_self (r : Registry α) (name : String) (a : α) :
    (r.add name a).find? name = some a :=
  ByName.lookup_insert_self name a r.entries

theorem find?_add_of_ne (r : Registry α) {name other : String} (h : other ≠ name) (a : α) :
    (r.add name a).find? other = r.find? other :=
  ByName.lookup_insert_of_ne h a r.entries

end Registry

end SpillSelection
