/-!
# Entries in the order of their names

A list of named values in strictly increasing order of the names, so that each name comes once.
`insert` keeps the order, and changes the value of one name only.
-/

namespace SpillSelection.ByName

variable {α : Type}

/-- Names strictly increase. -/
def Sorted (entries : List (String × α)) : Prop := entries.Pairwise fun a b => a.1 < b.1

/-- Puts a value in its place by name, instead of the value of that name if there is one. -/
def insert (name : String) (value : α) : List (String × α) → List (String × α)
  | [] => [(name, value)]
  | (n, v) :: rest =>
    if name < n then (name, value) :: (n, v) :: rest
    else if name = n then (name, value) :: rest
    else (n, v) :: insert name value rest

theorem mem_insert {name : String} {value : α} {entry : String × α}
    {entries : List (String × α)} (h : entry ∈ insert name value entries) :
    entry = (name, value) ∨ entry ∈ entries := by
  induction entries with
  | nil => simpa [insert] using h
  | cons e rest ih => grind [insert]

theorem Sorted.insert {entries : List (String × α)} (h : Sorted entries) (name : String)
    (value : α) : Sorted (insert name value entries) := by
  induction entries with
  | nil => simp [ByName.insert, Sorted]
  | cons e rest ih =>
    obtain ⟨first, later⟩ := List.pairwise_cons.1 h
    rw [ByName.insert]
    split
    case isTrue before =>
      exact h.cons fun a ha => (List.mem_cons.1 ha).elim (fun e => by simpa [e] using before)
        fun ha => String.lt_trans before (first a ha)
    case isFalse notBefore =>
      split
      case isTrue same =>
        subst name
        exact later.cons first
      case isFalse different =>
        refine (ih later).cons fun a ha => (mem_insert ha).elim (fun e => ?_) (first a)
        subst e
        exact Std.lt_of_le_of_ne (String.not_lt.1 notBefore) (Ne.symm different)

theorem lookup_insert_self (name : String) (value : α) (entries : List (String × α)) :
    (insert name value entries).lookup name = some value := by
  induction entries with
  | nil => simp [insert]
  | cons e rest ih => grind [insert]

theorem lookup_insert_of_ne {name other : String} (h : other ≠ name) (value : α)
    (entries : List (String × α)) :
    (insert name value entries).lookup other = entries.lookup other := by
  induction entries with
  | nil => simp [insert, h]
  | cons e rest ih => grind [insert]

end SpillSelection.ByName
