import SpillSelection.Proofs.Alignment
/-!
# The columns of a table

Lists of any lengths are laid out as rows of one width. Read from top to bottom, a column is its
list again: a single value stands on every row, and any other list is followed by no numbers only.
So no value of any list is lost (`replicate_keeps_columns`).
-/

namespace SpillSelection

/-- A list on so many rows: a single value on each of them, any other list from the top with no
numbers after it. -/
def filledTo (rows : Nat) : List Float → List Float
  | [value] => List.replicate rows value
  | column => column ++ List.replicate (rows - column.length) nan

/-! ## Rows -/

theorem length_replicate (values : List (List Float)) :
    (replicate values).length = longest values := by
  simp [replicate]

/-- There is a list of the greatest length, unless that is zero. -/
theorem exists_length_eq_longest {values : List (List Float)} (some : longest values ≠ 0) :
    ∃ column ∈ values, column.length = longest values := by
  by_contra none
  -- If every list were shorter, their greatest length would be less than it is.
  have shorter : longest values ≤ longest values - 1 := by
    rw [longest_le_iff]
    intro column member
    have bound := length_le_longest member
    have different : column.length ≠ longest values := by
      intro same
      exact none ⟨column, member, same⟩
    omega
  omega

/-! ## Columns -/

/-- After its end a list has no number, unless it is a single value. -/
theorem entryOn_of_le {row : Nat} {column : List Float} (ended : column.length ≤ row)
    (several : column.length ≠ 1) : entryOn row column = nan := by
  unfold entryOn
  split
  · simp at several
  · simp [ended]

/-- The entries of a list on the rows from the top. -/
theorem map_entryOn_range {rows : Nat} {column : List Float} (fits : column.length ≤ rows) :
    (List.range rows).map (entryOn · column) = filledTo rows column := by
  unfold filledTo
  split
  case h_1 value => simp [entryOn, List.map_const']
  case h_2 notSingle =>
    have several : column.length ≠ 1 := by
      intro single
      obtain ⟨value, same⟩ := List.length_eq_one_iff.1 single
      exact notSingle value same
    apply List.ext_getElem
    · simp only [List.length_map, List.length_range, List.length_append, List.length_replicate]
      omega
    · intro row _ _
      rw [List.getElem_map, List.getElem_range]
      by_cases inside : row < column.length
      · rw [entryOn_of_lt inside, List.getElem_append_left inside]
      · have ended : column.length ≤ row := by omega
        rw [entryOn_of_le ended several, List.getElem_append_right ended, List.getElem_replicate]

/-- A column of the rows, read from top to bottom. -/
theorem column_replicate {values : List (List Float)} {k : Nat} {column : List Float}
    (found : values[k]? = some column) :
    (replicate values).map (·[k]?) = (filledTo (longest values) column).map some := by
  rw [← map_entryOn_range (length_le_longest (List.mem_of_getElem? found)), replicate,
    List.map_map, List.map_map]
  apply List.map_congr_left
  intro row _
  simp [found]

/-- A list stands at the top of its column. -/
theorem getElem?_filledTo {rows j : Nat} {column : List Float} {value : Float}
    (fits : column.length ≤ rows) (found : column[j]? = some value) :
    (filledTo rows column)[j]? = some value := by
  obtain ⟨inside, same⟩ := List.getElem?_eq_some_iff.1 found
  rw [← map_entryOn_range fits, List.getElem?_map, List.getElem?_range (by omega), Option.map_some,
    entryOn_of_lt inside, same]

/-- There are as many rows as the longest list has values, and each has an entry for every list.
Read from top to bottom, the entries for a list are the list itself, on every row if it is a single
value and followed by no numbers otherwise. So every value stands on the row of its place in its
list, in the column of that list. -/
theorem replicate_keeps_columns (values : List (List Float)) :
    ((∀ column ∈ values, column.length ≤ (replicate values).length) ∧
      (replicate values ≠ [] → ∃ column ∈ values, column.length = (replicate values).length)) ∧
    (∀ row ∈ replicate values, row.length = values.length) ∧
    (∀ (k : Nat) column, values[k]? = some column →
      (replicate values).map (·[k]?) = (filledTo (replicate values).length column).map some) ∧
    ∀ (k j : Nat) column value, values[k]? = some column → column[j]? = some value →
      ∃ row, (replicate values)[j]? = some row ∧ row[k]? = some value := by
  rw [length_replicate]
  refine ⟨⟨fun column => length_le_longest, ?_⟩, fun row => length_of_mem_replicate,
    fun k column => column_replicate, ?_⟩
  · intro some
    apply exists_length_eq_longest
    intro empty
    rw [← length_replicate, List.length_eq_zero_iff] at empty
    exact some empty
  · intro k j column value found place
    have entry := congrArg (·[j]?) (column_replicate found)
    have fits := length_le_longest (List.mem_of_getElem? found)
    simp only [List.getElem?_map, getElem?_filledTo fits place, Option.map_some] at entry
    exact Option.map_eq_some_iff.1 entry

/-- A single value, a list of the full length, a shorter one, and none. -/
def mixedLists : List (List Float) := [[7], [1, 2, 3], [4, 5], []]

theorem replicate_keeps_columns_mixedLists :
    mixedLists[2]? = some [4, 5] ∧
      (replicate mixedLists).map (·[2]?) = [some 4, some 5, some nan] ∧
      (replicate mixedLists).map (·[0]?) = [some 7, some 7, some 7] ∧
      ∃ row, (replicate mixedLists)[2]? = some row ∧ row[1]? = some 3 := by
  obtain ⟨-, -, columns, kept⟩ := replicate_keeps_columns mixedLists
  exact ⟨rfl, columns 2 [4, 5] rfl, columns 0 [7] rfl, kept 1 2 [1, 2, 3] 3 rfl rfl⟩

end SpillSelection
