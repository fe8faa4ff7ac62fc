import SpillSelection.Proofs.Outcome
import SpillSelection.Proofs.Subruns
/-!
# Records line by line

The reader goes through the lines of a source one by one. A line that holds a record yields one
item, which says what is on that line and carries its number (`forall₂_read`), and a bad line
touches no other: the spills are those that are read when it is empty instead
(`delivered_blanked`). The states of the marker count what was marked (`count_scan`).
-/

namespace SpillSelection

/-! ## Lines -/

namespace Text

theorem lf_not_mem_of_mem_splitOn {source piece : List UInt8} (h : piece ∈ source.splitOn 10) :
    10 ∉ piece := by
  induction source generalizing piece with
  | nil => simp_all
  | cons b bs ih =>
    obtain ⟨first, others, pieces⟩ := List.exists_cons_of_ne_nil (List.splitOn_ne_nil 10 bs)
    rw [List.splitOn_cons_eq_if_modifyHead] at h
    split at h
    · rcases List.mem_cons.1 h with rfl | h
      · simp
      · exact ih h
    · rename_i other
      rw [pieces] at h ih
      rcases List.mem_cons.1 h with rfl | h
      · have clean := ih (List.mem_cons_self)
        have head : (10 : UInt8) ≠ b := fun same => other (by simp [same])
        simp [head, clean]
      · exact ih (List.mem_cons_of_mem _ h)

theorem splitOn_modifyHead_eq (line bs : List UInt8) :
    (bs.splitOn 10).modifyHead (line.reverse ++ ·) = splitLines line bs ++ [[]] ∨
      (bs.splitOn 10).modifyHead (line.reverse ++ ·) = splitLines line bs ∧
        (splitLines line bs).getLast? ≠ some [] := by
  -- The line that is being read, in reverse, stands before the first of the pieces that are left.
  induction bs generalizing line with
  | nil => cases line <;> simp [splitLines]
  | cons b bs ih =>
    rw [List.splitOn_cons_eq_if_modifyHead, splitLines]
    by_cases lf : b = 10
    · have same : (bs.splitOn 10).modifyHead ([] ++ ·) = bs.splitOn 10 := by
        cases bs.splitOn 10 <;> rfl
      have rest := ih []
      simp only [List.reverse_nil, same] at rest
      simp only [lf, BEq.rfl, if_true, List.modifyHead_cons, List.append_nil]
      rcases rest with ended | ⟨open_, last⟩
      · exact .inl (by rw [ended]; rfl)
      · refine .inr ⟨by rw [open_], ?_⟩
        obtain ⟨first, others, some⟩ := List.exists_cons_of_ne_nil (List.splitOn_ne_nil 10 bs)
        rw [← open_, some] at last ⊢
        rwa [List.getLast?_cons_cons]
    · have rest := ih (b :: line)
      simp only [List.reverse_cons, List.append_assoc, List.singleton_append] at rest
      simpa [lf, Function.comp_def] using rest

/-- The pieces of a source between its line feeds are its lines. Only when no byte comes after the
last line feed the last piece is no line. -/
theorem splitOn_eq_lines (source : List UInt8) :
    source.splitOn 10 = lines source ++ [[]] ∨
      source.splitOn 10 = lines source ∧ (lines source).getLast? ≠ some [] := by
  have same : (source.splitOn 10).modifyHead ([] ++ ·) = source.splitOn 10 := by
    cases source.splitOn 10 <;> rfl
  have pieces := splitOn_modifyHead_eq [] source
  rwa [List.reverse_nil, same] at pieces

end Text

namespace Records

/-- A line that yields an item: it is no text, or its text has something but blanks and does not
begin with a hash after them. -/
def holdsRecord (line : List UInt8) : Bool :=
  match Text.ofUtf8? line with
  | some text =>
    match Text.trim text.toList with
    | [] => false
    | first :: _ => first != '#'
  | none => true

/-- What the reader says of a line that holds a record, but for the mark of a spill. -/
inductive IsItem (number : Nat) (line : List UInt8) : RecordItem → Prop
  | unreadable (h : Text.ofUtf8? line = none) :
    IsItem number line (.error (.unreadable number notText))
  | malformed {text : String} {fault : Json.Fault} (h : Text.ofUtf8? line = some text)
    (bad : Json.decodeText Spill.ofJson (String.ofList (Text.trim text.toList)) = .error fault) :
    IsItem number line (.error (.malformed number fault))
  | spill {text : String} {spill : Spill} (first : Bool) (h : Text.ofUtf8? line = some text)
    (good : Json.decodeText Spill.ofJson (String.ofList (Text.trim text.toList)) = .ok spill) :
    IsItem number line (.ok (spill.marked first))

theorem holdsRecord_of_ofUtf8? {line : List UInt8} {text : String}
    (h : Text.ofUtf8? line = some text) :
    holdsRecord line = !isSkipped (Text.trim text.toList) := by
  simp only [holdsRecord, h, isSkipped]
  cases Text.trim text.toList with
  | nil => rfl
  | cons first rest => simp [bne]

theorem ofLine_eq_none {number : Nat} {line : List UInt8} (h : holdsRecord line = false) :
    ofLine number line = none := by
  cases found : Text.ofUtf8? line with
  | none => simp [holdsRecord, found] at h
  | some text =>
    have skipped : isSkipped (Text.trim text.toList) = true := by
      simpa [holdsRecord_of_ofUtf8? found] using h
    simp [ofLine, found, ofText, skipped]

theorem exists_ofLine {line : List UInt8} (h : holdsRecord line) (number : Nat) :
    ∃ item, ofLine number line = some item ∧
      ∀ mark : Spill → Bool, IsItem number line (item.map fun s => s.marked (mark s)) := by
  cases found : Text.ofUtf8? line with
  | none =>
    have item : ofLine number line = some (.error (.unreadable number notText)) := by
      simp [ofLine, found]
    exact ⟨_, item, fun _ => .unreadable found⟩
  | some text =>
    have kept : isSkipped (Text.trim text.toList) = false := by
      simpa [holdsRecord_of_ofUtf8? found] using h
    have item : ofLine number line = some ((Json.decodeText Spill.ofJson
        (String.ofList (Text.trim text.toList))).mapError (.malformed number)) := by
      simp [ofLine, found, ofText, kept]
    refine ⟨_, item, fun mark => ?_⟩
    cases result : Json.decodeText Spill.ofJson (String.ofList (Text.trim text.toList)) with
    | error fault => exact .malformed found result
    | ok spill => exact .spill _ found result

/-- The items of some lines, and the lines that they are of. -/
theorem forall₂_filterMap (numbered : List (List UInt8 × Nat)) :
    List.Forall₂
      (fun line item => ∀ mark : Spill → Bool,
        IsItem line.2 line.1 (item.map fun s => s.marked (mark s)))
      (numbered.filter fun line => holdsRecord line.1)
      (numbered.filterMap fun line => ofLine line.2 line.1) := by
  induction numbered with
  | nil => exact .nil
  | cons line rest ih =>
    cases holds : holdsRecord line.1 with
    | true =>
      obtain ⟨item, yields, is⟩ := exists_ofLine holds line.2
      simp only [List.filter_cons, holds, if_true, List.filterMap_cons, yields]
      exact .cons is ih
    | false =>
      simp only [List.filter_cons, holds, Bool.false_eq_true, if_false, List.filterMap_cons,
        ofLine_eq_none holds]
      exact ih

theorem forall₂_mapIdx {α β γ : Type} {r : α → β → Prop} {s : α → γ → Prop} {xs : List α}
    {ys : List β} (each : List.Forall₂ r xs ys) {f : Nat → β → γ}
    (h : ∀ x y k, r x y → s x (f k y)) : List.Forall₂ s xs (ys.mapIdx f) := by
  induction each generalizing f with
  | nil => exact .nil
  | cons first _ ih =>
    rw [List.mapIdx_cons]
    exact .cons (h _ _ 0 first) (ih fun x y k => h x y (k + 1))

/-- The reader yields each spill with a mark that says whether an earlier one is of its subrun. -/
theorem read_eq_mapIdx (source : List UInt8) :
    read source = (unmarked source).mapIdx fun k item => item.map fun spill =>
      spill.marked (spill.opensSubrun (spillsOf ((unmarked source).take k))) := by
  have nothing : SubrunMarker.Met {} [] := fun u => by simp
  exact SubrunMarker.scan_eq_mapIdx nothing (unmarked source)

/-- Every line that holds a record yields one item, in the order of the lines. -/
theorem forall₂_read (source : List UInt8) :
    List.Forall₂ (fun line item => IsItem line.2 line.1 item)
      (((Text.lines source).zipIdx 1).filter fun line => holdsRecord line.1) (read source) := by
  rw [read_eq_mapIdx]
  exact forall₂_mapIdx (forall₂_filterMap _) fun line item k h => h _

/-! ## Marks -/

theorem spillsOf_mapIdx (mark : Nat → Spill → Bool) (items : List RecordItem) :
    (spillsOf (items.mapIdx fun k item => item.map fun s => s.marked (mark k s))).map
      Spill.subrun = (spillsOf items).map Spill.subrun := by
  induction items generalizing mark with
  | nil => rfl
  | cons item items ih =>
    have rest := ih fun k => mark (k + 1)
    rw [List.mapIdx_cons]
    cases item with
    | error e => exact rest
    | ok s => exact congrArg (s.subrun :: ·) rest

/-- A spill is marked if no spill before it is of its subrun. -/
theorem firstInSubrun_iff {source : List UInt8} {before after : List RecordItem} {s : Spill}
    (h : read source = before ++ .ok s :: after) :
    s.header.firstInSubrun = true ↔ ∀ e ∈ spillsOf before, e.subrun ≠ s.subrun := by
  rw [read_eq_mapIdx, List.mapIdx_eq_append_iff] at h
  obtain ⟨first, rest, items, rfl, others⟩ := h
  obtain ⟨item, rest, rfl, this, -⟩ := List.mapIdx_eq_cons_iff.1 others
  have taken : (unmarked source).take first.length = first := by simp [items]
  rw [Nat.zero_add, taken] at this
  cases item with
  | error e => cases this
  | ok written =>
    cases this
    -- Marks change no subrun, so it is the same to look among the spills before and after marking.
    have earlier := spillsOf_mapIdx
      (fun k spill => spill.opensSubrun (spillsOf ((unmarked source).take k))) first
    have known (spills : List Spill) : (∀ e ∈ spills, e.subrun ≠ written.subrun) ↔
        written.subrun ∉ spills.map Spill.subrun := by simp
    rw [Spill.subrun_marked, known, earlier, ← known]
    simp [Spill.marked, Spill.opensSubrun]

/-! ## Counting subruns -/

/-- An item that is a spill with a mark. -/
def isFirst (item : RecordItem) : Bool :=
  match item with
  | .ok s => s.header.firstInSubrun
  | .error _ => false

theorem count_mark (m : SubrunMarker) (s : Spill) :
    (m.mark s).1.count = m.count + if isFirst (.ok (m.mark s).2) then 1 else 0 := by
  by_cases known : s.subrun ∈ m.seen
  · simp [SubrunMarker.mark, SubrunMarker.count, isFirst, known]
  · simp [SubrunMarker.mark, SubrunMarker.count, isFirst, known]

/-- The state after an item counts the marks up to there. -/
theorem count_scan {m : SubrunMarker} {items : List RecordItem}
    {before after : List (RecordItem × SubrunMarker)} {d : RecordItem × SubrunMarker}
    (h : m.scan items = before ++ d :: after) :
    d.2.count = m.count + (before ++ [d]).countP fun d => isFirst d.1 := by
  induction items generalizing m before with
  | nil => simp [SubrunMarker.scan] at h
  | cons item items ih =>
    cases item with
    | error e =>
      rw [SubrunMarker.scan] at h
      cases before with
      | nil =>
        obtain ⟨rfl, -⟩ := List.cons.inj h
        simp [isFirst]
      | cons b before =>
        obtain ⟨rfl, rest⟩ := List.cons.inj h
        simpa [isFirst] using ih rest
    | ok s =>
      have counted := count_mark m s
      rw [SubrunMarker.scan] at h
      generalize m.mark s = marked at h counted
      cases before with
      | nil =>
        obtain ⟨rfl, -⟩ := List.cons.inj h
        simpa [List.countP_cons] using counted
      | cons b before =>
        obtain ⟨rfl, rest⟩ := List.cons.inj h
        rw [ih rest, counted, List.cons_append, List.countP_cons, Nat.add_assoc,
          Nat.add_comm (List.countP _ _)]

theorem subruns_eq (source : List UInt8) : subruns source = (read source).countP isFirst := by
  unfold subruns read
  split
  · rename_i last found
    obtain ⟨before, all⟩ := List.getLast?_eq_some_iff.1 found
    rw [count_scan (m := {}) all, all, List.countP_map]
    exact Nat.zero_add _
  · rename_i none
    rw [List.getLast?_eq_none_iff.1 none]
    rfl

/-! ## Bad lines -/

/-- A line that yields an error. -/
def fails (line : List UInt8) : Bool := (ofLine 1 line).any (!·.toBool)

/-- A source with empty lines instead of those that fail. -/
def blanked (source : List UInt8) : List UInt8 :=
  [10].intercalate ((source.splitOn 10).map fun line => if fails line then [] else line)

/-- The last piece of a source yields nothing when it is no line. -/
theorem unmarked_eq (source : List UInt8) :
    unmarked source =
      ((source.splitOn 10).zipIdx 1).filterMap fun line => ofLine line.2 line.1 := by
  rcases Text.splitOn_eq_lines source with ended | ⟨open_, -⟩
  · have nothing (number : Nat) : ofLine number [] = none := ofLine_eq_none (by decide)
    rw [ended, List.zipIdx_append, List.filterMap_append]
    simp [unmarked, nothing]
  · rw [open_, unmarked]

/-- The number of a line does not decide whether it fails. -/
theorem map_toBool_ofLine (n k : Nat) (line : List UInt8) :
    (ofLine n line).map (·.toBool) = (ofLine k line).map (·.toBool) := by
  unfold ofLine ofText
  split
  · simp only
    split
    · rfl
    · cases Json.decodeText Spill.ofJson _ <;> rfl
  · rfl

theorem fails_eq (n : Nat) (line : List UInt8) :
    fails line = (ofLine n line).any (!·.toBool) := by
  have all (item : Option RecordItem) :
      item.any (!·.toBool) = (item.map (·.toBool)).any (!·) := by cases item <;> rfl
  rw [fails, all, map_toBool_ofLine 1 n, ← all]

theorem filterMap_blanked (lines : List (List UInt8)) (n : Nat) :
    ((lines.map fun line => if fails line then [] else line).zipIdx n).filterMap
        (fun line => ofLine line.2 line.1) =
      ((lines.zipIdx n).filterMap fun line => ofLine line.2 line.1).filter (·.toBool) := by
  induction lines generalizing n with
  | nil => rfl
  | cons line lines ih =>
    have nothing (number : Nat) : ofLine number [] = none := ofLine_eq_none (by decide)
    rw [List.map_cons, List.zipIdx_cons, List.zipIdx_cons, List.filterMap_cons,
      List.filterMap_cons, ih (n + 1)]
    have bad := fails_eq n line
    match item : ofLine n line with
    | none => simp [bad, item]
    | some (.error e) => simp [bad, item, nothing, Except.toBool]
    | some (.ok s) => simp [bad, item, Except.toBool]

theorem unmarked_blanked (source : List UInt8) :
    unmarked (blanked source) = (unmarked source).filter (·.toBool) := by
  have pieces : (blanked source).splitOn 10 =
      (source.splitOn 10).map fun line => if fails line then [] else line := by
    refine List.splitOn_intercalate 10 (fun piece hpiece => ?_) (by simp)
    obtain ⟨line, hline, rfl⟩ := List.mem_map.1 hpiece
    split
    · simp
    · exact Text.lf_not_mem_of_mem_splitOn hline
  rw [unmarked_eq, unmarked_eq, pieces, filterMap_blanked]

theorem scan_filter (m : SubrunMarker) (items : List RecordItem) :
    m.scan (items.filter (·.toBool)) = (m.scan items).filter (·.1.toBool) := by
  induction items generalizing m with
  | nil => rfl
  | cons item items ih =>
    cases item with
    | error e => simpa [SubrunMarker.scan, Except.toBool] using ih m
    | ok s => simpa [SubrunMarker.scan, Except.toBool] using ih _

/-- A bad line touches no other: without it the reader yields the same spills with the same marks,
and is in the same state after each of them. -/
theorem delivered_blanked (source : List UInt8) :
    delivered (blanked source) = (delivered source).filter (·.1.toBool) := by
  rw [delivered, unmarked_blanked, scan_filter]
  rfl

theorem subruns_blanked (source : List UInt8) : subruns (blanked source) = subruns source := by
  have errors (d : RecordItem × SubrunMarker) : isFirst d.1 = (isFirst d.1 && d.1.toBool) := by
    obtain ⟨_ | s, _⟩ := d <;> simp [isFirst, Except.toBool]
  rw [subruns_eq, subruns_eq, read, read, delivered_blanked, List.countP_map, List.countP_map,
    List.countP_filter]
  exact List.countP_congr fun d _ => by simp [← errors]

/-! ## The reader -/

/-- What the reader does with any bytes. Its lines are the pieces between line feeds, and each of
them that holds a record yields one item, in their order, with the line's number counted from one
over all lines. A spill that is yielded is marked exactly if none before it is of its subrun, and
the number of subruns that the reader met is at every item the number of marks up to there. Empty
lines in the place of those that fail leave everything else as it is. -/
theorem read_line_by_line (source : List UInt8) :
    (source.splitOn 10 = Text.lines source ++ [[]] ∨
      source.splitOn 10 = Text.lines source ∧ (Text.lines source).getLast? ≠ some []) ∧
    List.Forall₂ (fun line item => IsItem line.2 line.1 item)
      (((Text.lines source).zipIdx 1).filter fun line => holdsRecord line.1) (read source) ∧
    (∀ before s after, read source = before ++ .ok s :: after →
      (s.header.firstInSubrun = true ↔ ∀ e ∈ spillsOf before, e.subrun ≠ s.subrun)) ∧
    (∀ before d after, delivered source = before ++ d :: after →
      d.2.count = (before ++ [d]).countP fun d => isFirst d.1) ∧
    delivered (blanked source) = (delivered source).filter (·.1.toBool) ∧
    subruns (blanked source) = subruns source := by
  refine ⟨Text.splitOn_eq_lines source, forall₂_read source, fun _ _ _ => firstInSubrun_iff,
    fun before d after h => ?_, delivered_blanked source, subruns_blanked source⟩
  rw [count_scan h]
  exact Nat.zero_add _

/-- A comment, a bad line with a carriage return, a blank line, bytes that are no text, and a spill
with all its fields missing. -/
example :
    let source := Text.utf8 "#\n\x7b\r\n\n" ++ [255, 10] ++ Text.utf8 "\x7b\x7d"
    (read source).map (fun item => item.mapError RecordError.message |>.map (·.header)) =
      [.error "line 2: parse error: not a JSON value",
        .error ("line 4: I/O error: " ++ notText),
        .ok { firstInSubrun := true }] := by
  decide +kernel

end Records

end SpillSelection
