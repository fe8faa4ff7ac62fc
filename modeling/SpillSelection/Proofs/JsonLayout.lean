import SpillSelection.Proofs.JsonText
/-!
# Reading what was laid out over lines

Line breaks and blanks may stand before any mark and any value, so the text of a value that is laid
out over lines has the tokens of its compact text. It is read as the value (`parse?_pretty`), also
with a line break after it.
-/

namespace SpillSelection.Json

namespace Lexer

variable {c : Char} {cs : List Char} {ts : List Token}

/-! ## Blanks -/

theorem notWord_of_isBlank (h : isBlank c) : isWordChar c = false ∧ isNumberChar c = false := by
  simp only [isBlank, Bool.or_eq_true, decide_eq_true_eq] at h
  rcases h with ((rfl | rfl) | rfl) | rfl <;> exact ⟨rfl, rfl⟩

/-- A blank ends a number or a word, and is nothing itself. -/
theorem continues_blank (blank : isBlank c) (h : Reads cs ts) : Continues (c :: cs) ts := by
  intro s tokens ready
  obtain ⟨notWord, notNumber⟩ := notWord_of_isBlank blank
  obtain ⟨s', run, ready'⟩ := h tokens
  refine ⟨s', ?_, ready'⟩
  have passed : begin? tokens c = some ⟨.between, tokens⟩ := by simp [begin?, blank]
  rw [List.foldlM_cons, ready.next c notWord notNumber, passed]
  exact run

theorem reads_indented (n : Nat) (h : Reads cs ts) : Reads (List.replicate n ' ' ++ cs) ts := by
  induction n with
  | zero => exact h
  | succ n ih => exact (continues_blank rfl ih).reads

theorem continues_newline (level : Nat) (h : Reads cs ts) : Continues (newline level ++ cs) ts :=
  continues_blank rfl (reads_indented _ h)

theorem reads_newline (level : Nat) (h : Reads cs ts) : Reads (newline level ++ cs) ts :=
  (continues_newline level h).reads

/-! ## Values on lines -/

/-- A member stands on its own line, with a blank between its colon and its value. -/
theorem reads_member (level : Nat) (name : String) (h : Reads cs ts) :
    Reads (newline level ++ (quote name ++ (':' :: ' ' :: cs)))
      (.string name :: .colon :: ts) :=
  reads_newline level
    ((reads_string name).append (isMark_colon.continues (continues_blank rfl h).reads))

theorem continues_prettyItems (level : Nat) {vs : List Json}
    (h : ∀ v ∈ vs, ∀ level, Reads (prettyChars level v) v.tokens) :
    Continues (prettyItems level vs) (moreItemTokens vs) := by
  induction vs with
  | nil => exact continues_newline level (isMark_closeArray.continues reads_nil).reads
  | cons v vs ih =>
    obtain ⟨first, others⟩ := List.forall_mem_cons.1 h
    simp only [prettyItems, moreItemTokens, List.append_assoc]
    exact isMark_comma.continues
      (reads_newline (level + 1) ((first (level + 1)).append (ih others)))

theorem continues_prettyMembers (level : Nat) {ms : List (String × Json)}
    (h : ∀ m ∈ ms, ∀ level, Reads (prettyChars level m.2) m.2.tokens) :
    Continues (prettyMembers level ms) (moreMemberTokens ms) := by
  induction ms with
  | nil => exact continues_newline level (isMark_closeObject.continues reads_nil).reads
  | cons m ms ih =>
    obtain ⟨first, others⟩ := List.forall_mem_cons.1 h
    simp only [prettyMembers, moreMemberTokens, List.append_assoc]
    exact isMark_comma.continues
      (reads_member (level + 1) m.1 ((first (level + 1)).append (ih others)))

/-- The laid out text of a value is read as its tokens, however deep it stands. -/
theorem reads_prettyChars {v : Json} (h : v.HasNumerals) (level : Nat) :
    Reads (prettyChars level v) v.tokens := by
  induction h generalizing level with
  | null => exact reads_null
  | bool b => exact reads_bool b
  | number h => exact reads_number h
  | string text => exact reads_string text
  | broken => exact reads_broken
  | @array items _ ih =>
    cases items with
    | nil => exact (isMark_openArray.continues (isMark_closeArray.continues reads_nil).reads).reads
    | cons v vs =>
      obtain ⟨first, others⟩ := List.forall_mem_cons.1 ih
      simp only [prettyChars, tokens, itemTokens, List.append_assoc]
      exact (isMark_openArray.continues (reads_newline (level + 1)
        ((first (level + 1)).append (continues_prettyItems level others)))).reads
  | @object members _ ih =>
    cases members with
    | nil =>
      exact (isMark_openObject.continues (isMark_closeObject.continues reads_nil).reads).reads
    | cons m ms =>
      obtain ⟨first, others⟩ := List.forall_mem_cons.1 ih
      simp only [prettyChars, tokens, memberTokens, List.append_assoc]
      exact (isMark_openObject.continues (reads_member (level + 1) m.1
        ((first (level + 1)).append (continues_prettyMembers level others)))).reads

end Lexer

/-- The laid out text of a value is read as that value, and so it is with a line break after it. -/
theorem parse?_pretty {v : Json} (h : v.HasNumerals) :
    parse? v.pretty.toList = some v ∧ parse? (v.pretty.toList ++ ['\n']) = some v := by
  have laidOut := Lexer.reads_prettyChars h 0
  have ended : Lexer.Reads (prettyChars 0 v ++ ['\n']) (v.tokens ++ []) :=
    laidOut.append (Lexer.continues_newline 0 Lexer.reads_nil)
  rw [List.append_nil] at ended
  rw [pretty, String.toList_ofList]
  exact ⟨parse?_of_reads laidOut, parse?_of_reads ended⟩

end SpillSelection.Json
