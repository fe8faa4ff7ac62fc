import SpillSelection.Json.Lexer
import SpillSelection.Proofs.RecordFields
import SpillSelection.Table
import SpillSelection.Text.Lines
/-!
# The text of a table

A row is written as one object without blanks, and what JSON escapes or never uses covers the line
feed. So the lines that are read back from the text of a table are its rows, one line for each of
them: `Table.lines_text`.
-/

namespace SpillSelection

/-! ## Bytes -/

namespace Text

theorem toList_eq_data (bytes : ByteArray) : bytes.toList = bytes.data.toList := by
  -- The loop goes through what is left of the bytes, and keeps those it read in reverse.
  have loop : ∀ (left read : List UInt8) (i : Nat), bytes.data.toList.drop i = left →
      ByteArray.toList.loop bytes i read = read.reverseAux left := by
    intro left
    induction left with
    | nil =>
      intro read i none
      have past : ¬ i < bytes.size := by simpa using none
      rw [ByteArray.toList.loop, if_neg past, List.reverse]
    | cons b left ih =>
      intro read i some
      have inside : i < bytes.data.toList.length := Nat.lt_of_not_le fun past => by
        rw [List.drop_eq_nil_of_le past] at some
        cases some
      rw [List.drop_eq_getElem_cons inside, List.cons.injEq] at some
      obtain ⟨first, rest⟩ := some
      have inside : i < bytes.size := by simpa using inside
      have first : bytes.get! i = b := by simpa [ByteArray.get!, inside] using first
      rw [ByteArray.toList.loop, if_pos inside, ih _ _ rest, first]
      rfl
  exact loop _ [] 0 rfl

theorem utf8_eq (text : String) : utf8 text = text.toList.flatMap String.utf8EncodeChar := by
  have bytes : text.toByteArray = (text.toList.flatMap String.utf8EncodeChar).toByteArray :=
    String.utf8Encode_toList.symm
  rw [utf8, toList_eq_data, String.toUTF8, bytes, List.toList_data_toByteArray]

theorem ofUtf8?_utf8 (text : String) : ofUtf8? (utf8 text) = some text := by
  have bytes : (⟨(utf8 text).toArray⟩ : ByteArray) = text.toByteArray := by
    rw [utf8, toList_eq_data, Array.toArray_toList]
    rfl
  rw [ofUtf8?, bytes, String.fromUTF8?, dif_pos text.isValidUTF8]
  rfl

/-- No byte of a character beyond ASCII is below 128, so the byte of a line feed stands for itself
only. -/
theorem eq_lf_of_mem_utf8EncodeChar {c : Char} (h : 10 ∈ String.utf8EncodeChar c) : c = '\n' := by
  have byte : ∀ n, (10 : UInt8) = UInt8.ofNat n → n % 256 = 10 := by
    intro n hn
    simpa using (congrArg UInt8.toNat hn).symm
  have code : c.val.toNat = 10 := by
    unfold String.utf8EncodeChar at h
    simp only at h
    split at h
    · have := byte _ (List.mem_singleton.1 h)
      omega
    -- Every byte of a longer encoding is 128 or more.
    · exfalso
      split at h
      · simp only [List.mem_cons, List.not_mem_nil, or_false] at h
        rcases h with h | h
        all_goals have := byte _ h; omega
      · split at h
        · simp only [List.mem_cons, List.not_mem_nil, or_false] at h
          rcases h with h | h | h
          all_goals have := byte _ h; omega
        · simp only [List.mem_cons, List.not_mem_nil, or_false] at h
          rcases h with h | h | h | h
          all_goals have := byte _ h; omega
  exact Char.ext (UInt32.toNat_inj.1 code)

theorem lf_not_mem_utf8 {text : String} (h : '\n' ∉ text.toList) : 10 ∉ utf8 text := by
  rw [utf8_eq, List.mem_flatMap]
  rintro ⟨c, hc, hten⟩
  exact h (eq_lf_of_mem_utf8EncodeChar hten ▸ hc)

/-! ## Lines -/

theorem splitLines_append_lf {piece : List UInt8} (h : 10 ∉ piece) (line rest : List UInt8) :
    splitLines line (piece ++ 10 :: rest) = (line.reverse ++ piece) :: splitLines [] rest := by
  induction piece generalizing line with
  | nil => simp [splitLines]
  | cons b bs ih =>
    obtain ⟨hb, hbs⟩ : b ≠ 10 ∧ 10 ∉ bs := by
      simp only [List.mem_cons, not_or] at h
      exact ⟨Ne.symm h.1, h.2⟩
    rw [List.cons_append, splitLines, if_neg hb, ih hbs, List.reverse_cons, List.append_assoc,
      List.singleton_append]

/-- Texts that are each ended by a line feed are the lines of what they make together. -/
theorem lines_utf8_join {texts : List String} (h : ∀ text ∈ texts, '\n' ∉ text.toList) :
    lines (utf8 (String.join (texts.map (· ++ "\n")))) = texts.map utf8 := by
  have bytes : utf8 (String.join (texts.map (· ++ "\n"))) =
      texts.flatMap fun text => utf8 text ++ [10] := by
    simp only [utf8_eq, String.toList_join, List.flatMap_map, List.flatMap_assoc,
      String.toList_append, List.flatMap_append]
    rfl
  rw [bytes]
  clear bytes
  induction texts with
  | nil => rfl
  | cons text texts ih =>
    obtain ⟨first, others⟩ := List.forall_mem_cons.1 h
    rw [List.flatMap_cons, List.append_assoc, List.singleton_append, lines,
      splitLines_append_lf (lf_not_mem_utf8 first)]
    exact congrArg (utf8 text :: ·) (ih others)

end Text

/-! ## Numbers -/

open Json.Lexer (isNumberChar)

theorem isNumberChar_of_isDigit {c : Char} (h : c.isDigit) : isNumberChar c := by
  simp [isNumberChar, h]

namespace Decimal

theorem isNumberChar_of_mem_digitChars {n : Nat} {c : Char} (h : c ∈ digitChars n) :
    isNumberChar c :=
  isNumberChar_of_isDigit (Nat.isDigit_of_mem_toDigits (by decide) (by decide) h)

theorem isNumberChar_of_mem_mantissaChars {ds : List Char} (hds : ∀ c ∈ ds, isNumberChar c)
    {c : Char} (h : c ∈ mantissaChars ds) : isNumberChar c := by
  match ds with
  | [] => simp [mantissaChars] at h
  | [d] => exact hds c h
  | d :: e :: rest =>
    simp only [mantissaChars, List.mem_cons] at h
    rcases h with rfl | rfl | h
    · exact hds _ (by simp)
    · rfl
    · exact hds c (by simpa using .inr h)

theorem isNumberChar_of_mem_exponentChars {e : Int} {c : Char} (h : c ∈ exponentChars e) :
    isNumberChar c := by
  simp only [exponentChars, List.mem_cons] at h
  rcases h with rfl | rfl | h
  · rfl
  · split <;> rfl
  · exact isNumberChar_of_mem_digitChars h

theorem isNumberChar_of_mem_positionalChars {ds : List Char} (hds : ∀ c ∈ ds, isNumberChar c)
    {top : Int} {c : Char} (h : c ∈ positionalChars ds top) : isNumberChar c := by
  have zero : isNumberChar '0' := rfl
  have padded : ∀ n, ∀ c ∈ ds ++ List.replicate n '0', isNumberChar c := by
    intro n c hc
    rcases List.mem_append.1 hc with hc | hc
    · exact hds c hc
    · exact (List.eq_of_mem_replicate hc) ▸ zero
  unfold positionalChars at h
  split at h
  · simp only [List.mem_cons, List.mem_append] at h
    rcases h with rfl | rfl | h | h
    · exact zero
    · rfl
    · exact (List.eq_of_mem_replicate h) ▸ zero
    · exact hds c h
  · simp only [List.mem_append, List.mem_cons] at h
    rcases h with h | rfl | h
    · exact padded _ c (List.mem_of_mem_take h)
    · rfl
    · split at h
      · exact (List.mem_singleton.1 h) ▸ zero
      · exact hds c (List.mem_of_mem_drop h)

theorem Scientific.isNumberChar_of_mem_chars {layout : Layout} {d : Scientific} {c : Char}
    (h : c ∈ d.chars layout) : isNumberChar c := by
  have digits : ∀ c ∈ digitChars d.digits, isNumberChar c :=
    fun _ => isNumberChar_of_mem_digitChars
  simp only [Scientific.chars] at h
  split at h
  · exact isNumberChar_of_mem_positionalChars digits h
  · rcases List.mem_append.1 h with h | h
    · exact isNumberChar_of_mem_mantissaChars digits h
    · exact isNumberChar_of_mem_exponentChars h

/-- A float is written with the characters of JSON numbers only. -/
theorem isNumberChar_of_mem_chars {x : Float} {c : Char} (h : c ∈ chars x) : isNumberChar c := by
  rcases List.mem_append.1 h with h | h
  · split at h
    · exact (List.mem_singleton.1 h) ▸ rfl
    · simp at h
  · exact Scientific.isNumberChar_of_mem_chars h

end Decimal

/-! ## Values -/

namespace Json

theorem toList_compact (v : Json) : v.compact.toList = v.tokens.flatMap Token.chars :=
  String.toList_ofList

theorem isNumberChar_of_mem_toString {z : Int} {c : Char} (h : c ∈ (toString z).toList) :
    isNumberChar c := by
  have digits : ∀ n : Nat, ∀ c ∈ n.repr.toList, isNumberChar c := by
    intro n c hc
    rw [Nat.toList_repr] at hc
    exact Decimal.isNumberChar_of_mem_digitChars hc
  cases z with
  | ofNat n => exact digits n c h
  | negSucc n =>
    have h : c ∈ ("-" ++ (n + 1).repr).toList := h
    rw [String.toList_append] at h
    rcases List.mem_append.1 h with h | h
    · exact (List.mem_singleton.1 h) ▸ rfl
    · exact digits _ c h

theorem hexDigit_ne_lf : ∀ n < 16, '\n' ≠ hexDigit n := by decide

theorem lf_not_mem_escapeChar (c : Char) : '\n' ∉ escapeChar c := by
  by_cases lf : c = '\n'
  · subst lf
    decide
  unfold escapeChar
  repeat' split
  any_goals decide
  · have high := hexDigit_ne_lf (c.toNat / 16) (by omega)
    have low := hexDigit_ne_lf (c.toNat % 16) (by omega)
    simp [high, low]
  · simpa using Ne.symm lf

theorem lf_not_mem_quote (text : String) : '\n' ∉ quote text := by
  simp [quote, lf_not_mem_escapeChar]

/-- A value whose compact text is one line. -/
def IsOneLine (v : Json) : Prop := '\n' ∉ v.compact.toList

theorem isOneLine_number {literal : String} (h : ∀ c ∈ literal.toList, isNumberChar c) :
    IsOneLine (.number literal) := by
  rw [IsOneLine, toList_compact]
  intro hlf
  have : isNumberChar '\n' := h _ (by simpa [tokens, Token.chars] using hlf)
  exact absurd this (by decide)

theorem isOneLine_ofInt (z : Int) : IsOneLine (ofInt z) :=
  isOneLine_number fun _ => isNumberChar_of_mem_toString

theorem isOneLine_ofFloat (x : Float) : IsOneLine (ofFloat x) := by
  unfold ofFloat Decimal.text?
  split
  · rename_i literal found
    obtain ⟨-, rfl⟩ : x.isFinite ∧ String.ofList (Decimal.chars x) = literal := by
      simpa using found
    exact isOneLine_number fun c hc =>
      Decimal.isNumberChar_of_mem_chars (by simpa using hc)
  · rw [IsOneLine, toList_compact]
    decide

theorem lf_not_mem_moreItemTokens {items : List Json} (h : ∀ v ∈ items, IsOneLine v) :
    '\n' ∉ (moreItemTokens items).flatMap Token.chars := by
  induction items with
  | nil => decide
  | cons v vs ih =>
    obtain ⟨first, others⟩ := List.forall_mem_cons.1 h
    rw [IsOneLine, toList_compact] at first
    simp only [moreItemTokens, List.flatMap_cons, List.flatMap_append, List.mem_append, not_or]
    exact ⟨by decide, first, ih others⟩

theorem isOneLine_array {items : List Json} (h : ∀ v ∈ items, IsOneLine v) :
    IsOneLine (.array items) := by
  rw [IsOneLine, toList_compact]
  cases items with
  | nil => decide
  | cons v vs =>
    obtain ⟨first, others⟩ := List.forall_mem_cons.1 h
    rw [IsOneLine, toList_compact] at first
    simp only [tokens, itemTokens, List.flatMap_cons, List.flatMap_append, List.mem_append, not_or]
    exact ⟨by decide, first, lf_not_mem_moreItemTokens others⟩

theorem lf_not_mem_moreMemberTokens {members : List (String × Json)}
    (h : ∀ m ∈ members, IsOneLine m.2) :
    '\n' ∉ (moreMemberTokens members).flatMap Token.chars := by
  induction members with
  | nil => decide
  | cons m ms ih =>
    obtain ⟨first, others⟩ := List.forall_mem_cons.1 h
    rw [IsOneLine, toList_compact] at first
    simp only [moreMemberTokens, List.flatMap_cons, List.flatMap_append, List.mem_append, not_or]
    exact ⟨by decide, lf_not_mem_quote m.1, by decide, first, ih others⟩

theorem isOneLine_object {members : List (String × Json)} (h : ∀ m ∈ members, IsOneLine m.2) :
    IsOneLine (.object members) := by
  rw [IsOneLine, toList_compact]
  cases members with
  | nil => decide
  | cons m ms =>
    obtain ⟨first, others⟩ := List.forall_mem_cons.1 h
    rw [IsOneLine, toList_compact] at first
    simp only [tokens, memberTokens, List.flatMap_cons, List.flatMap_append, List.mem_append,
      not_or]
    exact ⟨by decide, lf_not_mem_quote m.1, by decide, first, lf_not_mem_moreMemberTokens others⟩

end Json

/-! ## Tables -/

/-- What holds of all integers and of all floats holds of the members of a row's object. -/
theorem TableRow.forall_toJson {P : Json → Prop} (int : ∀ z, P (.ofInt z))
    (float : ∀ x, P (.ofFloat x)) (columns : List String) (row : TableRow) :
    ∃ members, row.toJson columns = .object members ∧ ∀ m ∈ members, P m.2 := by
  refine ⟨_, rfl, fun m hm => ?_⟩
  rcases ByName.mem_foldl_insert hm with hm | hm
  · simp at hm
  · simp only [List.mem_cons] at hm
    rcases hm with rfl | rfl | rfl | hm
    · exact int _
    · exact int _
    · exact int _
    · obtain ⟨x, -, hx⟩ := List.mem_map.1 (List.of_mem_zip hm).2
      exact hx ▸ float x

theorem TableRow.isOneLine_toJson (columns : List String) (row : TableRow) :
    (row.toJson columns).IsOneLine := by
  obtain ⟨members, object, each⟩ :=
    row.forall_toJson Json.isOneLine_ofInt Json.isOneLine_ofFloat columns
  rw [object]
  exact Json.isOneLine_object each

/-- The lines of a table's text are its rows. -/
theorem Table.lines_text (t : Table) :
    Text.lines (Text.utf8 t.text) = t.rows.toList.map fun row => Text.utf8 (t.line row) := by
  have oneLine : ∀ text ∈ t.rows.toList.map t.line, '\n' ∉ text.toList := by
    intro text htext
    obtain ⟨row, -, rfl⟩ := List.mem_map.1 htext
    exact row.isOneLine_toJson t.columns
  simpa [Table.text, List.map_map, Function.comp_def] using Text.lines_utf8_join oneLine

end SpillSelection
