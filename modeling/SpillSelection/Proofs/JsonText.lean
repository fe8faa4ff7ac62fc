import SpillSelection.Json.Parser
import SpillSelection.Json.Printer
/-!
# Reading back what was written

The lexer finds in the text of some tokens these tokens again, because a number or a word is always
followed by a mark, and the parser builds from the tokens of a value that value. So the compact
text of a value is read as the value (`parse?_compact`), as long as its numbers are numerals.
-/

namespace SpillSelection.Json

/-! ## Values that can be read -/

/-- The characters of a number that the lexer takes as one word and accepts. -/
structure IsNumeral (cs : List Char) : Prop where
  reads : (Numeral.read? cs).isSome
  chars : ∀ c ∈ cs, Lexer.isNumberChar c

/-- Every number in a value is a numeral. -/
inductive HasNumerals : Json → Prop
  | null : HasNumerals .null
  | bool (b : Bool) : HasNumerals (.bool b)
  | number {literal : String} (h : IsNumeral literal.toList) : HasNumerals (.number literal)
  | string (text : String) : HasNumerals (.string text)
  | broken : HasNumerals .broken
  | array {items : List Json} (h : ∀ v ∈ items, HasNumerals v) : HasNumerals (.array items)
  | object {members : List (String × Json)} (h : ∀ m ∈ members, HasNumerals m.2) :
    HasNumerals (.object members)

@[simp] theorem hasNumerals_bool (b : Bool) : (Json.bool b).HasNumerals := .bool b

@[simp] theorem hasNumerals_string (text : String) : (Json.string text).HasNumerals := .string text

@[simp] theorem hasNumerals_array {items : List Json} :
    (Json.array items).HasNumerals ↔ ∀ v ∈ items, v.HasNumerals :=
  ⟨fun | .array h => h, .array⟩

@[simp] theorem hasNumerals_object {members : List (String × Json)} :
    (Json.object members).HasNumerals ↔ ∀ m ∈ members, m.2.HasNumerals :=
  ⟨fun | .object h => h, .object⟩

theorem Numeral.exists_cons_of_unsigned? {negative : Bool} {cs : List Char}
    (h : (unsigned? negative cs).isSome) : ∃ c rest, cs = c :: rest ∧ c.isDigit := by
  cases cs with
  | nil => cases h
  | cons c rest =>
    refine ⟨c, rest, rfl, ?_⟩
    cases hc : c.isDigit with
    | true => rfl
    | false => simp [unsigned?, digits?, hc] at h

/-- A numeral begins with a digit or with its sign. -/
theorem IsNumeral.exists_cons {cs : List Char} (h : IsNumeral cs) :
    ∃ c rest, cs = c :: rest ∧ (c.isDigit ∨ c = '-') := by
  obtain ⟨reads, -⟩ := h
  unfold Numeral.read? at reads
  split at reads
  · exact ⟨'-', _, rfl, .inr rfl⟩
  · obtain ⟨c, rest, rfl, hc⟩ := Numeral.exists_cons_of_unsigned? reads
    exact ⟨c, rest, rfl, .inl hc⟩

/-! ## Strings -/

/-- What the lexer finds where a character is written in a string. -/
def pieceOf (c : Char) : Piece :=
  if c.toNat < 0x20 ∧ c ≠ '\x08' ∧ c ≠ '\x0c' ∧ c ≠ '\n' ∧ c ≠ '\r' ∧ c ≠ '\t' then .unit c.toNat
  else .char c

theorem pieceChars?_unit {code : Nat} (h : isSurrogate code = false) (rest : List Piece) :
    pieceChars? (.unit code :: rest) = (pieceChars? rest).map (Char.ofNat code :: ·) := by
  match rest with
  | [] => simp [pieceChars?, h]
  | .char c :: rest => simp [pieceChars?, h]
  | .unit low :: rest => simp [pieceChars?, h]

theorem pieceChars?_map_pieceOf (cs : List Char) : pieceChars? (cs.map pieceOf) = some cs := by
  induction cs with
  | nil => rfl
  | cons c cs ih =>
    rw [List.map_cons, pieceOf]
    split
    case isTrue control =>
      have plain : isSurrogate c.toNat = false := by
        simp [isSurrogate]
        omega
      rw [pieceChars?_unit plain, ih, Char.ofNat_toNat]
      rfl
    case isFalse => rw [pieceChars?, ih, Option.map_some]

namespace Lexer

theorem hexValue?_hexDigit : ∀ n < 16, hexValue? (hexDigit n) = some n := by decide

/-- A character that is written in a string is read as one piece. -/
theorem foldlM_escapeChar (tokens : List Token) (read : List Piece) (c : Char) :
    (escapeChar c).foldlM step ⟨.text read, tokens⟩ =
      some ⟨.text (pieceOf c :: read), tokens⟩ := by
  unfold escapeChar
  -- Seven characters have a short escape, and other control characters are written in hexadecimal.
  split
  · subst c; rfl
  split
  · subst c; rfl
  split
  · subst c; rfl
  split
  · subst c; rfl
  split
  · subst c; rfl
  split
  · subst c; rfl
  split
  · subst c; rfl
  split
  case isTrue control =>
    have high := hexValue?_hexDigit (c.toNat / 16) (by omega)
    have low := hexValue?_hexDigit (c.toNat % 16) (by omega)
    have zero : hexValue? '0' = some 0 := rfl
    have code : 16 * (c.toNat / 16) + c.toNat % 16 = c.toNat := by omega
    have piece : pieceOf c = .unit c.toNat := by simp [pieceOf, *]
    simp [step, high, low, zero, code, piece]
  case isFalse quote backslash _ _ _ _ _ printed =>
    have piece : pieceOf c = .char c := by simp [pieceOf, printed]
    simp [step, quote, backslash, printed, piece]

theorem foldlM_flatMap_escapeChar (tokens : List Token) (read : List Piece) (cs : List Char) :
    (cs.flatMap escapeChar).foldlM step ⟨.text read, tokens⟩ =
      some ⟨.text ((cs.map pieceOf).reverse ++ read), tokens⟩ := by
  induction cs generalizing read with
  | nil => rfl
  | cons c cs ih =>
    rw [List.flatMap_cons, List.foldlM_append, foldlM_escapeChar]
    simp [ih]

end Lexer

/-! ## From characters to tokens -/

namespace Lexer

/-- The tokens before this state are known: nothing is pending, or only a number or a word that
ends with the next mark or with the text. -/
structure State.Ready (s : State) (tokens : List Token) : Prop where
  finish : finish? s = some tokens.reverse
  next : ∀ c, isWordChar c = false → isNumberChar c = false → step s c = begin? tokens c

theorem ready_between (tokens : List Token) : State.Ready ⟨.between, tokens⟩ tokens :=
  ⟨rfl, fun _ _ _ => rfl⟩

theorem ready_numeral {cs : List Char} (h : IsNumeral cs) (tokens : List Token) :
    State.Ready ⟨.numeral cs.reverse, tokens⟩ (.number (String.ofList cs) :: tokens) := by
  obtain ⟨n, reads⟩ := Option.isSome_iff_exists.1 h.reads
  have token : numberToken? cs = some (.number (String.ofList cs)) := by
    rw [numberToken?, reads, Option.map_some]
  constructor
  · simp [finish?, token]
  · intro c _ other
    simp [step, token, other]

theorem ready_word {cs : List Char} {t : Token} (h : wordToken? cs = some t)
    (tokens : List Token) : State.Ready ⟨.word cs.reverse, tokens⟩ (t :: tokens) := by
  constructor
  · simp [finish?, h]
  · intro c other _
    simp [step, h, other]

/-- From nothing pending some characters are read as some tokens. -/
def Reads (cs : List Char) (ts : List Token) : Prop :=
  ∀ tokens, ∃ s, cs.foldlM step ⟨.between, tokens⟩ = some s ∧ s.Ready (ts.reverse ++ tokens)

/-- Also after a number or a word some characters are read as some tokens. -/
def Continues (cs : List Char) (ts : List Token) : Prop :=
  ∀ s tokens, s.Ready tokens →
    ∃ s', cs.foldlM step s = some s' ∧ s'.Ready (ts.reverse ++ tokens)

variable {cs cs' : List Char} {ts ts' : List Token}

theorem Continues.reads (h : Continues cs ts) : Reads cs ts := fun tokens =>
  h _ tokens (ready_between tokens)

theorem Reads.append (h : Reads cs ts) (h' : Continues cs' ts') :
    Reads (cs ++ cs') (ts ++ ts') := by
  intro tokens
  obtain ⟨s, run, ready⟩ := h tokens
  obtain ⟨s', run', ready'⟩ := h' s _ ready
  refine ⟨s', ?_, ?_⟩
  · rw [List.foldlM_append, run]
    exact run'
  · rw [List.reverse_append, List.append_assoc]
    exact ready'

/-- A character that is a token of its own. -/
structure IsMark (c : Char) (t : Token) : Prop where
  notWord : isWordChar c = false
  notNumber : isNumberChar c = false
  begins : ∀ tokens, begin? tokens c = some ⟨.between, t :: tokens⟩

/-- After a mark nothing is pending. -/
theorem IsMark.continues {c : Char} {t : Token} (mark : IsMark c t) (h : Reads cs ts) :
    Continues (c :: cs) (t :: ts) := by
  intro s tokens ready
  obtain ⟨s', run, ready'⟩ := h (t :: tokens)
  refine ⟨s', ?_, ?_⟩
  · rw [List.foldlM_cons, ready.next c mark.notWord mark.notNumber, mark.begins]
    exact run
  · simpa using ready'

theorem isMark_openObject : IsMark '{' .openObject := ⟨rfl, rfl, fun _ => rfl⟩

theorem isMark_closeObject : IsMark '}' .closeObject := ⟨rfl, rfl, fun _ => rfl⟩

theorem isMark_openArray : IsMark '[' .openArray := ⟨rfl, rfl, fun _ => rfl⟩

theorem isMark_closeArray : IsMark ']' .closeArray := ⟨rfl, rfl, fun _ => rfl⟩

theorem isMark_colon : IsMark ':' .colon := ⟨rfl, rfl, fun _ => rfl⟩

theorem isMark_comma : IsMark ',' .comma := ⟨rfl, rfl, fun _ => rfl⟩

theorem reads_nil : Reads [] [] := fun tokens => ⟨_, rfl, ready_between tokens⟩

theorem reads_string (text : String) : Reads (quote text) [.string text] := by
  intro tokens
  refine ⟨_, ?_, ready_between _⟩
  have opened : step ⟨.between, tokens⟩ '"' = some ⟨.text [], tokens⟩ := rfl
  rw [quote, List.foldlM_cons, opened]
  simp [foldlM_flatMap_escapeChar, step, stringToken, pieceChars?_map_pieceOf]

theorem begin?_numeral {c : Char} (h : c.isDigit ∨ c = '-') (tokens : List Token) :
    begin? tokens c = some ⟨.numeral [c], tokens⟩ := by
  have other : ∀ x, x.isDigit = false → x ≠ '-' → c ≠ x := by
    rintro x digit minus rfl
    rcases h with h | h
    · rw [digit] at h
      cases h
    · exact minus h
  have digit : (c.isDigit || c = '-') = true := by simpa using h
  simp [begin?, isBlank, other, digit]

theorem foldlM_numeral {cs : List Char} (h : ∀ c ∈ cs, isNumberChar c) (tokens : List Token)
    (read : List Char) : cs.foldlM step ⟨.numeral read, tokens⟩ =
      some ⟨.numeral (cs.reverse ++ read), tokens⟩ := by
  induction cs generalizing read with
  | nil => rfl
  | cons c cs ih =>
    obtain ⟨first, others⟩ := List.forall_mem_cons.1 h
    have taken : step ⟨.numeral read, tokens⟩ c = some ⟨.numeral (c :: read), tokens⟩ := by
      simp [step, first]
    rw [List.foldlM_cons, taken]
    simpa using ih others (c :: read)

theorem reads_number {literal : String} (h : IsNumeral literal.toList) :
    Reads literal.toList [.number literal] := by
  intro tokens
  refine ⟨⟨.numeral literal.toList.reverse, tokens⟩, ?_, ?_⟩
  · obtain ⟨c, rest, cons, hc⟩ := h.exists_cons
    have chars : ∀ x ∈ rest, isNumberChar x := fun x hx => h.chars x (by simp [cons, hx])
    have first : step ⟨.between, tokens⟩ c = some ⟨.numeral [c], tokens⟩ :=
      begin?_numeral hc tokens
    rw [cons, List.foldlM_cons, first]
    simpa using foldlM_numeral chars tokens [c]
  · simpa using ready_numeral h tokens

theorem reads_null : Reads Token.null.chars [.null] := fun tokens =>
  ⟨_, rfl, @ready_word Token.null.chars _ rfl tokens⟩

theorem reads_bool (b : Bool) : Reads (Token.bool b).chars [.bool b] := by
  intro tokens
  cases b with
  | true => exact ⟨_, rfl, @ready_word (Token.bool true).chars _ rfl tokens⟩
  | false => exact ⟨_, rfl, @ready_word (Token.bool false).chars _ rfl tokens⟩

theorem reads_broken : Reads Token.broken.chars [.broken] := fun _ =>
  ⟨_, rfl, ready_between _⟩

/-! ## The text of a value -/

theorem continues_moreItemTokens {vs : List Json}
    (h : ∀ v ∈ vs, Reads (v.tokens.flatMap Token.chars) v.tokens) :
    Continues ((moreItemTokens vs).flatMap Token.chars) (moreItemTokens vs) := by
  induction vs with
  | nil => exact isMark_closeArray.continues reads_nil
  | cons v vs ih =>
    obtain ⟨first, others⟩ := List.forall_mem_cons.1 h
    simp only [moreItemTokens, List.flatMap_cons, List.flatMap_append]
    exact isMark_comma.continues (first.append (ih others))

theorem continues_moreMemberTokens {ms : List (String × Json)}
    (h : ∀ m ∈ ms, Reads (m.2.tokens.flatMap Token.chars) m.2.tokens) :
    Continues ((moreMemberTokens ms).flatMap Token.chars) (moreMemberTokens ms) := by
  induction ms with
  | nil => exact isMark_closeObject.continues reads_nil
  | cons m ms ih =>
    obtain ⟨first, others⟩ := List.forall_mem_cons.1 h
    simp only [moreMemberTokens, List.flatMap_cons, List.flatMap_append]
    exact isMark_comma.continues
      ((reads_string m.1).append (isMark_colon.continues (first.append (ih others))))

/-- The text of a value is read as its tokens. -/
theorem reads_tokens {v : Json} (h : v.HasNumerals) :
    Reads (v.tokens.flatMap Token.chars) v.tokens := by
  induction h with
  | null => exact reads_null
  | bool b => simpa [tokens] using reads_bool b
  | number h => simpa [tokens, Token.chars] using reads_number h
  | string text => simpa [tokens, Token.chars] using reads_string text
  | broken => exact reads_broken
  | @array items _ ih =>
    cases items with
    | nil => exact (isMark_openArray.continues (isMark_closeArray.continues reads_nil).reads).reads
    | cons v vs =>
      obtain ⟨first, others⟩ := List.forall_mem_cons.1 ih
      simp only [tokens, itemTokens, List.flatMap_cons, List.flatMap_append]
      exact (isMark_openArray.continues
        (first.append (continues_moreItemTokens others))).reads
  | @object members _ ih =>
    cases members with
    | nil =>
      exact (isMark_openObject.continues (isMark_closeObject.continues reads_nil).reads).reads
    | cons m ms =>
      obtain ⟨first, others⟩ := List.forall_mem_cons.1 ih
      simp only [tokens, memberTokens, List.flatMap_cons, List.flatMap_append]
      exact (isMark_openObject.continues ((reads_string m.1).append
        (isMark_colon.continues (first.append (continues_moreMemberTokens others))))).reads

end Lexer

/-! ## From tokens to the value -/

namespace Parser

theorem objectOf_some (members : List (String × Json)) :
    objectOf (members.map fun m => (some m.1, m.2)) = .object members := by
  have named : (members.map fun m => (some m.1, m.2)).mapM
      (fun m : Name × Json => m.1.map (·, m.2)) = some members := by
    induction members with
    | nil => rfl
    | cons m ms ih => simp [ih]
  rw [objectOf, named]

/-- Only an array that is empty ends where its first value may begin. -/
theorem step_arrayStart {v : Json} (stack : List Frame) (rest : List Token) :
    (v.tokens ++ rest).foldlM step (.arrayStart stack) =
      (v.tokens ++ rest).foldlM step (.value (.array [] :: stack)) := by
  cases v <;> rfl

mutual
/-- The tokens of a value complete that value. -/
theorem foldlM_tokens : (v : Json) → (stack : List Frame) → (rest : List Token) →
    (v.tokens ++ rest).foldlM step (.value stack) = rest.foldlM step (.complete v stack)
  | .null, _, _ | .bool _, _, _ | .number _, _, _ | .string _, _, _ | .broken, _, _ => rfl
  | .array [], _, _ | .object [], _, _ => rfl
  | .array (v :: vs), stack, rest =>
    calc ((Json.array (v :: vs)).tokens ++ rest).foldlM step (.value stack)
        = (v.tokens ++ (moreItemTokens vs ++ rest)).foldlM step (.arrayStart stack) := by
          rw [← List.append_assoc]
          rfl
      _ = (moreItemTokens vs ++ rest).foldlM step (.complete v (.array [] :: stack)) := by
          rw [step_arrayStart, foldlM_tokens]
      _ = rest.foldlM step (.complete (.array (v :: vs)) stack) :=
          foldlM_moreItemTokens vs v [] stack rest
  | .object ((name, v) :: ms), stack, rest =>
    calc ((Json.object ((name, v) :: ms)).tokens ++ rest).foldlM step (.value stack)
        = (v.tokens ++ (moreMemberTokens ms ++ rest)).foldlM step
            (.value (.object [] (some name) :: stack)) := by
          rw [← List.append_assoc]
          rfl
      _ = (moreMemberTokens ms ++ rest).foldlM step
            (.complete v (.object [] (some name) :: stack)) := foldlM_tokens ..
      _ = rest.foldlM step (.complete (.object ((name, v) :: ms)) stack) :=
          foldlM_moreMemberTokens ms name v [] stack rest

theorem foldlM_moreItemTokens : (vs : List Json) → (v : Json) → (items : List Json) →
    (stack : List Frame) → (rest : List Token) →
    (moreItemTokens vs ++ rest).foldlM step (.complete v (.array items :: stack)) =
      rest.foldlM step (.complete (.array ((v :: items).reverse ++ vs)) stack)
  | [], v, items, stack, rest => by simp [moreItemTokens, step]
  | w :: vs, v, items, stack, rest =>
    calc (moreItemTokens (w :: vs) ++ rest).foldlM step (.complete v (.array items :: stack))
        = (w.tokens ++ (moreItemTokens vs ++ rest)).foldlM step
            (.value (.array (v :: items) :: stack)) := by
          rw [← List.append_assoc]
          rfl
      _ = (moreItemTokens vs ++ rest).foldlM step
            (.complete w (.array (v :: items) :: stack)) := foldlM_tokens ..
      _ = rest.foldlM step (.complete (.array ((v :: items).reverse ++ w :: vs)) stack) := by
          rw [foldlM_moreItemTokens, List.reverse_cons (a := w), List.append_assoc]
          rfl

theorem foldlM_moreMemberTokens : (ms : List (String × Json)) → (name : String) → (v : Json) →
    (members : List (String × Json)) → (stack : List Frame) → (rest : List Token) →
    (moreMemberTokens ms ++ rest).foldlM step
        (.complete v (.object (members.map fun m => (some m.1, m.2)) (some name) :: stack)) =
      rest.foldlM step (.complete (.object (((name, v) :: members).reverse ++ ms)) stack)
  | [], name, v, members, stack, rest => by
    have closed := objectOf_some ((name, v) :: members).reverse
    rw [List.map_reverse, List.map_cons] at closed
    rw [List.append_nil, ← closed]
    rfl
  | (next, w) :: ms, name, v, members, stack, rest =>
    calc (moreMemberTokens ((next, w) :: ms) ++ rest).foldlM step
          (.complete v (.object (members.map fun m => (some m.1, m.2)) (some name) :: stack))
        = (w.tokens ++ (moreMemberTokens ms ++ rest)).foldlM step (.value (.object
            (((name, v) :: members).map fun m => (some m.1, m.2)) (some next) :: stack)) := by
          rw [← List.append_assoc]
          rfl
      _ = (moreMemberTokens ms ++ rest).foldlM step (.complete w (.object
            (((name, v) :: members).map fun m => (some m.1, m.2)) (some next) :: stack)) :=
          foldlM_tokens ..
      _ = rest.foldlM step (.complete
            (.object (((name, v) :: members).reverse ++ (next, w) :: ms)) stack) := by
          rw [foldlM_moreMemberTokens, List.reverse_cons (a := (next, w)), List.append_assoc]
          rfl
end

end Parser

/-- Characters that are read as the tokens of a value are read as that value. -/
theorem parse?_of_reads {cs : List Char} {v : Json} (h : Lexer.Reads cs v.tokens) :
    parse? cs = some v := by
  obtain ⟨s, run, ready⟩ := h []
  have lexed : lex? cs = some v.tokens := by
    rw [lex?, Lexer.start, run]
    simpa using ready.finish
  have built := Parser.foldlM_tokens v [] []
  rw [List.append_nil] at built
  simp [parse?, lexed, built, Parser.finish?]

/-- The compact text of a value is read as that value. -/
theorem parse?_compact {v : Json} (h : v.HasNumerals) : parse? v.compact.toList = some v := by
  rw [compact, String.toList_ofList]
  exact parse?_of_reads (Lexer.reads_tokens h)

end SpillSelection.Json
