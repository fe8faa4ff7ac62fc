/-!
# Strings of a TOML document

A string stands between quotation marks, where escapes are read, or between apostrophes, where
nothing is. Between three of either it may go over several lines; a line break right after the
opening is dropped, and a backslash at the end of a line joins it to what follows. `Text.read?`
is a machine that takes one character at a time until the string is closed.
-/

namespace SpillSelection.Toml

/-- What is left of a text after something was read from its beginning. -/
abbrev Reader (α : Type) := List Char → Option (α × List Char)

def isBlank (c : Char) : Bool := c = ' ' || c = '\t'

/-- A character that may stand in a comment or a string: a tab, or one that is no control
character of ASCII. -/
def isText (c : Char) : Bool := c = '\t' || (0x20 ≤ c.toNat && c.toNat ≠ 0x7F)

/-- The value of a digit in a base up to sixteen. -/
def digitValue? (base : Nat) (c : Char) : Option Nat :=
  let value :=
    if '0' ≤ c ∧ c ≤ '9' then c.toNat - '0'.toNat
    else if 'a' ≤ c ∧ c ≤ 'f' then c.toNat - 'a'.toNat + 10
    else if 'A' ≤ c ∧ c ≤ 'F' then c.toNat - 'A'.toNat + 10
    else base
  if value < base then some value else none

/-- The character that a one-letter escape stands for. -/
def escapeValue? (c : Char) : Option Char :=
  match c with
  | '"' => some '"'
  | '\\' => some '\\'
  | 'b' => some '\x08'
  | 'f' => some '\x0c'
  | 'n' => some '\n'
  | 'r' => some '\r'
  | 't' => some '\t'
  | _ => none

namespace Text

/-- How a string is delimited. -/
structure Kind where
  /-- A quotation mark or an apostrophe. -/
  quote : Char
  multiline : Bool

inductive Mode where
  | text
  /-- Some closing marks in a row. -/
  | marks (count : Nat)
  /-- A carriage return, which a line feed has to follow. -/
  | carriage
  | escape
  /-- So many more hexadecimal digits are due after the next one. -/
  | code (value due : Nat)
  /-- A backslash and blanks, before the line break that has to follow. -/
  | joint
  | jointCarriage
  /-- Blanks and line breaks that are dropped. -/
  | gap
  | gapCarriage

/-- The mode, with the characters read so far, latest first. -/
structure State where
  mode : Mode := .text
  read : List Char := []

inductive Outcome where
  | next (s : State)
  /-- The string ends with the character that was taken. -/
  | closed (read : List Char)
  /-- The string had ended before that character. -/
  | over (read : List Char)
  | failed

def take (kind : Kind) (read : List Char) (c : Char) : Outcome :=
  if c = kind.quote then
    if kind.multiline then .next ⟨.marks 1, read⟩ else .closed read
  else if c = '\\' ∧ kind.quote = '"' then .next ⟨.escape, read⟩
  else if c = '\n' ∧ kind.multiline then .next ⟨.text, '\n' :: read⟩
  else if c = '\r' ∧ kind.multiline then .next ⟨.carriage, read⟩
  else if isText c then .next ⟨.text, c :: read⟩
  else .failed

/-- The characters of some marks that belong to the string. -/
def withMarks (kind : Kind) (count : Nat) (read : List Char) : List Char :=
  List.replicate count kind.quote ++ read

def step (kind : Kind) (s : State) (c : Char) : Outcome :=
  match s.mode with
  | .text => take kind s.read c
  | .marks count =>
    if c = kind.quote then
      if count = 4 then .closed (withMarks kind 2 s.read)
      else .next { s with mode := .marks (count + 1) }
    else if count < 3 then take kind (withMarks kind count s.read) c
    else .over (withMarks kind (count - 3) s.read)
  | .carriage => if c = '\n' then .next ⟨.text, '\n' :: s.read⟩ else .failed
  | .escape =>
    if c = 'u' then .next { s with mode := .code 0 3 }
    else if c = 'U' then .next { s with mode := .code 0 7 }
    else if kind.multiline ∧ isBlank c then .next { s with mode := .joint }
    else if kind.multiline ∧ c = '\n' then .next { s with mode := .gap }
    else if kind.multiline ∧ c = '\r' then .next { s with mode := .jointCarriage }
    else match escapeValue? c with
      | some e => .next ⟨.text, e :: s.read⟩
      | none => .failed
  | .code value due =>
    match digitValue? 16 c, due with
    | none, _ => .failed
    | some d, due + 1 => .next { s with mode := .code (16 * value + d) due }
    | some d, 0 =>
      if (16 * value + d).isValidChar then .next ⟨.text, Char.ofNat (16 * value + d) :: s.read⟩
      else .failed
  | .joint =>
    if isBlank c then .next s
    else if c = '\n' then .next { s with mode := .gap }
    else if c = '\r' then .next { s with mode := .jointCarriage }
    else .failed
  | .jointCarriage => if c = '\n' then .next { s with mode := .gap } else .failed
  | .gap =>
    if isBlank c ∨ c = '\n' then .next s
    else if c = '\r' then .next { s with mode := .gapCarriage }
    else take kind s.read c
  | .gapCarriage => if c = '\n' then .next { s with mode := .gap } else .failed

/-- Runs the machine until the string is closed. -/
def run (kind : Kind) (s : State) : Reader String
  | [] =>
    match s.mode with
    | .marks count =>
      if 3 ≤ count then some (String.ofList (withMarks kind (count - 3) s.read).reverse, [])
      else none
    | _ => none
  | c :: cs =>
    match step kind s c with
    | .next s => run kind s cs
    | .closed read => some (String.ofList read.reverse, cs)
    | .over read => some (String.ofList read.reverse, c :: cs)
    | .failed => none

/-- A line break right after the opening of a string over several lines is dropped. -/
def dropBreak : List Char → List Char
  | '\n' :: cs => cs
  | '\r' :: '\n' :: cs => cs
  | cs => cs

/-- A string on one line, with its delimiters. -/
def readLine? : Reader String
  | c :: cs => if c = '"' ∨ c = '\'' then run ⟨c, false⟩ {} cs else none
  | [] => none

/-- A string, with its delimiters. -/
def read? : Reader String
  | c :: d :: e :: cs =>
    if (c = '"' ∨ c = '\'') ∧ d = c ∧ e = c then run ⟨c, true⟩ {} (dropBreak cs)
    else readLine? (c :: d :: e :: cs)
  | cs => readLine? cs

end Text

end SpillSelection.Toml
