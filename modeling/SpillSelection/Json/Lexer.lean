import SpillSelection.Json.Numeral
import SpillSelection.Json.Token
/-!
# From characters to tokens

A machine that takes one character at a time. Between tokens only blanks, punctuation and the
beginning of a word, a number or a string may come; a word or a number ends at the first
character that cannot belong to it, and is checked as a whole then. `lex?` runs the machine
over a text.
-/

namespace SpillSelection.Json

/-- A piece of a string literal: a character, or a code unit given by four hexadecimal
digits. -/
inductive Piece where
  | char (c : Char)
  | unit (code : Nat)
deriving DecidableEq, Repr

/-- Code units that stand for a character only in pairs. -/
def isSurrogate (code : Nat) : Bool := 0xD800 ≤ code && code < 0xE000

/-- The character of a surrogate pair. -/
def pairChar? (high low : Nat) : Option Char :=
  if 0xD800 ≤ high ∧ high < 0xDC00 ∧ 0xDC00 ≤ low ∧ low < 0xE000 then
    some (Char.ofNat (0x10000 + (high - 0xD800) * 0x400 + (low - 0xDC00)))
  else none

/-- The text of a string literal, unless half a surrogate pair stands alone in it. -/
def pieceChars? : List Piece → Option (List Char)
  | [] => some []
  | .char c :: rest => (pieceChars? rest).map (c :: ·)
  | .unit high :: .unit low :: rest =>
    if isSurrogate high then do
      let c ← pairChar? high low
      (pieceChars? rest).map (c :: ·)
    else (pieceChars? (.unit low :: rest)).map (Char.ofNat high :: ·)
  | .unit code :: rest =>
    if isSurrogate code then none else (pieceChars? rest).map (Char.ofNat code :: ·)

/-- The token of a finished string literal. -/
def stringToken (pieces : List Piece) : Token :=
  match pieceChars? pieces with
  | some cs => .string (String.ofList cs)
  | none => .broken

def wordToken? (cs : List Char) : Option Token :=
  if cs = Token.null.chars then some .null
  else if cs = (Token.bool true).chars then some (.bool true)
  else if cs = (Token.bool false).chars then some (.bool false)
  else none

def numberToken? (cs : List Char) : Option Token :=
  (Numeral.read? cs).map fun _ => .number (String.ofList cs)

/-- The value of a hexadecimal digit, in either case. -/
def hexValue? (c : Char) : Option Nat :=
  if '0' ≤ c ∧ c ≤ '9' then some (c.toNat - '0'.toNat)
  else if 'a' ≤ c ∧ c ≤ 'f' then some (c.toNat - 'a'.toNat + 10)
  else if 'A' ≤ c ∧ c ≤ 'F' then some (c.toNat - 'A'.toNat + 10)
  else none

/-- The character that a one-letter escape stands for. -/
def escapeValue? (c : Char) : Option Char :=
  match c with
  | '"' => some '"'
  | '\\' => some '\\'
  | '/' => some '/'
  | 'b' => some '\x08'
  | 'f' => some '\x0c'
  | 'n' => some '\n'
  | 'r' => some '\r'
  | 't' => some '\t'
  | _ => none

namespace Lexer

/-- Where the machine stands. Characters and pieces are held latest first. -/
inductive Mode where
  | between
  | word (read : List Char)
  | numeral (read : List Char)
  | text (read : List Piece)
  | escape (read : List Piece)
  | code (read : List Piece) (value : Nat) (due : Nat)

/-- The machine, with the tokens read so far, latest first. -/
structure State where
  mode : Mode
  tokens : List Token

def start : State := ⟨.between, []⟩

def isBlank (c : Char) : Bool := c = ' ' || c = '\n' || c = '\t' || c = '\r'

def isWordChar (c : Char) : Bool := 'a' ≤ c && c ≤ 'z'

def isNumberChar (c : Char) : Bool :=
  c.isDigit || c = '-' || c = '+' || c = '.' || c = 'e' || c = 'E'

/-- A character where a token may begin. -/
def begin? (tokens : List Token) (c : Char) : Option State :=
  if isBlank c then some ⟨.between, tokens⟩
  else if c = '{' then some ⟨.between, .openObject :: tokens⟩
  else if c = '}' then some ⟨.between, .closeObject :: tokens⟩
  else if c = '[' then some ⟨.between, .openArray :: tokens⟩
  else if c = ']' then some ⟨.between, .closeArray :: tokens⟩
  else if c = ':' then some ⟨.between, .colon :: tokens⟩
  else if c = ',' then some ⟨.between, .comma :: tokens⟩
  else if c = '"' then some ⟨.text [], tokens⟩
  else if c.isDigit || c = '-' then some ⟨.numeral [c], tokens⟩
  else if isWordChar c then some ⟨.word [c], tokens⟩
  else none

def step (s : State) (c : Char) : Option State :=
  match s.mode with
  | .between => begin? s.tokens c
  | .word read =>
    if isWordChar c then some { s with mode := .word (c :: read) }
    else do begin? ((← wordToken? read.reverse) :: s.tokens) c
  | .numeral read =>
    if isNumberChar c then some { s with mode := .numeral (c :: read) }
    else do begin? ((← numberToken? read.reverse) :: s.tokens) c
  | .text read =>
    if c = '"' then some ⟨.between, stringToken read.reverse :: s.tokens⟩
    else if c = '\\' then some { s with mode := .escape read }
    else if c.toNat < 0x20 then none
    else some { s with mode := .text (.char c :: read) }
  | .escape read =>
    if c = 'u' then some { s with mode := .code read 0 3 }
    else do
      let e ← escapeValue? c
      some { s with mode := .text (.char e :: read) }
  | .code read value due => do
    let value := 16 * value + (← hexValue? c)
    match due with
    | 0 => some { s with mode := .text (.unit value :: read) }
    | due + 1 => some { s with mode := .code read value due }

/-- The tokens at the end of a text, in order. -/
def finish? (s : State) : Option (List Token) :=
  match s.mode with
  | .between => some s.tokens.reverse
  | .word read => do some ((← wordToken? read.reverse) :: s.tokens).reverse
  | .numeral read => do some ((← numberToken? read.reverse) :: s.tokens).reverse
  | _ => none

end Lexer

/-- The tokens of a text. -/
def lex? (cs : List Char) : Option (List Token) := do
  (← cs.foldlM Lexer.step Lexer.start) |> Lexer.finish?

end SpillSelection.Json
