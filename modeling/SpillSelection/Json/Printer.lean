import SpillSelection.Json.Basic
import SpillSelection.Json.Token
/-!
# Writing JSON

`compact` writes no blanks at all. `pretty` writes every item and member on a line of its own,
two blanks deeper than its container; empty containers stay on one line.
-/

namespace SpillSelection.Json

mutual
/-- The tokens of a value. -/
def tokens : Json → List Token
  | .null => [.null]
  | .bool b => [.bool b]
  | .number literal => [.number literal]
  | .string text => [.string text]
  | .broken => [.broken]
  | .array items => .openArray :: itemTokens items
  | .object members => .openObject :: memberTokens members

/-- The tokens of an array's items and of its end. -/
def itemTokens : List Json → List Token
  | [] => [.closeArray]
  | v :: vs => tokens v ++ moreItemTokens vs

def moreItemTokens : List Json → List Token
  | [] => [.closeArray]
  | v :: vs => .comma :: (tokens v ++ moreItemTokens vs)

/-- The tokens of an object's members and of its end. -/
def memberTokens : List (String × Json) → List Token
  | [] => [.closeObject]
  | (name, v) :: ms => .string name :: .colon :: (tokens v ++ moreMemberTokens ms)

def moreMemberTokens : List (String × Json) → List Token
  | [] => [.closeObject]
  | (name, v) :: ms => .comma :: .string name :: .colon :: (tokens v ++ moreMemberTokens ms)
end

/-- The text of a value without blanks. -/
def compact (v : Json) : String := String.ofList (v.tokens.flatMap Token.chars)

/-- A line break and the blanks before what stands `level` containers deep. -/
def newline (level : Nat) : List Char := '\n' :: List.replicate (2 * level) ' '

mutual
/-- A value inside `level` containers, laid out over lines. -/
def prettyChars (level : Nat) : Json → List Char
  | .array (v :: vs) =>
    '[' :: (newline (level + 1) ++ prettyChars (level + 1) v ++ prettyItems level vs)
  | .object ((name, v) :: ms) =>
    '{' :: (newline (level + 1) ++ quote name ++ [':', ' '] ++ prettyChars (level + 1) v ++
      prettyMembers level ms)
  | .array [] => ['[', ']']
  | .object [] => ['{', '}']
  | .null => Token.null.chars
  | .bool b => (Token.bool b).chars
  | .number literal => (Token.number literal).chars
  | .string text => (Token.string text).chars
  | .broken => Token.broken.chars

def prettyItems (level : Nat) : List Json → List Char
  | [] => newline level ++ [']']
  | v :: vs => ',' :: (newline (level + 1) ++ prettyChars (level + 1) v ++ prettyItems level vs)

def prettyMembers (level : Nat) : List (String × Json) → List Char
  | [] => newline level ++ ['}']
  | (name, v) :: ms =>
    ',' :: (newline (level + 1) ++ quote name ++ [':', ' '] ++ prettyChars (level + 1) v ++
      prettyMembers level ms)
end

/-- The text of a value laid out over lines. -/
def pretty (v : Json) : String := String.ofList (prettyChars 0 v)

end SpillSelection.Json
