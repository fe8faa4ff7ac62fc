import SpillSelection.Calendar
import SpillSelection.Text.Blank
/-!
# Timestamps

An instant in universal time, counted from the beginning of 1970, and its text: a date, a time
and a `Z`. On reading, an offset from universal time is taken off, blanks between the parts are
passed over, and a sixtieth second is a leap second, which is held as more than a second's
worth of nanoseconds.
-/

namespace SpillSelection

structure Timestamp where
  seconds : Int
  nanoseconds : Nat := 0
deriving DecidableEq, Repr, Inhabited

namespace Timestamp

/-! ## Writing -/

/-- A number with at least so many digits. -/
def padded (width n : Nat) : String :=
  let digits := toString n
  String.ofList (List.replicate (width - digits.length) '0') ++ digits

/-- Four digits; a year that they cannot tell has a sign. -/
def yearText (year : Int) : String :=
  if 0 ≤ year ∧ year ≤ 9999 then padded 4 year.toNat
  else (if year < 0 then "-" else "+") ++ padded 4 year.natAbs

/-- A fraction of a second in thousandths, millionths or billionths, as few as will do. -/
def fractionText (nanoseconds : Nat) : String :=
  if nanoseconds = 0 then ""
  else if nanoseconds % 1000000 = 0 then "." ++ padded 3 (nanoseconds / 1000000)
  else if nanoseconds % 1000 = 0 then "." ++ padded 6 (nanoseconds / 1000)
  else "." ++ padded 9 nanoseconds

def text (t : Timestamp) : String :=
  let date := Date.ofDays (t.seconds / 86400)
  let time := (t.seconds % 86400).toNat
  let leap := t.nanoseconds / 1000000000
  yearText date.year ++ "-" ++ padded 2 date.month ++ "-" ++ padded 2 date.day ++ "T" ++
    padded 2 (time / 3600) ++ ":" ++ padded 2 (time / 60 % 60) ++ ":" ++
    padded 2 (time % 60 + leap) ++ fractionText (t.nanoseconds % 1000000000) ++ "Z"

/-! ## Reading -/

/-- What is left of a text after something was read from its beginning. -/
abbrev Reader (α : Type) := List Char → Option (α × List Char)

def skipBlanks (cs : List Char) : List Char := cs.dropWhile Text.isBlank

def valueOf (ds : List Char) : Nat := ds.foldl (fun n d => 10 * n + (d.toNat - '0'.toNat)) 0

/-- A number of up to so many digits, after blanks. -/
def number (most : Nat) : Reader Nat := fun cs =>
  let cs := skipBlanks cs
  let ds := (cs.take most).takeWhile Char.isDigit
  if ds.isEmpty then none else some (valueOf ds, cs.drop ds.length)

/-- A character after blanks. -/
def mark (c : Char) (cs : List Char) : Option (List Char) :=
  match skipBlanks cs with
  | d :: rest => if d = c then some rest else none
  | [] => none

/-- A year: four digits at most, or any number of them after a sign. -/
def year : Reader Int := fun cs =>
  match skipBlanks cs with
  | '-' :: cs =>
    let ds := cs.takeWhile Char.isDigit
    if ds.isEmpty then none else some (-(valueOf ds : Int), cs.drop ds.length)
  | '+' :: cs =>
    let ds := cs.takeWhile Char.isDigit
    if ds.isEmpty then none else some ((valueOf ds : Int), cs.drop ds.length)
  | cs => (number 4 cs).map fun (n, rest) => ((n : Int), rest)

/-- The years that a calendar date may have. -/
def isYear (y : Int) : Bool := -262143 ≤ y && y ≤ 262142

def date : Reader Date := fun cs => do
  let (y, cs) ← year cs
  let (m, cs) ← number 2 (← mark '-' cs)
  let (d, cs) ← number 2 (← mark '-' cs)
  let date : Date := ⟨y, m, d⟩
  if isYear y && date.isValid then some (date, cs) else none

/-- Nanoseconds after a point; digits beyond the ninth say nothing. -/
def fraction : Reader Nat
  | '.' :: cs =>
    let ds := cs.takeWhile Char.isDigit
    if ds.isEmpty then none
    else
      let kept := ds.take 9
      some (valueOf kept * Nat.pow 10 (9 - kept.length), cs.drop ds.length)
  | cs => some (0, cs)

/-- Seconds since midnight and nanoseconds. -/
def time : Reader (Nat × Nat) := fun cs => do
  let (h, cs) ← number 2 cs
  let (m, cs) ← number 2 (← mark ':' cs)
  let (s, cs) ← number 2 (← mark ':' cs)
  let (nanos, cs) ← fraction cs
  if 24 ≤ h ∨ 60 ≤ m ∨ 61 ≤ s then none
  else if s = 60 then some ((h * 3600 + m * 60 + 59, 1000000000 + nanos), cs)
  else some ((h * 3600 + m * 60 + s, nanos), cs)

/-- The seconds of a signed offset such as `+01:30`. -/
def signedOffset (negative : Bool) : Reader Int
  | h1 :: h2 :: cs =>
    if h1.isDigit ∧ h2.isDigit then
      match cs.dropWhile (fun c => c = ':' || Text.isBlank c) with
      | m1 :: m2 :: cs =>
        if '0' ≤ m1 ∧ m1 ≤ '5' ∧ m2.isDigit then
          let seconds : Int := valueOf [h1, h2] * 3600 + valueOf [m1, m2] * 60
          if seconds < 86400 then some (if negative then -seconds else seconds, cs) else none
        else none
      | _ => none
    else none
  | _ => none

/-- The offset from universal time, which is named by `Z` and by `UTC`. -/
def offset : Reader Int
  | [] => none
  | c :: cs =>
    if c = 'Z' ∨ c = 'z' then some (0, cs)
    else if (c :: cs).take 3 |>.map Char.toUpper |> (· = ['U', 'T', 'C']) then some (0, cs.drop 2)
    else if c = '+' then signedOffset false cs
    else if c = '-' ∨ c = '−' then signedOffset true cs
    else none

def isSeparator (c : Char) : Bool := c = 'T' || c = 't' || c = ' '

/-- Whether the instant falls into one of the years that a calendar date may have. -/
def isDated (t : Timestamp) : Bool := isYear (Date.ofDays (t.seconds / 86400)).year

/-- The instant of a text. Its date must be one both where the text says and in universal
time. -/
def ofText? (text : String) : Option Timestamp := do
  let (d, cs) ← date text.toList
  match cs with
  | [] => none
  | c :: cs =>
    if !isSeparator c then none
    else do
      let ((s, nanos), cs) ← time cs
      let (o, cs) ← offset (skipBlanks cs)
      let t : Timestamp := ⟨d.toDays * 86400 + s - o, nanos⟩
      if (skipBlanks cs).isEmpty && t.isDated then some t else none

end Timestamp

end SpillSelection
