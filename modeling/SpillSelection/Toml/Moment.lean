import SpillSelection.Calendar
import SpillSelection.Toml.Text
/-!
# Dates and times of a TOML document

A date `1979-05-27`, a time `07:32:00.5`, or both with a `T` or a blank between them, and after
both perhaps an offset from universal time. Every number has a fixed count of digits, save for
the fraction of a second. What does not make a time after a date is left to be read.
-/

namespace SpillSelection.Toml

/-- A time of day; a sixtieth second is a leap second. -/
structure TimeOfDay where
  hour : Nat
  minute : Nat
  second : Nat
  nanosecond : Nat := 0
deriving DecidableEq, Repr

inductive Moment where
  | date (date : Date)
  | time (time : TimeOfDay)
  /-- The offset from universal time is in minutes. -/
  | dateTime (date : Date) (time : TimeOfDay) (offset : Option Int)
deriving DecidableEq, Repr

namespace Moment

def valueOf (ds : List Char) : Nat := ds.foldl (fun n d => 10 * n + (d.toNat - '0'.toNat)) 0

/-- So many digits. -/
def number? (count : Nat) : Reader Nat := fun cs =>
  let ds := (cs.take count).takeWhile Char.isDigit
  if ds.length = count then some (valueOf ds, cs.drop count) else none

/-- Two digits, with a greatest value. -/
def upTo? (most : Nat) : Reader Nat := fun cs => do
  let (n, rest) ← number? 2 cs
  if n ≤ most then some (n, rest) else none

/-- A character that has to come next. -/
def mark? (c : Char) : List Char → Option (List Char)
  | d :: cs => if d = c then some cs else none
  | [] => none

def date? : Reader Date := fun cs => do
  let (year, cs) ← number? 4 cs
  let (month, cs) ← number? 2 (← mark? '-' cs)
  let (day, cs) ← number? 2 (← mark? '-' cs)
  let date : Date := ⟨year, month, day⟩
  if date.isValid then some (date, cs) else none

/-- The nanoseconds of a fraction, if there is one. Digits beyond the ninth say nothing. -/
def fraction : Reader Nat
  | '.' :: cs =>
    let ds := cs.takeWhile Char.isDigit
    if ds.isEmpty then some (0, '.' :: cs)
    else some (valueOf ((ds ++ List.replicate 9 '0').take 9), cs.drop ds.length)
  | cs => some (0, cs)

def time? : Reader TimeOfDay := fun cs => do
  let (hour, cs) ← upTo? 23 cs
  let (minute, cs) ← upTo? 59 (← mark? ':' cs)
  let (second, cs) ← upTo? 60 (← mark? ':' cs)
  let (nanosecond, cs) ← fraction cs
  return (⟨hour, minute, second, nanosecond⟩, cs)

/-- Hours and minutes, as minutes. -/
def span? : Reader Int := fun cs => do
  let (hours, cs) ← upTo? 23 cs
  let (minutes, cs) ← upTo? 59 (← mark? ':' cs)
  return (60 * hours + minutes, cs)

/-- An offset from universal time, if there is one. -/
def offset? : Reader (Option Int)
  | '+' :: cs => (span? cs).map fun (minutes, rest) => (some minutes, rest)
  | '-' :: cs => (span? cs).map fun (minutes, rest) => (some (-minutes), rest)
  | c :: cs => if c = 'Z' ∨ c = 'z' then some (some 0, cs) else some (none, c :: cs)
  | [] => some (none, [])

/-- A time after the mark that parts it from a date. -/
def timeAfterDate? : Reader TimeOfDay
  | c :: cs => if c = 'T' ∨ c = 't' ∨ c = ' ' then time? cs else none
  | [] => none

def read? : Reader Moment := fun cs =>
  match date? cs with
  | some (d, rest) =>
    match timeAfterDate? rest with
    | some (t, rest) => (offset? rest).map fun (o, rest) => (.dateTime d t o, rest)
    | none => some (.date d, rest)
  | none => (time? cs).map fun (t, rest) => (.time t, rest)

end Moment

end SpillSelection.Toml
