import SpillSelection.Decimal.Reading
import SpillSelection.Toml.Basic
/-!
# Numbers of a TOML document

Integers of 64 bits, in base ten, sixteen, eight or two, and floats. Between two digits there
may be an underscore. A float too large for its format is refused when it is positive.
-/

namespace SpillSelection.Toml.Number

/-- More digits of a number, each perhaps after an underscore. -/
def moreDigits (base : Nat) : Reader (List Char)
  | [] => some ([], [])
  | c :: cs =>
    if c = '_' then
      match cs with
      | d :: cs =>
        if (digitValue? base d).isSome then
          (moreDigits base cs).map fun (ds, rest) => (d :: ds, rest)
        else none
      | [] => none
    else if (digitValue? base c).isSome then
      (moreDigits base cs).map fun (ds, rest) => (c :: ds, rest)
    else some ([], c :: cs)

/-- One or more digits. -/
def digits (base : Nat) : Reader (List Char)
  | c :: cs =>
    if (digitValue? base c).isSome then
      (moreDigits base cs).map fun (ds, rest) => (c :: ds, rest)
    else none
  | [] => none

/-- The digits of a whole part, which has no needless leading zero. -/
def whole : Reader (List Char)
  | '0' :: cs => some (['0'], cs)
  | cs => digits 10 cs

/-- The value of digits in a base. -/
def valueOf (base : Nat) (ds : List Char) : Nat :=
  ds.foldl (fun n d => base * n + (digitValue? base d).getD 0) 0

/-- An integer of 64 bits. -/
def integer? (z : Int) : Option Value :=
  if Int64.minValue.toInt ≤ z ∧ z ≤ Int64.maxValue.toInt then some (.integer z) else none

/-- An exponent after its letter. -/
def exponent : Reader Int
  | '-' :: cs => (digits 10 cs).map fun (ds, rest) => (-(valueOf 10 ds : Int), rest)
  | '+' :: cs => (digits 10 cs).map fun (ds, rest) => ((valueOf 10 ds : Int), rest)
  | cs => (digits 10 cs).map fun (ds, rest) => ((valueOf 10 ds : Int), rest)

/-- An exponent if there is one. -/
def exponentOr0 : Reader Int
  | c :: cs => if c = 'e' ∨ c = 'E' then exponent cs else some (0, c :: cs)
  | [] => some (0, [])

/-- The float of a sign, a whole part, a fraction and an exponent. -/
def float? (negative : Bool) (ws fs : List Char) (e : Int) : Option Value :=
  let x := Decimal.toFloat negative (valueOf 10 (ws ++ fs)) (e - fs.length)
  if x == 1 / 0 then none else some (.float x)

/-- A number after its sign. -/
def unsigned (negative : Bool) : Reader Value
  | 'i' :: 'n' :: 'f' :: cs => some (.float (if negative then -1 / 0 else 1 / 0), cs)
  | 'n' :: 'a' :: 'n' :: cs => some (.float (0 / 0), cs)
  | cs => do
    let (ws, rest) ← whole cs
    match rest with
    | '.' :: cs =>
      let (fs, rest) ← digits 10 cs
      let (e, rest) ← exponentOr0 rest
      return (← float? negative ws fs e, rest)
    | c :: cs =>
      if c = 'e' ∨ c = 'E' then
        let (e, rest) ← exponent cs
        return (← float? negative ws [] e, rest)
      else
        let n : Int := valueOf 10 ws
        return (← integer? (if negative then -n else n), c :: cs)
    | [] =>
      let n : Int := valueOf 10 ws
      return (← integer? (if negative then -n else n), [])

/-- The digits of an integer in another base. -/
def based (base : Nat) (cs : List Char) : Option (Value × List Char) := do
  let (ds, rest) ← digits base cs
  return (← integer? (valueOf base ds), rest)

def read? : Reader Value
  | '+' :: cs => unsigned false cs
  | '-' :: cs => unsigned true cs
  | '0' :: 'x' :: cs => based 16 cs
  | '0' :: 'o' :: cs => based 8 cs
  | '0' :: 'b' :: cs => based 2 cs
  | cs => unsigned false cs

end SpillSelection.Toml.Number
