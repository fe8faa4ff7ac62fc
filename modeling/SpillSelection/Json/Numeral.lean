import SpillSelection.Decimal.Scaling
/-!
# Number literals

The parts of a JSON number such as `-12.5e+3`: a sign, digits without a needless leading zero,
and perhaps digits after a point and an exponent. A literal with neither point nor exponent is
an integer, except `-0`, which only a float can hold.
-/

namespace SpillSelection.Json

structure Numeral where
  negative : Bool
  whole : List Char
  fraction : List Char
  exponent : Int
  /-- Neither a point nor an exponent was written. -/
  plain : Bool

namespace Numeral

/-- A list of digits, and there is at least one. -/
def digits? (cs : List Char) : Option (List Char × List Char) :=
  let ds := cs.takeWhile Char.isDigit
  if ds.isEmpty then none else some (ds, cs.dropWhile Char.isDigit)

def exponent? : List Char → Option Int
  | '-' :: cs => do
    let (ds, rest) ← digits? cs
    if rest.isEmpty then some (-(Decimal.ofDigits ds : Int)) else none
  | '+' :: cs => do
    let (ds, rest) ← digits? cs
    if rest.isEmpty then some (Decimal.ofDigits ds) else none
  | cs => do
    let (ds, rest) ← digits? cs
    if rest.isEmpty then some (Decimal.ofDigits ds) else none

/-- What may follow the whole part. -/
def tail? : List Char → Option (List Char × Int × Bool)
  | [] => some ([], 0, true)
  | '.' :: cs => do
    let (ds, rest) ← digits? cs
    match rest with
    | [] => some (ds, 0, false)
    | c :: rest =>
      if c = 'e' ∨ c = 'E' then some (ds, ← exponent? rest, false) else none
  | c :: cs => if c = 'e' ∨ c = 'E' then do some ([], ← exponent? cs, false) else none

def unsigned? (negative : Bool) (cs : List Char) : Option Numeral := do
  let (whole, rest) ← digits? cs
  if whole.head? = some '0' ∧ whole.length ≠ 1 then none
  let (fraction, exponent, plain) ← tail? rest
  some ⟨negative, whole, fraction, exponent, plain⟩

/-- Reads a whole literal. -/
def read? : List Char → Option Numeral
  | '-' :: cs => unsigned? true cs
  | cs => unsigned? false cs

/-- The float of a literal, if it is in range. Digits before the point that no longer fit into
64 bits make the number ten times greater each, and those after the point are dropped. -/
def toFloat? (n : Numeral) : Option Float :=
  let (value, taken) := Decimal.takeDigits 0 n.whole
  let (value, places) := Decimal.takeDigits value n.fraction
  (Decimal.scaled? value (n.exponent + (n.whole.length - taken : Nat) - places)).map fun x =>
    if n.negative then -x else x

/-- The value of an integer literal. -/
def toInt? (n : Numeral) : Option Int :=
  let value := Decimal.ofDigits n.whole
  if n.plain then
    if n.negative then if value = 0 then none else some (-value) else some value
  else none

end Numeral

end SpillSelection.Json
