import SpillSelection.Decimal.Reading
/-!
# Scaling by powers of ten

A quick way to read a decimal: as many digits as a 64-bit number holds are taken as a whole
number, and the float nearest to it is multiplied or divided by a power of ten. Every step is
rounded, so that the result may be a neighbour of the float that is nearest to the decimal.
-/

namespace SpillSelection.Decimal

/-- Appends digits to a whole number while it fits into 64 bits, and counts those that do. -/
def takeDigits (value : Nat) : List Char → Nat × Nat
  | [] => (value, 0)
  | d :: ds =>
    let next := 10 * value + (d.toNat - '0'.toNat)
    if next < UInt64.size then
      let (value, taken) := takeDigits next ds
      (value, taken + 1)
    else (value, 0)

/-- The greatest power of ten that is a float. -/
def greatestPower : Nat := 308

/-- The float nearest to a power of ten. -/
def power (n : Nat) : Float := toFloat false 1 n

/-- Divides by a power of ten, in two steps when that is no float. Nothing is left of a 64-bit
number after two divisions by the greatest power. -/
def divide (x : Float) (n : Nat) : Float :=
  if n ≤ greatestPower then x / power n
  else if n ≤ 2 * greatestPower then x / power greatestPower / power (n - greatestPower)
  else 0

/-- A 64-bit number times a power of ten, if that is in the range of floats. -/
def scaled? (value : Nat) (exponent : Int) : Option Float :=
  if exponent < 0 then some (divide (Float.ofNat value) exponent.natAbs)
  else if value = 0 then some 0
  else if greatestPower < exponent then none
  else
    let x := Float.ofNat value * power exponent.toNat
    if x.isFinite then some x else none

end SpillSelection.Decimal
