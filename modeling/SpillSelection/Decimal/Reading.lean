import SpillSelection.Decimal.Shortest
/-!
# Reading decimals

`toFloat` is the float nearest to a decimal with a sign, and of two equally near floats the one
whose significand is even. The bits of a float without its sign are its position among the
floats that are not negative, so that rounding a significand up to the next power of two needs
no case of its own. Decimals too large for a float become infinite and decimals too small become
zero; for decimals far outside of the format both are decided on the number of digits, so that
no enormous power of ten is ever computed.
-/

namespace SpillSelection.Decimal

/-- The value of a list of digits. -/
def ofDigits (ds : List Char) : Nat :=
  ds.foldl (fun n d => 10 * n + (d.toNat - '0'.toNat)) 0

/-- The whole number nearest to a quotient, and of two equally near ones the even one. -/
def roundDiv (num den : Nat) : Nat :=
  let whole := num / den
  let rest := 2 * (num % den)
  if rest < den ∨ rest = den ∧ whole % 2 = 0 then whole else whole + 1

/-- The bits of infinity. -/
def infinityBits : Nat := 2047 * hiddenBit

/-- The bits of `significand * 2 ^ exponent`. The significand is at most twice the hidden bit,
and below the hidden bit only with the least exponent. -/
def Binary.bits (significand : Nat) (exponent : Int) : Nat :=
  nonneg (exponent + 1074) * hiddenBit + significand

/-- The bits of the float nearest to a quotient of two positive numbers. The exponent is the
greatest one that leaves 53 bits of the quotient, unless that is below the format's least. -/
def nearestBits (num den : Nat) : Nat :=
  let least := max (-1074) ((Nat.log2 num : Int) - Nat.log2 den - 53)
  let num := num * Nat.pow 2 (nonneg (-least))
  let den := den * Nat.pow 2 (nonneg least)
  let bits :=
    if 2 * hiddenBit * den ≤ num then Binary.bits (roundDiv num (2 * den)) (least + 1)
    else Binary.bits (roundDiv num den) least
  min bits infinityBits

/-- The bits of the float nearest to `digits * 10 ^ exponent`. -/
def magnitudeBits (digits : Nat) (exponent : Int) : Nat :=
  let top := exponent + (Nat.toDigits 10 digits).length
  if digits = 0 ∨ top < -400 then 0
  else if 400 < top then infinityBits
  else nearestBits (digits * Nat.pow 10 (nonneg exponent)) (Nat.pow 10 (nonneg (-exponent)))

/-- The float nearest to the decimal `digits * 10 ^ exponent`, with its sign. -/
def toFloat (negative : Bool) (digits : Nat) (exponent : Int) : Float :=
  let sign := if negative then Nat.pow 2 63 else 0
  Float.ofBits (UInt64.ofNat (sign + magnitudeBits digits exponent))

end SpillSelection.Decimal
