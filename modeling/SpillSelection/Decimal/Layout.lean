import SpillSelection.Decimal.Shortest
/-!
# How a float is written

`text` writes a finite float with its shortest digits: positionally, with at least one digit
after the point, while the leading digit's power of ten lies in the range of `Layout.plain`,
and with an exponent otherwise. The sign of zero is kept. A float that is not finite has no
text.
-/

namespace SpillSelection.Decimal

/-- Which powers of ten of the leading digit are written without an exponent: from `least` up
to, but not including, `limit`. -/
structure Layout where
  least : Int
  limit : Int

/-- Positional from `0.00001` to below `10000000000000000`. -/
def Layout.plain : Layout := ⟨-5, 16⟩

/-- The digits of a natural number, most significant first. -/
def digitChars (n : Nat) : List Char := Nat.toDigits 10 n

/-- `d.ddd`, with no point after a single digit. -/
def mantissaChars : List Char → List Char
  | [] => []
  | [d] => [d]
  | d :: ds => d :: '.' :: ds

/-- `e+7` or `e-7`, without padding. -/
def exponentChars (e : Int) : List Char :=
  'e' :: (if e < 0 then '-' else '+') :: digitChars e.natAbs

/-- Digits with the point placed for a leading digit of power `top`. -/
def positionalChars (ds : List Char) (top : Int) : List Char :=
  if top < 0 then '0' :: '.' :: (List.replicate (-top - 1).toNat '0' ++ ds)
  else
    let whole := top.toNat + 1
    let padded := ds ++ List.replicate (whole - ds.length) '0'
    padded.take whole ++ '.' :: (if ds.length ≤ whole then ['0'] else ds.drop whole)

/-- The digits of a decimal, laid out. -/
def Scientific.chars (layout : Layout) (d : Scientific) : List Char :=
  let ds := digitChars d.digits
  let top := d.exponent + (ds.length : Int) - 1
  if layout.least ≤ top ∧ top < layout.limit then positionalChars ds top
  else mantissaChars ds ++ exponentChars top

/-- The sign bit, which zero has too. -/
def isNegative (x : Float) : Bool := decide (Nat.pow 2 63 ≤ x.toBits.toNat)

/-- The text of a finite float. -/
def chars (x : Float) : List Char :=
  (if isNegative x then ['-'] else []) ++ (shortest x.toBits).chars .plain

/-- The text of a float, if it is finite. -/
def text? (x : Float) : Option String :=
  if x.isFinite then some (String.ofList (chars x)) else none

end SpillSelection.Decimal
