/-!
# The shortest decimal of a float

A finite float is a whole significand times a power of two. Every real number nearer to it
than to any other float reads back as that float; of the decimals in this interval,
`shortest` takes one with the fewest digits, and of those the nearest. All of it is exact
arithmetic on natural numbers.
-/

namespace SpillSelection.Decimal

/-- The magnitude of a finite float, `significand * 2 ^ exponent`. `tight` says that the
float below lies at half the distance of the float above. -/
structure Binary where
  significand : Nat
  exponent : Int
  tight : Bool

/-- The leading bit of a significand, `2 ^ 52`, which the 64-bit format leaves out. -/
def hiddenBit : Nat := Nat.pow 2 52

/-- Reads the fields of the 64-bit format; the sign is not part of the magnitude. -/
def Binary.ofBits (bits : UInt64) : Binary :=
  let field := bits.toNat / hiddenBit % 2048
  let fraction := bits.toNat % hiddenBit
  if field = 0 then ⟨fraction, -1074, false⟩
  else ⟨hiddenBit + fraction, field - 1075, decide (fraction = 0 ∧ 1 < field)⟩

/-- The decimal `digits * 10 ^ exponent`. -/
structure Scientific where
  digits : Nat
  exponent : Int
deriving DecidableEq, Repr

/-- The larger of an integer and zero, as a natural number. -/
def nonneg (z : Int) : Nat := z.toNat

/-- The decimals next to a float on the grid of multiples of `10 ^ step`: the quotient below,
what is left over, and the grid spacing, with the half-distances to the float's neighbours,
all in one common unit. -/
structure Grid where
  below : Nat
  left : Nat
  spacing : Nat
  reachDown : Nat
  reachUp : Nat

def Binary.grid (b : Binary) (step : Int) : Grid :=
  let quarter := b.exponent - 2
  let unit := Nat.pow 2 (nonneg quarter) * Nat.pow 10 (nonneg (-step))
  let spacing := Nat.pow 2 (nonneg (-quarter)) * Nat.pow 10 (nonneg step)
  let value := 4 * b.significand * unit
  { below := value / spacing
    left := value % spacing
    spacing := spacing
    reachDown := if b.tight then unit else 2 * unit
    reachUp := 2 * unit }

/-- The grid point that reads back as the float, if there is one. The ends of the interval
belong to it when the significand is even; of two points the nearer is taken, of two equally
near the even one. -/
def Binary.hit (b : Binary) (step : Int) : Option Scientific :=
  let g := b.grid step
  let within (distance reach : Nat) : Bool :=
    distance < reach || (distance == reach && b.significand % 2 == 0)
  let low := within g.left g.reachDown
  let high := within (g.spacing - g.left) g.reachUp
  let preferLow := g.left < g.spacing - g.left ||
    (g.left == g.spacing - g.left && g.below % 2 == 0)
  if low && (preferLow || !high) then some ⟨g.below, step⟩
  else if high then some ⟨g.below + 1, step⟩
  else none

/-- The power of ten of the leading digit, for a significand that is not zero. -/
def Binary.magnitude (b : Binary) : Int :=
  let guess := ((b.exponent + (Nat.log2 b.significand : Int)) * 78913).fdiv 262144
  if (b.grid (guess + 1)).below = 0 then guess else guess + 1

/-- Drops the zeros at the end of the digits, at most `n` of them. -/
def Scientific.strip (d : Scientific) : Nat → Scientific
  | 0 => d
  | n + 1 => if d.digits % 10 = 0 then Scientific.strip ⟨d.digits / 10, d.exponent + 1⟩ n else d

/-- The shortest decimal that reads back as the float of these bits: the first of the grids
with 1, 2, … 17 digits that has one. -/
def shortest (bits : UInt64) : Scientific :=
  let b := Binary.ofBits bits
  if b.significand = 0 then ⟨0, 0⟩
  else
    let top := b.magnitude
    let found := (List.range 17).findSome? fun (n : Nat) => b.hit (top - n)
    (found.getD ⟨(b.grid (top - 16)).below, top - 16⟩).strip 17

end SpillSelection.Decimal
