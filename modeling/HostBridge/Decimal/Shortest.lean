/-!
# The shortest decimal of a binary fraction

A floating-point number stands for every real that rounds to it. Among the
decimals in that interval there is one with the fewest digits, and of those
the one nearest the number is its **shortest decimal**: it reads back as the
same number and nothing shorter does.

The search is exact arithmetic on natural numbers. For one digit, two digits
and so on it looks at the two neighbours of the number on the decimal grid of
that many digits; the first grid with a neighbour inside the interval wins, of
two neighbours the nearer, and of two equally near the larger.
-/

namespace HostBridge

/-- **A decimal number** `digits · 10 ^ exponent`. -/
structure Decimal where
  /-- The digits, as a natural number. -/
  digits : Nat
  /-- The power of ten the digits are scaled by. -/
  exponent : Int
deriving DecidableEq, Repr, Inhabited

namespace Decimal

/-- **The reals that round to a number**: the number, both ends of the
interval, all over one denominator, and whether the ends belong to it. -/
structure Interval where
  /-- Numerator of the number. -/
  value : Nat
  /-- Numerator of the lower end. -/
  low : Nat
  /-- Numerator of the upper end. -/
  high : Nat
  /-- The common denominator. -/
  den : Nat
  /-- Whether the ends round to the number too. -/
  closed : Bool

/-- Whether `num / den` lies in the interval. -/
def Interval.holds (i : Interval) (num den : Nat) : Bool :=
  if i.closed then i.low * den ≤ num * i.den && num * i.den ≤ i.high * den
  else i.low * den < num * i.den && num * i.den < i.high * den

/-- The interval of `mantissa · 2 ^ exponent`. The spacing below a power of
two is half the spacing above it, which `narrow` says. -/
def Interval.ofBinary (mantissa : Nat) (exponent : Int) (narrow : Bool) : Interval :=
  let scale := 1 <<< (exponent - 2).toNat
  { value := 4 * mantissa * scale
    low := (4 * mantissa - (if narrow then 1 else 2)) * scale
    high := (4 * mantissa + 2) * scale
    den := 1 <<< (2 - exponent).toNat
    closed := mantissa % 2 = 0 }

/-- The power of ten `10 ^ e` as numerator and denominator. -/
def powTen (e : Int) : Nat × Nat := (Nat.pow 10 e.toNat, Nat.pow 10 (-e).toNat)

/-- The exponent `k` with `10 ^ (k - 1) ≤ num / den < 10 ^ k`, looked for
upwards from `k`. -/
def magnitudeFrom (num den : Nat) : Nat → Int → Int
  | 0, k => k
  | fuel + 1, k =>
    let (p, q) := powTen k
    if num * q < p * den then k else magnitudeFrom num den fuel (k + 1)

/-- The exponent `k` with `10 ^ (k - 1) ≤ num / den < 10 ^ k`. The bit lengths
bracket it from below. -/
def magnitude (num den : Nat) : Int :=
  let bits : Int := (num.log2 : Int) - (den.log2 : Int)
  magnitudeFrom num den 8 (bits * 30103 / 100000 - 1)

/-- The neighbour of the number on the grid of multiples of `10 ^ e` that lies
in the interval, the nearer of two and the larger of two equally near. -/
def Interval.gridPoint? (i : Interval) (e : Int) : Option Nat :=
  let (p, q) := powTen e
  let below := i.value * q / (i.den * p)
  let above := below + 1
  let inBelow := i.holds (below * p) q && below ≠ 0
  let inAbove := i.holds (above * p) q
  let nearBelow := 2 * (i.value * q - below * i.den * p) < i.den * p
  if inBelow && (nearBelow || !inAbove) then some below
  else if inAbove then some above
  else none

/-- Drops the zeros at the end of the digits. -/
def trim : Nat → Nat → Int → Decimal
  | 0, d, e => ⟨d, e⟩
  | fuel + 1, d, e => if d ≠ 0 && d % 10 = 0 then trim fuel (d / 10) (e + 1) else ⟨d, e⟩

/-- Tries grids of `count - fuel + 1`, … digits below the magnitude `k`. -/
def Interval.search (i : Interval) (k : Int) : Nat → Nat → Decimal
  | 0, _ => ⟨0, 0⟩
  | fuel + 1, count =>
    match i.gridPoint? (k - count) with
    | some d => trim d (d) (k - count)
    | none => i.search k fuel (count + 1)

/-- **The shortest decimal in an interval.** Seventeen digits suffice for
sixty-four bit numbers. -/
def Interval.shortest (i : Interval) : Decimal :=
  i.search (magnitude i.value i.den) 20 1

/-- The number of digits. -/
def length (d : Decimal) : Nat := (Nat.toDigits 10 d.digits).length

end Decimal

end HostBridge
