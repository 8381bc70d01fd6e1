import HostBridge.Decimal.Shortest

/-!
# Text of floating-point numbers

Floating-point numbers are held as their bit patterns, so that a value that
crosses the boundary keeps every bit. A `BinaryFormat` says how the bits are
split; a `FloatStyle` says how the shortest decimal is written out.

The digits are the same in every style. Styles differ in whether a whole number
has a point, and in whether there may be an exponent.
-/

namespace HostBridge

/-- **The layout of a floating-point number**: how many bits the exponent and
the fraction take. -/
structure BinaryFormat where
  /-- Bits of the exponent field. -/
  exponentBits : Nat
  /-- Bits of the fraction field. -/
  fractionBits : Nat

/-- Thirty-two bit numbers. -/
def BinaryFormat.single : BinaryFormat := ⟨8, 23⟩

/-- Sixty-four bit numbers. -/
def BinaryFormat.double : BinaryFormat := ⟨11, 52⟩

/-- What a bit pattern stands for. -/
inductive FloatClass where
  | nan
  | infinite
  | zero
  /-- `mantissa · 2 ^ exponent`; `narrow` at a power of two, where the spacing
  below is half the spacing above. -/
  | finite (mantissa : Nat) (exponent : Int) (narrow : Bool)
deriving DecidableEq, Repr

namespace BinaryFormat

/-- The sign bit. -/
def negative (f : BinaryFormat) (bits : Nat) : Bool :=
  bits >>> (f.exponentBits + f.fractionBits) % 2 = 1

/-- **The reading of a bit pattern**, its sign aside. -/
def classify (f : BinaryFormat) (bits : Nat) : FloatClass :=
  let fraction := bits % (1 <<< f.fractionBits)
  let exponent := bits >>> f.fractionBits % (1 <<< f.exponentBits)
  let bias : Nat := (1 <<< (f.exponentBits - 1)) - 1
  let least : Int := 1 - bias - f.fractionBits
  if exponent = (1 <<< f.exponentBits) - 1 then
    if fraction = 0 then .infinite else .nan
  else if exponent = 0 then
    if fraction = 0 then .zero else .finite fraction least false
  else
    .finite ((1 <<< f.fractionBits) + fraction) (least + exponent - 1)
      (fraction = 0 && exponent ≠ 1)

end BinaryFormat

/-- **How a number is written out.** Numbers whose shortest decimal lies
outside `10 ^ lowest ≤ x < 10 ^ highest` are written with an exponent when
`scientific` is set, all others with a point. -/
structure FloatStyle where
  /-- Whether very large and very small numbers are written with an exponent. -/
  scientific : Bool
  /-- The least power of ten written with a point. -/
  lowest : Int
  /-- The power of ten from which on an exponent is used. -/
  highest : Int
  /-- Whether a number without fraction still gets `.0`. -/
  point : Bool

namespace FloatStyle

/-- The style of boundary values: every number shows that it is a fraction,
and the exponent is used outside `10⁻⁴ ≤ x < 10¹⁶`. -/
def boundary : FloatStyle := ⟨true, -4, 16, true⟩

/-- The style of managed code: positional always, no point without a
fraction. -/
def managed : FloatStyle := ⟨false, 0, 0, false⟩

/-- Digits with the point where the exponent puts it. -/
def positional (s : FloatStyle) (d : Decimal) : String :=
  let digits := Nat.toDigits 10 d.digits
  let whole (text : List Char) : List Char := if s.point then text ++ ['.', '0'] else text
  if 0 ≤ d.exponent then
    String.ofList (whole (digits ++ List.replicate d.exponent.toNat '0'))
  else
    let places := (-d.exponent).toNat
    let padded := List.replicate (places + 1 - digits.length) '0' ++ digits
    let cut := padded.length - places
    String.ofList (padded.take cut ++ '.' :: padded.drop cut)

/-- One digit, the point, the other digits, and the exponent. -/
def exponential (d : Decimal) : String :=
  let digits := Nat.toDigits 10 d.digits
  let exponent := toString (d.exponent + digits.length - 1)
  match digits with
  | [] => "0e0"
  | [c] => String.ofList [c] ++ "e" ++ exponent
  | c :: rest => String.ofList (c :: '.' :: rest) ++ "e" ++ exponent

/-- The text of a positive decimal. -/
def decimal (s : FloatStyle) (d : Decimal) : String :=
  let magnitude := d.exponent + d.length
  if s.scientific && (s.highest < magnitude || magnitude ≤ s.lowest) then exponential d
  else s.positional d

/-- **The text of a bit pattern.** The sign of zero and of infinity is
written, that of a NaN is not. -/
def render (s : FloatStyle) (f : BinaryFormat) (bits : Nat) : String :=
  let sign := if f.negative bits then "-" else ""
  match f.classify bits with
  | .nan => "NaN"
  | .infinite => sign ++ "inf"
  | .zero => sign ++ s.positional ⟨0, 0⟩
  | .finite m e narrow => sign ++ s.decimal (Decimal.Interval.ofBinary m e narrow).shortest

end FloatStyle

/-- Whether a bit pattern is a NaN. -/
def BinaryFormat.isNaN (f : BinaryFormat) (bits : Nat) : Bool :=
  f.classify bits = .nan

end HostBridge
