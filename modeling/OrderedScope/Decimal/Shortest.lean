/-!
# Shortest Decimals

The shortest decimal that reads back as a given binary number. A finite number is `m · 2 ^ q`; the
decimals that read back as it fill the interval half-way to its two neighbours, the ends included
exactly if `m` is even. For one, two, … significant digits the two neighbours of the number on that
decimal grid are tested in exact arithmetic, and the first grid with a hit gives the digits.
-/

namespace OrderedScope.Decimal

/-- A finite **binary number** `mantissa · 2 ^ exponent` with the distance to the number below it:
`narrowBelow` says that the gap below is half the gap above. -/
structure Binary where
  mantissa : Nat
  exponent : Int
  narrowBelow : Bool
deriving DecidableEq, Repr

/-- A positive **decimal** `0.d₁d₂… · 10 ^ point`, as its digits and the place of the point. -/
structure Digits where
  digits : List Nat
  point : Int
deriving DecidableEq, Repr

/-- A sixty-four bit pattern, taken apart. -/
inductive Class where
  | nan
  | infinite
  | finite (b : Binary)
deriving DecidableEq, Repr

/-- The bit in front of the fifty-two stored ones of a fraction. -/
def leadingBit : Nat := 0x10000000000000

/-- The sign and the class of a sixty-four bit pattern. -/
def classify (bits : UInt64) : Bool × Class :=
  let n := bits.toNat
  let negative := n >>> 63 == 1
  let exponent : Nat := (n >>> 52) % 2048
  let fraction : Nat := n % leadingBit
  (negative,
    if exponent = 2047 then (if fraction = 0 then .infinite else .nan)
    else if exponent = 0 then .finite ⟨fraction, -1074, false⟩
    else .finite ⟨fraction + leadingBit, (exponent : Int) - 1075, fraction == 0 && exponent != 1⟩)

/-- A non-negative rational number as numerator and denominator. -/
structure Ratio where
  num : Nat
  den : Nat

/-- The ratio `n · 2 ^ q / 4`, so that halves and quarters of a unit stay whole. -/
def quarters (n : Nat) (q : Int) : Ratio :=
  if 0 ≤ q then ⟨n <<< q.toNat, 4⟩ else ⟨n, 4 <<< (-q).toNat⟩

/-- Multiplication by a power of ten. -/
def Ratio.scale (r : Ratio) (k : Int) : Ratio :=
  if 0 ≤ k then ⟨r.num * Nat.pow 10 k.toNat, r.den⟩ else ⟨r.num, r.den * Nat.pow 10 (-k).toNat⟩

/-- Whether one ratio is below another. -/
def Ratio.lt (a b : Ratio) : Bool := decide (a.num * b.den < b.num * a.den)

/-- How far a whole number is from a ratio, over the ratio's denominator. -/
def Ratio.distance (r : Ratio) (n : Nat) : Nat :=
  if n * r.den ≤ r.num then r.num - n * r.den else n * r.den - r.num

/-- The power of ten `p` with `10 ^ (p - 1) ≤ r < 10 ^ p`, for a positive ratio: below one the
search multiplies by ten, at most `fuel` times. -/
def Ratio.magnitude (r : Ratio) (fuel : Nat) : Int :=
  if r.den ≤ r.num then ((Nat.toDigits 10 (r.num / r.den)).length : Int)
  else
    Int.negOfNat (((List.range fuel).find? fun k => r.den ≤ r.num * Nat.pow 10 (k + 1)).getD 0)

/-- The **interval** of the decimals that read back as a number, with its ends included or not. -/
structure Interval where
  low : Ratio
  high : Ratio
  closed : Bool

/-- Whether a ratio lies in an interval. -/
def Interval.contains (i : Interval) (r : Ratio) : Bool :=
  if i.closed then !r.lt i.low && !i.high.lt r else i.low.lt r && r.lt i.high

/-- The interval of a positive binary number. -/
def Binary.interval (b : Binary) : Interval where
  low := quarters (4 * b.mantissa - if b.narrowBelow then 1 else 2) b.exponent
  high := quarters (4 * b.mantissa + 2) b.exponent
  closed := b.mantissa % 2 == 0

/-- The value of a positive binary number. -/
def Binary.ratio (b : Binary) : Ratio := quarters (4 * b.mantissa) b.exponent

/-- The hit on the grid of the multiples of `10 ^ place`: of the number's two neighbours there, the
one that reads back; of two, the nearer; of two equally near, the even one. -/
def Binary.hit? (b : Binary) (place : Int) : Option Nat :=
  let scaled := b.ratio.scale (-place)
  let below := scaled.num / scaled.den
  let above := below + 1
  let reads (n : Nat) : Bool := b.interval.contains (Ratio.scale ⟨n, 1⟩ place)
  match reads below && below != 0, reads above with
  | true, true =>
    let d := scaled.distance below
    let u := scaled.distance above
    some (if d < u || (d == u && below % 2 == 0) then below else above)
  | true, false => some below
  | false, true => some above
  | false, false => none

/-- Drops the zeros at the end of a list of digits. -/
def trimZeros (ds : List Nat) : List Nat := (ds.reverse.dropWhile (· == 0)).reverse

/-- The decimal digits of a number, highest first. -/
def digitsOf (n : Nat) : List Nat := (Nat.toDigits 10 n).map fun c => c.toNat - '0'.toNat

/-- The **shortest digits** of a positive binary number. Seventeen digits always read back. -/
def Binary.shortest (b : Binary) : Digits :=
  let magnitude := b.ratio.magnitude 400
  let places := (List.range 17).map fun (n : Nat) => magnitude - ((n : Int) + 1)
  let hits := places.filterMap fun place => (b.hit? place).map fun d => (d, place)
  match hits with
  | [] => ⟨[0], 1⟩
  | (d, place) :: _ =>
    let ds := digitsOf d
    ⟨trimZeros ds, ds.length + place⟩

/-- How a decimal number is written: the exponents that are written positionally, the least number
of digits of an exponent, and the texts of the values that are not finite. -/
structure Format where
  firstPositional : Int
  lastPositional : Int
  exponentWidth : Nat
  infinite : String
  undefined : String

/-- The text of a list of digits. -/
def digitText (ds : List Nat) : String :=
  String.ofList (ds.map fun d => Char.ofNat ('0'.toNat + d))

/-- A number with a fraction always shows a point; one without shows `.0`. -/
def Format.positional (d : Digits) : String :=
  let n := d.digits.length
  if d.point ≤ 0 then "0." ++ digitText (List.replicate (-d.point).toNat 0 ++ d.digits)
  else if n ≤ d.point.toNat then
    digitText (d.digits ++ List.replicate (d.point.toNat - n) 0) ++ ".0"
  else digitText (d.digits.take d.point.toNat) ++ "." ++ digitText (d.digits.drop d.point.toNat)

/-- One digit before the point, and none after it when there is only one. -/
def Format.scientific (f : Format) (d : Digits) : String :=
  let exponent := d.point - 1
  let size := toString exponent.natAbs
  let filled := String.ofList (List.replicate (f.exponentWidth - size.length) '0') ++ size
  let fraction := d.digits.drop 1
  digitText (d.digits.take 1) ++ (if fraction.isEmpty then "" else "." ++ digitText fraction)
    ++ "e" ++ (if exponent < 0 then "-" else "+") ++ filled

/-- The text of a positive decimal: positional between the two bounds, scientific outside. -/
def Format.write (f : Format) (d : Digits) : String :=
  if f.firstPositional ≤ d.point - 1 && d.point - 1 ≤ f.lastPositional then Format.positional d
  else f.scientific d

/-- The text of a number under a format, with its sign. -/
def Format.number (f : Format) (x : Float) : String :=
  match classify x.toBits with
  | (_, .nan) => f.undefined
  | (negative, .infinite) => (if negative then "-" else "") ++ f.infinite
  | (negative, .finite b) =>
    (if negative then "-" else "")
      ++ (if b.mantissa = 0 then "0.0" else f.write b.shortest)

end OrderedScope.Decimal
