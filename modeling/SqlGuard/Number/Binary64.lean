import SqlGuard.Number.Power

/-!
# IEEE 754 double precision numbers

A `Binary64` is its 64 bits. `ofRatio` rounds a quotient of natural numbers to
the nearest double, ties to the even significand, and `shortest` gives the
fewest decimal digits that round back to a double. Both work on natural
numbers alone: the magnitude of a finite double is `significand · 2 ^ exponent`.
-/
namespace SqlGuard

/-- A double, given by its bits. -/
structure Binary64 where
  bits : UInt64
  deriving DecidableEq, Repr

namespace Binary64

def exponentField (x : Binary64) : Nat := x.bits.toNat / twoTo 52 % twoTo 11

def fraction (x : Binary64) : Nat := x.bits.toNat % twoTo 52

/-- The sign bit; a zero can have it too. -/
def isNegative (x : Binary64) : Bool := twoTo 63 ≤ x.bits.toNat

def isNaN (x : Binary64) : Bool := x.exponentField = 2047 && x.fraction ≠ 0

def isInfinite (x : Binary64) : Bool := x.exponentField = 2047 && x.fraction = 0

def isZero (x : Binary64) : Bool := x.exponentField = 0 && x.fraction = 0

/-- The magnitude of a finite double is `significand · 2 ^ exponent`. -/
def significand (x : Binary64) : Nat :=
  if x.exponentField = 0 then x.fraction else twoTo 52 + x.fraction

def exponent (x : Binary64) : Int := (max x.exponentField 1 : Nat) - 1075

/-- A sign and the bits of a magnitude. -/
def signed (negative : Bool) (magnitude : Nat) : Binary64 :=
  ⟨.ofNat ((if negative then twoTo 63 else 0) + magnitude)⟩

def infinity (negative : Bool) : Binary64 := signed negative (2047 * twoTo 52)

def nan (negative : Bool) : Binary64 := signed negative (2047 * twoTo 52 + twoTo 51)

def negate (x : Binary64) : Binary64 := signed (!x.isNegative) (x.bits.toNat % twoTo 63)

/-- The quotient rounded to the nearest natural number, a tie to the even one. -/
def roundQuotient (numerator denominator : Nat) : Nat :=
  let low := numerator / denominator
  let rest := 2 * (numerator % denominator)
  if denominator < rest ∨ (rest = denominator ∧ low % 2 = 1) then low + 1 else low

/-- The power of two that scales a positive quotient to 53 binary digits, as
far as a double's exponent reaches down. -/
def scaleOf (numerator denominator : Nat) : Int :=
  let guess : Int := (numerator.log2 : Int) - denominator.log2 - 52
  let fits := if 0 ≤ guess then denominator * twoTo guess.toNat * twoTo 52 ≤ numerator
    else denominator * twoTo 52 ≤ numerator * twoTo (-guess).toNat
  max (if fits then guess else guess - 1) (-1074)

/-- The double nearest to a quotient with the given sign; from the midpoint
above the greatest finite double on it is an infinity. -/
def ofRatio (negative : Bool) (numerator denominator : Nat) : Binary64 :=
  if numerator = 0 then signed negative 0
  else
    let scale := scaleOf numerator denominator
    let rounded :=
      if 0 ≤ scale then roundQuotient numerator (denominator * twoTo scale.toNat)
      else roundQuotient (numerator * twoTo (-scale).toNat) denominator
    let magnitude := (scale + 1074).toNat * twoTo 52 + rounded
    if 2047 * twoTo 52 ≤ magnitude then infinity negative else signed negative magnitude

/-- The magnitude of a finite double as a quotient. -/
def ratio (x : Binary64) : Nat × Nat :=
  (x.significand * twoTo x.exponent.toNat, twoTo (-x.exponent).toNat)

/-- The product of two finite doubles without signs. -/
def times (x y : Binary64) : Binary64 :=
  ofRatio false (x.ratio.1 * y.ratio.1) (x.ratio.2 * y.ratio.2)

/-- The quotient of two finite doubles without signs, the second one positive. -/
def dividedBy (x y : Binary64) : Binary64 :=
  ofRatio false (x.ratio.1 * y.ratio.2) (x.ratio.2 * y.ratio.1)

/-- The decimal digits of a natural number. -/
def digitsOf (n : Nat) : List Char := Nat.toDigits 10 n

/-- The number of decimal digits of a natural number; zero has none. -/
def digitCount (n : Nat) : Nat := if n = 0 then 0 else (digitsOf n).length

/-- The double nearest to `digits · 10 ^ power`. Powers far beyond the range
of doubles are not computed. -/
def ofDecimal (negative : Bool) (digits : Nat) (power : Int) : Binary64 :=
  if digits = 0 then signed negative 0
  else
    let top : Int := digitCount digits + power
    if 310 < top then infinity negative
    else if top < -330 then signed negative 0
    else if 0 ≤ power then ofRatio negative (digits * tenTo power.toNat) 1
    else ofRatio negative digits (tenTo (-power).toNat)

/-- A decimal number `digits · 10 ^ power`. -/
structure Decimal where
  digits : Nat
  power : Int
  deriving DecidableEq, Repr

/-- A decimal number without zeros at the end of its digits. -/
def Decimal.trimmed (d : Decimal) : Decimal :=
  let ending := ((digitsOf d.digits).reverse.takeWhile (· = '0')).length
  ⟨d.digits / tenTo ending, d.power + ending⟩

/-- A magnitude as a fraction, and the bounds of the numbers that round to it,
all in quarters of its last binary place. -/
structure Span where
  value : Nat
  low : Nat
  high : Nat
  inclusive : Bool
  /-- A quarter of the last place is `unit / part`. -/
  unit : Nat
  part : Nat

/-- The numbers that round to a finite double's magnitude. Below a power of
two the doubles lie twice as dense. -/
def span (x : Binary64) : Span :=
  let quarter := x.exponent - 2
  let dense := x.fraction = 0 ∧ 1 < x.exponentField
  { value := 4 * x.significand
    low := 4 * x.significand - (if dense then 1 else 2)
    high := 4 * x.significand + 2
    inclusive := x.significand % 2 = 0
    unit := twoTo quarter.toNat
    part := twoTo (-quarter).toNat }

/-- The decimal number rounds to the double. -/
def Span.contains (s : Span) (d : Decimal) : Bool :=
  let here := d.digits * tenTo d.power.toNat * s.part
  let scale := s.unit * tenTo (-d.power).toNat
  if s.inclusive then s.low * scale ≤ here && here ≤ s.high * scale
  else s.low * scale < here && here < s.high * scale

/-- The point of the grid `n · 10 ^ power` at or below the value. -/
def Span.floor (s : Span) (power : Int) : Nat :=
  s.value * s.unit * tenTo (-power).toNat / (s.part * tenTo power.toNat)

/-- The value is nearer to the grid point `n` than to `n + 1`. -/
def Span.nearerBelow (s : Span) (power : Int) (n : Nat) : Bool :=
  2 * (s.value * s.unit * tenTo (-power).toNat) < (2 * n + 1) * (s.part * tenTo power.toNat)

/-- A neighbour of the value on the grid that rounds to the double: of two the
nearer one, and of two as near the upper one. -/
def Span.onGrid (s : Span) (power : Int) : Option Decimal :=
  let below : Decimal := ⟨s.floor power, power⟩
  let above : Decimal := ⟨s.floor power + 1, power⟩
  match s.contains below && 0 < below.digits, s.contains above with
  | true, true => some (if s.nearerBelow power below.digits then below else above)
  | true, false => some below
  | false, true => some above
  | false, false => none

/-- The power of ten above the value: `10 ^ (p - 1) ≤ value < 10 ^ p`. -/
def Span.magnitude (s : Span) : Int :=
  let whole := s.value * s.unit / s.part
  if whole ≠ 0 then digitCount whole
  else (digitCount (s.value * s.unit * tenTo 330 / s.part) : Int) - 330

/-- The fewest decimal digits that round back to a finite double other than
zero. Seventeen digits always do. The upper neighbour can have a zero at its
end, which is dropped. -/
def shortest (x : Binary64) : Decimal :=
  let s := x.span
  let grids := (List.range 17).map fun n => s.magnitude - (n + 1 : Nat)
  ((grids.findSome? s.onGrid).getD ⟨0, 0⟩).trimmed

end Binary64

end SqlGuard
