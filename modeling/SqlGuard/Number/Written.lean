import SqlGuard.Number.Binary64

/-!
# The decimal text of a double

`positional` writes all places and never an exponent; `scientific` writes very
large and very small numbers with an exponent. Both take the fewest digits
that read back.

Values are displayed with `positional`, as `to_display_string` does.
-/
namespace SqlGuard.Binary64

def zeros (count : Nat) : List Char := List.replicate count '0'

/-- A decimal number with all its places and no trailing point. -/
def Decimal.places (d : Decimal) : List Char :=
  let ds := digitsOf d.digits
  if 0 ≤ d.power then ds ++ zeros d.power.toNat
  else
    let fractional := (-d.power).toNat
    if fractional < ds.length then
      ds.take (ds.length - fractional) ++ '.' :: ds.drop (ds.length - fractional)
    else '0' :: '.' :: (zeros (fractional - ds.length) ++ ds)

/-- The sign and the name or the places of a double. -/
def written (finite : Binary64 → List Char) (x : Binary64) : String :=
  if x.isNaN then "NaN"
  else
    let sign := if x.isNegative then "-" else ""
    if x.isInfinite then sign ++ "inf" else sign ++ String.ofList (finite x)

/-- All places of a double, `-0` for the negative zero. -/
def positional (x : Binary64) : String :=
  written (fun x => if x.isZero then ['0'] else x.shortest.places) x

/-- All places of a double, with a point also where it is whole. -/
def pointed (x : Binary64) : String :=
  written (fun x =>
    let text := if x.isZero then ['0'] else x.shortest.places
    if text.contains '.' then text else text ++ ['.', '0']) x

/-- One digit, a point if more follow, and the exponent with its sign and at
least two digits. -/
def Decimal.withExponent (d : Decimal) : List Char :=
  let ds := digitsOf d.digits
  let exponent := d.power + ds.length - 1
  let mantissa := match ds with
    | [] => []
    | [one] => [one]
    | one :: more => one :: '.' :: more
  let size := digitsOf exponent.natAbs
  mantissa ++ 'e' :: (if exponent < 0 then '-' else '+') :: (zeros (2 - size.length) ++ size)

/-- Positional with a point from `10 ^ -5` to below `10 ^ 16`, and with an
exponent beyond. -/
def scientific (x : Binary64) : String :=
  written (fun x =>
    if x.isZero then ['0', '.', '0']
    else
      let d := x.shortest
      let exponent := d.power + (digitsOf d.digits).length - 1
      if -5 ≤ exponent ∧ exponent ≤ 15 then
        if 0 ≤ d.power then d.places ++ ['.', '0'] else d.places
      else d.withExponent) x

end SqlGuard.Binary64
