set_option autoImplicit false

/-! # Finite doubles

A finite double is a sign and a magnitude counted in *units*, one unit being `2^-1074`, the
least positive double:

    value = ± units / 2^1074

So comparing doubles is comparing integers, and a double is whole when `2^1074` divides its
units. The file says which magnitudes are doubles (`Representable`), rounds a quotient of
natural numbers to the nearest one (`nearestUnits`), and defines the type.
-/

namespace BucketQuery

/-- The quotient `num / den` rounded to the nearest natural number, a tie to the even one. -/
def roundQuotient (num den : Nat) : Nat :=
  let floor := num / den
  let rest := num % den
  if den < 2 * rest ∨ (2 * rest = den ∧ floor % 2 = 1) then floor + 1 else floor

namespace Double

/-- The exponent of the lowest bit that a double of this magnitude can carry: a double has 53
significant bits, and no bit below one unit. -/
def lowestBit (units : Nat) : Nat := units.log2 - 52

/-- The largest lowest bit of a finite double. -/
def maxLowestBit : Nat := 2045

/-- The magnitudes of finite doubles: 53 significant bits, not beyond the largest exponent. -/
def Representable (units : Nat) : Prop :=
  units % (1 <<< lowestBit units) = 0 ∧ lowestBit units ≤ maxLowestBit

instance (units : Nat) : Decidable (Representable units) :=
  inferInstanceAs (Decidable (_ ∧ _))

/-- How many units make one. -/
def unitsPerOne : Nat := 1 <<< 1074

/-- The magnitude nearest to `num / den` among the doubles, in units, a tie to the even
significand. The exponent is not bounded here: a result too large for a double is refused by
`Double.ofUnits?`. -/
def nearestUnits (num den : Nat) : Nat :=
  let scaled := num * unitsPerOne
  let bit := 1 <<< lowestBit (scaled / den)
  roundQuotient scaled (den * bit) * bit

end Double

/-- A finite double. The sign is kept apart so that zero has two of them. -/
structure Double where
  negative : Bool
  units : Nat
  representable : Double.Representable units
  deriving DecidableEq

namespace Double

/-- The double with this sign and magnitude, unless the magnitude is not one of a double. -/
def ofUnits? (negative : Bool) (units : Nat) : Option Double :=
  if h : Representable units then some ⟨negative, units, h⟩ else none

/-- Zero with a sign. -/
def zero (negative : Bool) : Double := ⟨negative, 0, by decide⟩

/-- The value as an integer number of units. -/
def signedUnits (d : Double) : Int := if d.negative then -(d.units : Int) else d.units

/-- The integer that the double is, if it is whole. -/
def integer? (d : Double) : Option Int :=
  if d.units % unitsPerOne = 0 then
    let magnitude : Int := (d.units / unitsPerOne : Nat)
    some (if d.negative then -magnitude else magnitude)
  else none

/-- The power of ten `10^k` rounded to a double, in units. -/
def powerOfTen (k : Nat) : Nat := nearestUnits (Nat.pow 10 k) 1

/-- The largest power of ten that is a finite double. -/
def maxPowerOfTen : Nat := 308

/-- The double written as `significand · 10^exponent`, in at most three rounded steps: the
significand is rounded, then multiplied by the rounded power of ten, or divided by it. An
exponent below `-308` first divides by `10^308`; beyond `-616` nothing is left. Refused when
the result is not finite. -/
def ofDecimal? (negative : Bool) (significand : Nat) (exponent : Int) : Option Double :=
  let rounded := nearestUnits significand 1
  if significand = 0 then some (zero negative)
  else if 0 ≤ exponent then
    if exponent.toNat ≤ maxPowerOfTen then
      ofUnits? negative (nearestUnits (rounded * powerOfTen exponent.toNat) (unitsPerOne * unitsPerOne))
    else none
  else
    let down := (-exponent).toNat
    if down ≤ maxPowerOfTen then
      ofUnits? negative (nearestUnits rounded (powerOfTen down))
    else if down ≤ 2 * maxPowerOfTen then
      let once := nearestUnits rounded (powerOfTen maxPowerOfTen)
      ofUnits? negative (nearestUnits once (powerOfTen (down - maxPowerOfTen)))
    else some (zero negative)

end Double

end BucketQuery
