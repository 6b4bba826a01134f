import BucketQuery.Number.Double

set_option autoImplicit false

/-! # The shortest decimal text of a double

Of the decimals that read back as a given double, the text shows one with the fewest digits,
and among those the one nearest to the double. The search is exact: a decimal grid
`10^place` is tried from the coarse end, and on each grid only the two neighbours of the
value can be the answer.
-/

namespace BucketQuery

/-- The decimal digits of a natural number, the highest first. -/
def digitsOf (n : Nat) : List Char := Nat.toDigits 10 n

namespace Double

/-- The decimals that round to a double of this magnitude, in quarter units and scaled by
`scale`: the ends belong to it when the significand is even. Below a power of two the next
double is only half as far away. -/
structure Neighbourhood where
  low : Nat
  value : Nat
  high : Nat
  closed : Bool

/-- The neighbourhood of a magnitude, every bound multiplied by `scale`. -/
def neighbourhood (units scale : Nat) : Neighbourhood :=
  let bit := 1 <<< lowestBit units
  let significand := units / bit
  let below := if significand = 1 <<< 52 ∧ 0 < lowestBit units then 1 else 2
  { low := (4 * significand - below) * bit * scale
    value := 4 * units * scale
    high := (4 * significand + 2) * bit * scale
    closed := significand % 2 = 0 }

/-- Whether a point lies in the neighbourhood. -/
def Neighbourhood.contains (n : Neighbourhood) (point : Nat) : Bool :=
  if n.closed then n.low ≤ point ∧ point ≤ n.high else n.low < point ∧ point < n.high

/-- The decimal `significand · 10^place`. -/
structure Decimal where
  significand : Nat
  place : Int
  deriving DecidableEq

/-- The decimal on the grid `10^place` that reads back as the double and is nearest to it, a
tie to the even digit, if the grid has one. -/
def onGrid? (units : Nat) (place : Int) : Option Decimal :=
  let around := neighbourhood units (Nat.pow 10 (-place).toNat)
  let step := 4 * unitsPerOne * Nat.pow 10 place.toNat
  let lower := around.value / step
  let upper := lower + 1
  let below := around.value - lower * step
  let above := upper * step - around.value
  let lowerFits := around.contains (lower * step)
  let upperFits := around.contains (upper * step)
  if lowerFits && (!upperFits || below < above || (below == above && lower % 2 == 0)) then
    some ⟨lower, place⟩
  else if upperFits then some ⟨upper, place⟩
  else none

/-- The first grid, of `count` grids from `place` downwards, that has an answer. -/
def search (units : Nat) : Nat → Int → Option Decimal
  | 0, _ => none
  | count + 1, place =>
    match onGrid? units place with
    | some found => some found
    | none => search units count (place - 1)

/-- A place at or above the highest decimal digit of the magnitude. -/
def topPlace (units : Nat) : Int := ((units.log2 : Int) - 1073) * 30103 / 100000 + 1

/-- The shortest decimal of a magnitude. Twenty grids reach from `topPlace` below the
seventeenth digit, and seventeen digits always tell a double from its neighbours. -/
def shortest (units : Nat) : Decimal :=
  (search units 20 (topPlace units)).getD ⟨0, 0⟩

/-- A decimal without the zeros at the end of its significand. -/
def Decimal.trim (d : Decimal) : List Char × Int :=
  let digits := digitsOf d.significand
  let kept := (digits.reverse.dropWhile (· == '0')).reverse
  (kept, d.place + (digits.length - kept.length : Nat))

/-- The least decimal exponent written positionally. -/
def minPositional : Int := -5

/-- The first decimal exponent written with an exponent mark. -/
def minMarked : Int := 16

/-- The text of `0.d₁d₂… · 10^point`, given the digits `d₁d₂…` and how many of them stand
before the decimal point. There is always a point or an exponent mark, so the text reads
back as a double and never as an integer. -/
def layout (digits : List Char) (point : Int) : List Char :=
  let exponent := point - 1
  if minPositional ≤ exponent ∧ exponent < minMarked then
    if point ≤ 0 then '0' :: '.' :: (List.replicate (-point).toNat '0' ++ digits)
    else
      let whole := digits.take point.toNat
      let fraction := digits.drop point.toNat
      whole ++ List.replicate (point.toNat - whole.length) '0' ++
        '.' :: (if fraction.isEmpty then ['0'] else fraction)
  else
    let tail := digits.drop 1
    digits.take 1 ++ (if tail.isEmpty then [] else '.' :: tail) ++
      'e' :: (if exponent < 0 then '-' else '+') :: digitsOf exponent.natAbs

/-- The text of a double. -/
def chars (d : Double) : List Char :=
  let magnitude :=
    if d.units = 0 then ['0', '.', '0']
    else
      let (digits, place) := (shortest d.units).trim
      layout digits (place + digits.length)
  if d.negative then '-' :: magnitude else magnitude

end Double

end BucketQuery
