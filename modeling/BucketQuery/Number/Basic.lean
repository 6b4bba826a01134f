import BucketQuery.Number.Decimal

set_option autoImplicit false

/-! # Numbers

A number in a document is an integer of the 64-bit range (signed or unsigned) or a finite
double. The two kinds print differently and are kept apart, but they compare as doubles: an
integer beyond 53 bits is rounded first.
-/

namespace BucketQuery

/-- The integers a document can hold as integers: the signed and the unsigned 64-bit words. -/
def IntegerRange (i : Int) : Prop := -0x8000000000000000 ≤ i ∧ i < 0x10000000000000000

instance (i : Int) : Decidable (IntegerRange i) := inferInstanceAs (Decidable (_ ∧ _))

/-- A number of a document. -/
inductive Number where
  | integer (value : Int) (inRange : IntegerRange value)
  | double (value : Double)
  deriving DecidableEq

namespace Number

/-- The integer as a number, if it is in range. -/
def ofInt? (i : Int) : Option Number :=
  if h : IntegerRange i then some (.integer i h) else none

/-- A word as a number. -/
def ofUInt64 (n : UInt64) : Number :=
  .integer n.toNat (by have := n.toNat_lt; constructor <;> omega)

/-- A signed word as a number. -/
def ofInt64 (n : Int64) : Number :=
  .integer n.toInt (by have := n.toInt_lt; have := n.le_toInt; constructor <;> omega)

/-- The double that a number is compared as, in units of `2^-1074`. -/
def signedUnits : Number → Int
  | .integer i _ =>
    let magnitude : Int := Double.nearestUnits i.natAbs 1
    if i < 0 then -magnitude else magnitude
  | .double d => d.signedUnits

/-- The number as a signed 64-bit word, when it is an integer of that range. -/
def int64? : Number → Option Int64
  | .integer i _ => if i < 0x8000000000000000 then some (Int64.ofInt i) else none
  | .double _ => none

/-- The number as an unsigned word below `bound`, when it is such an integer. -/
def below? (bound : Nat) : Number → Option Nat
  | .integer i _ => if 0 ≤ i ∧ i < bound then some i.toNat else none
  | .double _ => none

/-- The text of a number. -/
def chars : Number → List Char
  | .integer i _ => if i < 0 then '-' :: digitsOf i.natAbs else digitsOf i.natAbs
  | .double d => d.chars

end Number

end BucketQuery
