import BucketQuery.Json.Basic
import Mathlib.Algebra.Order.Field.Rat
import Mathlib.Data.Rat.Cast.Defs

set_option autoImplicit false

/-! # Exact values

The exact value of a number of a document is a rational: an integer is what it is, and a double is
its magnitude, counted in units of `2^-1074`, with its sign (`Double.exact`). A sum takes every
value that is no number for zero.
-/

namespace BucketQuery

namespace Double

theorem unitsPerOne_ne_zero : (unitsPerOne : ℚ) ≠ 0 :=
  Nat.cast_ne_zero.mpr (by decide)

theorem cast_one_shiftLeft (place : Nat) : ((1 <<< place : Nat) : ℚ) = 2 ^ place := by
  rw [Nat.one_shiftLeft, Nat.cast_pow, Nat.cast_ofNat]

theorem cast_unitsPerOne : (unitsPerOne : ℚ) = 2 ^ 1074 := cast_one_shiftLeft 1074

/-- The exact value of a double: a number of units of `2^-1074`, with its sign. -/
def exact (d : Double) : ℚ := (if d.negative then -1 else 1) * (d.units / 2 ^ 1074)

/-- It is the number of units, as an integer, divided by the units of one. -/
theorem exact_eq_div (d : Double) : d.exact = d.signedUnits / unitsPerOne := by
  rw [exact, signedUnits, cast_unitsPerOne]
  cases d.negative with
  | false =>
      rw [if_neg Bool.false_ne_true, if_neg Bool.false_ne_true, one_mul, Int.cast_natCast]
  | true =>
      rw [if_pos rfl, if_pos rfl, Int.cast_neg, Int.cast_natCast, neg_one_mul, neg_div]

/-- A whole double has the value of the integer it is. -/
theorem exact_of_integer?_eq_some {d : Double} {i : Int} (h : d.integer? = some i) :
    d.exact = i := by
  rw [integer?] at h
  split at h
  · next hwhole =>
    have hunits : d.units = d.units / unitsPerOne * unitsPerOne :=
      (Nat.div_mul_cancel (Nat.dvd_of_mod_eq_zero hwhole)).symm
    generalize d.units / unitsPerOne = whole at hunits h
    rw [exact_eq_div, div_eq_iff unitsPerOne_ne_zero, ← Option.some.inj h, signedUnits, hunits]
    cases d.negative with
    | false =>
        rw [if_neg Bool.false_ne_true, if_neg Bool.false_ne_true]
        rw [Int.cast_natCast, Int.cast_natCast, Nat.cast_mul]
    | true =>
        rw [if_pos rfl, if_pos rfl, Int.cast_neg, Int.cast_neg]
        rw [Int.cast_natCast, Int.cast_natCast, Nat.cast_mul, neg_mul]
  · cases h

end Double

/-- The exact value of a number. -/
def Number.exact : Number → ℚ
  | .integer i _ => i
  | .double d => d.exact

namespace Json

/-- What a value adds to a sum, exactly: a number its value, anything else nothing. -/
def exact : Json → ℚ
  | .number n => n.exact
  | _ => 0

/-- What the value at a path of a document adds to a sum, exactly. A path that leads nowhere adds
nothing. -/
def exactAt (document : Json) (path : String) : ℚ :=
  match document.lookup? path with
  | some value => value.exact
  | none => 0

end Json

end BucketQuery
