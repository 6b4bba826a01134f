set_option autoImplicit false

/-! # Characters

Sets of characters, and one of them in particular: the blanks, which are trimmed off the ends of a
text.

A set is given by the code points at which membership changes: the first number starts the first
range, the second ends it (exclusively), and so on, in ascending order.
-/

namespace BucketQuery

/-- Whether each number is greater than the one before it. -/
def ascends : List Nat → Bool
  | first :: second :: rest => first < second && ascends (second :: rest)
  | _ => true

/-- A set of characters as an ascending list of the code points where membership changes. -/
structure CharacterSet where
  changes : List Nat
  ascending : ascends changes = true

/-- Whether a character lies in the set: an odd number of changes is at or before it. -/
def CharacterSet.contains (s : CharacterSet) (c : Char) : Bool :=
  (s.changes.takeWhile (· ≤ c.toNat)).length % 2 == 1

/-! ## Blanks -/

/-- The characters with the property White_Space. -/
def isBlank (c : Char) : Bool :=
  let n := c.toNat
  (9 ≤ n && n ≤ 13) || n == 0x20 || n == 0x85 || n == 0xA0 || n == 0x1680 ||
    (0x2000 ≤ n && n ≤ 0x200A) || n == 0x2028 || n == 0x2029 || n == 0x202F || n == 0x205F ||
    n == 0x3000

/-- A list of characters without those at its end that satisfy `drop`. -/
def dropEnd (drop : Char → Bool) (text : List Char) : List Char :=
  (text.reverse.dropWhile drop).reverse

/-- A text without the blanks at both ends. -/
def trimBlanks (s : String) : String :=
  String.ofList (dropEnd isBlank (s.toList.dropWhile isBlank))

end BucketQuery
