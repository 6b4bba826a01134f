import BucketQuery.Number.Basic

set_option autoImplicit false

/-! # Numerals

The text of a number: an optional sign, a whole part without a needless leading zero, an
optional fraction and an optional exponent. `Numeral.read?` splits a text into these parts and
`Numeral.number?` gives the number it denotes.

A numeral without fraction and exponent is an integer if it fits, `-0` apart; anything else is
a double. Only as many digits as keep the significand below `2^64` count: a whole digit after
them still raises the exponent, a fraction digit after them is dropped.
-/

namespace BucketQuery

/-- A numeral, split into its parts. -/
structure Numeral where
  negative : Bool
  whole : List Char
  fraction : Option (List Char)
  exponent : Option (Bool × List Char)

/-- The value of a decimal digit. -/
def digitValue (c : Char) : Nat := c.toNat - '0'.toNat

/-- The value of a hexadecimal digit of either case. -/
def hexDigitValue? (c : Char) : Option Nat :=
  if c.isDigit then some (digitValue c)
  else if 'a' ≤ c ∧ c ≤ 'f' then some (c.toNat - 'a'.toNat + 10)
  else if 'A' ≤ c ∧ c ≤ 'F' then some (c.toNat - 'A'.toNat + 10)
  else none

/-- The natural number that a list of digits denotes. -/
def ofDigits (digits : List Char) : Nat :=
  digits.foldl (fun n c => 10 * n + digitValue c) 0

namespace Numeral

/-- The digits at the head of a text, and the rest. There must be one. -/
def digits? (text : List Char) : Option (List Char × List Char) :=
  let (digits, rest) := text.span Char.isDigit
  if digits.isEmpty then none else some (digits, rest)

/-- The whole part: a single zero, or digits that do not start with one. -/
def whole? (text : List Char) : Option (List Char × List Char) :=
  match text with
  | '0' :: rest => some (['0'], rest)
  | _ => digits? text

/-- The fraction, if a point follows. -/
def fraction? (text : List Char) : Option (Option (List Char) × List Char) :=
  match text with
  | '.' :: rest => (digits? rest).map fun (digits, rest) => (some digits, rest)
  | _ => some (none, text)

/-- The exponent after its mark: an optional sign and digits. The flag says whether it is
negative. -/
def exponentDigits? (text : List Char) : Option (Option (Bool × List Char) × List Char) :=
  match text with
  | '-' :: rest => (digits? rest).map fun (digits, rest) => (some (true, digits), rest)
  | '+' :: rest => (digits? rest).map fun (digits, rest) => (some (false, digits), rest)
  | _ => (digits? text).map fun (digits, rest) => (some (false, digits), rest)

/-- The exponent, if a mark follows. -/
def exponent? (text : List Char) : Option (Option (Bool × List Char) × List Char) :=
  match text with
  | 'e' :: rest => exponentDigits? rest
  | 'E' :: rest => exponentDigits? rest
  | _ => some (none, text)

/-- The numeral that a whole text is. -/
def read? (text : List Char) : Option Numeral := do
  let (negative, text) := match text with
    | '-' :: rest => (true, rest)
    | _ => (false, text)
  let (whole, text) ← whole? text
  let (fraction, text) ← fraction? text
  let (exponent, text) ← exponent? text
  if text.isEmpty then some ⟨negative, whole, fraction, exponent⟩ else none

/-- Appends digits to a significand while it stays below `2^64`; gives the significand and
the digits left over. -/
def absorb (significand : Nat) : List Char → Nat × List Char
  | [] => (significand, [])
  | c :: rest =>
    if significand * 10 + digitValue c < UInt64.size then absorb (significand * 10 + digitValue c) rest
    else (significand, c :: rest)

/-- The double that a numeral denotes, unless it is too large. -/
def double? (n : Numeral) : Option Double :=
  let (fromWhole, droppedWhole) := absorb 0 n.whole
  let fraction := n.fraction.getD []
  let (significand, droppedFraction) := absorb fromWhole fraction
  let shift : Int := droppedWhole.length - (fraction.length - droppedFraction.length : Nat)
  let written : Int := match n.exponent with
    | none => 0
    | some (true, digits) => -(ofDigits digits : Int)
    | some (false, digits) => ofDigits digits
  Double.ofDecimal? n.negative significand (shift + written)

/-- The integer that a numeral denotes, if it is written as one: no fraction, no exponent, and
no sign before a zero. -/
def integer? (n : Numeral) : Option Int :=
  match n.fraction, n.exponent with
  | none, none =>
    let magnitude := ofDigits n.whole
    if n.negative then
      if magnitude = 0 then none else some (-(magnitude : Int))
    else some magnitude
  | _, _ => none

/-- The number that a numeral denotes, unless it is too large for a double. -/
def number? (n : Numeral) : Option Number :=
  match n.integer? >>= Number.ofInt? with
  | some number => some number
  | none => n.double?.map .double

end Numeral

end BucketQuery
