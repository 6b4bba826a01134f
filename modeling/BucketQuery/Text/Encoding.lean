import BucketQuery.Number.Numeral

set_option autoImplicit false

/-! # Bytes as text

Two ways to write the bytes of a text with few characters.

Base64 is what a basic authorization header carries: six bits to a character, padded to whole
groups of four.

In a web address a byte can be written as a percent sign and two hexadecimal digits. A text is
escaped by the bytes of its usual encoding; a percent sign that no two digits follow stands for
itself.
-/

namespace BucketQuery

/-! ## Base64 -/

namespace Base64

/-- The character of a six-bit value. -/
def digit (n : Nat) : Char :=
  if n < 26 then Char.ofNat ('A'.toNat + n)
  else if n < 52 then Char.ofNat ('a'.toNat + (n - 26))
  else if n < 62 then Char.ofNat ('0'.toNat + (n - 52))
  else if n = 62 then '+'
  else '/'

/-- The characters of a list of bytes. -/
def encode : List Nat → List Char
  | [] => []
  | [a] => [digit (a / 4), digit (a % 4 * 16), '=', '=']
  | [a, b] => [digit (a / 4), digit (a % 4 * 16 + b / 16), digit (b % 16 * 4), '=']
  | a :: b :: c :: rest =>
    digit (a / 4) :: digit (a % 4 * 16 + b / 16) :: digit (b % 16 * 4 + c / 64) ::
      digit (c % 64) :: encode rest

/-- The bytes of a text in its usual encoding. -/
def ofText (s : String) : String :=
  String.ofList (encode (s.toUTF8.data.toList.map UInt8.toNat))

end Base64

/-! ## Percent escapes -/

namespace Percent

/-- The bytes of a text in its usual encoding. -/
def utf8 (text : List Char) : List UInt8 := (String.ofList text).toUTF8.data.toList

/-- The text that bytes encode, if they do. -/
def ofUtf8? (bytes : List UInt8) : Option (List Char) :=
  (String.fromUTF8? ⟨bytes.toArray⟩).map String.toList

/-- A byte as percent sign and two upper-case digits. -/
def escapeByte (byte : UInt8) : List Char :=
  ['%', (Nat.digitChar (byte.toNat / 16)).toUpper, (Nat.digitChar (byte.toNat % 16)).toUpper]

/-- A text with the bytes of every character that is not plain escaped. -/
def escape (plain : Char → Bool) (text : List Char) : List Char :=
  text.flatMap fun c => if plain c then [c] else (utf8 [c]).flatMap escapeByte

/-- The byte that two digits stand for. -/
def byte? (high low : Char) : Option UInt8 := do
  some (UInt8.ofNat (16 * (← hexDigitValue? high) + (← hexDigitValue? low)))

/-- The bytes of a text whose escapes are undone. -/
def bytes : List Char → List UInt8
  | '%' :: high :: low :: rest =>
    match byte? high low with
    | some byte => byte :: bytes rest
    | none => utf8 ['%'] ++ bytes (high :: low :: rest)
  | c :: rest => utf8 [c] ++ bytes rest
  | [] => []

/-- The text whose escapes are undone, if its bytes encode one. -/
def unescape? (text : List Char) : Option (List Char) := ofUtf8? (bytes text)

end Percent

end BucketQuery
