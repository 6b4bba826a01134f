import BucketQuery.Number.Numeral

set_option autoImplicit false

/-! # Punycode

The ASCII form of a label with other characters. In front stand the label's ASCII characters,
up to the last hyphen. What follows says where the others go: a sequence of numbers, each of
them the way from one insertion to the next when all insertions are counted, first by code
point and then by place.

A number is written with the lowest digit first, in digits below 36. A digit below its
threshold is the last one. The thresholds follow a bias that is adapted after each number.
-/

namespace BucketQuery.Punycode

/-- The value of a digit: a letter of either case, or a decimal digit after all letters. -/
def value? (c : Char) : Option Nat :=
  if c.isLower then some (c.toNat - 'a'.toNat)
  else if c.isUpper then some (c.toNat - 'A'.toNat)
  else if c.isDigit then some (26 + digitValue c)
  else none

/-- The threshold of the digit at a place, which counts in steps of 36. -/
def threshold (place bias : Nat) : Nat :=
  if place ≤ bias then 1 else if bias + 26 ≤ place then 26 else place - bias

/-- How often a number is divided by 35 until it is at most 455, in steps of 36, and the rest. -/
def reduce (n : Nat) : Nat × Nat :=
  if 455 < n then
    let (steps, rest) := reduce (n / 35)
    (steps + 36, rest)
  else (0, n)
termination_by n
decreasing_by omega

/-- The bias after a number, given how many characters there are with the new one. -/
def bias (number size : Nat) (isFirst : Bool) : Nat :=
  let scaled := if isFirst then number / 700 else number / 2
  let (steps, rest) := reduce (scaled + scaled / size)
  steps + 36 * rest / (rest + 38)

/-- The number at the head of a text, whose next digit has a place and a weight, and the rest
of the text. -/
def number? (bias : Nat) : List Char → Nat → Nat → Option (Nat × List Char)
  | [], _, _ => none
  | c :: rest, place, weight =>
    match value? c with
    | none => none
    | some digit =>
      if digit < threshold place bias then some (digit * weight, rest)
      else
        (number? bias rest (place + 36) (weight * (36 - threshold place bias))).map fun (higher, rest) =>
          (digit * weight + higher, rest)

theorem length_of_number? {bias : Nat} {text : List Char} {place weight : Nat}
    {result : Nat × List Char} (h : number? bias text place weight = some result) :
    result.2.length < text.length := by
  induction text generalizing place weight result with
  | nil => simp [number?] at h
  | cons c rest ih =>
    rw [number?] at h
    split at h
    · simp at h
    · split at h
      · cases h
        simp
      · obtain ⟨higher, hHigher, rfl⟩ := Option.map_eq_some_iff.1 h
        have hShorter := ih hHigher
        exact Nat.lt_succ_of_lt hShorter

/-- The character of a code point, unless it is half of a surrogate pair or too large. -/
def character? (code : Nat) : Option Char :=
  if h : code.isValidChar then some (Char.ofNatAux code h) else none

/-- Inserts characters into a label. The next insertion is counted from a code point and a
place. -/
def insert? (label : List Char) (code place bias : Nat) (isFirst : Bool) (text : List Char) :
    Option (List Char) :=
  match text with
  | [] => some label
  | c :: rest =>
    match _h : number? bias (c :: rest) 36 1 with
    | none => none
    | some (number, later) =>
      let size := label.length + 1
      let total := place + number
      let code := code + total / size
      match character? code with
      | none => none
      | some char =>
        insert? (label.insertIdx (total % size) char) code (total % size + 1)
          (Punycode.bias number size isFirst) false later
termination_by text.length
decreasing_by exact length_of_number? _h

/-- The ASCII characters of a label and its insertions. -/
def split (text : List Char) : List Char × List Char :=
  match text.reverse.span (· != '-') with
  | (insertions, _ :: ascii) => (ascii.reverse, insertions.reverse)
  | (insertions, []) => ([], insertions.reverse)

/-- The label that a text of ASCII characters stands for. -/
def decode? (text : List Char) : Option (List Char) :=
  let (ascii, insertions) := split text
  if ascii.all fun c => c.toNat < 0x80 then insert? ascii 0x80 0 72 true insertions else none

end BucketQuery.Punycode
