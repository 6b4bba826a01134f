import BucketQuery.Number.Numeral

set_option autoImplicit false

/-! # JSON tokens

The first half of reading JSON: a text is cut into tokens by an automaton that looks at one
character at a time. Two tokens are well formed without having a value, a number too large for
a double and a string with half of a surrogate pair; they are kept as tokens without value,
because a reader that skips them does not mind.
-/

namespace BucketQuery.Json

/-- A token. -/
inductive Token where
  | openArray
  | closeArray
  | openObject
  | closeObject
  | comma
  | colon
  | null
  | bool (value : Bool)
  | number (value : Option Number)
  | string (value : Option String)

/-- An element of a string as written: a character, or a UTF-16 unit given by number. -/
inductive Element where
  | char (c : Char)
  | unit (code : Nat)

/-- The first half of a surrogate pair. -/
def isLeading (code : Nat) : Bool := 0xD800 ≤ code && code < 0xDC00

/-- The second half of a surrogate pair. -/
def isTrailing (code : Nat) : Bool := 0xDC00 ≤ code && code < 0xE000

/-- The characters that the elements of a string spell, unless half of a surrogate pair stands
alone. -/
def spell : List Element → Option (List Char)
  | [] => some []
  | .char c :: rest => (spell rest).map (c :: ·)
  | .unit first :: rest =>
    if isLeading first then
      match rest with
      | .unit second :: rest =>
        if isTrailing second then
          (spell rest).map
            (Char.ofNat (0x10000 + (first - 0xD800) * 0x400 + (second - 0xDC00)) :: ·)
        else none
      | _ => none
    else if isTrailing first then none
    else (spell rest).map (Char.ofNat first :: ·)

/-- Where the automaton stands. What has been read of the current token is kept in reverse. -/
inductive Scan where
  | between
  | word (letters : List Char)
  | numeral (text : List Char)
  | string (elements : List Element)
  | escape (elements : List Element)
  | unit (elements : List Element) (digitsLeft : Nat) (code : Nat)

/-- Characters of numerals. -/
def isNumeral (c : Char) : Bool :=
  c.isDigit || c == '-' || c == '+' || c == '.' || c == 'e' || c == 'E'

/-- The blanks between tokens. -/
def isSpace (c : Char) : Bool := c == ' ' || c == '\n' || c == '\t' || c == '\r'

/-- The token of a word. -/
def word? (letters : List Char) : Option Token :=
  if letters = ['n', 'u', 'l', 'l'] then some .null
  else if letters = ['t', 'r', 'u', 'e'] then some (.bool true)
  else if letters = ['f', 'a', 'l', 's', 'e'] then some (.bool false)
  else none

/-- The token of a numeral. -/
def numeral? (text : List Char) : Option Token :=
  (Numeral.read? text).map fun numeral => .number numeral.number?

/-- Starts a token, or completes one of a single character. -/
def start? (c : Char) : Option (List Token × Scan) :=
  if isSpace c then some ([], .between)
  else if c = '[' then some ([.openArray], .between)
  else if c = ']' then some ([.closeArray], .between)
  else if c = '\x7b' then some ([.openObject], .between)
  else if c = '\x7d' then some ([.closeObject], .between)
  else if c = ',' then some ([.comma], .between)
  else if c = ':' then some ([.colon], .between)
  else if c = '"' then some ([], .string [])
  else if c.isLower then some ([], .word [c])
  else if isNumeral c then some ([], .numeral [c])
  else none

/-- The character of an escape with a single letter. -/
def escaped? (c : Char) : Option Char :=
  if c = '"' || c = '\\' || c = '/' then some c
  else if c = 'b' then some (Char.ofNat 8)
  else if c = 'f' then some (Char.ofNat 12)
  else if c = 'n' then some '\n'
  else if c = 'r' then some '\r'
  else if c = 't' then some '\t'
  else none

/-- Completes a token and starts the next with the character after it. -/
def complete? (token : Option Token) (c : Char) : Option (List Token × Scan) := do
  let done ← token
  let (tokens, scan) ← start? c
  some (done :: tokens, scan)

/-- One step of the automaton: the tokens that the character completes. -/
def scanChar (scan : Scan) (c : Char) : Option (List Token × Scan) :=
  match scan with
  | .between => start? c
  | .word letters =>
    if c.isLower then some ([], .word (c :: letters)) else complete? (word? letters.reverse) c
  | .numeral text =>
    if isNumeral c then some ([], .numeral (c :: text)) else complete? (numeral? text.reverse) c
  | .string elements =>
    if c = '"' then
      some ([.string ((spell elements.reverse).map String.ofList)], .between)
    else if c = '\\' then some ([], .escape elements)
    else if c.toNat < 0x20 then none
    else some ([], .string (.char c :: elements))
  | .escape elements =>
    if c = 'u' then some ([], .unit elements 4 0)
    else (escaped? c).map fun char => ([], .string (.char char :: elements))
  | .unit elements digitsLeft code =>
    (hexDigitValue? c).map fun digit =>
      let code := 16 * code + digit
      if digitsLeft ≤ 1 then ([], .string (.unit code :: elements))
      else ([], .unit elements (digitsLeft - 1) code)

/-- The tokens that the end of the text completes. -/
def scanEnd : Scan → Option (List Token)
  | .between => some []
  | .word letters => (word? letters.reverse).map fun token => [token]
  | .numeral text => (numeral? text.reverse).map fun token => [token]
  | _ => none

/-- The tokens of a text, the automaton standing at `scan` and having found some tokens, in
reverse, before. -/
def tokensFrom (scan : Scan) (found : List Token) : List Char → Option (List Token)
  | [] => (scanEnd scan).map (found.reverseAux ·)
  | c :: rest =>
    match scanChar scan c with
    | none => none
    | some (tokens, next) => tokensFrom next (tokens.reverseAux found) rest

/-- The tokens of a text. -/
def tokens? (text : String) : Option (List Token) := tokensFrom .between [] text.toList

end BucketQuery.Json
