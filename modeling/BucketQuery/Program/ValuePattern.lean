import BucketQuery.Number.Numeral
import BucketQuery.Text.AlphanumericTable

set_option autoImplicit false

/-! # Value patterns

A log filter may ask for one value of a field. What it asks for is a truth value, a number, or
a pattern for texts, which is a regular expression. This module says which texts are such
values; it does not match them.

A regular expression is read one character at a time. The reader keeps how many groups and
character classes are open and whether something stands there that can be repeated. Counted
repetitions are never complete here, because a directive ends a field at the first closing
brace.
-/

namespace BucketQuery.ValuePattern

/-! ## The state of the reader -/

/-- What an escape or a plain character stands for. -/
inductive Item where
  | character (c : Char)
  | set
  | assertion
  deriving DecidableEq

/-- Where in a character class the reader is. An item that has just been read may turn out to
be the start of a range; one that is no single character is `none`. -/
inductive Spot where
  | opening (negated : Bool)
  | hyphens
  | between
  | after (item : Option Char)
  | range (first : Option Char)
  | half (c : Char)
  deriving DecidableEq

/-- What the reader is in. -/
inductive Mode where
  | text
  | inClass
  | opened
  | head
  | nameMark
  | name (isFirst : Bool)
  | flags (seen : List Char)
  | escaped
  | number (digitsLeft value : Nat)
  | property
  deriving DecidableEq

/-- The state of the reader. -/
structure State where
  groups : Nat
  classes : Nat
  spot : Spot
  repeatable : Bool
  boundary : Bool
  mode : Mode
  deriving DecidableEq

/-- The state before a pattern. -/
def State.initial : State := ⟨0, 0, .between, false, false, .text⟩

/-- The state after an item. -/
def State.put? (state : State) (item : Item) : Option State :=
  if state.classes = 0 then some { state with repeatable := true, mode := .text }
  else
    let go (spot : Spot) : Option State := some { state with spot := spot, mode := .inClass }
    match state.spot, item with
    | _, .assertion => none
    | .range (some first), .character c => if first ≤ c then go .between else none
    | .range _, _ => none
    | _, .character c => go (.after (some c))
    | _, .set => go (.after none)

/-! ## Steps -/

/-- Opens a group. -/
def State.enter (state : State) : State :=
  { state with groups := state.groups + 1, repeatable := false, mode := .text }

/-- A step outside character classes. -/
def textStep? (state : State) (c : Char) : Option State :=
  if c = '(' then some { state with mode := .opened }
  else if c = ')' then
    if state.groups = 0 then none
    else some { state with groups := state.groups - 1, repeatable := true }
  else if c = '|' then some { state with repeatable := false }
  else if c = '[' then
    some { state with classes := 1, spot := .opening false, mode := .inClass }
  else if c = '?' ∨ c = '*' ∨ c = '+' then if state.repeatable then some state else none
  else if c = '\x7b' then none
  else if c = '\\' then some { state with mode := .escaped }
  else state.put? (.character c)

/-- A step between two items of a character class. -/
def itemStep? (state : State) (c : Char) : Option State :=
  if c = '[' then
    some { state with classes := state.classes + 1, spot := .opening false }
  else if c = ']' then
    if state.classes = 1 then
      some { state with classes := 0, repeatable := true, mode := .text }
    else some { state with classes := state.classes - 1, spot := .between }
  else if c = '\\' then some { state with mode := .escaped }
  else if c = '-' ∨ c = '&' ∨ c = '~' then some { state with spot := .half c }
  else state.put? (.character c)

/-- A step in a character class. -/
def classStep? (state : State) (c : Char) : Option State :=
  let move (spot : Spot) : Option State := some { state with spot := spot }
  match state.spot with
  | .opening negated =>
    if c = '^' ∧ !negated then move (.opening true)
    else if c = '-' then move .hyphens
    else if c = ']' then move .between
    else itemStep? state c
  | .hyphens => if c = '-' then some state else itemStep? state c
  | .between => itemStep? state c
  | .after item => if c = '-' then move (.range item) else itemStep? state c
  | .range _ =>
    if c = ']' then itemStep? state c
    else if c = '-' then move .between
    else if c = '\\' then some { state with mode := .escaped }
    else state.put? (.character c)
  | .half first =>
    if c = first then move .between
    else if c = '-' then move (.range (some first))
    else itemStep? state c

/-- Whether a character may stand in the name of a group. -/
def isNameChar (isFirst : Bool) (c : Char) : Bool :=
  c == '_' || (isAlphanumeric c && !(isFirst && c.isDigit)) ||
    (!isFirst && (c == '.' || c == '[' || c == ']'))

/-- A step in the flags of a group. -/
def flagStep? (state : State) (seen : List Char) (c : Char) : Option State :=
  if c = ':' then if seen.head? = some '-' then none else some state.enter
  else if c = ')' then
    if seen.isEmpty ∨ seen.head? = some '-' then none
    else some { state with repeatable := false, mode := .text }
  else if "-imsUuRx".toList.contains c ∧ !seen.contains c then
    some { state with mode := .flags (c :: seen) }
  else none

/-- How many digits a character number has after its letter. -/
def numberLength? (c : Char) : Option Nat :=
  if c = 'x' then some 2 else if c = 'u' then some 4 else if c = 'U' then some 8 else none

/-- What an escape with a single character stands for. -/
def escape? (c : Char) : Option Item :=
  if "dswDSW".toList.contains c then some .set
  else if "AzbB<>".toList.contains c then some .assertion
  else if c = 'a' then some (.character (Char.ofNat 7))
  else if c = 'f' then some (.character (Char.ofNat 12))
  else if c = 't' then some (.character '\t')
  else if c = 'n' then some (.character '\n')
  else if c = 'r' then some (.character '\r')
  else if c = 'v' then some (.character (Char.ofNat 11))
  else if c.toNat < 0x80 ∧ !c.isAlphanum then some (.character c)
  else none

/-- A step after a backslash. -/
def escapeStep? (state : State) (c : Char) : Option State :=
  match numberLength? c with
  | some digits => some { state with mode := .number digits 0 }
  | none =>
    if c = 'p' ∨ c = 'P' then some { state with mode := .property }
    else
      let state := { state with boundary := state.boundary || "bB<>".toList.contains c }
      (escape? c).bind state.put?

/-- A step in the number of a character. -/
def numberStep? (state : State) (digitsLeft value : Nat) (c : Char) : Option State := do
  let value := 16 * value + (← hexDigitValue? c)
  if 1 < digitsLeft then some { state with mode := .number (digitsLeft - 1) value }
  else if value.isValidChar then state.put? (.character (Char.ofNat value))
  else none

/-- One step of the reader. -/
def step? (state : State) (c : Char) : Option State :=
  match state.mode with
  | .text => textStep? state c
  | .inClass => classStep? state c
  | .opened => if c = '?' then some { state with mode := .head } else textStep? state.enter c
  | .head =>
    if c = 'P' then some { state with mode := .nameMark }
    else if c = '<' then some { state with mode := .name true }
    else flagStep? state [] c
  | .nameMark => if c = '<' then some { state with mode := .name true } else none
  | .name isFirst =>
    if c = '>' ∧ !isFirst then some state.enter
    else if isNameChar isFirst c then some { state with mode := .name false }
    else none
  | .flags seen => flagStep? state seen c
  | .escaped => escapeStep? state c
  | .number digitsLeft value => numberStep? state digitsLeft value c
  | .property => if "CLMNPSZclmnpsz".toList.contains c then state.put? .set else none

/-- The state after a whole pattern. -/
def finish? (pattern : List Char) : Option State :=
  (pattern.foldlM step? State.initial).filter fun state =>
    state.mode = .text ∧ state.groups = 0

/-! ## Values -/

/-- Whether a text is a number, apart from its sign. -/
def isUnsigned (text : List Char) : Bool :=
  let (mantissa, exponent) := text.span fun c => c != 'e' && c != 'E'
  let digits := mantissa.filter (· != '.')
  let exponentDigits := match exponent with
    | _ :: '+' :: digits => some digits
    | _ :: '-' :: digits => some digits
    | _ :: digits => some digits
    | [] => none
  ["inf", "infinity", "nan"].contains (String.ofList (text.map Char.toLower)) ||
    (!digits.isEmpty && digits.all Char.isDigit && mantissa.length ≤ digits.length + 1 &&
      exponentDigits.all fun digits => !digits.isEmpty && digits.all Char.isDigit)

/-- Why a text is no value. -/
inductive Flaw where
  | malformed
  | wordBoundary
  deriving DecidableEq

/-- The wording of a flaw. -/
def Flaw.message : Flaw → String
  | .malformed => "error building NFA"
  | .wordBoundary =>
    "unsupported regex feature for DFAs: cannot build DFAs for regexes with Unicode word " ++
      "boundaries; switch to ASCII word boundaries, or heuristically enable Unicode word " ++
      "boundaries or use a different regex engine"

/-- What keeps a text from being a value. Every truth value and every number without a plus
sign is a pattern too. -/
def flaw? (text : String) : Option Flaw :=
  match text.toList with
  | '+' :: rest => if isUnsigned rest then none else some .malformed
  | pattern =>
    match finish? pattern with
    | none => some .malformed
    | some state => if state.boundary then some .wordBoundary else none

end BucketQuery.ValuePattern
