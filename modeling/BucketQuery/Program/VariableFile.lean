import BucketQuery.Text.AlphanumericTable
import BucketQuery.Text.Character

set_option autoImplicit false

/-! # Files of variables

A file can set environment variables, one in a line:

    NAME=value            # a comment
    export NAME="a value with $OTHER or ${OTHER}"
    NAME='a value as it is'

Only quotes let a value go on in the next line. Variables in a value are replaced later, so a
value is read as a list of parts. Reading stops at the first line that is wrong; the lines
before it count.
-/

namespace BucketQuery

namespace VariableFile

/-- The single quote. -/
def singleQuote : Char := Char.ofNat 39

/-! ## Lines -/

/-- Where in a line a character stands. -/
inductive Spot where
  | start
  | word
  | blank
  | escaped
  | doubleQuoted
  | escapedDoubleQuoted
  | singleQuoted
  | escapedSingleQuoted
  | comment
  deriving DecidableEq

/-- The spot after a character of a word. -/
def wordSpot (c : Char) : Spot :=
  if c = '\\' then .escaped
  else if c = '"' then .doubleQuoted
  else if c = singleQuote then .singleQuoted
  else .word

/-- The spot after a character. A comment starts at the head of a line or after a blank. -/
def nextSpot (spot : Spot) (c : Char) : Spot :=
  match spot with
  | .start => if c = '#' then .comment else if isBlank c then .start else wordSpot c
  | .word => if isBlank c && c != '\n' && c != '\r' then .blank else wordSpot c
  | .blank => if c = '#' then .comment else wordSpot c
  | .escaped => .word
  | .doubleQuoted =>
    if c = '\\' then .escapedDoubleQuoted else if c = '"' then .word else .doubleQuoted
  | .escapedDoubleQuoted => .doubleQuoted
  | .singleQuoted =>
    if c = '\\' then .escapedSingleQuoted else if c = singleQuote then .word else .singleQuoted
  | .escapedSingleQuoted => .singleQuoted
  | .comment => .comment

/-- Whether a line may end at a spot. -/
def canEnd : Spot → Bool
  | .start | .word | .comment => true
  | _ => false

/-- The lines of a text without their comments. A last line that may not end is `none`. -/
def lines (spot : Spot) (line : List Char) : List Char → List (Option (List Char))
  | [] => if canEnd spot then [some line.reverse] else [none]
  | c :: rest =>
    let next := nextSpot spot c
    if c = '\n' ∧ canEnd next then some line.reverse :: lines .start [] rest
    else lines next (if next = .comment then line else c :: line) rest

/-! ## Values -/

/-- A part of a value: characters or the value of another variable. -/
inductive Part where
  | character (c : Char)
  | variable (name : String)
  deriving DecidableEq

/-- Where in a value a character stands. Outside single quotes it also counts whether double
quotes are open, and the name of a variable is kept in reverse. -/
inductive Place where
  | plain (quoted : Bool)
  | escaped (quoted : Bool)
  | singleQuoted
  | name (quoted : Bool) (name : List Char)
  | braced (quoted : Bool) (name : List Char)
  | ended

/-- The character that an escape stands for. -/
def unescape? (c : Char) : Option Char :=
  if c = 'n' then some '\n'
  else if ['\\', singleQuote, '"', '$', ' '].contains c then some c
  else none

/-- The variable with a name in reverse. -/
def variablePart (name : List Char) : Part := .variable (String.ofList name.reverse)

/-- The part that is complete at a place and the place after a character, or nothing if the
character cannot stand there. -/
def nextPlace? (place : Place) (c : Char) : Option (List Part × Place) :=
  match place with
  | .ended => if c = ' ' || c = '\t' then some ([], .ended) else none
  | .escaped quoted => (unescape? c).map fun c => ([.character c], .plain quoted)
  | .singleQuoted =>
    if c = singleQuote then some ([], .plain false) else some ([.character c], .singleQuoted)
  | .name quoted name =>
    if isAlphanumeric c then some ([], .name quoted (c :: name))
    else if c = '\x7b' && name.isEmpty then some ([], .braced quoted [])
    else if c = '$' then some ([variablePart name], .name quoted [])
    else some ([variablePart name, .character c], .plain quoted)
  | .braced quoted name =>
    if c = '\x7d' then some ([variablePart name], .plain quoted)
    else some ([], .braced quoted (c :: name))
  | .plain true =>
    if c = '$' then some ([], .name true [])
    else if c = '"' then some ([], .plain false)
    else if c = '\\' then some ([], .escaped true)
    else some ([.character c], .plain true)
  | .plain false =>
    if c = '$' then some ([], .name false [])
    else if c = '"' then some ([], .plain true)
    else if c = singleQuote then some ([], .singleQuoted)
    else if c = '\\' then some ([], .escaped false)
    else if c = ' ' || c = '\t' then some ([], .ended)
    else some ([.character c], .plain false)

/-- The part that is complete at the end of a value, if the value may end there. -/
def lastPart? : Place → Option (List Part)
  | .plain false | .escaped false | .ended => some []
  | .name false name => some [variablePart name]
  | _ => none

/-- The parts of a value from a place on. What follows a comment mark after the value does not
count. -/
def parts? (place : Place) : List Char → Option (List Part)
  | [] => lastPart? place
  | c :: rest =>
    match place, c with
    | .ended, '#' => some []
    | _, _ => do
      let (complete, next) ← nextPlace? place c
      let later ← parts? next rest
      some (complete ++ later)

/-! ## Assignments -/

/-- A variable and its value. -/
structure Assignment where
  name : String
  value : List Part
  deriving DecidableEq

/-- The name at the head of a line and the rest after the blanks that follow it. -/
def name? (line : List Char) : Option (String × List Char) :=
  match line with
  | [] => none
  | c :: _ =>
    if c.isAlpha || c = '_' then
      let isInner := fun c : Char => c.isAlphanum || c == '_' || c == '.'
      some (String.ofList (line.takeWhile isInner), (line.dropWhile isInner).dropWhile isBlank)
    else none

/-- The name that a line assigns to and what follows the equals sign. The word `export` may
stand in front and can itself be assigned to. -/
def head? (line : List Char) : Option (String × List Char) := do
  match ← name? line with
  | (name, '=' :: rest) => some (name, rest)
  | ("export", rest) =>
    match ← name? rest with
    | (name, '=' :: rest) => some (name, rest)
    | _ => none
  | _ => none

/-- The assignment in a line that is neither blank nor a comment. -/
def assignment? (line : List Char) : Option Assignment := do
  let (name, rest) ← head? line
  match rest.dropWhile isBlank with
  | [] | '#' :: _ => some ⟨name, []⟩
  | value => do
    let parts ← parts? (.plain false) value
    some ⟨name, parts⟩

/-- The assignments in lines up to the first wrong one. -/
def assignments : List (Option (List Char)) → List Assignment
  | [] => []
  | none :: _ => []
  | some line :: rest =>
    match dropEnd isBlank (line.dropWhile isBlank) with
    | [] | '#' :: _ => assignments rest
    | line =>
      match assignment? line with
      | some assignment => assignment :: assignments rest
      | none => []

/-- The text without a byte order mark in front. -/
def withoutMark (text : List Char) : List Char :=
  match text with
  | c :: rest => if c.toNat = 0xFEFF then rest else text
  | [] => []

/-- The assignments in a file. -/
def read (content : String) : List Assignment :=
  assignments (lines .start [] (withoutMark content.toList))

end VariableFile

end BucketQuery
