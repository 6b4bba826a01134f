import BucketQuery.Address.NameTable
import BucketQuery.Address.Punycode
import BucketQuery.Address.ScriptTable
import BucketQuery.Text.Name

set_option autoImplicit false

/-! # Host names

A host name is a sequence of labels with dots between them. Names are compared without regard
to case, and some characters stand for others: `HostName.spelling?` brings a name into small
letters and puts ASCII where ASCII is meant. A character that stands for others beyond ASCII
may stand for them in a name and is kept.

Labels follow three rules. A label that starts with `xn--` is the ASCII form of another label,
one that has a character beyond ASCII and only characters in their final form. No label starts
with a mark, and joiners stand only between letters that they can join. When a name has
characters that are written from right to left, every label is written in one direction: it
starts with a letter of its direction and ends in a letter or number of it.
-/

namespace BucketQuery.HostName

/-! ## Characters -/

/-- ASCII characters that may not stand in a name: controls, the blank, and the characters
that have a meaning in an address. -/
def isDenied (c : Char) : Bool :=
  c.toNat ≤ 0x20 || c.toNat == 0x7F || "%#/:<>?@[\\]^|".toList.contains c

/-- The ASCII text that a character stands for, if it does. -/
def ascii? (c : Char) : Option (List Char) :=
  match NameTable.runs.find? fun run => run.first ≤ c.toNat && c.toNat ≤ run.last with
  | some run => some [Char.ofNat (run.ascii + (c.toNat - run.first))]
  | none => (NameTable.texts.lookup c.toNat).map String.toList

/-- What a character is in a name, unless it may not stand there. -/
def spell? (c : Char) : Option (List Char) :=
  if c.toNat < 0x80 then if isDenied c then none else some [c.toLower]
  else if NameTable.refused.contains c then none
  else if NameTable.ignored.contains c then some []
  else some ((ascii? c).getD [c])

/-- A name with each of its characters as it is in a name. -/
def spelling? (name : List Char) : Option (List Char) := (name.mapM spell?).map List.flatten

/-- Whether a character is in its final form. -/
def isFinal (c : Char) : Bool :=
  c.toNat < 0x80 ||
    !(NameTable.refused.contains c || NameTable.ignored.contains c ||
      NameTable.replaced.contains c)

/-! ## Directions -/

/-- The direction of a character. -/
inductive Direction where
  | leftToRight
  | rightToLeft
  | arabicNumeral
  | europeanNumeral
  | nonspacing
  | neutral
  deriving DecidableEq

/-- The direction of a character in a name. -/
def direction (c : Char) : Direction :=
  if c.toNat < 0x80 then
    if c.isAlpha then .leftToRight else if c.isDigit then .europeanNumeral else .neutral
  else if ScriptTable.nonspacing.contains c then .nonspacing
  else if ScriptTable.rightToLeft.contains c then .rightToLeft
  else if ScriptTable.arabicNumerals.contains c then .arabicNumeral
  else if ScriptTable.europeanNumerals.contains c then .europeanNumeral
  else if ScriptTable.neutral.contains c then .neutral
  else .leftToRight

/-- Whether a label has a direction that concerns the whole name. -/
def turns (label : List Char) : Bool :=
  label.any fun c => direction c = .rightToLeft ∨ direction c = .arabicNumeral

/-- Whether a label is written in one direction. -/
def hasOneDirection (label : List Char) : Bool :=
  let directions := label.map direction
  let last? := directions.reverse.find? (· != .nonspacing)
  match directions.head? with
  | none => true
  | some .leftToRight =>
    directions.all ([.leftToRight, .europeanNumeral, .nonspacing, .neutral].contains ·) &&
      last?.any ([.leftToRight, .europeanNumeral].contains ·)
  | some .rightToLeft =>
    !directions.contains .leftToRight &&
      !(directions.contains .arabicNumeral && directions.contains .europeanNumeral) &&
      last?.any ([.rightToLeft, .arabicNumeral, .europeanNumeral].contains ·)
  | some _ => false

/-! ## Joiners -/

/-- The joiner that keeps letters apart. -/
def nonJoiner : Char := Char.ofNat 0x200C

/-- The joiner that brings letters together. -/
def joiner : Char := Char.ofNat 0x200D

/-- Whether the first character that is not a nonspacing mark is in a set. -/
def startsIn (set : CharacterSet) (text : List Char) : Bool :=
  (text.find? fun c => !ScriptTable.nonspacing.contains c).any set.contains

/-- Whether a joiner can stand between what is before it, nearest first, and after it. -/
def joinerFits (before : List Char) (c : Char) (after : List Char) : Bool :=
  before.head?.any ScriptTable.viramas.contains ||
    (c == nonJoiner && startsIn ScriptTable.joinedAfter before &&
      startsIn ScriptTable.joinedBefore after)

/-- Whether all joiners fit in the rest of a label, after some characters, nearest first. -/
def joinersFit (before : List Char) : List Char → Bool
  | [] => true
  | c :: after =>
    ((c != nonJoiner && c != joiner) || joinerFits before c after) &&
      joinersFit (c :: before) after

/-! ## Labels -/

/-- What the ASCII form of a label starts with. -/
def asciiMark : List Char := "xn--".toList

/-- The label that a label stands for. -/
def label? (label : List Char) : Option (List Char) :=
  match asciiMark.isPrefixOf? label with
  | none => some label
  | some text =>
    match Punycode.decode? text with
    | some decoded =>
      if decoded.all isFinal && decoded.any (0x80 ≤ ·.toNat) then some decoded else none
    | none => none

/-- Whether a label follows the rules of marks and joiners. -/
def isLabel (label : List Char) : Bool :=
  !label.head?.any ScriptTable.marks.contains && joinersFit [] label

/-- Whether labels make a name. -/
def areLabels (labels : List (List Char)) : Bool :=
  labels.all isLabel && (!labels.any turns || labels.all hasOneDirection)

/-- Reads a name and gives its spelling. -/
def read? (name : List Char) : Option (List Char) := do
  let spelling ← spelling? name
  let labels ← (splitOnChar '.' spelling).mapM label?
  if !spelling.isEmpty && areLabels labels then some spelling else none

end BucketQuery.HostName
