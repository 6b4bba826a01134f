set_option autoImplicit false

/-! # Names in a statement

A name is written bare when it is a plain identifier, and otherwise between back quotes with
every back quote inside written twice. A path is a list of names joined by dots.
-/

namespace BucketQuery

/-- The pieces of a text between the occurrences of a separator, always at least one. -/
def splitOnChar (separator : Char) : List Char → List (List Char)
  | [] => [[]]
  | c :: rest =>
    if c = separator then [] :: splitOnChar separator rest
    else
      match splitOnChar separator rest with
      | [] => [[c]]
      | piece :: pieces => (c :: piece) :: pieces

/-- The names of a dotted path. -/
def segments (path : String) : List String := (splitOnChar '.' path.toList).map String.ofList

/-- The text before a suffix, if the text ends in it. -/
def withoutSuffix? (suffix text : String) : Option String :=
  (suffix.toList.isSuffixOf? text.toList).map String.ofList

namespace Name

/-- Characters that may start a plain identifier. -/
def isInitial (c : Char) : Bool := c.isAlpha || c == '_'

/-- Characters that may follow in a plain identifier. -/
def isInner (c : Char) : Bool := c.isAlphanum || c == '_'

/-- A plain identifier: an ASCII letter or an underscore, then letters, digits and
underscores. -/
def isPlain : List Char → Bool
  | [] => false
  | c :: rest => isInitial c && rest.all isInner

/-- The back quote. -/
def quote : Char := Char.ofNat 96

/-- A name with each back quote written twice. -/
def doubleQuotes : List Char → List Char
  | [] => []
  | c :: rest => if c = quote then quote :: quote :: doubleQuotes rest else c :: doubleQuotes rest

/-- A name between back quotes. -/
def quoted (name : String) : String :=
  String.ofList (quote :: (doubleQuotes name.toList ++ [quote]))

/-- A name as it stands in a statement. -/
def write (name : String) : String :=
  if isPlain name.toList then name else quoted name

/-- A dotted path as it stands in a statement: each name written on its own. -/
def writePath (path : String) : String :=
  String.intercalate "." ((segments path).map write)

end Name

end BucketQuery
