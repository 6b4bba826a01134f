set_option autoImplicit false

/-! # LIKE patterns

A pattern is read character by character: a percent sign stands for any run of characters, an
underscore for any one character, and every other character for itself. `Like.accepts` decides
whether a text has this form, and `Like.regularExpression` is the equivalent regular
expression.
-/

namespace BucketQuery.Like

/-- One element of a pattern. -/
inductive Token where
  | run
  | one
  | literal (c : Char)
  deriving DecidableEq

/-- The element that a pattern character stands for. -/
def Token.ofChar (c : Char) : Token :=
  if c = '%' then .run else if c = '_' then .one else .literal c

/-- The elements of a pattern. -/
def tokens (pattern : String) : List Token := pattern.toList.map Token.ofChar

/-- Turns the answers for each ending of a text into "some ending from here on". -/
def orLater : List Bool → List Bool
  | [] => []
  | answer :: rest =>
    let later := orLater rest
    (answer || later.head?.getD false) :: later

/-- For each ending of the text, the longest first, whether the pattern describes it. -/
def row : List Token → List Char → List Bool
  | [], text => List.replicate text.length false ++ [true]
  | .run :: pattern, text => orLater (row pattern text)
  | .one :: pattern, text => (row pattern text).drop 1 ++ [false]
  | .literal c :: pattern, text =>
    List.zipWith (fun d answer => d == c && answer) text ((row pattern text).drop 1) ++ [false]

/-- Whether a pattern describes a whole text. -/
def describes (pattern : List Token) (text : List Char) : Bool :=
  (row pattern text).head?.getD false

/-- Whether a text has the form of a pattern. -/
def accepts (text pattern : String) : Bool := describes (tokens pattern) text.toList

/-- The characters that are escaped in a regular expression. -/
def special : List Char := "\\.+*?()|[]\x7b\x7d^$#&-~".toList

/-- One element as regular expression. -/
def Token.regularExpression : Token → List Char
  | .run => ['.', '*']
  | .one => ['.']
  | .literal c => if special.contains c then ['\\', c] else [c]

/-- The regular expression that matches what the pattern describes; the flag lets the dot
match line breaks too. -/
def regularExpression (pattern : String) : String :=
  "(?s)^" ++ String.ofList ((tokens pattern).flatMap Token.regularExpression) ++ "$"

end BucketQuery.Like
