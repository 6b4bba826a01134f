import BucketQuery.Text.Character
import BucketQuery.Text.Name

set_option autoImplicit false

/-! # Paths

Paths are texts with slashes. A path that someone wrote is expanded before use: blanks around
it do not count, a tilde in front stands for the home directory, and what is still relative
starts at the working directory.
-/

namespace BucketQuery

/-- Where paths start: the home directory, if there is one, and the working directory. -/
structure Place where
  home : Option String
  work : String
  deriving DecidableEq

namespace Path

/-- Whether a path starts at the root. -/
def isAbsolute (path : String) : Bool := path.toList.head? == some '/'

/-- A path as seen from a directory. An absolute path stays what it is. -/
def join (base path : String) : String :=
  if isAbsolute path || base = "" then path
  else if base.toList.getLast? = some '/' then base ++ path
  else base ++ "/" ++ path

/-- The path that a text means. -/
def expand (place : Place) (text : String) : String :=
  let path := trimBlanks text
  let fromHome : String :=
    match place.home, path.toList with
    | some home, ['~'] => home
    | some home, '~' :: '/' :: rest => join home (String.ofList rest)
    | _, _ => path
  if path = "" then place.work
  else if isAbsolute fromHome then fromHome
  else join place.work fromHome

/-- The names that a path consists of. -/
def names (path : String) : List String :=
  ((splitOnChar '/' path.toList).map String.ofList).filter (· != "")

/-- The directories from the given one, by its names in reverse, up to the root. -/
def upward : List String → List String
  | [] => ["/"]
  | name :: above => ("/" ++ String.intercalate "/" (name :: above).reverse) :: upward above

/-- An absolute directory and those that it lies in, the innermost first. -/
def ancestors (directory : String) : List String := upward (names directory).reverse

end Path

end BucketQuery
