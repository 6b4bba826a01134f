import BucketQuery.Text.Name

set_option autoImplicit false

/-! # Filter keys

A filter key is a property path followed by a suffix that names the comparison; a key without
a reserved suffix asks for equality. No two reserved suffixes can end the same key, so the
order in which they are tried does not matter.
-/

namespace BucketQuery

/-- What a filter asks of a property. -/
inductive Operator where
  | equals
  | notEquals
  | atLeast
  | atMost
  | contains
  | isIn
  | isNull
  | isNotNull
  | isMissing
  | isNullOrMissing
  deriving DecidableEq

namespace Operator

/-- The name of an operator. -/
def name : Operator → String
  | .equals => "equals"
  | .notEquals => "not_equals"
  | .atLeast => "greater_or_equal"
  | .atMost => "less_or_equal"
  | .contains => "contains"
  | .isIn => "in"
  | .isNull => "is_null"
  | .isNotNull => "is_not_null"
  | .isMissing => "is_missing"
  | .isNullOrMissing => "is_null_or_missing"

/-- Whether the operator compares with the value of the filter. -/
def bindsValue : Operator → Bool
  | .isNull | .isNotNull | .isMissing | .isNullOrMissing => false
  | _ => true

/-- The suffix of an operator. Equality has none. -/
def suffix : Operator → String
  | .equals => ""
  | .notEquals => "_not"
  | .atLeast => "_from"
  | .atMost => "_to"
  | .contains => "_contains"
  | .isIn => "_in"
  | .isNull => "_null"
  | .isNotNull => "_notnull"
  | .isMissing => "_missing"
  | .isNullOrMissing => "_nullormissing"

/-- The operators with a suffix, in the order in which their suffixes are tried. -/
def suffixed : List Operator :=
  [.contains, .atLeast, .atMost, .notEquals, .isIn, .isNullOrMissing, .isNotNull, .isMissing,
    .isNull]

end Operator

/-- A filter key, read: the key itself, the property path and the operator. -/
structure FilterKey where
  key : String
  path : String
  operator : Operator
  deriving DecidableEq

namespace FilterKey

/-- Reads a key, trying the suffixes of the given operators in turn. -/
def readWith (operators : List Operator) (key : String) : FilterKey :=
  match operators with
  | [] => ⟨key, key, .equals⟩
  | operator :: rest =>
    match withoutSuffix? operator.suffix key with
    | some path => ⟨key, path, operator⟩
    | none => readWith rest key

/-- Reads a key. Every key can be read. -/
def read (key : String) : FilterKey := readWith Operator.suffixed key

end FilterKey

end BucketQuery
