import BucketQuery.Json.Collation
import BucketQuery.Query.Statement
import BucketQuery.Text.Like
import BucketQuery.Text.Lowercase

set_option autoImplicit false

/-! # Evaluation

What an expression yields on a document. A property that is not there is *missing*, which is
not the same as null: comparing with something missing is missing, comparing with null is
null, and neither is true.
-/

namespace BucketQuery

/-- Whether a text occurs in another. -/
def occursIn (part : List Char) : List Char → Bool
  | [] => part.isEmpty
  | c :: rest => part.isPrefixOf (c :: rest) || occursIn part rest

/-- What an expression yields. -/
inductive Outcome where
  | missing
  | value (json : Json)

namespace Outcome

/-- The outcome of a look-up. -/
def ofOption : Option Json → Outcome
  | none => missing
  | some json => value json

/-- A truth value as outcome. -/
def ofBool (b : Bool) : Outcome := .value (.bool b)

/-- Null as outcome. -/
def null : Outcome := .value .null

/-- Only the value true is true. -/
def isTrue : Outcome → Bool
  | .value (.bool true) => true
  | _ => false

/-- The order of outcomes: what is missing comes before every value. -/
def collate : Outcome → Outcome → Ordering
  | .missing, .missing => .eq
  | .missing, .value _ => .lt
  | .value _, .missing => .gt
  | .value a, .value b => Json.collate a b

/-- The lower case of a text. A value of another kind gives null. -/
def lower : Outcome → Outcome
  | .missing => .missing
  | .value (.string s) => .value (.string (lowercase s))
  | .value _ => null

/-- Whether a text occurs in another. Values of other kinds give null. -/
def contains : Outcome → Outcome → Outcome
  | .missing, _ | _, .missing => .missing
  | .value (.string whole), .value (.string part) => ofBool (occursIn part.toList whole.toList)
  | _, _ => null

/-- A comparison of two values that are not null. -/
def compareValues (comparison : Comparison) (a b : Json) : Outcome :=
  match comparison with
  | .equal => ofBool (Json.collate a b).isEq
  | .notEqual => ofBool (Json.collate a b).isNe
  | .atLeast => ofBool (Json.collate a b).isGE
  | .atMost => ofBool (Json.collate a b).isLE
  | .isIn =>
    match b with
    | .array items => ofBool (items.any fun item => (Json.collate a item).isEq)
    | _ => null
  | .notLike =>
    match a, b with
    | .string text, .string pattern => ofBool (!Like.accepts text pattern)
    | _, _ => null

/-- A comparison of two outcomes. -/
def compare (comparison : Comparison) : Outcome → Outcome → Outcome
  | .missing, _ | _, .missing => .missing
  | .value .null, _ | _, .value .null => null
  | .value a, .value b => compareValues comparison a b

/-- A test of an outcome. -/
def check : Check → Outcome → Outcome
  | .isMissing, .missing => ofBool true
  | .isMissing, .value _ => ofBool false
  | _, .missing => .missing
  | .isNull, .value .null => ofBool true
  | .isNull, .value _ => ofBool false
  | .isNotNull, .value .null => ofBool false
  | .isNotNull, .value _ => ofBool true

end Outcome

/-- What an expression can refer to: a document, its id and the bound values. -/
structure Scope where
  id : String
  document : Json
  parameters : Filters

/-- What an expression yields in a scope. -/
def Expression.evaluate (scope : Scope) : Expression → Outcome
  | .path names => .ofOption (scope.document.lookup? names)
  | .parameter name => .ofOption (scope.parameters.get? name)
  | .literal characters => .value (.string characters)
  | .documentId _ => .value (.string scope.id)
  | .lower operand => (operand.evaluate scope).lower
  | .contains whole part => (whole.evaluate scope).contains (part.evaluate scope)
  | .compare left comparison right =>
    .compare comparison (left.evaluate scope) (right.evaluate scope)
  | .check operand test => .check test (operand.evaluate scope)
  | .and left right => .ofBool ((left.evaluate scope).isTrue && (right.evaluate scope).isTrue)
  | .or left right => .ofBool ((left.evaluate scope).isTrue || (right.evaluate scope).isTrue)

end BucketQuery
