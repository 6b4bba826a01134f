import BucketQuery.Json.Printer

set_option autoImplicit false

/-! # Expressions

Predicates and sort keys of a statement. Values never occur in the text of an expression, only
placeholders for them; property paths, placeholders and bucket names are written as names
(`Name.write`), so that no name can change the statement around it.
-/

namespace BucketQuery

/-- A comparison of two expressions. -/
inductive Comparison where
  | equal
  | notEqual
  | atLeast
  | atMost
  | isIn
  | notLike
  deriving DecidableEq

/-- The word or sign of a comparison. -/
def Comparison.text : Comparison → String
  | .equal => "="
  | .notEqual => "!="
  | .atLeast => ">="
  | .atMost => "<="
  | .isIn => "IN"
  | .notLike => "NOT LIKE"

/-- A test of one expression. -/
inductive Check where
  | isNull
  | isNotNull
  | isMissing
  deriving DecidableEq

/-- The words of a test. -/
def Check.text : Check → String
  | .isNull => "IS NULL"
  | .isNotNull => "IS NOT NULL"
  | .isMissing => "IS MISSING"

/-- An expression. -/
inductive Expression where
  | path (names : String)
  | parameter (name : String)
  | literal (characters : String)
  | documentId (bucket : String)
  | lower (operand : Expression)
  | contains (whole part : Expression)
  | compare (left : Expression) (comparison : Comparison) (right : Expression)
  | check (operand : Expression) (test : Check)
  | and (left right : Expression)
  | or (left right : Expression)
  deriving DecidableEq

namespace Expression

/-- The placeholder of a parameter. -/
def placeholder (name : String) : String := "$" ++ Name.write name

/-- The text of an expression. A disjunction stands in parentheses. -/
def text : Expression → String
  | .path names => Name.writePath names
  | .parameter name => placeholder name
  | .literal characters => Json.quoted characters
  | .documentId bucket => "META(" ++ Name.quoted bucket ++ ").id"
  | .lower operand => "LOWER(" ++ operand.text ++ ")"
  | .contains whole part => "CONTAINS(" ++ whole.text ++ ", " ++ part.text ++ ")"
  | .compare left comparison right => left.text ++ " " ++ comparison.text ++ " " ++ right.text
  | .check operand test => operand.text ++ " " ++ test.text
  | .and left right => left.text ++ " AND " ++ right.text
  | .or left right => "(" ++ left.text ++ " OR " ++ right.text ++ ")"

/-- The operands of the conjunction that an expression is, from left to right. -/
def conjuncts : Expression → List Expression
  | .and left right => left.conjuncts ++ right.conjuncts
  | other => [other]

/-- The parameters of an expression, from left to right. -/
def parameters : Expression → List String
  | .parameter name => [name]
  | .path _ | .literal _ | .documentId _ => []
  | .lower operand | .check operand _ => operand.parameters
  | .contains left right | .and left right | .or left right | .compare left _ right =>
    left.parameters ++ right.parameters

end Expression

end BucketQuery
