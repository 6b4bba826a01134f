import BucketQuery.Query.Expression

set_option autoImplicit false

/-! # Sort orders

A sort entry names a property and a direction, and may ask to ignore case. As text it is the
property, the mark `_ignorecase` if wanted, and a direction after a colon if wanted.
-/

namespace BucketQuery

/-- The direction of a sort entry. -/
inductive Direction where
  | ascending
  | descending
  deriving DecidableEq

/-- The word of a direction in a statement. -/
def Direction.text : Direction → String
  | .ascending => "ASC"
  | .descending => "DESC"

/-- A sort entry. -/
structure Order where
  property : String
  direction : Direction
  ignoreCase : Bool
  deriving DecidableEq

/-- A text that is no sort entry. -/
structure InvalidOrder where
  text : String
  deriving DecidableEq

/-- What is wrong with the text. -/
def InvalidOrder.message (e : InvalidOrder) : String :=
  "Invalid sort '" ++ e.text ++ "'. Use 'property', 'property:asc' or 'property:desc'"

/-- A term of an ORDER BY clause. -/
structure OrderClause where
  expression : Expression
  direction : Direction
  deriving DecidableEq

/-- The text of a term. -/
def OrderClause.text (clause : OrderClause) : String :=
  clause.expression.text ++ " " ++ clause.direction.text

namespace Order

/-- The mark at the end of a property that asks to ignore case. -/
def ignoreCaseMark : String := "_ignorecase"

/-- The entry for a property, which may end in the mark. -/
def ofProperty (property : String) (direction : Direction) : Order :=
  match withoutSuffix? ignoreCaseMark property with
  | some stripped => ⟨stripped, direction, true⟩
  | none => ⟨property, direction, false⟩

/-- The entry, ignoring case. -/
def ignoringCase (order : Order) : Order := { order with ignoreCase := true }

/-- Reads a sort entry. -/
def read (text : String) : Except InvalidOrder Order :=
  match (splitOnChar ':' text.toList).map String.ofList with
  | [property] => .ok (ofProperty property .ascending)
  | [property, direction] =>
    if direction = "asc" then .ok (ofProperty property .ascending)
    else if direction = "desc" then .ok (ofProperty property .descending)
    else .error ⟨text⟩
  | _ => .error ⟨text⟩

/-- The term of an entry: the property, in lower case if case is ignored. -/
def clause (order : Order) : OrderClause :=
  let path := Expression.path order.property
  ⟨if order.ignoreCase then .lower path else path, order.direction⟩

end Order

end BucketQuery
