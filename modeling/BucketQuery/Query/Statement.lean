import BucketQuery.Filter.Predicate
import BucketQuery.Query.Page

set_option autoImplicit false

/-! # Statements

The four shapes of a statement (list, paged list, count, sum) share the predicate of a filter
map and differ in what they project and in the order and window of the rows.
-/

namespace BucketQuery

/-- The row member that holds a document. -/
def dataField : String := "data"

/-- The row member that holds a document's id. -/
def idField : String := "id"

/-- The row member that holds a count. -/
def countField : String := "count"

/-- The row member that holds a sum. -/
def sumField : String := "sum"

/-- What a row shows of a matching document, its id apart. -/
inductive Projection where
  | documents
  | count
  | sum (field : String)
  deriving DecidableEq

/-- A statement. -/
structure Statement where
  bucket : String
  projection : Projection
  predicate : Expression
  orderBy : List OrderClause
  limit : Option UInt32
  offset : Option UInt64
  deriving DecidableEq

namespace Statement

/-- The statement with the predicate of a filter map, unordered and unbounded. -/
def select (bucket : String) (projection : Projection) (filters : Filters) : Statement :=
  ⟨bucket, projection, filters.predicate bucket, [], none, none⟩

/-- All matching documents. -/
def list (bucket : String) (filters : Filters) : Statement := select bucket .documents filters

/-- One page of the matching documents. -/
def paged (bucket : String) (filters : Filters) (page : PageRequest) : Statement :=
  { select bucket .documents filters with
    orderBy := page.sort.map Order.clause
    limit := some page.size
    offset := some page.offset }

/-- One row for each matching document, counting it. -/
def count (bucket : String) (filters : Filters) : Statement := select bucket .count filters

/-- One row for each matching document, with the sum of a field. -/
def sum (bucket : String) (filters : Filters) (field : String) : Statement :=
  select bucket (.sum field) filters

/-- Whether rows are grouped by document id, as aggregates are. -/
def groupsById (statement : Statement) : Bool := statement.projection != .documents

/-- The name of a statement's shape. -/
def kind (statement : Statement) : String :=
  match statement.projection with
  | .documents => if statement.limit.isSome then "paged" else "list"
  | .count => "count"
  | .sum _ => "sum"

/-- The text of what a statement on a bucket projects. -/
def projectionText (bucket : String) : Projection → String
  | .documents => Name.quoted bucket ++ " AS " ++ dataField
  | .count => "COUNT(*) AS " ++ countField
  | .sum field => "SUM(" ++ (Expression.path field).text ++ ") AS " ++ sumField

/-- The text of an ORDER BY clause. -/
def orderText (clauses : List OrderClause) : String :=
  if clauses.isEmpty then ""
  else " ORDER BY " ++ String.intercalate ", " (clauses.map OrderClause.text)

/-- The text of a clause that may be absent and holds a number. -/
def boundText (word : String) : Option Nat → String
  | none => ""
  | some n => " " ++ word ++ " " ++ String.ofList (digitsOf n)

/-- The text of a statement. -/
def text (statement : Statement) : String :=
  let id := (Expression.documentId statement.bucket).text
  "SELECT " ++ projectionText statement.bucket statement.projection ++
    ", " ++ id ++ " AS " ++ idField ++
    " FROM " ++ Name.quoted statement.bucket ++
    " WHERE " ++ statement.predicate.text ++
    (if statement.groupsById then " GROUP BY " ++ id else "") ++
    orderText statement.orderBy ++
    boundText "LIMIT" (statement.limit.map UInt32.toNat) ++
    boundText "OFFSET" (statement.offset.map UInt64.toNat)

end Statement

/-- A statement with the values that its placeholders are bound to. -/
structure Query where
  statement : Statement
  parameters : Filters

end BucketQuery
