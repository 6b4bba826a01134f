import BucketQuery.Filter.Predicate

set_option autoImplicit false

/-! # Failures

Why an operation fails, by cause, and the wording of each cause.
-/

namespace BucketQuery

/-- Why a statement has no rows. -/
inductive TransportError where
  | exchange (reason : String)
  | query (status message : String)
  | response (reason : String)
  | configuration (reason : String)
  deriving DecidableEq

/-- What is wrong with a row. -/
inductive RowError where
  | notObject (row : Json)
  | idNotString (id : Json)
  | idAbsent
  | dataNotObject (data : Json)
  | dataAbsent
  | countAbsent
  | other (reason : String)

/-- Why a document is not a record of a type. -/
inductive RecordError where
  | fieldAbsent (field : String)
  | fieldKind (field : String)
  deriving DecidableEq

/-- Why an operation fails. -/
inductive QueryError where
  | nonUnique (filters : Filters)
  | transport (error : TransportError)
  | row (error : RowError)
  | record (error : RecordError)
  | aggregate (field : String) (value : Json)

/-- The wording of a transport failure. -/
def TransportError.message : TransportError → String
  | .exchange reason => "HTTP error: " ++ reason
  | .query status message => "Query failed (" ++ status ++ "): " ++ message
  | .response reason => "Malformed query response: " ++ reason
  | .configuration reason => "Transport configuration error: " ++ reason

/-- What is wrong with a row, in words. -/
def RowError.reason : RowError → String
  | .notObject row => "row must be an object, got " ++ row.compact
  | .idNotString id => "row id must be a string, got " ++ id.compact
  | .idAbsent => "row has no id field"
  | .dataNotObject data => "row data must be an object, got " ++ data.compact
  | .dataAbsent => "row has no data field"
  | .countAbsent => "count row has no count field"
  | .other reason => reason

/-- Why a document is not a record, in words. -/
def RecordError.reason : RecordError → String
  | .fieldAbsent field => "no field " ++ field
  | .fieldKind field => "wrong kind of value in field " ++ field

/-- The wording of a failure. -/
def QueryError.message : QueryError → String
  | .nonUnique filters =>
    "Query returned more than one result for filters " ++ (Json.object filters).compact
  | .transport error => error.message
  | .row error => "Malformed row: " ++ error.reason
  | .record error => "Failed to deserialize record: " ++ error.reason
  | .aggregate field value =>
    "Unexpected " ++ field ++ " value in aggregate row: " ++ value.compact

/-- The filters that matched more than one document, if that is the failure. -/
def QueryError.filters? : QueryError → Option Filters
  | .nonUnique filters => some filters
  | _ => none

end BucketQuery
