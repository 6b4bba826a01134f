import BucketQuery.Bucket.Answer
import BucketQuery.Operation.Error

set_option autoImplicit false

/-! # Queries on a bucket in memory

A bucket answers the statements that name it. A bucket can be loaded from a file with a JSON
object of documents by id.
-/

namespace BucketQuery

/-- What is found at a path. -/
inductive FileState where
  | absent
  | unreadable
  | text (content : String)
  deriving DecidableEq

namespace Bucket

/-- The answer to a query. -/
def answer (bucket : Bucket) (query : Query) : Except TransportError (List Json) :=
  if query.statement.bucket = bucket.name then
    .ok (bucket.rows query.statement query.parameters)
  else .error (.query "fatal" ("Keyspace not found: " ++ query.statement.bucket))

/-- The bucket in a file at a path. -/
def load (name path : String) : FileState → Except TransportError Bucket
  | .text content =>
    match read? name content with
    | some bucket => .ok bucket
    | none => .error (.configuration ("failed to parse " ++ path))
  | _ => .error (.configuration ("failed to read " ++ path))

end Bucket

end BucketQuery
