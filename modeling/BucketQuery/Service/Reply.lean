import BucketQuery.Json.Written
import BucketQuery.Operation.Error
import BucketQuery.Text.Character

set_option autoImplicit false

/-! # Replies

The body of a reply is an object with a status, results and errors, or an array of the same
three in this order. Members may be absent, but not null and not repeated; unknown members are
passed over unread. An error is an object with a code and a message, or an array of these two,
and only its code may be null.

The rows are the results of a reply that reports success and no errors. The HTTP status only
decides what a body that cannot be read means, and stands in for an empty status.
-/

namespace BucketQuery

/-- An HTTP reply. -/
structure Reply where
  status : Nat
  body : String
  deriving DecidableEq

/-- An error that the service reports. -/
structure ServiceError where
  code : Option Int64
  message : String
  deriving DecidableEq

/-- What the body of a reply says. -/
structure Report where
  status : String
  results : List Json
  errors : List ServiceError

namespace Written

/-- The member of a key, if any; refused when there are two. -/
def uniqueMember? (members : List (String × Written)) (key : String) : Option (Option Written) :=
  match members.filter fun member => member.1 == key with
  | [] => some none
  | [(_, value)] => some (some value)
  | _ => none

/-- A value that may be absent, and else must be readable. -/
def orDefault {α : Type} (read : Written → Option α) (default : α) : Option Written → Option α
  | none => some default
  | some value => read value

/-- A text. -/
def text? : Written → Option String
  | .string s => some s
  | _ => none

/-- A signed word. -/
def int64? : Written → Option Int64
  | .number n => n.int64?
  | _ => none

/-- A value that may be null. -/
def nullable {α : Type} (read : Written → Option α) : Written → Option (Option α)
  | .null => some none
  | value => (read value).map some

end Written

namespace ServiceError

/-- Reads an error from its two parts. -/
def ofParts? (code message : Option Written) : Option ServiceError := do
  let code ← Written.orDefault (Written.nullable Written.int64?) none code
  let message ← Written.orDefault Written.text? "" message
  some ⟨code, message⟩

/-- Reads an error. -/
def read? : Written → Option ServiceError
  | .object members => do
    let code ← Written.uniqueMember? members "code"
    let message ← Written.uniqueMember? members "msg"
    ofParts? code message
  | .array items => if items.length ≤ 2 then ofParts? items[0]? items[1]? else none
  | _ => none

/-- An error in words, its code in brackets. -/
def text (error : ServiceError) : String :=
  match error.code with
  | some code => "[" ++ String.ofList (Number.ofInt64 code).chars ++ "] " ++ error.message
  | none => error.message

end ServiceError

namespace Report

/-- Reads the results, which stand two containers deep. -/
def results? : Written → Option (List Json)
  | .array items => Written.itemsWithin? (Written.maxDepth - 2) items
  | _ => none

/-- Reads the errors. -/
def errors? : Written → Option (List ServiceError)
  | .array items => items.mapM ServiceError.read?
  | _ => none

/-- Reads a report from its three parts. -/
def ofParts? (status results errors : Option Written) : Option Report := do
  let status ← Written.orDefault Written.text? "" status
  let results ← Written.orDefault results? [] results
  let errors ← Written.orDefault errors? [] errors
  some ⟨status, results, errors⟩

/-- Reads a report from the tree of a body. -/
def ofWritten? : Written → Option Report
  | .object members => do
    let status ← Written.uniqueMember? members "status"
    let results ← Written.uniqueMember? members "results"
    let errors ← Written.uniqueMember? members "errors"
    ofParts? status results errors
  | .array items => if items.length ≤ 3 then ofParts? items[0]? items[1]? items[2]? else none
  | _ => none

/-- Reads a report from a body. -/
def read? (body : String) : Option Report := (Written.read? body).bind ofWritten?

/-- The status of a report without failure. -/
def success : String := "success"

/-- The rows of a report that came with an HTTP status. -/
def rows (report : Report) (status : Nat) : Except TransportError (List Json) :=
  if report.status = success ∧ report.errors.isEmpty then .ok report.results
  else
    .error (.query (if report.status = "" then String.ofList (digitsOf status) else report.status)
      (String.intercalate "; " (report.errors.map ServiceError.text)))

end Report

/-- The rows of a reply. -/
def Reply.rows (reply : Reply) : Except TransportError (List Json) :=
  match Report.read? reply.body with
  | some report => report.rows reply.status
  | none =>
    if 200 ≤ reply.status ∧ reply.status < 300 then .error (.response "the body is no report")
    else .error (.query (String.ofList (digitsOf reply.status)) (trimBlanks reply.body))

end BucketQuery
