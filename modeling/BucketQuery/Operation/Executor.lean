import BucketQuery.Operation.Plan
import BucketQuery.Record.Basic
import BucketQuery.Text.Debug

set_option autoImplicit false

/-! # Operations

An executor knows its bucket and the shape of the rows and nothing that changes. Each of its
operations is a plan: find every record, find the only one, find a page of them, count, and
sum a field.
-/

namespace BucketQuery

/-- The sum of two signed words, unless it is no signed word. -/
def checkedAdd (a b : Int64) : Option Int64 :=
  let sum := a.toInt + b.toInt
  if -0x8000000000000000 ≤ sum ∧ sum < 0x8000000000000000 then some (Int64.ofInt sum) else none

/-- The signed word that an aggregate is: null counts as zero, and a whole double smaller than
`2^63` in magnitude as the integer it is. -/
def integerValue : Json → Option Int64
  | .null => some 0
  | .number (.integer i inRange) => (Number.integer i inRange).int64?
  | .number (.double d) =>
    match d.integer? with
    | some i => if i.natAbs < 0x8000000000000000 then some (Int64.ofInt i) else none
    | none => none
  | _ => none

/-- How many rows there are, each of which must have a count. -/
def countRows (rows : List Json) : Except QueryError UInt64 :=
  if rows.all fun row => (row.member? countField).isSome then .ok (UInt64.ofNat rows.length)
  else .error (.row .countAbsent)

/-- The value that a row adds to a sum. -/
def addend (row : Json) : Json := (row.member? sumField).getD .null

/-- Adds the rows to a total, from left to right. The first value that is no integer, or that
takes the total out of range, is the failure. -/
def sumRows (total : Int64) : List Json → Except QueryError Int64
  | [] => .ok total
  | row :: rest =>
    match (integerValue (addend row)).bind (checkedAdd total) with
    | some total => sumRows total rest
    | none => .error (.aggregate sumField (addend row))

/-- An executor: the bucket that statements name and the shape of the rows. -/
structure Executor where
  bucket : String
  shape : RowShape
  deriving DecidableEq

namespace Executor

variable {α : Type}

/-- Every matching record. -/
def find (executor : Executor) (type : RecordType α) (filters : Filters) : Plan (List α) :=
  .ask ⟨.list executor.bucket filters, filters⟩ fun rows =>
    .done (type.readAll executor.shape rows)

/-- The only matching record, if there is one. Two are a failure. -/
def findOne (executor : Executor) (type : RecordType α) (filters : Filters) : Plan (Option α) :=
  (executor.find type filters).andThen fun
    | [] => .ok none
    | [record] => .ok (some record)
    | _ => .error (.nonUnique filters)

/-- The number of matching documents. -/
def count (executor : Executor) (filters : Filters) : Plan UInt64 :=
  .ask ⟨.count executor.bucket filters, filters⟩ fun rows => .done (countRows rows)

/-- The sum of a field over the matching documents. -/
def sum (executor : Executor) (filters : Filters) (field : String) : Plan Int64 :=
  .ask ⟨.sum executor.bucket filters field, filters⟩ fun rows => .done (sumRows 0 rows)

/-- One page of records with the number of all matches. The rows are read only after the count
is known to be good. -/
def findPage (executor : Executor) (type : RecordType α) (filters : Filters)
    (request : PageRequest) : Plan (Page α) :=
  .ask ⟨.paged executor.bucket filters request, filters⟩ fun rows =>
    (executor.count filters).andThen fun total => do
      let content ← type.readAll executor.shape rows
      return ⟨content, .of request total⟩

/-- The executor in words, with the name of what answers its queries. -/
def debugText (executor : Executor) (transport : String) : String :=
  "QueryExecutor \x7b bucket: " ++ Debug.quoted executor.bucket ++
    ", transport: " ++ Debug.quoted transport ++
    ", converter: " ++ Debug.quoted executor.shape.name ++ " \x7d"

end Executor

end BucketQuery
