import BucketQuery.Operation.Executor
import BucketQuery.Query.Statement

set_option autoImplicit false

/-! # Commands

What a run is asked for. Every command but one is an operation on untyped records whose result
is shown as JSON; the last one shows the statements and asks nothing.

The statements that a filter map stands for are shown as a script: each statement under a comment
with the name of its shape, and the placeholders in a comment at the end.
-/

namespace BucketQuery

/-! ## Scripts -/

namespace Script

/-- One statement under its title. -/
def part (title : String) (statement : Statement) : String :=
  "-- " ++ title ++ "\n" ++ statement.text ++ ";\n\n"

/-- The comment with the placeholders of a filter map, unless it is empty. -/
def placeholders (filters : Filters) : String :=
  if filters.isEmpty then ""
  else
    "-- parameters: " ++
      String.intercalate ", " (filters.map fun (key, _) => Expression.placeholder key) ++ "\n"

/-- The script for a filter map on a bucket, with a sum if there is a field to sum. -/
def text (bucket : String) (filters : Filters) (page : PageRequest) (field : Option String) :
    String :=
  part "list" (.list bucket filters) ++
    part "page" (.paged bucket filters page) ++
    part "count" (.count bucket filters) ++
    (match field with
      | some field => part "sum" (.sum bucket filters field)
      | none => "") ++
    placeholders filters

end Script

/-! ## Commands and what they show -/

/-- The page that a command asks for. A row offset takes the place of the page index. -/
structure Window where
  page : UInt32
  offset : Option UInt64
  size : UInt32
  sort : List Order
  deriving DecidableEq

/-- The request for the page. -/
def Window.request (window : Window) : PageRequest :=
  match window.offset with
  | some offset => .atOffset offset window.size window.sort
  | none => .ofIndex window.page window.size window.sort

/-- A command. -/
inductive Command where
  | find (filters : Filters)
  | findOne (filters : Filters)
  | page (filters : Filters) (window : Window)
  | count (filters : Filters)
  | sum (filters : Filters) (field : String)
  | explain (filters : Filters) (window : Window) (field : Option String)

/-- What a command shows. -/
inductive Output where
  | json (value : Json)
  | text (script : String)

/-- What an output looks like on the screen. -/
def Output.screen : Output → String
  | .json value => value.pretty ++ "\n"
  | .text script => script

namespace Command

/-- The filters of a command. -/
def filters : Command → Filters
  | .find filters | .findOne filters | .count filters => filters
  | .page filters _ | .sum filters _ | .explain filters _ _ => filters

/-- The records of commands: documents as they are. -/
def records : RecordType Json := .untyped "id"

/-- What a command does. -/
def plan (executor : Executor) : Command → Plan Output
  | .find filters =>
    (executor.find records filters).andThen fun found => .ok (.json (.array found))
  | .findOne filters =>
    (executor.findOne records filters).andThen fun found => .ok (.json (found.getD .null))
  | .page filters window =>
    (executor.findPage records filters window.request).andThen fun page =>
      .ok (.json (page.toJson records.toJson))
  | .count filters =>
    (executor.count filters).andThen fun total => .ok (.json (.ofUInt64 total))
  | .sum filters field =>
    (executor.sum filters field).andThen fun total => .ok (.json (.number (.ofInt64 total)))
  | .explain filters window field =>
    .done (.ok (.text (Script.text executor.bucket filters window.request field)))

end Command

end BucketQuery
