import BucketQuery.Operation.Error
import BucketQuery.Query.Statement

set_option autoImplicit false

/-! # Plans

What an operation does is written down as a plan: it asks for the rows of a query and goes on
with them, or it is done. A plan can be followed against anything that answers queries, a
bucket in memory (`Plan.run`) or a service reached by effects (`Plan.follow`). A query without
an answer ends the plan.
-/

namespace BucketQuery

/-- The steps of an operation with a result of type `α`. -/
inductive Plan (α : Type) where
  | done (result : Except QueryError α)
  | ask (query : Query) (next : List Json → Plan α)

namespace Plan

variable {α β : Type}

/-- The plan with its result worked on. -/
def andThen (plan : Plan α) (f : α → Except QueryError β) : Plan β :=
  match plan with
  | .done result => .done (result.bind f)
  | .ask query next => .ask query fun rows => (next rows).andThen f

/-- The result of a plan, given the answer to each query. -/
def run (answer : Query → Except TransportError (List Json)) : Plan α → Except QueryError α
  | .done result => result
  | .ask query next =>
    match answer query with
    | .error e => .error (.transport e)
    | .ok rows => (next rows).run answer

/-- The queries that a plan asks, given the answer to each. -/
def queries (answer : Query → Except TransportError (List Json)) : Plan α → List Query
  | .done _ => []
  | .ask query next =>
    match answer query with
    | .error _ => [query]
    | .ok rows => query :: (next rows).queries answer

/-- Follows a plan where answers come with effects. -/
def follow {m : Type → Type} [Monad m] (answer : Query → m (Except TransportError (List Json))) :
    Plan α → m (Except QueryError α)
  | .done result => pure result
  | .ask query next => do
    match ← answer query with
    | .error e => pure (.error (.transport e))
    | .ok rows => (next rows).follow answer

end Plan

end BucketQuery
