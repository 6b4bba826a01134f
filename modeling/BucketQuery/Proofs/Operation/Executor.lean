import BucketQuery.Operation.Executor
import BucketQuery.Proofs.Bucket.Listing

set_option autoImplicit false

/-! # Operations on a bucket in memory

What the plans of an executor come to when the bucket that it knows answers the queries: the rows
of each statement are those of the bucket, and counting them cannot fail.
-/

namespace BucketQuery

variable {α : Type}

/-- A plan that asks for a statement on the bucket goes on with the bucket's rows. -/
theorem Plan.run_ask {bucket : Bucket} {statement : Statement}
    (h : statement.bucket = bucket.name) (parameters : Filters) (next : List Json → Plan α) :
    (Plan.ask ⟨statement, parameters⟩ next).run bucket.answer =
      (next (bucket.rows statement parameters)).run bucket.answer := by
  rw [Plan.run, Bucket.answer_of_bucket_eq h]

/-- The work that follows a plan is done on its result. -/
theorem Plan.run_andThen {β : Type} (answer : Query → Except TransportError (List Json))
    (plan : Plan α) (f : α → Except QueryError β) :
    (plan.andThen f).run answer = (plan.run answer).bind f := by
  induction plan with
  | done result => rfl
  | ask query next ih =>
      rw [Plan.andThen, Plan.run, Plan.run]
      cases answer query with
      | error e => rfl
      | ok rows => exact ih rows

/-- Rows of a count are counted. -/
theorem countRows_map_row (scopes : List Scope) :
    countRows (scopes.map Projection.count.row) = .ok (UInt64.ofNat scopes.length) := by
  have hcounts : (scopes.map Projection.count.row).all
      (fun row => (row.member? countField).isSome) = true := by
    rw [List.all_map]
    exact List.all_eq_true.mpr fun scope _ => rfl
  rw [countRows, if_pos hcounts, List.length_map]

namespace Executor

variable {bucket : Bucket} {executor : Executor}

theorem run_find (h : executor.bucket = bucket.name) (type : RecordType α) (filters : Filters) :
    (executor.find type filters).run bucket.answer =
      type.readAll executor.shape
        ((bucket.matching (filters.predicate executor.bucket) filters).map documentRow) := by
  rw [find, Plan.run_ask h, Bucket.rows_list]
  rfl

/-- Counting cannot fail and tells how many documents match. -/
theorem run_count (h : executor.bucket = bucket.name) (filters : Filters) :
    (executor.count filters).run bucket.answer =
      .ok (UInt64.ofNat
        (bucket.matching (filters.predicate executor.bucket) filters).length) := by
  rw [count, Plan.run_ask h, Statement.count, Bucket.rows_select, Bucket.selected_eq_map_matching]
  rw [Plan.run, countRows_map_row, List.length_map]

theorem run_sum (h : executor.bucket = bucket.name) (filters : Filters) (field : String) :
    (executor.sum filters field).run bucket.answer =
      sumRows 0 (bucket.rows (.sum executor.bucket filters field) filters) := by
  rw [sum, Plan.run_ask h]
  rfl

/-- A page is what its rows are read as, with the count of all matching documents. -/
theorem run_findPage (h : executor.bucket = bucket.name) (type : RecordType α)
    (filters : Filters) (request : PageRequest) :
    (executor.findPage type filters request).run bucket.answer =
      (type.readAll executor.shape
        (bucket.rows (.paged executor.bucket filters request) filters)).map fun content =>
          ⟨content, .of request (UInt64.ofNat
            (bucket.matching (filters.predicate executor.bucket) filters).length)⟩ := by
  rw [findPage, Plan.run_ask h, Plan.run_andThen, run_count h]
  rfl

end Executor

/-! ## A bucket to show statements on -/

/-- A bucket with three documents. -/
def shop : Bucket :=
  .ofList "shop"
    [("pear", .object [("price", .ofUInt64 2)]), ("nut", .object []),
      ("apple", .object [("price", .ofUInt64 3)])]

/-- An executor on the bucket. -/
def shopExecutor : Executor := ⟨"shop", ⟨false, true⟩⟩

end BucketQuery
