import BucketQuery.Bucket.Basic
import BucketQuery.Bucket.Evaluation

set_option autoImplicit false

/-! # Answers of a bucket

The rows of a statement on a bucket: the documents for which the predicate is true, in the
order of the ORDER BY clause and otherwise of their ids, cut to the window of the statement,
each shown as the projection says.
-/

namespace BucketQuery

/-- The order of two scopes by a list of clauses: the first that tells them apart decides. -/
def compareBy (clauses : List OrderClause) (a b : Scope) : Ordering :=
  match clauses with
  | [] => .eq
  | clause :: rest =>
    let first := clause.expression.evaluate a
    let second := clause.expression.evaluate b
    (match clause.direction with
      | .ascending => Outcome.collate first second
      | .descending => Outcome.collate second first).then (compareBy rest a b)

/-- The number at a path of a document; null when there is none. -/
def numberAt (document : Json) (path : String) : Json :=
  match document.lookup? path with
  | some (.number n) => .number n
  | _ => .null

/-- The row of a matching document. -/
def Projection.row (projection : Projection) (scope : Scope) : Json :=
  let shown : String × Json := match projection with
    | .documents => (dataField, scope.document)
    | .count => (countField, .ofUInt64 1)
    | .sum field => (sumField, numberAt scope.document field)
  .object [shown, (idField, .string scope.id)]

namespace Bucket

/-- The documents of a bucket, each with its id and the bound values. -/
def scopes (bucket : Bucket) (parameters : Filters) : List Scope :=
  bucket.documents.map fun (id, document) => ⟨id, document, parameters⟩

/-- The documents for which a predicate is true. -/
def selected (bucket : Bucket) (predicate : Expression) (parameters : Filters) : List Scope :=
  (bucket.scopes parameters).filter fun scope => (predicate.evaluate scope).isTrue

/-- The documents of a statement in their order, before any are cut off. -/
def ordered (bucket : Bucket) (statement : Statement) (parameters : Filters) : List Scope :=
  (bucket.selected statement.predicate parameters).mergeSort fun a b =>
    (compareBy statement.orderBy a b).isLE

/-- The part of a list that a statement's offset and limit leave. -/
def window {α : Type} (statement : Statement) (items : List α) : List α :=
  let rest := items.drop ((statement.offset.getD 0).toNat)
  match statement.limit with
  | none => rest
  | some limit => rest.take limit.toNat

/-- The rows of a statement, whatever bucket it names. -/
def rows (bucket : Bucket) (statement : Statement) (parameters : Filters) : List Json :=
  (window statement (bucket.ordered statement parameters)).map statement.projection.row

end Bucket

end BucketQuery
