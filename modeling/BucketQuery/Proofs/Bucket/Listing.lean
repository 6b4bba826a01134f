import BucketQuery.Operation.Memory
import BucketQuery.Proofs.Filter.Satisfaction
import BucketQuery.Proofs.Text.Utf8

set_option autoImplicit false

/-! # Listing a bucket

What the rows of a statement are made of. The documents that a statement selects keep the order of
the bucket, and a statement without ORDER BY, limit and offset shows all of them. So listing a
bucket by a filter map gives one row for each document that satisfies the filters and is not a
gateway's own, in the order of the ids (`answer_list`).
-/

namespace BucketQuery

/-- The row that shows a document with its id. -/
def documentRow (entry : String × Json) : Json :=
  .object [("data", entry.2), ("id", .string entry.1)]

namespace Bucket

/-- The entries of a bucket for which a predicate is true. -/
def matching (bucket : Bucket) (predicate : Expression) (parameters : Filters) :
    List (String × Json) :=
  bucket.documents.filter fun (id, document) =>
    (predicate.evaluate ⟨id, document, parameters⟩).isTrue

theorem selected_eq_map_matching (bucket : Bucket) (predicate : Expression)
    (parameters : Filters) :
    bucket.selected predicate parameters =
      (bucket.matching predicate parameters).map fun (id, document) => ⟨id, document, parameters⟩ :=
  List.filter_map

/-- Matching entries have ascending ids, byte by byte. -/
theorem pairwise_matching (bucket : Bucket) (predicate : Expression) (parameters : Filters) :
    (bucket.matching predicate parameters).Pairwise fun a b => utf8 a.1 < utf8 b.1 := by
  have hids : bucket.documents.Pairwise fun a b => utf8 a.1 < utf8 b.1 :=
    bucket.sorted.imp fun h => (compare_eq_lt_iff_utf8 _ _).mp h
  exact hids.sublist List.filter_sublist

/-- Without ORDER BY the order stays as it is. -/
theorem ordered_of_orderBy_eq_nil (bucket : Bucket) {statement : Statement}
    (h : statement.orderBy = []) (parameters : Filters) :
    bucket.ordered statement parameters = bucket.selected statement.predicate parameters := by
  rw [ordered, h]
  exact List.mergeSort_of_pairwise (List.pairwise_of_forall fun _ _ => rfl)

/-- Without limit and offset nothing is cut off. -/
theorem window_of_unbounded {α : Type} {statement : Statement} (hlimit : statement.limit = none)
    (hoffset : statement.offset = none) (items : List α) : window statement items = items := by
  rw [window, hlimit, hoffset]
  rfl

/-- A statement on the bucket's own name is answered. -/
theorem answer_of_bucket_eq {bucket : Bucket} {statement : Statement}
    (h : statement.bucket = bucket.name) (parameters : Filters) :
    bucket.answer ⟨statement, parameters⟩ = .ok (bucket.rows statement parameters) :=
  if_pos h

/-- The rows of a statement that only selects. -/
theorem rows_select (bucket : Bucket) (name : String) (projection : Projection)
    (filters parameters : Filters) :
    bucket.rows (.select name projection filters) parameters =
      (bucket.selected (filters.predicate name) parameters).map projection.row := by
  rw [rows, window_of_unbounded rfl rfl, ordered_of_orderBy_eq_nil _ rfl]
  rfl

theorem rows_list (bucket : Bucket) (name : String) (filters parameters : Filters) :
    bucket.rows (.list name filters) parameters =
      (bucket.matching (filters.predicate name) parameters).map documentRow := by
  rw [Statement.list, rows_select, selected_eq_map_matching, List.map_map]
  rfl

/-- **Listing a bucket.** Whatever its documents and the filters are, listing a bucket succeeds
and gives one row for each document whose id is not a gateway's own and which satisfies the
filters, in ascending order of the ids as bytes. -/
theorem answer_list (bucket : Bucket) (filters : Filters) :
    ∃ entries : List (String × Json),
      bucket.answer ⟨.list bucket.name filters, filters⟩ = .ok (entries.map documentRow) ∧
      (∀ id document, (id, document) ∈ entries ↔
        (id, document) ∈ bucket.documents ∧ ¬ GatewayId id ∧ filters.Satisfied document) ∧
      entries.Pairwise fun a b => utf8 a.1 < utf8 b.1 := by
  refine ⟨bucket.matching (filters.predicate bucket.name) filters, ?_, ?_, ?_⟩
  · rw [answer_of_bucket_eq rfl, rows_list]
  · intro id document
    rw [matching, List.mem_filter, evaluate_predicate, and_comm (a := filters.Satisfied document)]
  · exact pairwise_matching _ _ _

end Bucket

end BucketQuery
