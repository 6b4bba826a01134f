import BucketQuery.Proofs.Bucket.Ordering
import BucketQuery.Proofs.Bucket.Selection
import Mathlib.Data.List.Pairwise

set_option autoImplicit false

/-! # Documents in order

The statement that lists a bucket in an order shows the matching documents, sorted by them alone
(`rows_sorted`). A page of them is a stretch of its rows (`rows_paged`), and filtering does not
change the order of the documents that are left (`listed_eq_filter`).
-/

namespace BucketQuery

/-! ## Statements in an order -/

/-- All matching documents in an order, without limit and offset. -/
def Statement.sorted (bucket : String) (filters : Filters) (sort : List Order) : Statement :=
  { list bucket filters with orderBy := sort.map Order.clause }

namespace Bucket

/-- The rows of a page are a stretch of all rows in the same order. -/
theorem rows_paged (bucket : Bucket) (name : String) (filters parameters : Filters)
    (request : PageRequest) :
    bucket.rows (.paged name filters request) parameters =
      ((bucket.rows (.sorted name filters request.sort) parameters).drop
        request.offset.toNat).take request.size.toNat := by
  have hsorted : bucket.rows (.sorted name filters request.sort) parameters =
      (bucket.ordered (.paged name filters request) parameters).map Projection.documents.row := by
    rw [rows, window_of_unbounded rfl rfl]
    rfl
  rw [hsorted, ← List.map_drop, ← List.map_take]
  rfl

/-- ORDER BY gives the rows of a list in some order. -/
theorem rows_sorted_perm (bucket : Bucket) (name : String) (filters parameters : Filters)
    (sort : List Order) :
    (bucket.rows (.sorted name filters sort) parameters).Perm
      (bucket.rows (.list name filters) parameters) := by
  rw [Statement.list, rows_select, rows, window_of_unbounded rfl rfl]
  exact (List.mergeSort_perm _ _).map _

end Bucket

/-! ## Comparing documents -/

/-- The order of two documents by sort entries, which look at nothing but the documents. -/
def compareDocuments (sort : List Order) (a b : Json) : Ordering :=
  compareBy (sort.map Order.clause) ⟨"", a, []⟩ ⟨"", b, []⟩

theorem compareBy_clauses (sort : List Order) (a b : Scope) :
    compareBy (sort.map Order.clause) a b = compareDocuments sort a.document b.document := by
  unfold compareDocuments
  induction sort with
  | nil => rfl
  | cons order rest ih =>
      have hfirst : order.clause.compare a b =
          order.clause.compare ⟨"", a.document, []⟩ ⟨"", b.document, []⟩ := by
        unfold OrderClause.compare
        simp only [Order.evaluate_clause]
      rw [List.map_cons, compareBy_cons, compareLex, compareLex, hfirst, ih]

/-- The order of two entries of a bucket by sort entries. -/
def compareEntries (sort : List Order) (a b : String × Json) : Ordering :=
  compareDocuments sort a.2 b.2

instance (sort : List Order) : Std.TransCmp (compareEntries sort) where
  eq_swap := by
    intro a b
    exact (transCmp_compareBy (sort.map Order.clause)).eq_swap
  isLE_trans := by
    intro a b c
    exact (transCmp_compareBy (sort.map Order.clause)).isLE_trans

namespace Bucket

variable (bucket : Bucket)

/-- The entries that a filter map selects, in an order. -/
def listed (sort : List Order) (filters : Filters) : List (String × Json) :=
  (bucket.matching (filters.predicate bucket.name) filters).mergeSort fun a b =>
    (compareEntries sort a b).isLE

/-- Without limit and offset all of them are shown. -/
theorem rows_sorted (sort : List Order) (filters : Filters) :
    bucket.rows (.sorted bucket.name filters sort) filters =
      (bucket.listed sort filters).map documentRow := by
  have hordered : bucket.ordered (.sorted bucket.name filters sort) filters =
      (bucket.listed sort filters).map fun entry => ⟨entry.1, entry.2, filters⟩ := by
    rw [ordered, selected_eq_map_matching, listed]
    refine (List.map_mergeSort fun a _ b _ => ?_).symm
    show _ = (compareBy (sort.map Order.clause) _ _).isLE
    rw [compareBy_clauses]
    rfl
  rw [rows, window_of_unbounded rfl rfl, hordered, List.map_map]
  rfl

theorem answer_sorted (sort : List Order) (filters : Filters) :
    bucket.answer ⟨.sorted bucket.name filters sort, filters⟩ =
      .ok ((bucket.listed sort filters).map documentRow) := by
  rw [answer_of_bucket_eq rfl, rows_sorted]

theorem mem_listed_iff (sort : List Order) (filters : Filters) (id : String) (document : Json) :
    (id, document) ∈ bucket.listed sort filters ↔
      (id, document) ∈ bucket.visible ∧ filters.Satisfied document := by
  rw [listed, List.mem_mergeSort, mem_matching_predicate]

/-- The documents of a list are in its order. -/
theorem pairwise_listed (sort : List Order) (filters : Filters) :
    (bucket.listed sort filters).Pairwise fun a b => (compareEntries sort a b).isLE = true :=
  List.pairwise_mergeSort (fun _ _ _ => Std.TransCmp.isLE_trans)
    (isLE_total (compareEntries sort)) _

/-- Entries that stand strictly in the order are listed as they stand. -/
theorem listed_eq_of_pairwise {sort : List Order} {filters : Filters}
    {entries : List (String × Json)}
    (hperm : entries.Perm (bucket.matching (filters.predicate bucket.name) filters))
    (hstrict : entries.Pairwise fun a b => compareEntries sort a b = .lt) :
    bucket.listed sort filters = entries := by
  have hle : entries.Pairwise fun a b => (compareEntries sort a b).isLE = true :=
    hstrict.imp Ordering.isLE_of_eq_lt
  have hne : entries.Pairwise fun a b => compareEntries sort a b ≠ .eq :=
    hstrict.imp fun hlt heq => nomatch hlt.symm.trans heq
  have hsymm : Std.Symm fun a b => compareEntries sort a b ≠ .eq :=
    ⟨fun _ _ hne heq => hne (Std.OrientedCmp.eq_symm heq)⟩
  have hlisted : (bucket.listed sort filters).Perm entries :=
    (List.mergeSort_perm _ _).trans hperm.symm
  refine List.Perm.eq_of_pairwise ?_ (bucket.pairwise_listed sort filters) hle hlisted
  intro a b ha hb hab hba
  by_contra hdistinct
  exact hne.forall (hlisted.mem_iff.mp ha) hb hdistinct (Std.OrientedCmp.isLE_antisymm hab hba)

/-- **Filtering leaves the order as it is**: what a filter map selects stands in the order in which
it stands among all documents. -/
theorem listed_eq_filter (sort : List Order) (filters : Filters) {accepts : Json → Bool}
    (h : ∀ document, accepts document = true ↔ filters.Satisfied document) :
    bucket.listed sort filters =
      (bucket.listed sort []).filter fun entry => accepts entry.2 := by
  have hmatching : bucket.matching (filters.predicate bucket.name) filters =
      (bucket.matching (Filters.predicate bucket.name []) []).filter
        fun entry => accepts entry.2 := by
    rw [matching, matching, List.filter_filter]
    refine List.filter_congr fun entry _ => ?_
    rw [Bool.eq_iff_iff, Bool.and_eq_true, evaluate_predicate, evaluate_predicate, h]
    -- no filter is nothing to satisfy
    have hnone := iff_true_intro (Filters.satisfied_nil entry.2)
    rw [hnone, true_and]
  have hids := bucket.pairwise_matching (Filters.predicate bucket.name []) []
  have hasymm (a b : String × Json) (hab : utf8 a.1 < utf8 b.1) : ¬ utf8 b.1 < utf8 a.1 :=
    List.lt_asymm hab
  rw [listed, listed, hmatching]
  exact (filter_mergeSort (compareEntries sort) hids hasymm _).symm

end Bucket

end BucketQuery
