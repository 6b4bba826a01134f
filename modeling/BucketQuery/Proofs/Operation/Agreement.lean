import BucketQuery.Proofs.Bucket.Contents
import BucketQuery.Proofs.Bucket.Reordering
import BucketQuery.Proofs.Operation.Executor
import BucketQuery.Proofs.Record.Reading

set_option autoImplicit false

/-! # Results depend on contents only

Two buckets in memory may have been filled in different ways, and two filter maps may list the same
filters in different orders. If the last document under each id is the same, nothing else of how
they came about can be seen: statements have the same rows in the same order, and the operations of
an executor have the same outcomes (`ofList_agree`).
-/

namespace BucketQuery

/-- What answers queries. -/
abbrev Answering := Query → Except TransportError (List Json)

/-- **The same answers** to the statements of every shape, on every bucket name: one side is asked
by some filters, the other side by others. -/
structure Answering.Agree (left right : Answering) (filters others : Filters) : Prop where
  list (name : String) :
    left ⟨.list name filters, filters⟩ = right ⟨.list name others, others⟩
  paged (name : String) (page : PageRequest) :
    left ⟨.paged name filters page, filters⟩ = right ⟨.paged name others page, others⟩
  count (name : String) :
    left ⟨.count name filters, filters⟩ = right ⟨.count name others, others⟩
  sum (name field : String) :
    left ⟨.sum name filters field, filters⟩ = right ⟨.sum name others field, others⟩

/-- The failure with these filters in the place of those that it names, if it names any. -/
def QueryError.naming (filters : Filters) : QueryError → QueryError
  | .nonUnique _ => .nonUnique filters
  | error => error

/-- **The same outcomes** of every operation, for every executor and every type of records. Only a
failure to find a single record names filters, and there each side names its own. -/
structure Executor.Agree (left right : Answering) (filters others : Filters) : Prop where
  find (executor : Executor) {α : Type} (type : RecordType α) :
    (executor.find type filters).run left = (executor.find type others).run right
  findOne (executor : Executor) {α : Type} (type : RecordType α) :
    (executor.findOne type filters).run left =
        ((executor.findOne type others).run right).mapError (.naming filters) ∧
      (executor.findOne type others).run right =
        ((executor.findOne type filters).run left).mapError (.naming others)
  findPage (executor : Executor) {α : Type} (type : RecordType α) (request : PageRequest) :
    (executor.findPage type filters request).run left =
      (executor.findPage type others request).run right
  count (executor : Executor) :
    (executor.count filters).run left = (executor.count others).run right
  sum (executor : Executor) (field : String) :
    (executor.sum filters field).run left = (executor.sum others field).run right

/-! ## Failures that name no filters -/

theorem QueryError.naming_of_filters? {filters : Filters} (error : QueryError)
    (h : error.filters? = none) : error.naming filters = error := by
  cases error with
  | nonUnique _ => cases h
  | transport _ | row _ | record _ | aggregate _ _ => rfl

/-- A row that cannot be read is no matter of filters. -/
theorem RecordType.filters?_readValue {α : Type} {type : RecordType α} {shape : RowShape}
    {row : Json} {error : QueryError} (h : type.readValue shape row = .error error) :
    error.filters? = none := by
  cases row with
  | object row =>
      rw [readValue, readRow] at h
      split at h
      · cases h
        rfl
      · next document _ =>
        cases hread : type.read document with
        | error e =>
            rw [hread] at h
            cases h
            rfl
        | ok record =>
            rw [hread] at h
            cases h
  | _ =>
      cases h
      rfl

theorem RecordType.filters?_readAll {α : Type} {type : RecordType α} {shape : RowShape}
    {rows : List Json} {error : QueryError} (h : type.readAll shape rows = .error error) :
    error.filters? = none := by
  obtain ⟨_, _, _, _, _, hrow⟩ := readAll_eq_error_iff.mp h
  exact filters?_readValue hrow

theorem Executor.filters?_run_find {answer : Answering} {executor : Executor} {α : Type}
    {type : RecordType α} {filters : Filters} {error : QueryError}
    (h : (executor.find type filters).run answer = .error error) : error.filters? = none := by
  rw [find, Plan.run] at h
  split at h
  · cases h
    rfl
  · exact RecordType.filters?_readAll h

/-! ## From answers to outcomes -/

namespace Answering.Agree

variable {left right : Answering} {filters others : Filters}

theorem symm (h : left.Agree right filters others) : Agree right left others filters where
  list name := (h.list name).symm
  paged name page := (h.paged name page).symm
  count name := (h.count name).symm
  sum name field := (h.sum name field).symm

theorem run_find (h : left.Agree right filters others) (executor : Executor) {α : Type}
    (type : RecordType α) :
    (executor.find type filters).run left = (executor.find type others).run right := by
  rw [Executor.find, Executor.find, Plan.run, Plan.run, h.list]
  rfl

theorem run_findOne (h : left.Agree right filters others) (executor : Executor) {α : Type}
    (type : RecordType α) :
    (executor.findOne type others).run right =
      ((executor.findOne type filters).run left).mapError (.naming others) := by
  rw [Executor.findOne, Executor.findOne, Plan.run_andThen, Plan.run_andThen,
    h.run_find executor type]
  cases hfind : (executor.find type others).run right with
  | error e =>
      have hnames : e.naming others = e := e.naming_of_filters? (Executor.filters?_run_find hfind)
      show Except.error e = Except.error (e.naming others)
      rw [hnames]
  | ok records =>
      match records with
      | [] => rfl
      | [record] => rfl
      | first :: second :: rest => rfl

theorem run_count (h : left.Agree right filters others) (executor : Executor) :
    (executor.count filters).run left = (executor.count others).run right := by
  rw [Executor.count, Executor.count, Plan.run, Plan.run, h.count]
  rfl

theorem run_sum (h : left.Agree right filters others) (executor : Executor) (field : String) :
    (executor.sum filters field).run left = (executor.sum others field).run right := by
  rw [Executor.sum, Executor.sum, Plan.run, Plan.run, h.sum]
  rfl

theorem run_findPage (h : left.Agree right filters others) (executor : Executor) {α : Type}
    (type : RecordType α) (request : PageRequest) :
    (executor.findPage type filters request).run left =
      (executor.findPage type others request).run right := by
  rw [Executor.findPage, Executor.findPage, Plan.run, Plan.run, h.paged]
  cases right ⟨.paged executor.bucket others request, others⟩ with
  | error e => rfl
  | ok rows => simp only [Plan.run_andThen, h.run_count executor]

/-- What an executor does rests on answers alone. -/
theorem executor (h : left.Agree right filters others) :
    Executor.Agree left right filters others where
  find := h.run_find
  findOne executor _ type := ⟨h.symm.run_findOne executor type, h.run_findOne executor type⟩
  findPage := h.run_findPage
  count := h.run_count
  sum := h.run_sum

end Answering.Agree

/-! ## From contents to answers -/

/-- A bucket gives the same answers to a filter map in any order. -/
theorem Bucket.answer_agree (bucket : Bucket) {filters others : Filters} (hunique : filters.Unique)
    (h : filters.Perm others) : Answering.Agree bucket.answer bucket.answer filters others := by
  have hanswer (statement : Statement) (name : String)
      (hpredicate : statement.predicate = filters.predicate name) :
      bucket.answer ⟨statement, filters⟩ =
        bucket.answer ⟨{ statement with predicate := others.predicate name }, others⟩ := by
    rw [answer, answer, rows_reordered bucket hunique h hpredicate]
  constructor
  · exact fun name => hanswer (.list name filters) name rfl
  · exact fun name page => hanswer (.paged name filters page) name rfl
  · exact fun name => hanswer (.count name filters) name rfl
  · exact fun name field => hanswer (.sum name filters field) name rfl

/-- **Results depend on contents, not on history.** Fill two buckets by two histories of insertions,
where an object of documents by id counts as the history of its members. If the histories leave the
same document under each id, and two filter maps have the same entries in whatever orders, every
statement has the same rows in the same order, and every operation of every executor the same
outcome. -/
theorem ofList_agree (name : String) {entries history : List (String × Json)}
    (hcontents : ∀ id, lastPut? entries id = lastPut? history id)
    {filters others : Filters} (hunique : filters.Unique) (hperm : filters.Perm others) :
    Answering.Agree (Bucket.ofList name entries).answer (Bucket.ofList name history).answer
      filters others ∧
    Executor.Agree (Bucket.ofList name entries).answer (Bucket.ofList name history).answer
      filters others := by
  have hbucket := (Bucket.ofList_eq_ofList_iff name entries history).mpr hcontents
  have hanswers := (Bucket.ofList name history).answer_agree hunique hperm
  rw [hbucket]
  exact ⟨hanswers, hanswers.executor⟩

/-- How the documents of the shop may also have come into it, with a pear that was replaced. -/
def delivery : List (String × Json) :=
  [("apple", .object [("price", .ofUInt64 3)]), ("pear", .object [("price", .ofUInt64 9)]),
    ("nut", .object []), ("pear", .object [("price", .ofUInt64 2)])]

/-- Two filters on the price. -/
def priceFilters : Filters := [("price_from", .ofUInt64 1), ("price_to", .ofUInt64 5)]

/-- After the delivery, with the filters in the other order, the shop gives the same sum, lists the
same documents, and names those filters when it has two documents where one is wanted. -/
theorem ofList_agree_delivery :
    Bucket.ofList "shop" delivery = shop ∧ priceFilters.Unique ∧
    (shopExecutor.sum priceFilters "price").run (Bucket.ofList "shop" delivery).answer = .ok 5 ∧
    (Bucket.ofList "shop" delivery).answer ⟨.list "shop" priceFilters, priceFilters⟩ =
      shop.answer ⟨.list "shop" priceFilters.reverse, priceFilters.reverse⟩ ∧
    (shopExecutor.findOne (.untyped "id") priceFilters).run (Bucket.ofList "shop" delivery).answer =
      .error (.nonUnique priceFilters) ∧
    (shopExecutor.findOne (.untyped "id") priceFilters.reverse).run shop.answer =
      .error (.nonUnique priceFilters.reverse) := by
  have hshop : Bucket.ofList "shop" delivery = shop := rfl
  have hunique : priceFilters.Unique := by
    show (["price_from", "price_to"] : List String).Nodup
    decide
  have hcontents := (Bucket.ofList_eq_ofList_iff "shop" delivery _).mp hshop
  obtain ⟨hanswers, houtcomes⟩ :
      Answering.Agree (Bucket.ofList "shop" delivery).answer shop.answer _ _ ∧
      Executor.Agree (Bucket.ofList "shop" delivery).answer shop.answer _ _ :=
    ofList_agree "shop" hcontents hunique (List.reverse_perm priceFilters).symm
  have hmatching :
      shop.matching (Filters.predicate shopExecutor.bucket priceFilters.reverse)
          priceFilters.reverse =
        [("apple", .object [("price", .ofUInt64 3)]), ("pear", .object [("price", .ofUInt64 2)])] := by
    have hkept : ∀ entry ∈ shop.documents,
        ((Filters.predicate shopExecutor.bucket priceFilters.reverse).evaluate
          ⟨entry.1, entry.2, priceFilters.reverse⟩).isTrue = decide (entry.1 ≠ "nut") := by
      decide +kernel
    rw [Bucket.matching, List.filter_congr hkept]
    rfl
  have hsum : (shopExecutor.sum priceFilters.reverse "price").run shop.answer = .ok 5 := by
    rw [Executor.run_sum rfl, Statement.sum, Bucket.rows_select, Bucket.selected_eq_map_matching,
      hmatching]
    rfl
  have htwo : (shopExecutor.findOne (.untyped "id") priceFilters.reverse).run shop.answer =
      .error (.nonUnique priceFilters.reverse) := by
    rw [Executor.findOne, Plan.run_andThen, Executor.run_find rfl, hmatching]
    rfl
  refine ⟨hshop, hunique, (houtcomes.sum shopExecutor "price").trans hsum, hanswers.list "shop",
    ?_, htwo⟩
  rw [(houtcomes.findOne shopExecutor (.untyped "id")).1, htwo]
  rfl

end BucketQuery
