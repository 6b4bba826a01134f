import BucketQuery.Proofs.Number.Exact
import BucketQuery.Proofs.Operation.Executor
import BucketQuery.Proofs.Record.Reading

set_option autoImplicit false

/-! # Aggregates

A sum that succeeds is exact: no step of it wraps or rounds (`sumRows_exact`). The projection of a
statement has no part in which documents match, so listing, finding, counting and summing by the
same filters are about the same documents (`projections_agree`).
-/

namespace BucketQuery

/-! ## Exact sums -/

/-- Checked addition gives the exact sum or nothing. -/
theorem checkedAdd_eq_some_iff {a b c : Int64} :
    checkedAdd a b = some c ↔ c.toInt = a.toInt + b.toInt := by
  rw [checkedAdd]
  split
  · next hrange =>
    have hsum : (Int64.ofInt (a.toInt + b.toInt)).toInt = a.toInt + b.toInt :=
      Int64.toInt_ofInt_of_le hrange.1 hrange.2
    rw [Option.some_inj, ← Int64.toInt_inj, hsum]
    exact eq_comm
  · next hrange =>
    constructor
    · intro h
      cases h
    · -- no word has a value out of range
      intro h
      have hlow := c.le_toInt
      have hhigh := c.toInt_lt
      omega

/-- The word that an aggregate is taken for has the value of the aggregate. -/
theorem exact_of_integerValue_eq_some {value : Json} {part : Int64}
    (h : integerValue value = some part) : value.exact = part.toInt := by
  -- no other value is taken for a word
  match value with
  | .null =>
      cases h
      rfl
  | .number (.integer i inRange) =>
      rw [integerValue, Number.int64?] at h
      split at h
      · next hlt =>
        cases h
        rw [Int64.toInt_ofInt_of_le inRange.1 hlt]
        rfl
      · cases h
  | .number (.double d) =>
      rw [integerValue] at h
      split at h
      · next i hi =>
        split at h
        · next hsmall =>
          cases h
          rw [Int64.toInt_ofInt_of_le (by omega) (by omega)]
          exact Double.exact_of_integer?_eq_some hi
        · cases h
      · cases h

/-- **A sum is exact.** Rows that can be added to a total add their exact values to it. -/
theorem sumRows_exact {rows : List Json} {total result : Int64}
    (h : sumRows total rows = .ok result) :
    (result.toInt : ℚ) = total.toInt + (rows.map fun row => (addend row).exact).sum := by
  induction rows generalizing total with
  | nil =>
      cases h
      rw [List.map_nil, List.sum_nil, add_zero]
  | cons row rest ih =>
      rw [sumRows] at h
      cases hstep : (integerValue (addend row)).bind (checkedAdd total) with
      | none =>
          rw [hstep] at h
          cases h
      | some next =>
          rw [hstep] at h
          obtain ⟨part, hpart, hnext⟩ := Option.bind_eq_some_iff.mp hstep
          -- one row: the addition did not overflow, so it is the addition of the values
          have hexact : (next.toInt : ℚ) = total.toInt + (addend row).exact := by
            rw [exact_of_integerValue_eq_some hpart, checkedAdd_eq_some_iff.mp hnext, Int.cast_add]
          rw [ih h, hexact, List.map_cons, List.sum_cons, add_assoc]

theorem exact_numberAt (document : Json) (path : String) :
    (numberAt document path).exact = document.exactAt path := by
  rw [numberAt, Json.exactAt]
  cases document.lookup? path with
  | none => rfl
  | some value => cases value <;> rfl

/-! ## What the projections share -/

/-- The ids in the rows of a statement, whatever it projects. -/
theorem map_idField_rows (bucket : Bucket) (statement : Statement) (parameters : Filters) :
    (bucket.rows statement parameters).map (·.member? idField) =
      (Bucket.window statement (bucket.ordered statement parameters)).map
        fun scope => some (.string scope.id) := by
  rw [Bucket.rows, List.map_map]
  -- every projection puts the id into the row
  refine List.map_congr_left fun scope _ => ?_
  cases statement.projection <;> rfl

/-- A sum that succeeds is the exact sum of the field over the matching documents. -/
theorem Executor.exact_of_run_sum {bucket : Bucket} {executor : Executor}
    (h : executor.bucket = bucket.name) {filters : Filters} {field : String} {total : Int64}
    (hsum : (executor.sum filters field).run bucket.answer = .ok total) :
    (total.toInt : ℚ) =
      ((bucket.matching (filters.predicate executor.bucket) filters).map
        fun entry => entry.2.exactAt field).sum := by
  rw [run_sum h, Statement.sum, Bucket.rows_select, Bucket.selected_eq_map_matching,
    List.map_map] at hsum
  rw [sumRows_exact hsum, List.map_map, Int64.toInt_zero, Int.cast_zero, zero_add]
  congr 1
  refine List.map_congr_left fun entry _ => ?_
  exact exact_numberAt entry.2 field

/-- **The projections of a statement agree.** Whatever a statement on the bucket projects, its rows
have the same ids in the same order. So for all filters the count is the number of the rows listed,
and of the records found when they can be read, and a sum that succeeds is exact and about the
documents listed. -/
theorem projections_agree (bucket : Bucket) :
    (∀ (statement : Statement) (parameters : Filters), statement.bucket = bucket.name →
      ∃ ids : List String, ∀ projection : Projection, ∃ rows : List Json,
        bucket.answer ⟨{ statement with projection := projection }, parameters⟩ = .ok rows ∧
        rows.map (·.member? idField) = ids.map fun id => some (.string id)) ∧
    ∀ (executor : Executor) (filters : Filters), executor.bucket = bucket.name →
      ∃ (entries : List (String × Json)) (n : UInt64),
        bucket.answer ⟨.list executor.bucket filters, filters⟩ = .ok (entries.map documentRow) ∧
        (executor.count filters).run bucket.answer = .ok n ∧
        n = UInt64.ofNat entries.length ∧
        (entries.length < 2 ^ 64 → n.toNat = entries.length) ∧
        (∀ {α : Type} (type : RecordType α) (records : List α),
          (executor.find type filters).run bucket.answer = .ok records →
            records.length = entries.length) ∧
        ∀ (field : String) (total : Int64),
          (executor.sum filters field).run bucket.answer = .ok total →
            (total.toInt : ℚ) = (entries.map fun entry => entry.2.exactAt field).sum := by
  constructor
  · intro statement parameters h
    refine ⟨(Bucket.window statement (bucket.ordered statement parameters)).map Scope.id, ?_⟩
    intro projection
    refine ⟨bucket.rows { statement with projection := projection } parameters, ?_, ?_⟩
    · refine Bucket.answer_of_bucket_eq ?_ parameters
      exact h
    · rw [map_idField_rows, List.map_map]
      rfl
  · intro executor filters h
    refine ⟨bucket.matching (filters.predicate executor.bucket) filters, _, ?_,
      Executor.run_count h filters, rfl, UInt64.toNat_ofNat_of_lt', ?_, ?_⟩
    · rw [Bucket.answer_of_bucket_eq h, Bucket.rows_list]
    · intro α type records hfind
      rw [Executor.run_find h] at hfind
      rw [RecordType.length_of_readAll hfind, List.length_map]
    · intro field total hsum
      exact Executor.exact_of_run_sum h hsum

/-- In the shop, what is found has the length of the list, and the sum of the prices is exact. -/
theorem projections_agree_shop :
    (shopExecutor.sum [] "price").run shop.answer = .ok 5 ∧
    ∃ (entries : List (String × Json)) (records : List Json),
      shop.answer ⟨.list "shop" [], []⟩ = .ok (entries.map documentRow) ∧
      (5 : ℚ) = (entries.map fun entry => entry.2.exactAt "price").sum ∧
      (shopExecutor.find (.untyped "id") []).run shop.answer = .ok records ∧
      records.length = entries.length ∧
      ∃ ids : List String, ∀ projection : Projection, ∃ rows : List Json,
        shop.answer ⟨{ Statement.list "shop" [] with projection := projection }, []⟩ = .ok rows ∧
        rows.map (·.member? idField) = ids.map fun id => some (.string id) := by
  have hsum : (shopExecutor.sum [] "price").run shop.answer = .ok 5 := by
    rw [Executor.run_sum rfl, Statement.sum, Bucket.rows_select]
    rfl
  have hread : ∃ records, (shopExecutor.find (.untyped "id") []).run shop.answer = .ok records := by
    rw [Executor.run_find rfl]
    exact ⟨_, rfl⟩
  obtain ⟨records, hrecords⟩ := hread
  obtain ⟨entries, _, hlist, _, _, _, hfind, hexact⟩ :=
    (projections_agree shop).2 shopExecutor [] rfl
  have hids := (projections_agree shop).1 (Statement.list "shop" []) [] rfl
  exact ⟨hsum, entries, records, hlist, hexact "price" 5 hsum, hrecords,
    hfind (.untyped "id") records hrecords, hids⟩

end BucketQuery
