import BucketQuery.Bucket.Evaluation
import BucketQuery.Filter.Predicate
import BucketQuery.Proofs.Filter.Key
import BucketQuery.Proofs.Json.Members
import BucketQuery.Proofs.Text.Like

set_option autoImplicit false

/-! # What filters ask of a document

A filter asks something of the value found at its path (`Operator.Accepts`), and a filter map asks
it of every key (`Filters.Satisfied`). The predicate of a filter map says the same in the language
of expressions, where a property that is not there is neither true nor false. This file shows that
the two agree: the predicate is true exactly on the documents that satisfy the filters and are not
a gateway's own (`evaluate_predicate`).
-/

namespace BucketQuery

/-! ## The meaning of a filter -/

/-- A value is found, neither it nor the wanted value is null, and their order is accepted. -/
def Compared (accepted : Ordering → Prop) (found : Option Json) (wanted : Json) : Prop :=
  ∃ value, found = some value ∧ value ≠ .null ∧ wanted ≠ .null ∧
    accepted (Json.collate value wanted)

/-- **What an operator asks** of the value found at a path, given the value of the filter. -/
def Operator.Accepts (found : Option Json) (wanted : Json) : Operator → Prop
  | .equals => Compared (· = .eq) found wanted
  | .notEquals => Compared (· ≠ .eq) found wanted
  | .atLeast => Compared (· ≠ .lt) found wanted
  | .atMost => Compared (· ≠ .gt) found wanted
  | .isIn =>
    ∃ value items, found = some value ∧ value ≠ .null ∧ wanted = .array items ∧
      ∃ item ∈ items, Json.collate value item = .eq
  | .contains =>
    ∃ whole part, found = some (.string whole) ∧ wanted = .string part ∧
      (lowercase part).toList <:+: (lowercase whole).toList
  | .isNull => found = some .null
  | .isNotNull => ∃ value, found = some value ∧ value ≠ .null
  | .isMissing => found = none
  | .isNullOrMissing => found = none ∨ found = some .null

/-- **A document satisfies a filter map** when it satisfies the filter of every key. -/
def Filters.Satisfied (filters : Filters) (document : Json) : Prop :=
  ∀ key wanted, filters.get? key = some wanted →
    (FilterKey.read key).operator.Accepts (document.lookup? (FilterKey.read key).path) wanted

/-- The ids that the pattern of a gateway's own documents describes: any one character, the word
`sync:` and anything after it. -/
def GatewayId (id : String) : Prop :=
  ∃ first rest, id.toList = first :: ("sync:".toList ++ rest)

theorem accepts_gatewayPattern (id : String) :
    Like.accepts id gatewayPattern = true ↔ GatewayId id := by
  have htokens : Like.tokens gatewayPattern =
      [.one, .literal 's', .literal 'y', .literal 'n', .literal 'c', .literal ':', .run] := by
    decide
  rw [Like.accepts, htokens, Like.describes_iff]
  simp only [Like.describes_one_iff, Like.describes_literal_iff]
  constructor
  · rintro ⟨first, _, h, _, rfl, _, rfl, _, rfl, _, rfl, rest, rfl, -⟩
    exact ⟨first, rest, h⟩
  · rintro ⟨first, rest, h⟩
    refine ⟨first, _, h, _, rfl, _, rfl, _, rfl, _, rfl, rest, rfl, ?_⟩
    exact (Like.describes_cons_iff _ _ _).mpr
      ⟨rest, [], trivial, (Like.describes_nil_iff _).mpr rfl, (List.append_nil _).symm⟩

/-! ## Outcomes that are true -/

namespace Outcome

@[simp] theorem isTrue_ofBool (b : Bool) : (ofBool b).isTrue = b := by
  cases b <;> rfl

@[simp] theorem isTrue_value_null : (value .null).isTrue = false := rfl

@[simp] theorem isTrue_missing : missing.isTrue = false := rfl

theorem isTrue_compare_iff (comparison : Comparison) (found : Option Json) (wanted : Json) :
    (compare comparison (ofOption found) (.value wanted)).isTrue = true ↔
      ∃ value, found = some value ∧ value ≠ .null ∧ wanted ≠ .null ∧
        (compareValues comparison value wanted).isTrue = true := by
  cases found with
  | none => simp [ofOption, compare]
  | some value => cases value <;> cases wanted <;> simp [ofOption, compare, null]

/-- Lower-casing both sides, an occurrence is found exactly between two texts. -/
theorem isTrue_contains_lower_iff (found : Option Json) (wanted : Json) :
    ((ofOption found).lower.contains (lower (.value wanted))).isTrue = true ↔
      ∃ whole part, found = some (.string whole) ∧ wanted = .string part ∧
        occursIn (lowercase part).toList (lowercase whole).toList = true := by
  cases found with
  | none => simp [ofOption, lower, contains]
  | some value => cases value <;> cases wanted <;> simp [ofOption, lower, contains, null]

theorem isTrue_check_isNull (found : Option Json) :
    (check .isNull (ofOption found)).isTrue = true ↔ found = some .null := by
  cases found with
  | none => simp [ofOption, check]
  | some value => cases value <;> simp [ofOption, check]

theorem isTrue_check_isNotNull (found : Option Json) :
    (check .isNotNull (ofOption found)).isTrue = true ↔
      ∃ value, found = some value ∧ value ≠ .null := by
  cases found with
  | none => simp [ofOption, check]
  | some value => cases value <;> simp [ofOption, check]

theorem isTrue_check_isMissing (found : Option Json) :
    (check .isMissing (ofOption found)).isTrue = true ↔ found = none := by
  cases found <;> simp [ofOption, check]

end Outcome

theorem occursIn_iff (part whole : List Char) : occursIn part whole = true ↔ part <:+: whole := by
  induction whole with
  | nil => rw [occursIn, List.isEmpty_iff, List.infix_nil]
  | cons c rest ih =>
      rw [occursIn, Bool.or_eq_true, ih, List.isPrefixOf_iff_prefix, List.infix_cons_iff]

/-! ## Comparisons -/

/-- A comparison that tests the order of two values accepts the orders that pass the test. -/
theorem isTrue_compare_ordered_iff (comparison : Comparison) (test : Ordering → Bool)
    {accepted : Ordering → Prop}
    (hvalues : ∀ a b, Outcome.compareValues comparison a b = .ofBool (test (Json.collate a b)))
    (htest : ∀ o, test o = true ↔ accepted o) (found : Option Json) (wanted : Json) :
    (Outcome.compare comparison (.ofOption found) (.value wanted)).isTrue = true ↔
      Compared accepted found wanted := by
  rw [Outcome.isTrue_compare_iff]
  simp only [hvalues, Outcome.isTrue_ofBool, htest]
  rfl

theorem isTrue_compareValues_isIn_iff (value wanted : Json) :
    (Outcome.compareValues .isIn value wanted).isTrue = true ↔
      ∃ items, wanted = .array items ∧ ∃ item ∈ items, Json.collate value item = .eq := by
  unfold Outcome.compareValues
  cases wanted with
  | array items => simp [List.any_eq_true]
  | _ => simp [Outcome.null]

theorem isTrue_compare_isIn_iff (found : Option Json) (wanted : Json) :
    (Outcome.compare .isIn (.ofOption found) (.value wanted)).isTrue = true ↔
      Operator.isIn.Accepts found wanted := by
  rw [Outcome.isTrue_compare_iff]
  simp only [isTrue_compareValues_isIn_iff]
  constructor
  · rintro ⟨value, hfound, hvalue, -, items, hitems, hitem⟩
    exact ⟨value, items, hfound, hvalue, hitems, hitem⟩
  · rintro ⟨value, items, hfound, hvalue, rfl, hitem⟩
    exact ⟨value, hfound, hvalue, nofun, items, rfl, hitem⟩

/-! ## Fragments and predicates -/

/-- **A fragment is true when its operator accepts what is found**, if the value of the filter is
bound to its key. -/
theorem evaluate_fragment (filter : FilterKey) (scope : Scope) {wanted : Json}
    (h : scope.parameters.get? filter.key = some wanted) :
    (filter.fragment.evaluate scope).isTrue = true ↔
      filter.operator.Accepts (scope.document.lookup? filter.path) wanted := by
  have hvalue : (Expression.parameter filter.key).evaluate scope = .value wanted := by
    rw [Expression.evaluate, h]
    rfl
  have hcompare (comparison : Comparison) :
      (Expression.compare (.path filter.path) comparison (.parameter filter.key)).evaluate scope =
        .compare comparison (.ofOption (scope.document.lookup? filter.path)) (.value wanted) := by
    rw [Expression.evaluate, hvalue]
    rfl
  unfold FilterKey.fragment
  -- four comparisons test the order of the values; the other operators are each their own
  cases filter.operator with
  | equals =>
      rw [hcompare]
      exact isTrue_compare_ordered_iff .equal Ordering.isEq (fun _ _ => rfl)
        (fun _ => Ordering.isEq_iff_eq_eq) _ _
  | notEquals =>
      rw [hcompare]
      exact isTrue_compare_ordered_iff .notEqual Ordering.isNe (fun _ _ => rfl)
        (fun _ => Ordering.isNe_iff_ne_eq) _ _
  | atLeast =>
      rw [hcompare]
      exact isTrue_compare_ordered_iff .atLeast Ordering.isGE (fun _ _ => rfl)
        (fun _ => Ordering.isGE_iff_ne_lt) _ _
  | atMost =>
      rw [hcompare]
      exact isTrue_compare_ordered_iff .atMost Ordering.isLE (fun _ _ => rfl)
        (fun _ => Ordering.isLE_iff_ne_gt) _ _
  | contains =>
      have hlower : ((Expression.parameter filter.key).lower).evaluate scope =
          Outcome.lower (.value wanted) := by
        rw [Expression.evaluate, hvalue]
      rw [Expression.evaluate, hlower]
      show ((Outcome.ofOption _).lower.contains _).isTrue = true ↔ _
      rw [Outcome.isTrue_contains_lower_iff]
      simp only [occursIn_iff]
      rfl
  | isIn =>
      rw [hcompare]
      exact isTrue_compare_isIn_iff _ _
  | isNull => exact Outcome.isTrue_check_isNull _
  | isNotNull => exact Outcome.isTrue_check_isNotNull _
  | isMissing => exact Outcome.isTrue_check_isMissing _
  | isNullOrMissing =>
      rw [Expression.evaluate, Outcome.isTrue_ofBool, Bool.or_eq_true, or_comm]
      exact or_congr (Outcome.isTrue_check_isMissing _) (Outcome.isTrue_check_isNull _)

/-- The exclusion is true of every document that is not a gateway's own. -/
theorem evaluate_exclusion (bucket : String) (scope : Scope) :
    ((Filters.exclusion bucket).evaluate scope).isTrue = true ↔ ¬ GatewayId scope.id := by
  show (Outcome.ofBool (!Like.accepts scope.id gatewayPattern)).isTrue = true ↔ _
  rw [Outcome.isTrue_ofBool, Bool.not_eq_true', ← Bool.not_eq_true, accepts_gatewayPattern]

/-- The predicate of a filter map is the conjunction of its fragments and the exclusion. -/
theorem evaluate_predicate_iff (bucket : String) (filters : Filters) (scope : Scope) :
    ((filters.predicate bucket).evaluate scope).isTrue = true ↔
      (∀ key ∈ filters.map Prod.fst,
        ((FilterKey.read key).fragment.evaluate scope).isTrue = true) ∧ ¬ GatewayId scope.id := by
  induction filters with
  | nil =>
      rw [Filters.predicate, evaluate_exclusion]
      simp
  | cons entry rest ih =>
      obtain ⟨key, value⟩ := entry
      rw [Filters.predicate, Expression.evaluate, Outcome.isTrue_ofBool, Bool.and_eq_true, ih,
        List.map_cons, List.forall_mem_cons, and_assoc]

/-- **The predicate of a filter map is true exactly on what satisfies the filters** and is not a
gateway's own document, when the filter map itself provides the bound values. -/
theorem evaluate_predicate (bucket : String) (filters : Filters) (id : String) (document : Json) :
    ((filters.predicate bucket).evaluate ⟨id, document, filters⟩).isTrue = true ↔
      filters.Satisfied document ∧ ¬ GatewayId id := by
  have hfragment (key : String) {wanted : Json} (hkey : filters.get? key = some wanted) :=
    evaluate_fragment (FilterKey.read key) ⟨id, document, filters⟩
      ((congrArg filters.get? (FilterKey.key_read key)).trans hkey)
  rw [evaluate_predicate_iff]
  refine and_congr_left fun _ => ?_
  -- the keys of the map and its lookups are the same, so every fragment has its value bound
  constructor
  · intro h key wanted hkey
    exact (hfragment key hkey).mp (h key ((Members.mem_keys_iff _ _).mpr ⟨wanted, hkey⟩))
  · intro h key hmem
    obtain ⟨wanted, hkey⟩ := (Members.mem_keys_iff _ _).mp hmem
    exact (hfragment key hkey).mpr (h key wanted hkey)

end BucketQuery
