import BucketQuery.Filter.Predicate
import BucketQuery.Proofs.Filter.Key
import BucketQuery.Proofs.Query.Expression

set_option autoImplicit false

/-! # Predicates of filter maps

The predicate of a filter map is a well-formed conjunction, nested to the right already, and says
which keys it was made from and for which bucket (`predicate_inj`). The values leave no trace in it.
Its parameters are the keys whose operator compares with the value (`parameters_predicate`).
-/

namespace BucketQuery

/-! ## Fragments -/

namespace FilterKey

theorem isConjunct_fragment (filter : FilterKey) : filter.fragment.IsConjunct := by
  rw [fragment]
  cases filter.operator <;> trivial

theorem wellFormed_fragment (filter : FilterKey) : filter.fragment.WellFormed := by
  rw [fragment]
  cases filter.operator <;> simp [Expression.WellFormed, Expression.IsOperand]

theorem reassociate_fragment (filter : FilterKey) :
    filter.fragment.reassociate = filter.fragment := by
  rw [fragment]
  cases filter.operator <;> rfl

/-- The path and the operator of the filter that a fragment is of. -/
def partsOf : Expression → Option (String × Operator)
  | .compare (.path path) .equal _ => some (path, .equals)
  | .compare (.path path) .notEqual _ => some (path, .notEquals)
  | .compare (.path path) .atLeast _ => some (path, .atLeast)
  | .compare (.path path) .atMost _ => some (path, .atMost)
  | .compare (.path path) .isIn _ => some (path, .isIn)
  | .contains (.lower (.path path)) _ => some (path, .contains)
  | .check (.path path) .isNull => some (path, .isNull)
  | .check (.path path) .isNotNull => some (path, .isNotNull)
  | .check (.path path) .isMissing => some (path, .isMissing)
  | .or (.check (.path path) _) _ => some (path, .isNullOrMissing)
  | _ => none

theorem partsOf_fragment (filter : FilterKey) :
    partsOf filter.fragment = some (filter.path, filter.operator) := by
  rw [fragment]
  cases filter.operator <;> rfl

/-- A key is determined by its fragment. -/
theorem key_of_fragment_eq {a b : String} (h : (read a).fragment = (read b).fragment) : a = b := by
  have hparts := congrArg partsOf h
  rw [partsOf_fragment, partsOf_fragment, Option.some_inj, Prod.mk.injEq] at hparts
  rw [← path_append_suffix_read a, ← path_append_suffix_read b, hparts.1, hparts.2]

/-- A fragment has its key as parameter if its operator compares with the value of the filter. -/
theorem parameters_fragment (filter : FilterKey) :
    filter.fragment.parameters = if filter.operator.bindsValue then [filter.key] else [] := by
  rw [fragment]
  cases filter.operator <;> rfl

end FilterKey

/-! ## Conjunctions of fragments -/

namespace Filters

theorem predicate_cons (bucket key : String) (value : Json) (rest : Filters) :
    predicate bucket ((key, value) :: rest) =
      .and (FilterKey.read key).fragment (predicate bucket rest) := rfl

theorem wellFormed_predicate (bucket : String) (filters : Filters) :
    (filters.predicate bucket).WellFormed := by
  induction filters with
  | nil => exact ⟨⟨trivial, trivial⟩, trivial, trivial⟩
  | cons entry rest ih => exact ⟨FilterKey.wellFormed_fragment _, ih⟩

/-- A predicate is nested to the right. -/
theorem reassociate_predicate (bucket : String) (filters : Filters) :
    (filters.predicate bucket).reassociate = filters.predicate bucket := by
  induction filters with
  | nil => rfl
  | cons entry rest ih =>
      rw [predicate_cons, Expression.reassociate, FilterKey.reassociate_fragment, ih,
        Expression.conjoin_of_isConjunct (FilterKey.isConjunct_fragment _)]

/-- The values of a filter map leave no trace in its predicate. -/
theorem predicate_congr (bucket : String) {filters others : Filters}
    (h : filters.map Prod.fst = others.map Prod.fst) :
    filters.predicate bucket = others.predicate bucket := by
  induction filters generalizing others with
  | nil =>
      cases others with
      | nil => rfl
      | cons other others => cases h
  | cons entry rest ih =>
      cases others with
      | nil => cases h
      | cons other others =>
          obtain ⟨hkey, hrest⟩ := List.cons.inj h
          rw [predicate_cons, predicate_cons, hkey, ih hrest]

/-- **A predicate says which keys it was made from**, in their order, and for which bucket. -/
theorem predicate_inj {bucket bucket' : String} {filters others : Filters}
    (h : filters.predicate bucket = others.predicate bucket') :
    filters.map Prod.fst = others.map Prod.fst ∧ bucket = bucket' := by
  induction filters generalizing others with
  | nil =>
      cases others with
      | nil =>
          cases h
          exact ⟨rfl, rfl⟩
      | cons other others => cases h
  | cons entry rest ih =>
      cases others with
      | nil => cases h
      | cons other others =>
          obtain ⟨hfragment, hrest⟩ := Expression.and.inj h
          obtain ⟨hkeys, hbucket⟩ := ih hrest
          rw [List.map_cons, List.map_cons, FilterKey.key_of_fragment_eq hfragment, hkeys]
          exact ⟨rfl, hbucket⟩

/-- **The parameters of a predicate** are the keys whose operator compares with a value, in the
order of the map. -/
theorem parameters_predicate (bucket : String) (filters : Filters) :
    (filters.predicate bucket).parameters =
      (filters.map Prod.fst).filter fun key => (FilterKey.read key).operator.bindsValue := by
  induction filters with
  | nil => rfl
  | cons entry rest ih =>
      rw [predicate_cons, Expression.parameters, FilterKey.parameters_fragment, FilterKey.key_read,
        ih, List.map_cons, List.filter_cons]
      split
      · rfl
      · rfl

end Filters

end BucketQuery
