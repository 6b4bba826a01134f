import BucketQuery.Bucket.Answer
import BucketQuery.Proofs.Filter.Satisfaction

set_option autoImplicit false

/-! # Filter maps in another order

A statement has the keys of its filter map in the order of the map, and the map is also where the
placeholders get their values from. Two filter maps with the same entries in different orders give
different statements, yet the same rows in the same order (`rows_reordered`): a placeholder finds
its value wherever it stands, and a conjunction is true of the same documents in any order.
-/

namespace BucketQuery

/-- The scope with other bound values. -/
def Scope.bind (parameters : Filters) (scope : Scope) : Scope :=
  { scope with parameters := parameters }

/-- An expression yields the same where every placeholder finds the same value. -/
theorem Expression.evaluate_bind {parameters : Filters} {scope : Scope}
    (h : ∀ key, scope.parameters.get? key = parameters.get? key) (expression : Expression) :
    expression.evaluate (scope.bind parameters) = expression.evaluate scope := by
  induction expression with
  | path _ | literal _ | documentId _ => rfl
  | parameter name =>
      rw [evaluate, evaluate, h]
      rfl
  | lower operand ih | check operand _ ih => rw [evaluate, evaluate, ih]
  | contains left right ihleft ihright | compare left _ right ihleft ihright
  | and left right ihleft ihright | or left right ihleft ihright =>
      rw [evaluate, evaluate, ihleft, ihright]

theorem compareBy_bind {parameters : Filters} {a b : Scope}
    (ha : ∀ key, a.parameters.get? key = parameters.get? key)
    (hb : ∀ key, b.parameters.get? key = parameters.get? key) (clauses : List OrderClause) :
    compareBy clauses (a.bind parameters) (b.bind parameters) = compareBy clauses a b := by
  induction clauses with
  | nil => rfl
  | cons clause rest ih =>
      rw [compareBy, compareBy, ih, Expression.evaluate_bind ha, Expression.evaluate_bind hb]

/-- A conjunction of fragments is true of the same documents in any order. -/
theorem Filters.isTrue_evaluate_predicate_perm {filters others : Filters}
    (h : filters.Perm others) (bucket : String) (scope : Scope) :
    ((filters.predicate bucket).evaluate scope).isTrue =
      ((others.predicate bucket).evaluate scope).isTrue := by
  have hkeys (key : String) : key ∈ filters.map Prod.fst ↔ key ∈ others.map Prod.fst :=
    (h.map Prod.fst).mem_iff
  rw [Bool.eq_iff_iff, evaluate_predicate_iff, evaluate_predicate_iff]
  simp only [hkeys]

namespace Bucket

theorem parameters_of_mem_scopes {bucket : Bucket} {parameters : Filters} {scope : Scope}
    (h : scope ∈ bucket.scopes parameters) : scope.parameters = parameters := by
  obtain ⟨entry, _, rfl⟩ := List.mem_map.mp h
  rfl

theorem scopes_bind (bucket : Bucket) (parameters others : Filters) :
    bucket.scopes others = (bucket.scopes parameters).map (Scope.bind others) := by
  rw [scopes, scopes, List.map_map]
  rfl

/-- The rows of a statement do not change when other bound values are the same for every
placeholder and another predicate is true of the same documents. -/
theorem rows_bind (bucket : Bucket) (statement : Statement) {predicate : Expression}
    {parameters others : Filters} (hparameters : ∀ key, parameters.get? key = others.get? key)
    (hpredicate : ∀ scope : Scope,
      (predicate.evaluate scope).isTrue = (statement.predicate.evaluate scope).isTrue) :
    bucket.rows { statement with predicate := predicate } others =
      bucket.rows statement parameters := by
  have hbound {scope : Scope} (hmem : scope ∈ bucket.scopes parameters) (key : String) :
      scope.parameters.get? key = others.get? key := by
    rw [parameters_of_mem_scopes hmem, hparameters]
  have hselected : bucket.selected predicate others =
      (bucket.selected statement.predicate parameters).map (Scope.bind others) := by
    rw [selected, selected, scopes_bind bucket parameters others, List.filter_map]
    refine congrArg _ (List.filter_congr fun scope hmem => ?_)
    rw [Function.comp, hpredicate, Expression.evaluate_bind (hbound hmem)]
  -- sorting goes by what the clauses yield, which is the same on both sides
  have hordered : bucket.ordered { statement with predicate := predicate } others =
      (bucket.ordered statement parameters).map (Scope.bind others) := by
    rw [ordered, ordered, hselected]
    refine (List.map_mergeSort fun a ha b hb => ?_).symm
    rw [compareBy_bind (hbound (List.mem_filter.mp ha).1) (hbound (List.mem_filter.mp hb).1)]
  have hwindow (scopes : List Scope) :
      window { statement with predicate := predicate } (scopes.map (Scope.bind others)) =
        (window statement scopes).map (Scope.bind others) := by
    unfold window
    cases statement.limit with
    | none => rw [List.map_drop]
    | some limit => rw [List.map_take, List.map_drop]
  rw [rows, rows, hordered, hwindow, List.map_map]
  rfl

/-- **The order of the keys makes no difference**: a statement has the same rows when its predicate
is of the reordered filter map, which binds the values too. -/
theorem rows_reordered (bucket : Bucket) {filters others : Filters} (hunique : filters.Unique)
    (h : filters.Perm others) {statement : Statement} {name : String}
    (hpredicate : statement.predicate = filters.predicate name) :
    bucket.rows { statement with predicate := others.predicate name } others =
      bucket.rows statement filters := by
  refine rows_bind bucket statement (Members.get?_perm hunique h) fun scope => ?_
  rw [hpredicate, Filters.isTrue_evaluate_predicate_perm h]

end Bucket

end BucketQuery
