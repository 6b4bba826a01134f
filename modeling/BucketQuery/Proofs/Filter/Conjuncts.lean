import BucketQuery.Bucket.Answer
import BucketQuery.Proofs.Filter.Predicate
import BucketQuery.Proofs.Filter.Satisfaction

set_option autoImplicit false

/-! # The conjuncts of a predicate

Every expression is the conjunction of its conjuncts, however it is nested: they make up its text
and its parameters, and it is true when all of them are (`Expression.isTrue_evaluate_iff`). The
conjuncts of a predicate are the fragments of the filters in the order of the map, and the exclusion
after them.

A predicate is nested to the right. Putting the same fragments together one after another, from the
left, gives another expression (`Filters.leftPredicate`) with the same conjuncts, so it selects the
same documents.
-/

namespace BucketQuery

/-! ## Conjuncts of any expression -/

namespace Expression

/-- The parameters of an expression are those of its conjuncts, from left to right. -/
theorem parameters_eq_flatMap (e : Expression) :
    e.parameters = e.conjuncts.flatMap parameters := by
  induction e using induction_conjuncts with
  | conjunct e he => rw [conjuncts_of_isConjunct he, List.flatMap_singleton]
  | and left right ihl ihr => rw [parameters, conjuncts, List.flatMap_append, ← ihl, ← ihr]

/-- **An expression is true when all of its conjuncts are.** -/
theorem isTrue_evaluate_iff (e : Expression) (scope : Scope) :
    (e.evaluate scope).isTrue = true ↔
      ∀ c ∈ e.conjuncts, (c.evaluate scope).isTrue = true := by
  induction e using induction_conjuncts with
  | conjunct e he => rw [conjuncts_of_isConjunct he, List.forall_mem_singleton]
  | and left right ihl ihr =>
      rw [evaluate, Outcome.isTrue_ofBool, Bool.and_eq_true, ihl, ihr, conjuncts,
        List.forall_mem_append]

/-- Conjoining from the left puts the conjuncts one after another. -/
theorem conjuncts_foldl_and (first : Expression) (rest : List Expression) :
    (rest.foldl .and first).conjuncts = first.conjuncts ++ rest.flatMap conjuncts := by
  induction rest generalizing first with
  | nil => simp
  | cons second rest ih =>
      rw [List.foldl_cons, ih, conjuncts, List.flatMap_cons, List.append_assoc]

end Expression

/-- Expressions with the same conjuncts select the same documents. -/
theorem Bucket.selected_congr_conjuncts {a b : Expression} (h : a.conjuncts = b.conjuncts)
    (bucket : Bucket) (parameters : Filters) :
    bucket.selected a parameters = bucket.selected b parameters := by
  unfold selected
  apply List.filter_congr
  intro scope _
  rw [Bool.eq_iff_iff, Expression.isTrue_evaluate_iff, Expression.isTrue_evaluate_iff, h]

/-! ## Conjuncts of a predicate -/

namespace Filters

/-- The fragments of the filters, in the order of the map. -/
def fragments (filters : Filters) : List Expression :=
  filters.map fun entry => (FilterKey.read entry.1).fragment

/-- The conjunction of the same fragments and the exclusion, put together from the left. -/
def leftPredicate (bucket : String) (filters : Filters) : Expression :=
  match filters.fragments with
  | [] => exclusion bucket
  | first :: rest => .and (rest.foldl .and first) (exclusion bucket)

theorem flatMap_conjuncts_fragments (filters : Filters) :
    filters.fragments.flatMap Expression.conjuncts = filters.fragments := by
  induction filters with
  | nil => rfl
  | cons entry rest ih =>
      have hfirst := Expression.conjuncts_of_isConjunct
        (FilterKey.isConjunct_fragment (FilterKey.read entry.1))
      unfold fragments at ih ⊢
      rw [List.map_cons, List.flatMap_cons, ih, hfirst, List.singleton_append]

theorem conjuncts_exclusion (bucket : String) :
    (exclusion bucket).conjuncts = [exclusion bucket] := rfl

/-- **The conjuncts of a predicate** are the fragments in their order, and the exclusion last. -/
theorem conjuncts_predicate (bucket : String) (filters : Filters) :
    (filters.predicate bucket).conjuncts = filters.fragments ++ [exclusion bucket] := by
  induction filters with
  | nil => rfl
  | cons entry rest ih =>
      have hfirst := Expression.conjuncts_of_isConjunct
        (FilterKey.isConjunct_fragment (FilterKey.read entry.1))
      rw [predicate_cons, Expression.conjuncts, hfirst, ih]
      rfl

/-- Whether it is put together from the left or from the right, a predicate has these conjuncts. -/
theorem conjuncts_leftPredicate (bucket : String) (filters : Filters) :
    (filters.leftPredicate bucket).conjuncts = (filters.predicate bucket).conjuncts := by
  -- the fragments have no conjuncts inside them, so the nesting leaves the list as it is
  rw [conjuncts_predicate, leftPredicate]
  have hall := flatMap_conjuncts_fragments filters
  split
  · next hnil =>
    rw [hnil]
    rfl
  · next first rest hcons =>
    rw [hcons, List.flatMap_cons] at hall
    rw [Expression.conjuncts, Expression.conjuncts_foldl_and, hall, conjuncts_exclusion, hcons]

/-- **A predicate is the conjunction of its filters.** Its conjuncts are the fragments of the keys
in the order of the map, with the exclusion after them; its parameters are the keys whose operator
compares with a value, each once, and each of them has a value in the map. Any expression is written
as its conjuncts with ` AND ` between them, has their parameters and is true when all of them are.
So a predicate put together from the left selects the same documents. -/
theorem predicate_conjoins (name : String) {filters : Filters} (h : filters.Unique) :
    (filters.predicate name).conjuncts =
        (filters.map fun entry => (FilterKey.read entry.1).fragment) ++ [exclusion name] ∧
    (filters.predicate name).conjuncts.length = filters.length + 1 ∧
    (filters.predicate name).parameters =
      (filters.map Prod.fst).filter (fun key => (FilterKey.read key).operator.bindsValue) ∧
    (filters.predicate name).parameters.Nodup ∧
    (∀ key ∈ (filters.predicate name).parameters, ∃ value, filters.get? key = some value) ∧
    (∀ e : Expression,
      e.text = " AND ".intercalate (e.conjuncts.map Expression.text) ∧
      e.parameters = e.conjuncts.flatMap Expression.parameters ∧
      ∀ scope, (e.evaluate scope).isTrue = true ↔
        ∀ c ∈ e.conjuncts, (c.evaluate scope).isTrue = true) ∧
    ∀ (bucket : Bucket) (parameters : Filters),
      bucket.selected (filters.leftPredicate name) parameters =
        bucket.selected (filters.predicate name) parameters := by
  have hconjuncts := conjuncts_predicate name filters
  have hparameters := parameters_predicate name filters
  refine ⟨hconjuncts, ?_, hparameters, ?_, ?_, ?_, ?_⟩
  · rw [hconjuncts, List.length_append, fragments, List.length_map, List.length_singleton]
  · rw [hparameters]
    exact h.filter _
  · intro key hkey
    rw [hparameters] at hkey
    exact (Members.mem_keys_iff filters key).mp (List.mem_of_mem_filter hkey)
  · intro e
    exact ⟨e.text_eq_intercalate, e.parameters_eq_flatMap, e.isTrue_evaluate_iff⟩
  · intro bucket parameters
    exact bucket.selected_congr_conjuncts (conjuncts_leftPredicate name filters) parameters

/-- A filter map with four keys, two of which compare with a value. -/
def cellarFilters : Filters :=
  [("name_contains", .string "pale"), ("closed_null", .null), ("abv.max_from", .ofUInt64 5),
    ("site_nullormissing", .bool true)]

/-- Its predicate has five conjuncts and two parameters. -/
theorem predicate_conjoins_cellar :
    cellarFilters.Unique ∧
    (cellarFilters.predicate "beer").conjuncts =
      [.contains (.lower (.path "name")) (.lower (.parameter "name_contains")),
        .check (.path "closed") .isNull,
        .compare (.path "abv.max") .atLeast (.parameter "abv.max_from"),
        .or (.check (.path "site") .isNull) (.check (.path "site") .isMissing),
        exclusion "beer"] ∧
    (cellarFilters.predicate "beer").conjuncts.length = 5 ∧
    (cellarFilters.predicate "beer").parameters = ["name_contains", "abv.max_from"] ∧
    ∀ (bucket : Bucket) (parameters : Filters),
      bucket.selected (cellarFilters.leftPredicate "beer") parameters =
        bucket.selected (cellarFilters.predicate "beer") parameters := by
  have hunique : cellarFilters.Unique := by
    unfold Members.Unique
    decide
  obtain ⟨hconjuncts, hlength, hparameters, _, _, _, hselected⟩ :=
    predicate_conjoins "beer" hunique
  refine ⟨hunique, ?_, hlength, ?_, hselected⟩
  · rw [hconjuncts]
    decide
  · rw [hparameters]
    decide

end Filters

end BucketQuery
