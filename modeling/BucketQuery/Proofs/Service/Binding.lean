import BucketQuery.Operation.Executor
import BucketQuery.Proofs.Filter.Predicate
import BucketQuery.Proofs.Json.Members
import BucketQuery.Service.Request
import Mathlib.Data.List.Nodup

set_option autoImplicit false

/-! # What a request binds

An operation of an executor asks a few queries, and each of them carries the predicate and the
values of the filter map that it was given (`Executor.Asks`). The body of the request for such a
query is the statement and after it one member for each filter,

    "statement": …, "$k₁": v₁, …, "$kₙ": vₙ,

whatever the keys are: the dollar sign keeps them apart from the statement, and taken away again it
leaves the filter map as it was (`Executor.bodyMembers_asked`).
-/

namespace BucketQuery

/-! ## The queries of an executor -/

section Queries

variable {α β : Type}

/-- Work on the result of a plan asks for nothing. -/
theorem Plan.queries_andThen (answer : Query → Except TransportError (List Json)) (plan : Plan α)
    (f : α → Except QueryError β) : (plan.andThen f).queries answer = plan.queries answer := by
  induction plan with
  | done result => rfl
  | ask query next ih =>
      rw [Plan.andThen, Plan.queries, Plan.queries]
      cases answer query with
      | error e => rfl
      | ok rows => exact congrArg _ (ih rows)

/-- A plan that is done after one query asks for this query. -/
theorem Plan.queries_ask_done (answer : Query → Except TransportError (List Json)) (query : Query)
    (next : List Json → Except QueryError α) :
    (Plan.ask query fun rows => .done (next rows)).queries answer = [query] := by
  rw [Plan.queries]
  cases answer query <;> rfl

end Queries

/-- A query that some operation of an executor asks by a filter map, whatever the answers are. -/
inductive Executor.Asks (executor : Executor) (filters : Filters) (query : Query) : Prop where
  | find {α : Type} (type : RecordType α) (answer : Query → Except TransportError (List Json))
      (h : query ∈ (executor.find type filters).queries answer)
  | findOne {α : Type} (type : RecordType α) (answer : Query → Except TransportError (List Json))
      (h : query ∈ (executor.findOne type filters).queries answer)
  | findPage {α : Type} (type : RecordType α) (request : PageRequest)
      (answer : Query → Except TransportError (List Json))
      (h : query ∈ (executor.findPage type filters request).queries answer)
  | count (answer : Query → Except TransportError (List Json))
      (h : query ∈ (executor.count filters).queries answer)
  | sum (field : String) (answer : Query → Except TransportError (List Json))
      (h : query ∈ (executor.sum filters field).queries answer)

namespace Executor

variable {α : Type} (executor : Executor) (filters : Filters)
  (answer : Query → Except TransportError (List Json))

theorem queries_find (type : RecordType α) :
    (executor.find type filters).queries answer =
      [⟨.list executor.bucket filters, filters⟩] :=
  Plan.queries_ask_done answer _ _

theorem queries_count :
    (executor.count filters).queries answer = [⟨.count executor.bucket filters, filters⟩] :=
  Plan.queries_ask_done answer _ _

theorem queries_sum (field : String) :
    (executor.sum filters field).queries answer =
      [⟨.sum executor.bucket filters field, filters⟩] :=
  Plan.queries_ask_done answer _ _

/-- A page is asked for first, and then the count. -/
theorem queries_findPage (type : RecordType α) (request : PageRequest) :
    (executor.findPage type filters request).queries answer =
      ⟨.paged executor.bucket filters request, filters⟩ ::
        match answer ⟨.paged executor.bucket filters request, filters⟩ with
        | .error _ => []
        | .ok _ => [⟨.count executor.bucket filters, filters⟩] := by
  rw [findPage, Plan.queries]
  cases answer ⟨.paged executor.bucket filters request, filters⟩ with
  | error e => rfl
  | ok rows =>
      show _ :: ((executor.count filters).andThen _).queries answer = _
      rw [Plan.queries_andThen, queries_count]

variable {executor filters}

/-- What is asked is one of four statements, with the filter map as its values. -/
theorem Asks.cases {query : Query} (h : executor.Asks filters query) :
    query.parameters = filters ∧
      (query.statement = .list executor.bucket filters ∨
        (∃ request, query.statement = .paged executor.bucket filters request) ∨
        query.statement = .count executor.bucket filters ∨
        ∃ field, query.statement = .sum executor.bucket filters field) := by
  cases h with
  | find type answer h =>
      rw [queries_find] at h
      cases List.mem_singleton.mp h
      exact ⟨rfl, .inl rfl⟩
  | findOne type answer h =>
      rw [Executor.findOne, Plan.queries_andThen, queries_find] at h
      cases List.mem_singleton.mp h
      exact ⟨rfl, .inl rfl⟩
  | findPage type request answer h =>
      rw [queries_findPage] at h
      rcases List.mem_cons.mp h with rfl | h
      · exact ⟨rfl, .inr (.inl ⟨request, rfl⟩)⟩
      · split at h
        · cases h
        · cases List.mem_singleton.mp h
          exact ⟨rfl, .inr (.inr (.inl rfl))⟩
  | count answer h =>
      rw [queries_count] at h
      cases List.mem_singleton.mp h
      exact ⟨rfl, .inr (.inr (.inl rfl))⟩
  | sum field answer h =>
      rw [queries_sum] at h
      cases List.mem_singleton.mp h
      exact ⟨rfl, .inr (.inr (.inr ⟨field, rfl⟩))⟩

/-- Every query carries the predicate of the filter map. -/
theorem Asks.predicate_eq {query : Query} (h : executor.Asks filters query) :
    query.statement.predicate = filters.predicate executor.bucket := by
  obtain ⟨_, hlist | ⟨request, hpaged⟩ | hcount | ⟨field, hsum⟩⟩ := h.cases
  · rw [hlist]
    rfl
  · rw [hpaged]
    rfl
  · rw [hcount]
    rfl
  · rw [hsum]
    rfl

/-- Sort entries have no parameters. -/
theorem Asks.parameters_orderBy {query : Query} (h : executor.Asks filters query) :
    ∀ clause ∈ query.statement.orderBy, clause.expression.parameters = [] := by
  intro clause hclause
  obtain ⟨_, hlist | ⟨request, hpaged⟩ | hcount | ⟨field, hsum⟩⟩ := h.cases
  · rw [hlist] at hclause
    cases hclause
  · rw [hpaged] at hclause
    obtain ⟨order, _, rfl⟩ := List.mem_map.mp hclause
    rw [Order.clause]
    split
    · rfl
    · rfl
  · rw [hcount] at hclause
    cases hclause
  · rw [hsum] at hclause
    cases hclause

end Executor

/-! ## The body of a request -/

namespace Request

/-- The name in a body under which the value of a key is bound. -/
def boundName (key : String) : String := "$" ++ key

/-- A name without the dollar sign in front. -/
def unmarked? (name : String) : Option String :=
  match name.toList with
  | '$' :: rest => some (String.ofList rest)
  | _ => none

/-- The values that a body binds, under their keys: all members but the first, with one dollar sign
taken away from each name. -/
def bound? (body : Members) : Option Filters :=
  body.tail.mapM fun member => (unmarked? member.1).map fun key => (key, member.2)

theorem toList_boundName (key : String) : (boundName key).toList = '$' :: key.toList := by
  rw [boundName, String.toList_append]
  rfl

theorem unmarked?_boundName (key : String) : unmarked? (boundName key) = some key := by
  rw [unmarked?, toList_boundName]
  exact congrArg some String.ofList_toList

theorem boundName_injective : Function.Injective boundName := by
  intro key other h
  have hkey := unmarked?_boundName key
  rw [h, unmarked?_boundName] at hkey
  exact (Option.some.inj hkey).symm

/-- No key is bound under the name of the statement. -/
theorem boundName_ne_statement (key : String) : boundName key ≠ "statement" := by
  intro h
  have hlist := congrArg String.toList h
  rw [toList_boundName] at hlist
  exact absurd (List.cons.inj hlist).1 (by decide)

/-- The members that bind the values of a filter map. -/
def bindings (filters : Filters) : Members :=
  filters.map fun filter => (boundName filter.1, filter.2)

theorem keys_bindings (filters : Filters) :
    (bindings filters).map Prod.fst = (filters.map Prod.fst).map boundName := by
  rw [bindings, List.map_map, List.map_map]
  rfl

theorem unique_statement_cons {filters : Filters} (h : filters.Unique) (text : Json) :
    Members.Unique (("statement", text) :: bindings filters) := by
  rw [Members.Unique, List.map_cons, keys_bindings, List.nodup_cons]
  refine ⟨?_, List.Nodup.map boundName_injective h⟩
  intro hmem
  obtain ⟨key, _, hkey⟩ := List.mem_map.mp hmem
  exact boundName_ne_statement key hkey

/-- **The members of a body**: the statement, and after it the values in the order of the map. -/
theorem bodyMembers_eq {query : Query} (h : query.parameters.Unique) :
    bodyMembers query =
      ("statement", .string query.statement.text) :: bindings query.parameters :=
  Members.insertAll_eq_append (unique_statement_cons h _)

/-- Taking the dollar signs away gives the filter map back. -/
theorem bound?_cons_bindings (first : String × Json) (filters : Filters) :
    bound? (first :: bindings filters) = some filters := by
  rw [bound?, List.tail_cons]
  induction filters with
  | nil => rfl
  | cons entry rest ih =>
      rw [bindings, List.map_cons, List.mapM_cons, ← bindings, ih, unmarked?_boundName]
      rfl

theorem get?_bindings {filters : Filters} {key : String} {value : Json}
    (h : filters.get? key = some value) : (bindings filters).get? (boundName key) = some value := by
  induction filters with
  | nil => cases h
  | cons entry rest ih =>
      obtain ⟨k, v⟩ := entry
      by_cases hk : k = key
      · subst hk
        rw [Members.get?_cons_self] at h
        cases h
        exact Members.get?_cons_self _ _ _
      · rw [Members.get?_cons_of_ne hk] at h
        rw [bindings, List.map_cons, Members.get?_cons_of_ne (boundName_injective.ne hk)]
        exact ih h

end Request

open Request in
/-- **A request binds every value once.** For every query that an executor asks by a filter map, the
body of the request has the statement as its first member and one member more for each filter, in
the order of the map, with distinct names. Without the first member and one dollar sign of every
name it is the filter map again. Every parameter of the predicate is bound, and the sort entries have
none. -/
theorem Executor.bodyMembers_asked {executor : Executor} {filters : Filters} {query : Query}
    (hunique : filters.Unique) (hasked : executor.Asks filters query) :
    bodyMembers query =
      ("statement", .string query.statement.text) ::
        filters.map (fun filter => ("$" ++ filter.1, filter.2)) ∧
    (bodyMembers query).length = 1 + filters.length ∧
    (bodyMembers query).Unique ∧
    bound? (bodyMembers query) = some filters ∧
    (∀ name ∈ query.statement.predicate.parameters, ∃ value,
      filters.get? name = some value ∧ (bodyMembers query).get? ("$" ++ name) = some value) ∧
    ∀ clause ∈ query.statement.orderBy, clause.expression.parameters = [] := by
  have hparameters : query.parameters = filters := hasked.cases.1
  have hbody : bodyMembers query =
      ("statement", .string query.statement.text) :: bindings filters := by
    rw [bodyMembers_eq (hparameters.symm ▸ hunique), hparameters]
  refine ⟨hbody, ?_, ?_, ?_, ?_, hasked.parameters_orderBy⟩
  · rw [hbody, List.length_cons, bindings, List.length_map, Nat.add_comm]
  · rw [hbody]
    exact unique_statement_cons hunique _
  · rw [hbody]
    exact bound?_cons_bindings _ filters
  · intro name hname
    rw [hasked.predicate_eq, Filters.parameters_predicate] at hname
    obtain ⟨value, hvalue⟩ := (Members.mem_keys_iff _ _).mp (List.mem_of_mem_filter hname)
    refine ⟨value, hvalue, ?_⟩
    have hne : "statement" ≠ "$" ++ name := (boundName_ne_statement name).symm
    rw [hbody, Members.get?_cons_of_ne hne]
    exact get?_bindings hvalue

/-- A filter map with keys that look like the members of a body. -/
def trickyFilters : Filters :=
  [("statement", .string "x"), ("$x", .bool true), ("x", .null), ("x_null", .null),
    ("$statement", .ofUInt64 1)]

/-- A sum by these filters. -/
def trickyQuery : Query := ⟨.sum "b" trickyFilters "x", trickyFilters⟩

/-- The request for the sum sends every one of the filters under a name of its own. -/
theorem Executor.bodyMembers_asked_tricky :
    trickyFilters.Unique ∧ (Executor.mk "b" ⟨false, true⟩).Asks trickyFilters trickyQuery ∧
    (Request.bodyMembers trickyQuery).map Prod.fst =
      ["statement", "$statement", "$$x", "$x", "$x_null", "$$statement"] ∧
    Request.bound? (Request.bodyMembers trickyQuery) = some trickyFilters := by
  have hunique : trickyFilters.Unique := by
    show (["statement", "$x", "x", "x_null", "$statement"] : List String).Nodup
    decide
  have hasked : (Executor.mk "b" ⟨false, true⟩).Asks trickyFilters trickyQuery :=
    .sum "x" (fun _ => .ok []) (List.mem_singleton_self _)
  obtain ⟨hbody, _, _, hbound, _⟩ := bodyMembers_asked hunique hasked
  refine ⟨hunique, hasked, ?_, hbound⟩
  rw [hbody]
  decide

end BucketQuery
