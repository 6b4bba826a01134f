import BucketQuery.Proofs.Bucket.Listing
import BucketQuery.Proofs.Json.Collation

set_option autoImplicit false

/-! # ORDER BY

The rows of a statement are put in order by the first clause that tells two of them apart, and rows
that no clause tells apart stay in the order of their ids, whatever the directions. Comparing by a
list of clauses is a total preorder (`transCmp_compareBy`) and the sort is stable
(`pairwise_mergeSort_stable`); together they leave only one possible order of the rows (`answer_ordered`).
-/

namespace BucketQuery

/-! ## Comparing by clauses -/

instance Outcome.transCmp_collate : Std.TransCmp Outcome.collate where
  eq_swap := by
    intro a b
    cases a with
    | missing => cases b <;> rfl
    | value v =>
        cases b with
        | missing => rfl
        | value w => exact Json.compareSorted_swap _ _
  isLE_trans := by
    intro a b c hab hbc
    cases a with
    | missing => cases c <;> rfl
    | value v =>
        -- nothing above a value is missing
        cases b with
        | missing => cases hab
        | value w =>
            cases c with
            | missing => cases hbc
            | value x =>
                have hvw : (Json.collate v w).isLE = true := hab
                have hwx : (Json.collate w x).isLE = true := hbc
                have hvx : (Json.collate v x).isLE = true := Std.TransCmp.isLE_trans hvw hwx
                exact hvx

/-- The order in which a clause puts two scopes: that of what its expression yields, reversed for a
descending clause. -/
def OrderClause.compare (clause : OrderClause) (a b : Scope) : Ordering :=
  match clause.direction with
  | .ascending => Outcome.collate (clause.expression.evaluate a) (clause.expression.evaluate b)
  | .descending => Outcome.collate (clause.expression.evaluate b) (clause.expression.evaluate a)

instance OrderClause.transCmp_compare (clause : OrderClause) : Std.TransCmp clause.compare := by
  obtain ⟨expression, direction⟩ := clause
  have hcollate : Std.TransCmp fun a b : Scope =>
      Outcome.collate (expression.evaluate a) (expression.evaluate b) :=
    { eq_swap := Std.OrientedCmp.eq_swap, isLE_trans := Std.TransCmp.isLE_trans }
  cases direction with
  | ascending => exact hcollate
  | descending => exact @Std.TransCmp.opposite _ _ hcollate

theorem compareBy_cons (clause : OrderClause) (rest : List OrderClause) :
    compareBy (clause :: rest) = compareLex clause.compare (compareBy rest) := rfl

/-- **Comparing by clauses is a total preorder.** -/
instance transCmp_compareBy (clauses : List OrderClause) : Std.TransCmp (compareBy clauses) := by
  induction clauses with
  | nil => exact { eq_swap := rfl, isLE_trans := fun _ _ => rfl }
  | cons clause rest ih =>
      rw [compareBy_cons]
      infer_instance

/-- The first clause that tells two scopes apart puts `a` before `b`. -/
def Precedes (clauses : List OrderClause) (a b : Scope) : Prop :=
  ∃ before clause after, clauses = before ++ clause :: after ∧
    (∀ earlier ∈ before, earlier.compare a b = .eq) ∧ clause.compare a b = .lt

/-- No clause tells two scopes apart. -/
def Tied (clauses : List OrderClause) (a b : Scope) : Prop :=
  ∀ clause ∈ clauses, clause.compare a b = .eq

theorem tied_iff (clauses : List OrderClause) (a b : Scope) :
    Tied clauses a b ↔ compareBy clauses a b = .eq := by
  induction clauses with
  | nil => exact iff_of_true (fun _ h => absurd h List.not_mem_nil) rfl
  | cons clause rest ih =>
      rw [compareBy_cons, compareLex, Ordering.then_eq_eq, ← ih, Tied, List.forall_mem_cons]
      rfl

theorem precedes_cons_iff (clause : OrderClause) (rest : List OrderClause) (a b : Scope) :
    Precedes (clause :: rest) a b ↔
      clause.compare a b = .lt ∨ clause.compare a b = .eq ∧ Precedes rest a b := by
  constructor
  · rintro ⟨before, first, after, heq, hbefore, hfirst⟩
    cases before with
    | nil =>
        obtain ⟨rfl, rfl⟩ := List.cons.inj heq
        exact .inl hfirst
    | cons earlier before =>
        obtain ⟨rfl, rfl⟩ := List.cons.inj heq
        obtain ⟨hclause, hbefore⟩ := List.forall_mem_cons.mp hbefore
        exact .inr ⟨hclause, before, first, after, rfl, hbefore, hfirst⟩
  · rintro (h | ⟨h, before, first, after, rfl, hbefore, hfirst⟩)
    · exact ⟨[], clause, rest, rfl, fun _ hmem => absurd hmem List.not_mem_nil, h⟩
    · exact ⟨clause :: before, first, after, rfl, List.forall_mem_cons.mpr ⟨h, hbefore⟩, hfirst⟩

theorem precedes_iff (clauses : List OrderClause) (a b : Scope) :
    Precedes clauses a b ↔ compareBy clauses a b = .lt := by
  induction clauses with
  | nil =>
      refine iff_of_false ?_ nofun
      rintro ⟨before, clause, after, heq, -⟩
      cases before <;> cases heq
  | cons clause rest ih =>
      rw [precedes_cons_iff, ih, compareBy_cons, compareLex, Ordering.then_eq_lt]

/-! ## Stable sorting -/

section Stable

variable {α : Type} (cmp : α → α → Ordering) [Std.TransCmp cmp]

theorem isLE_total (a b : α) : ((cmp a b).isLE || (cmp b a).isLE) = true := by
  have hswap : cmp b a = (cmp a b).swap := Std.OrientedCmp.eq_swap
  rw [hswap]
  cases cmp a b <;> rfl

/-- Sorting does not move the items that are level with a given one. -/
theorem filter_isEq_mergeSort (a : α) (items : List α) :
    (items.mergeSort fun x y => (cmp x y).isLE).filter (fun x => (cmp a x).isEq) =
      items.filter fun x => (cmp a x).isEq := by
  have hlevel : (items.filter fun x => (cmp a x).isEq).Pairwise
      fun x y => (cmp x y).isLE = true := by
    refine List.pairwise_iff_forall_sublist.mpr fun {x y} hxy => ?_
    have hx := (List.mem_filter.mp (hxy.subset (List.mem_cons_self))).2
    have hy := (List.mem_filter.mp (hxy.subset (List.mem_cons_of_mem _ List.mem_cons_self))).2
    rw [Ordering.isEq_iff_eq_eq] at hx hy
    rw [Std.TransCmp.eq_trans (Std.OrientedCmp.eq_symm hx) hy]
    rfl
  -- they are found in the sorted list in the order in which they were, and it has no others
  have hsublist := (List.sublist_mergeSort (fun _ _ _ => Std.TransCmp.isLE_trans)
    (isLE_total cmp) hlevel List.filter_sublist).filter fun x => (cmp a x).isEq
  simp only [List.filter_filter, Bool.and_self] at hsublist
  have hlength := ((List.mergeSort_perm items fun x y => (cmp x y).isLE).filter
    fun x => (cmp a x).isEq).length_eq
  exact (hsublist.eq_of_length hlength.symm).symm

/-- **Sorting is stable.** Of two sorted items the earlier one is below the later one, or it is
level with it and was the earlier one before. -/
theorem pairwise_mergeSort_stable {items : List α} {was : α → α → Prop} (h : items.Pairwise was) :
    (items.mergeSort fun a b => (cmp a b).isLE).Pairwise fun a b =>
      cmp a b = .lt ∨ cmp a b = .eq ∧ was a b := by
  have hsorted := List.pairwise_mergeSort (fun _ _ _ => Std.TransCmp.isLE_trans)
    (isLE_total cmp) items
  rw [List.pairwise_iff_forall_sublist] at h hsorted ⊢
  intro a b hab
  have hle := hsorted hab
  cases hcmp : cmp a b with
  | lt => exact .inl rfl
  | gt =>
      rw [hcmp] at hle
      cases hle
  | eq =>
      -- level items are not moved, so they stood in this order before
      have hpair : [a, b].filter (fun x => (cmp a x).isEq) = [a, b] := by
        refine List.filter_eq_self.mpr (List.forall_mem_cons.mpr ⟨?_, ?_⟩)
        · exact Ordering.isEq_iff_eq_eq.mpr Std.ReflCmp.compare_self
        · exact List.forall_mem_singleton.mpr (Ordering.isEq_iff_eq_eq.mpr hcmp)
      have hstay := hab.filter fun x => (cmp a x).isEq
      rw [hpair, filter_isEq_mergeSort] at hstay
      exact .inr ⟨rfl, h (hstay.trans List.filter_sublist)⟩

/-- Where level items keep an order that is asymmetric, no two items are each before the other. -/
theorem stable_asymm (was : α → α → Prop) {a b : α} (hasymm : was a b → ¬ was b a)
    (hab : cmp a b = .lt ∨ cmp a b = .eq ∧ was a b) :
    ¬ (cmp b a = .lt ∨ cmp b a = .eq ∧ was b a) := by
  intro hba
  rcases hab with hlt | ⟨heq, hwas⟩
  · rw [Std.OrientedCmp.gt_of_lt hlt] at hba
    rcases hba with h | ⟨h, _⟩
    · cases h
    · cases h
  · rw [Std.OrientedCmp.eq_comm.mp heq] at hba
    rcases hba with h | ⟨_, hwas'⟩
    · cases h
    · exact hasymm hwas hwas'

/-- **Sorting and filtering commute**: what is left of a sorted list is what is left, sorted. -/
theorem filter_mergeSort {items : List α} {was : α → α → Prop} (h : items.Pairwise was)
    (hasymm : ∀ a b, was a b → ¬ was b a) (p : α → Bool) :
    (items.mergeSort fun a b => (cmp a b).isLE).filter p =
      (items.filter p).mergeSort fun a b => (cmp a b).isLE := by
  have hleft := (pairwise_mergeSort_stable cmp h).filter p
  have hright := pairwise_mergeSort_stable cmp (h.filter p)
  have hperm := ((List.mergeSort_perm items fun a b => (cmp a b).isLE).filter p).trans
    (List.mergeSort_perm (items.filter p) fun a b => (cmp a b).isLE).symm
  -- both are stable, which leaves no two items to be in either order
  refine hperm.eq_of_pairwise (fun a b _ _ hab hba => ?_) hleft hright
  exact absurd hba (stable_asymm cmp was (hasymm a b) hab)

end Stable

/-! ## Rows in order -/

/-- Of two rows in order, the first clause that tells them apart puts the earlier one first, or no
clause does and the earlier one has the smaller id. -/
def InOrder (clauses : List OrderClause) (a b : Scope) : Prop :=
  Precedes clauses a b ∨ Tied clauses a b ∧ utf8 a.id < utf8 b.id

theorem inOrder_asymm {clauses : List OrderClause} {a b : Scope} (hab : InOrder clauses a b) :
    ¬ InOrder clauses b a := by
  rw [InOrder, precedes_iff, tied_iff] at hab ⊢
  have hids : utf8 a.id < utf8 b.id → ¬ utf8 b.id < utf8 a.id := List.lt_asymm
  exact stable_asymm (compareBy clauses) (fun a b => utf8 a.id < utf8 b.id) hids hab

namespace Bucket

theorem pairwise_selected (bucket : Bucket) (predicate : Expression) (parameters : Filters) :
    (bucket.selected predicate parameters).Pairwise fun a b => utf8 a.id < utf8 b.id := by
  rw [selected_eq_map_matching, List.pairwise_map]
  exact bucket.pairwise_matching predicate parameters

theorem inOrder_ordered (bucket : Bucket) (statement : Statement) (parameters : Filters) :
    (bucket.ordered statement parameters).Pairwise (InOrder statement.orderBy) := by
  have hids := bucket.pairwise_selected statement.predicate parameters
  refine (pairwise_mergeSort_stable (compareBy statement.orderBy) hids).imp fun {a b} h => ?_
  rw [InOrder, precedes_iff, tied_iff]
  exact h

end Bucket

/-! ## Sort entries -/

/-- What a sort entry compares: the value of its property, and when it ignores case the lower case
of a text and null for any other value. -/
def Order.key (order : Order) (document : Json) : Outcome :=
  match document.lookup? order.property with
  | none => .missing
  | some (.string s) => .value (.string (if order.ignoreCase then lowercase s else s))
  | some value => .value (if order.ignoreCase then .null else value)

theorem Order.evaluate_clause (order : Order) (scope : Scope) :
    order.clause.expression.evaluate scope = order.key scope.document := by
  obtain ⟨property, direction, ignoreCase⟩ := order
  rw [key, clause]
  cases ignoreCase with
  | false =>
      show Outcome.ofOption (scope.document.lookup? property) = _
      cases scope.document.lookup? property with
      | none => rfl
      | some value => cases value <;> rfl
  | true =>
      show (Outcome.ofOption (scope.document.lookup? property)).lower = _
      cases scope.document.lookup? property with
      | none => rfl
      | some value => cases value <;> rfl

namespace Bucket

/-- **ORDER BY is a stable sort by several keys.** Comparing by clauses is a total preorder, in
which the first clause that tells two rows apart decides; what is missing comes before every value,
and a sort entry that ignores case looks at texts in lower case and at other values as null. The
rows of a statement are cut out of the matching documents in the one order in which of any two rows
the earlier one precedes the later one, or ties with it and has the smaller id. -/
theorem answer_ordered (bucket : Bucket) (statement : Statement) (parameters : Filters) :
    Std.TransCmp (compareBy statement.orderBy) ∧
    (∀ a b, compareBy statement.orderBy a b = .lt ↔ Precedes statement.orderBy a b) ∧
    (∀ value, Outcome.collate .missing (.value value) = .lt) ∧
    (∀ (order : Order) (scope : Scope),
      order.clause.expression.evaluate scope = order.key scope.document) ∧
    ∃ sorted : List Scope,
      bucket.answer ⟨{ statement with bucket := bucket.name }, parameters⟩ =
        .ok ((window statement sorted).map statement.projection.row) ∧
      ∀ rows, rows = sorted ↔
        rows.Perm (bucket.selected statement.predicate parameters) ∧
          rows.Pairwise (InOrder statement.orderBy) := by
  refine ⟨inferInstance, fun _ _ => (precedes_iff _ _ _).symm, fun _ => rfl,
    Order.evaluate_clause, bucket.ordered statement parameters, answer_of_bucket_eq rfl _, ?_⟩
  have horder := bucket.inOrder_ordered statement parameters
  have hperm : (bucket.ordered statement parameters).Perm
      (bucket.selected statement.predicate parameters) := List.mergeSort_perm _ _
  intro rows
  constructor
  · rintro rfl
    exact ⟨hperm, horder⟩
  · rintro ⟨hrows, hpairwise⟩
    refine List.Perm.eq_of_pairwise ?_ hpairwise horder (hrows.trans hperm.symm)
    exact fun a b _ _ hab hba => (inOrder_asymm hab hba).elim

end Bucket

end BucketQuery
