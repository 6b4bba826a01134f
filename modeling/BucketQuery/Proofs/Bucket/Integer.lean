import BucketQuery.Proofs.Bucket.Ordering
import BucketQuery.Proofs.Number.Rounding

set_option autoImplicit false

/-! # Integers in a bucket

Integers are ordered as the doubles they round to. So the order of two integers is never turned
round, and it is kept when one of them is below `2^53` in magnitude; but two greater integers that
round to one double are level (`collate_collision`). This is as exact as a filter for equality and a
sort entry are on documents that hold integers (`integers_rounded`).
-/

namespace BucketQuery

/-- An integer as a value. -/
def Json.ofInteger (i : Int) (inRange : IntegerRange i) : Json := .number (.integer i inRange)

/-- One of two integers is below `2^53` in magnitude. -/
def OneSmall (i j : Int) : Prop := i.natAbs < 2 ^ 53 ∨ j.natAbs < 2 ^ 53

section Collation

variable {i j : Int} (hi : IntegerRange i) (hj : IntegerRange j)

theorem collate_ofInteger :
    Json.collate (.ofInteger i hi) (.ofInteger j hj) =
      compare (Number.integer i hi).signedUnits (Number.integer j hj).signedUnits := rfl

theorem isLE_collate_ofInteger (h : i ≤ j) :
    (Json.collate (.ofInteger i hi) (.ofInteger j hj)).isLE = true := by
  rw [collate_ofInteger, Std.isLE_compare]
  exact Number.signedUnits_integer_mono hi hj h

/-- **Small integers are ordered exactly**, whatever they are compared with. -/
theorem collate_ofInteger_of_oneSmall (h : OneSmall i j) :
    Json.collate (.ofInteger i hi) (.ofInteger j hj) = compare i j := by
  rw [collate_ofInteger]
  rcases lt_trichotomy i j with hlt | rfl | hgt
  · rw [compare_lt_iff_lt.mpr hlt, compare_lt_iff_lt]
    exact Number.signedUnits_integer_lt hi hj h hlt
  · rw [compare_eq_iff_eq.mpr rfl, compare_eq_iff_eq.mpr rfl]
  · rw [compare_gt_iff_gt.mpr hgt, compare_gt_iff_gt]
    exact Number.signedUnits_integer_lt hj hi h.symm hgt

/-- Integers that are not told apart are equal if one of them is small. -/
theorem eq_of_collate_ofInteger (h : OneSmall i j)
    (heq : Json.collate (.ofInteger i hi) (.ofInteger j hj) = .eq) : i = j := by
  rw [collate_ofInteger_of_oneSmall hi hj h, compare_eq_iff_eq] at heq
  exact heq

/-- Integers in order are so by value if one of them is small. -/
theorem le_of_isLE_collate_ofInteger (h : OneSmall i j)
    (hle : (Json.collate (.ofInteger i hi) (.ofInteger j hj)).isLE = true) : i ≤ j := by
  rwa [collate_ofInteger_of_oneSmall hi hj h, Std.isLE_compare] at hle

end Collation

namespace Bucket

/-- A document selected for an equal integer has one that is not told apart from it. -/
theorem collate_eq_of_mem_matching {bucket : Bucket} {name key path : String}
    (hkey : FilterKey.read key = ⟨key, path, .equals⟩) {id : String} {found wanted document : Json}
    (hfound : document.lookup? path = some found)
    (hmem : (id, document) ∈
      bucket.matching (Filters.predicate name [(key, wanted)]) [(key, wanted)]) :
    Json.collate found wanted = .eq := by
  have htrue := (List.mem_filter.mp hmem).2
  have hwanted : Members.get? [(key, wanted)] key = some wanted := by
    rw [Members.get?, if_pos rfl]
  have haccepts := ((evaluate_predicate name [(key, wanted)] id document).mp htrue).1 key wanted
    hwanted
  rw [hkey] at haccepts
  obtain ⟨value, hvalue, -, -, heq⟩ := haccepts
  rw [hfound, Option.some_inj] at hvalue
  rw [hvalue]
  exact heq

/-- The rows of a statement are in the order of what is found at a path that is its first clause. -/
theorem pairwise_lookup_ordered {bucket : Bucket} {statement : Statement} {path : String}
    {rest : List OrderClause} (h : statement.orderBy = ⟨.path path, .ascending⟩ :: rest)
    (parameters : Filters) :
    (bucket.ordered statement parameters).Pairwise fun a b => ∀ x y,
      a.document.lookup? path = some x → b.document.lookup? path = some y →
        (Json.collate x y).isLE = true := by
  refine (bucket.inOrder_ordered statement parameters).imp fun {a b} hab x y hx hy => ?_
  rw [InOrder, precedes_iff, tied_iff, h, compareBy_cons, compareLex] at hab
  have hfirst : OrderClause.compare ⟨.path path, .ascending⟩ a b = Json.collate x y := by
    show Outcome.collate (.ofOption (a.document.lookup? path))
      (.ofOption (b.document.lookup? path)) = _
    rw [hx, hy]
    rfl
  rw [hfirst] at hab
  -- the other clauses are asked only where the first one finds no difference
  cases hcollate : Json.collate x y with
  | lt => rfl
  | eq => rfl
  | gt =>
      rw [hcollate] at hab
      rcases hab with hab | ⟨hab, -⟩
      · cases hab
      · cases hab

end Bucket

/-! ## Two integers that are not told apart -/

/-- The least integer that is no double. -/
def oddInteger : Json := .ofInteger 9007199254740993 (by decide)

/-- The integer before it, a double. -/
def evenInteger : Json := .ofInteger 9007199254740992 (by decide)

/-- A bucket with a document that holds the greater integer. -/
def ledger : Bucket := .ofList "ledger" [("a", .object [("p", oddInteger)])]

theorem collate_oddInteger_evenInteger : Json.collate oddInteger evenInteger = .eq := by
  decide +kernel

/-- The filter for the one integer selects the document with the other. -/
theorem matching_ledger :
    ledger.matching (Filters.predicate "ledger" [("p", evenInteger)]) [("p", evenInteger)] =
      [("a", .object [("p", oddInteger)])] := by
  have hkey : FilterKey.read "p" = ⟨"p", "p", .equals⟩ := by decide
  have hsatisfied : Filters.Satisfied [("p", evenInteger)] (.object [("p", oddInteger)]) := by
    intro key wanted hwanted
    rw [Members.get?] at hwanted
    split at hwanted
    · next h =>
      rw [← h, hkey, ← Option.some.inj hwanted]
      exact ⟨oddInteger, rfl, Json.noConfusion, Json.noConfusion, collate_oddInteger_evenInteger⟩
    · cases hwanted
  have hid : ¬ GatewayId "a" := by
    rintro ⟨first, rest, h⟩
    cases h
  exact List.filter_eq_self.mpr (List.forall_mem_singleton.mpr
    ((evaluate_predicate _ _ _ _).mpr ⟨hsatisfied, hid⟩))

/-! ## Filters and sort entries -/

namespace Bucket

/-- **Integers are compared as the doubles they round to.** Their order is never turned round, and
it is exact when one of them is below `2^53` in magnitude. So a filter for equality selects, of the
documents that hold an integer, only those whose integer is not told apart from the wanted one, and
rows sorted by a path have their integers in ascending order except among those that are not told
apart; where one of two integers is small, the first are equal and the others really ascend. -/
theorem integers_rounded (bucket : Bucket) :
    (∀ (i j : Int) (hi : IntegerRange i) (hj : IntegerRange j),
      (i ≤ j → (Json.collate (.ofInteger i hi) (.ofInteger j hj)).isLE = true) ∧
      (OneSmall i j → Json.collate (.ofInteger i hi) (.ofInteger j hj) = compare i j)) ∧
    (∀ (key path id : String) (document : Json) (i j : Int) (hi : IntegerRange i)
      (hj : IntegerRange j), FilterKey.read key = ⟨key, path, .equals⟩ →
      document.lookup? path = some (.ofInteger i hi) →
      (id, document) ∈ bucket.matching (Filters.predicate bucket.name [(key, .ofInteger j hj)])
        [(key, .ofInteger j hj)] →
      Json.collate (.ofInteger i hi) (.ofInteger j hj) = .eq ∧ (OneSmall i j → i = j)) ∧
    ∀ (statement : Statement) (path : String) (rest : List OrderClause) (parameters : Filters),
      statement.orderBy = ⟨.path path, .ascending⟩ :: rest →
      (bucket.ordered statement parameters).Pairwise fun a b =>
        ∀ (i j : Int) (hi : IntegerRange i) (hj : IntegerRange j),
          a.document.lookup? path = some (.ofInteger i hi) →
          b.document.lookup? path = some (.ofInteger j hj) →
          (Json.collate (.ofInteger i hi) (.ofInteger j hj)).isLE = true ∧
          (OneSmall i j → i ≤ j) := by
  refine ⟨fun i j hi hj => ?_, ?_, ?_⟩
  · exact ⟨isLE_collate_ofInteger hi hj, collate_ofInteger_of_oneSmall hi hj⟩
  · intro key path id document i j hi hj hkey hfound hmem
    have heq := collate_eq_of_mem_matching hkey hfound hmem
    exact ⟨heq, fun hsmall => eq_of_collate_ofInteger hi hj hsmall heq⟩
  · intro statement path rest parameters h
    refine (pairwise_lookup_ordered h parameters).imp fun {a b} hab i j hi hj hx hy => ?_
    have hle := hab _ _ hx hy
    exact ⟨hle, fun hsmall => le_of_isLE_collate_ofInteger hi hj hsmall hle⟩

/-- In the ledger a small integer is ordered exactly, and what is selected for the one integer of
the two is level with it. -/
theorem integers_rounded_ledger :
    OneSmall 9007199254740993 3 ∧ Json.collate oddInteger (.ofInteger 3 (by decide)) = .gt ∧
    ("a", Json.object [("p", oddInteger)]) ∈
      ledger.matching (Filters.predicate "ledger" [("p", evenInteger)]) [("p", evenInteger)] ∧
    Json.collate oddInteger evenInteger = .eq ∧
    (ledger.ordered { Statement.list "ledger" [] with
      orderBy := [⟨.path "p", .ascending⟩] } []).Pairwise fun a b =>
        ∀ (i j : Int) (hi : IntegerRange i) (hj : IntegerRange j),
          a.document.lookup? "p" = some (.ofInteger i hi) →
          b.document.lookup? "p" = some (.ofInteger j hj) →
          (Json.collate (.ofInteger i hi) (.ofInteger j hj)).isLE = true ∧
          (OneSmall i j → i ≤ j) := by
  have hsmall : OneSmall 9007199254740993 3 := .inr (by decide)
  have hmem : ("a", Json.object [("p", oddInteger)]) ∈
      ledger.matching (Filters.predicate "ledger" [("p", evenInteger)]) [("p", evenInteger)] := by
    rw [matching_ledger]
    exact List.mem_singleton_self _
  obtain ⟨hcollate, hselected, hsorted⟩ := integers_rounded ledger
  refine ⟨hsmall, (hcollate _ _ _ _).2 hsmall, hmem, ?_, hsorted _ "p" [] [] rfl⟩
  exact (hselected "p" "p" "a" _ _ _ _ _ (by decide) rfl hmem).1

/-- Two different integers are level, and a filter for the one selects the document that holds the
other. -/
theorem collate_collision :
    (9007199254740992 : Int) < 9007199254740993 ∧ Json.collate oddInteger evenInteger = .eq ∧
    ledger.answer ⟨.list "ledger" [("p", evenInteger)], [("p", evenInteger)]⟩ =
      .ok [documentRow ("a", .object [("p", oddInteger)])] := by
  refine ⟨by decide, collate_oddInteger_evenInteger, ?_⟩
  rw [answer_of_bucket_eq rfl, rows_list]
  exact congrArg (fun entries => Except.ok (entries.map documentRow)) matching_ledger

end Bucket

end BucketQuery
