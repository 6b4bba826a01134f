import BucketQuery.Proofs.Operation.Executor

set_option autoImplicit false

/-! # What the exclusion hides

A gateway reserves the ids that begin with `_sync:` for documents of its own (`ReservedId`). The
pattern of the exclusion is that word and a percent sign, and to a pattern an underscore is any one
character. So the exclusion hides every reserved id, and with them the ids in which another
character stands in the place of the underscore (`gatewayId_iff`); without filters these are all the
documents that are not found and not counted (`find_count_unfiltered`).
-/

namespace BucketQuery

/-- The ids that a gateway reserves. -/
def ReservedId (id : String) : Prop := "_sync:".toList <+: id.toList

/-- The ids that look like reserved ones but for their first character. -/
def LookalikeId (id : String) : Prop :=
  ∃ first rest, first ≠ '_' ∧ id.toList = first :: ("sync:".toList ++ rest)

theorem not_reservedId_of_lookalikeId {id : String} (h : LookalikeId id) : ¬ ReservedId id := by
  obtain ⟨first, rest, hfirst, hid⟩ := h
  rw [ReservedId, hid]
  exact fun hprefix => hfirst (List.cons_prefix_cons.mp hprefix).1.symm

/-- **The pattern describes the reserved ids and their lookalikes.** -/
theorem gatewayId_iff (id : String) : GatewayId id ↔ ReservedId id ∨ LookalikeId id := by
  constructor
  · rintro ⟨first, rest, hid⟩
    by_cases hfirst : first = '_'
    · subst hfirst
      exact .inl ⟨rest, hid.symm⟩
    · exact .inr ⟨first, rest, hfirst, hid⟩
  · rintro (⟨rest, hid⟩ | ⟨first, rest, -, hid⟩)
    · exact ⟨'_', rest, hid.symm⟩
    · exact ⟨first, rest, hid⟩

instance (id : String) : Decidable (GatewayId id) :=
  decidable_of_iff _ (accepts_gatewayPattern id)

namespace Bucket

/-- The documents of a bucket that are not a gateway's own. -/
def visible (bucket : Bucket) : List (String × Json) :=
  bucket.documents.filter fun entry => ¬ GatewayId entry.1

theorem mem_visible_iff (bucket : Bucket) (id : String) (document : Json) :
    (id, document) ∈ bucket.visible ↔ (id, document) ∈ bucket.documents ∧ ¬ GatewayId id := by
  rw [visible, List.mem_filter, decide_eq_true_iff]

/-- Without filters the exclusion alone decides. -/
theorem matching_exclusion (bucket : Bucket) (name : String) (parameters : Filters) :
    bucket.matching (Filters.exclusion name) parameters = bucket.visible := by
  refine List.filter_congr fun (id, document) _ => Bool.eq_iff_iff.mpr ?_
  rw [evaluate_exclusion, decide_eq_true_iff]

end Bucket

namespace Executor

variable {α : Type}

/-- **What the exclusion hides.** On every id the exclusion fails exactly for the reserved ids and
their lookalikes. Without filters all the other documents of a bucket are found and counted. -/
theorem find_count_unfiltered (bucket : Bucket) (shape : RowShape) (type : RecordType α) :
    (∀ scope : Scope, ((Filters.exclusion bucket.name).evaluate scope).isTrue = false ↔
      ReservedId scope.id ∨ LookalikeId scope.id) ∧
    (∀ id document, (id, document) ∈ bucket.visible ↔
      (id, document) ∈ bucket.documents ∧ ¬ ReservedId id ∧ ¬ LookalikeId id) ∧
    ((Executor.mk bucket.name shape).find type []).run bucket.answer =
      type.readAll shape (bucket.visible.map documentRow) ∧
    ((Executor.mk bucket.name shape).count []).run bucket.answer =
      .ok (UInt64.ofNat bucket.visible.length) := by
  refine ⟨fun scope => ?_, fun id document => ?_, ?_, ?_⟩
  · rw [← gatewayId_iff, ← Bool.not_eq_true, evaluate_exclusion, not_not]
  · rw [Bucket.mem_visible_iff, gatewayId_iff, not_or]
  · rw [run_find rfl, Filters.predicate, Bucket.matching_exclusion]
  · rw [run_count rfl, Filters.predicate, Bucket.matching_exclusion]

end Executor

/-! ## A lookalike -/

/-- A bucket with one document, whose id is not a reserved one. -/
def crossing : Bucket := .ofList "crossing" [("xsync:1", .object [])]

/-- The only document of the bucket is hidden. -/
theorem exclusion_hides_lookalike :
    ("xsync:1", Json.object []) ∈ crossing.documents ∧ ¬ ReservedId "xsync:1" ∧
    (∀ document parameters, ((Filters.exclusion crossing.name).evaluate
      ⟨"xsync:1", document, parameters⟩).isTrue = false) ∧
    ∀ shape, ((Executor.mk crossing.name shape).count []).run crossing.answer = .ok 0 := by
  have hlookalike : LookalikeId "xsync:1" := ⟨'x', ['1'], by decide, rfl⟩
  have hgateway : GatewayId "xsync:1" := (gatewayId_iff _).mpr (.inr hlookalike)
  have hvisible : crossing.visible = [] := by
    refine List.filter_eq_nil_iff.mpr fun entry hentry => ?_
    rw [List.mem_singleton.mp hentry, decide_eq_true_iff, not_not]
    exact hgateway
  refine ⟨List.mem_singleton_self _, not_reservedId_of_lookalikeId hlookalike, ?_, ?_⟩
  · intro document parameters
    rw [← Bool.not_eq_true, evaluate_exclusion, not_not]
    exact hgateway
  · intro shape
    rw [Executor.run_count rfl, Filters.predicate, Bucket.matching_exclusion, hvisible]
    rfl

end BucketQuery
