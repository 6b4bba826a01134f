import BucketQuery.Record.Basic
import Mathlib.Data.List.Forall2

set_option autoImplicit false

/-! # Reading rows

Rows are read one by one and in order (`readAll_eq_ok_iff`), so that a part of the rows is read as
the same part of the records. Reading fails at the first row that cannot be read
(`readAll_eq_error_iff`).
-/

namespace BucketQuery

/-- In lists that are related place by place, each item on the left is related to one on the
right. -/
theorem exists_mem_of_forall₂ {α β : Type} {r : α → β → Prop} {as : List α} {bs : List β}
    (h : List.Forall₂ r as bs) {a : α} (ha : a ∈ as) : ∃ b ∈ bs, r a b := by
  induction h with
  | nil => cases ha
  | cons hfirst _ ih =>
      rcases List.mem_cons.mp ha with rfl | hrest
      · exact ⟨_, List.mem_cons_self, hfirst⟩
      · obtain ⟨b, hb, hab⟩ := ih hrest
        exact ⟨b, List.mem_cons_of_mem _ hb, hab⟩

namespace RecordType

variable {α : Type} {type : RecordType α} {shape : RowShape}

/-- Rows are read when each of them is, and then in order. -/
theorem readAll_eq_ok_iff {rows : List Json} {records : List α} :
    type.readAll shape rows = .ok records ↔
      List.Forall₂ (fun row record => type.readValue shape row = .ok record) rows records := by
  induction rows generalizing records with
  | nil =>
      rw [readAll, List.forall₂_nil_left_iff]
      exact ⟨fun h => (Except.ok.inj h).symm, fun h => h ▸ rfl⟩
  | cons row rest ih =>
      rw [readAll, List.forall₂_cons_left_iff]
      cases hrow : type.readValue shape row with
      | error e => exact ⟨fun h => (nomatch h), fun ⟨_, _, h, _⟩ => (nomatch h)⟩
      | ok record =>
          cases hrest : type.readAll shape rest with
          | error e =>
              -- a later row fails: neither side can give records
              constructor
              · intro h
                cases h
              · rintro ⟨_, tail, _, htail, rfl⟩
                rw [ih.mpr htail] at hrest
                cases hrest
          | ok tail =>
              constructor
              · intro h
                exact ⟨record, tail, rfl, ih.mp hrest, (Except.ok.inj h).symm⟩
              · rintro ⟨record', tail', hrecord, htail, rfl⟩
                rw [ih.mpr htail] at hrest
                cases hrecord
                cases hrest
                rfl

theorem length_of_readAll {rows : List Json} {records : List α}
    (h : type.readAll shape rows = .ok records) : records.length = rows.length :=
  (readAll_eq_ok_iff.mp h).length_eq.symm

/-- Rows that are read together are each read. -/
theorem exists_readValue_of_readAll {rows : List Json} {records : List α}
    (h : type.readAll shape rows = .ok records) {row : Json} (hrow : row ∈ rows) :
    ∃ record, type.readValue shape row = .ok record := by
  obtain ⟨record, _, hrecord⟩ := exists_mem_of_forall₂ (readAll_eq_ok_iff.mp h) hrow
  exact ⟨record, hrecord⟩

/-- Rows each of which can be read can be read together. -/
theorem exists_readAll {rows : List Json}
    (h : ∀ row ∈ rows, ∃ record, type.readValue shape row = .ok record) :
    ∃ records, type.readAll shape rows = .ok records := by
  induction rows with
  | nil => exact ⟨[], rfl⟩
  | cons row rest ih =>
      obtain ⟨record, hrecord⟩ := h row List.mem_cons_self
      obtain ⟨records, hrecords⟩ := ih fun r hr => h r (List.mem_cons_of_mem _ hr)
      exact ⟨record :: records,
        readAll_eq_ok_iff.mpr (.cons hrecord (readAll_eq_ok_iff.mp hrecords))⟩

/-- A stretch of the rows is read as the same stretch of the records. -/
theorem readAll_take_drop {rows : List Json} {records : List α}
    (h : type.readAll shape rows = .ok records) (offset limit : Nat) :
    type.readAll shape ((rows.drop offset).take limit) =
      .ok ((records.drop offset).take limit) :=
  readAll_eq_ok_iff.mpr
    (List.forall₂_take limit (List.forall₂_drop offset (readAll_eq_ok_iff.mp h)))

/-! ## The first row that cannot be read -/

/-- After rows that can be read, reading fails as the next row does. -/
theorem readAll_append_cons {before : List Json} {row : Json} {error : QueryError}
    (hbefore : ∀ r ∈ before, ∃ record, type.readValue shape r = .ok record)
    (hrow : type.readValue shape row = .error error) (after : List Json) :
    type.readAll shape (before ++ row :: after) = .error error := by
  induction before with
  | nil =>
      rw [List.nil_append, readAll, hrow]
      rfl
  | cons first rest ih =>
      obtain ⟨⟨record, hrecord⟩, hrest⟩ := List.forall_mem_cons.mp hbefore
      rw [List.cons_append, readAll, hrecord, ih hrest]
      rfl

/-- **Reading fails exactly as the first row does that cannot be read.** -/
theorem readAll_eq_error_iff {rows : List Json} {error : QueryError} :
    type.readAll shape rows = .error error ↔
      ∃ before row after, rows = before ++ row :: after ∧
        (∀ r ∈ before, ∃ record, type.readValue shape r = .ok record) ∧
        type.readValue shape row = .error error := by
  constructor
  · intro h
    induction rows with
    | nil => cases h
    | cons row rest ih =>
        rw [readAll] at h
        cases hrow : type.readValue shape row with
        | error e =>
            rw [hrow] at h
            cases h
            exact ⟨[], row, rest, rfl, fun _ hr => absurd hr List.not_mem_nil, hrow⟩
        | ok record =>
            cases hrest : type.readAll shape rest with
            | ok records =>
                rw [hrow, hrest] at h
                cases h
            | error e =>
                rw [hrow, hrest] at h
                cases h
                obtain ⟨before, bad, after, rfl, hbefore, hbad⟩ := ih hrest
                exact ⟨row :: before, bad, after, rfl,
                  List.forall_mem_cons.mpr ⟨⟨record, hrow⟩, hbefore⟩, hbad⟩
  · rintro ⟨before, row, after, rfl, hbefore, hrow⟩
    exact readAll_append_cons hbefore hrow after

end RecordType

end BucketQuery
