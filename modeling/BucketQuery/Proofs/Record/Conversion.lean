import BucketQuery.Proofs.Json.Members
import BucketQuery.Record.Basic

set_option autoImplicit false

/-! # Record documents

A row of any shape becomes a record document by a few changes of the document in it, each under a
key of its own: the id is set, and a gateway's metadata is taken out and leaves its revision. What
stands under every other key stays (`PlainRecord`, `GatewayRecord`), whatever the order of the row,
whatever else the row carries, and whatever field the record type declares for the id
(`RowShape.convert_frames`).
-/

namespace BucketQuery

namespace RowShape

/-! ## Rows -/

/-- A row is split when its id is a text and its data are an object. -/
theorem split_eq_ok_iff {row document : Members} {id : String} :
    split row = .ok (document, id) ↔
      row.get? "id" = some (.string id) ∧ row.get? "data" = some (.object document) := by
  constructor
  · intro h
    rw [split] at h
    split at h
    · cases h
    · next hid =>
      split at h
      · cases h
      · next hdata =>
        cases h
        exact ⟨hid, hdata⟩
      · cases h
    · cases h
  · rintro ⟨hid, hdata⟩
    rw [split, idField, dataField, hid, hdata]

/-- A row is converted when it is split, and fails with it otherwise. -/
theorem convert_eq_bind (shape : RowShape) (declared : String) (row : Members) :
    shape.convert declared row = (split row).map fun (document, id) =>
      (if shape.gateway then withoutMetadata document else document).insert
        (shape.target declared) (.string id) := by
  rw [convert]
  cases split row with
  | error e => rfl
  | ok parts => rfl

theorem exists_convert_eq_error_iff (shape : RowShape) (declared : String) (row : Members) :
    (∃ error, shape.convert declared row = .error error) ↔
      (¬ ∃ id, row.get? "id" = some (.string id)) ∨
        ¬ ∃ document, row.get? "data" = some (.object document) := by
  rw [convert_eq_bind, ← not_and_or]
  cases hsplit : split row with
  | error e =>
      refine iff_of_true ⟨e, rfl⟩ ?_
      rintro ⟨⟨id, hid⟩, document, hdata⟩
      cases hsplit.symm.trans (split_eq_ok_iff.mpr ⟨hid, hdata⟩)
  | ok parts =>
      obtain ⟨hid, hdata⟩ := split_eq_ok_iff.mp hsplit
      exact iff_of_false nofun (not_not_intro ⟨⟨_, hid⟩, _, hdata⟩)

/-- Only the id and the data of a row count. -/
theorem convert_congr (shape : RowShape) (declared : String) {row other : Members}
    (hid : other.get? "id" = row.get? "id") (hdata : other.get? "data" = row.get? "data") :
    shape.convert declared other = shape.convert declared row := by
  have hsplit : split other = split row := by
    rw [split, split, idField, dataField, hid, hdata]
  rw [convert_eq_bind, convert_eq_bind, hsplit]

/-! ## Gateway documents -/

/-- The metadata in a gateway's document state a revision. -/
def HasRevision (document : Members) (revision : String) : Prop :=
  ∃ metadata : Members, document.get? "_sync" = some (.object metadata) ∧
    metadata.get? "rev" = some (.string revision)

theorem revision?_eq_some_iff {document : Members} {revision : String} :
    revision? document = some revision ↔ HasRevision document revision := by
  rw [revision?, metadataField, Option.bind_eq_some_iff]
  constructor
  · rintro ⟨metadata, hmetadata, h⟩
    obtain ⟨rev, hrev, htext⟩ := Option.bind_eq_some_iff.mp h
    cases metadata with
    | object metadata =>
        cases rev with
        | string rev =>
            cases htext
            exact ⟨metadata, hmetadata, hrev⟩
        | _ => cases htext
    | _ => cases hrev
  · rintro ⟨metadata, hmetadata, hrev⟩
    refine ⟨.object metadata, hmetadata, ?_⟩
    exact Option.bind_eq_some_iff.mpr ⟨.string revision, hrev, rfl⟩

theorem unique_withoutMetadata {document : Members} (h : document.Unique) :
    (withoutMetadata document).Unique := by
  rw [withoutMetadata]
  split
  · exact Members.unique_insert (Members.unique_remove h _) _ _
  · exact Members.unique_remove h _

/-- Without its metadata a gateway's document shows the revision and what else it had. -/
theorem get?_withoutMetadata {document : Members} (h : document.Unique) (key : String) :
    (withoutMetadata document).get? key =
      if key = "_rev" ∧ (revision? document).isSome then (revision? document).map Json.string
      else if key = "_sync" then none else document.get? key := by
  have hrest : (document.remove "_sync").get? key =
      if key = "_sync" then none else document.get? key := by
    rw [Members.get?_remove h]
    simp only [eq_comm]
  rw [withoutMetadata, metadataField, revisionField]
  cases revision? document with
  | none =>
      rw [if_neg (fun hkey => Bool.false_ne_true hkey.2)]
      exact hrest
  | some revision =>
      show (Members.insert _ _ _).get? key = _
      rw [Members.get?_insert, hrest]
      by_cases hkey : key = "_rev"
      · rw [if_pos hkey.symm, if_pos ⟨hkey, rfl⟩, Option.map_some]
      · have hother : ¬ (key = "_rev" ∧ (some revision).isSome = true) := fun hboth => hkey hboth.1
        rw [if_neg (Ne.symm hkey), if_neg hother]

/-! ## Records -/

/-- **The record document of a plain bucket.** Only the id is set: in place, or at the end. -/
structure PlainRecord (document : Members) (field id : String) (record : Members) : Prop where
  unique : record.Unique
  identified : record.get? field = some (.string id)
  others : ∀ key, key ≠ field → record.get? key = document.get? key
  order : record.map Prod.fst =
    if field ∈ document.map Prod.fst then document.map Prod.fst
    else document.map Prod.fst ++ [field]

/-- **The record document of a gateway's bucket.** The metadata are gone, a revision that they state
is shown, and the id is set over all that. -/
structure GatewayRecord (document : Members) (field id : String) (record : Members) : Prop where
  unique : record.Unique
  identified : record.get? field = some (.string id)
  metadata : field ≠ "_sync" → record.get? "_sync" = none
  revised : field ≠ "_rev" → ∀ revision, HasRevision document revision →
    record.get? "_rev" = some (.string revision)
  unrevised : field ≠ "_rev" → (∀ revision, ¬ HasRevision document revision) →
    record.get? "_rev" = document.get? "_rev"
  others : ∀ key, key ≠ field → key ≠ "_sync" → key ≠ "_rev" →
    record.get? key = document.get? key

theorem plainRecord_insert {document : Members} (h : document.Unique) (field id : String) :
    PlainRecord document field id (document.insert field (.string id)) where
  unique := Members.unique_insert h _ _
  identified := by
    rw [Members.get?_insert, if_pos rfl]
  others := by
    intro key hkey
    rw [Members.get?_insert, if_neg (Ne.symm hkey)]
  order := Members.keys_insert document field _

theorem gatewayRecord_insert {document : Members} (h : document.Unique) (field id : String) :
    GatewayRecord document field id ((withoutMetadata document).insert field (.string id)) where
  unique := Members.unique_insert (unique_withoutMetadata h) _ _
  identified := by
    rw [Members.get?_insert, if_pos rfl]
  metadata := by
    intro hfield
    rw [Members.get?_insert, if_neg hfield, get?_withoutMetadata h, if_neg (by simp), if_pos rfl]
  revised := by
    intro hfield revision hrevision
    have hstated := revision?_eq_some_iff.mpr hrevision
    rw [Members.get?_insert, if_neg hfield, get?_withoutMetadata h, hstated, if_pos ⟨rfl, rfl⟩]
    rfl
  unrevised := by
    intro hfield hnone
    have hstated : revision? document = none :=
      Option.eq_none_iff_forall_ne_some.mpr fun revision hrevision =>
        hnone revision (revision?_eq_some_iff.mp hrevision)
    rw [Members.get?_insert, if_neg hfield, get?_withoutMetadata h, hstated, if_neg (by simp),
      if_neg (by decide)]
  others := by
    intro key hfield hsync hrev
    rw [Members.get?_insert, if_neg (Ne.symm hfield), get?_withoutMetadata h,
      if_neg (by simp [hrev]), if_neg hsync]

/-- **Conversion touches a few keys and nothing else.** A row of any shape fails as malformed exactly
when its id is no text or its data are no object. Nothing but its id and its data counts. The record
document of a plain bucket is the document with the id under `id` or under the declared field; that
of a gateway's bucket is the document without its metadata, with the revision from them, and with the
id under `_id` or under the declared field, which may be any name. -/
theorem convert_frames (shape : RowShape) (declared : String) (row : Members) :
    ((∃ error, shape.convert declared row = .error error) ↔
      (¬ ∃ id, row.get? "id" = some (.string id)) ∨
        ¬ ∃ document, row.get? "data" = some (.object document)) ∧
    (∀ other : Members, other.get? "id" = row.get? "id" → other.get? "data" = row.get? "data" →
      shape.convert declared other = shape.convert declared row) ∧
    ∀ (id : String) (document : Members), row.get? "id" = some (.string id) →
      row.get? "data" = some (.object document) → document.Unique →
      ∃ record, shape.convert declared row = .ok record ∧
        match shape with
        | ⟨false, true⟩ => PlainRecord document "id" id record
        | ⟨false, false⟩ => PlainRecord document declared id record
        | ⟨true, true⟩ => GatewayRecord document "_id" id record
        | ⟨true, false⟩ => GatewayRecord document declared id record := by
  refine ⟨exists_convert_eq_error_iff shape declared row, ?_, ?_⟩
  · exact fun other hid hdata => convert_congr shape declared hid hdata
  · intro id document hid hdata hunique
    rw [convert_eq_bind, split_eq_ok_iff.mpr ⟨hid, hdata⟩]
    refine ⟨_, rfl, ?_⟩
    match shape with
    | ⟨false, true⟩ => exact plainRecord_insert hunique "id" id
    | ⟨false, false⟩ => exact plainRecord_insert hunique declared id
    | ⟨true, true⟩ => exact gatewayRecord_insert hunique "_id" id
    | ⟨true, false⟩ => exact gatewayRecord_insert hunique declared id

/-- A gateway's document of a ticket that once had a field for its revision. -/
def ticket : Members :=
  [("title", .string "Broken"),
    ("_sync", .object [("sequence", .ofUInt64 12), ("rev", .string "3-abc")]),
    ("_rev", .string "stale"), ("open", .bool true)]

/-- The row of the ticket, with a member that nothing asks for. -/
def ticketRow : Members := [("score", .null), ("data", .object ticket), ("id", .string "t1")]

/-- With the metadata field declared for the id, the ticket shows its id there, its revision instead
of the stale one, and what else it had. -/
theorem convert_frames_ticket :
    ticket.Unique ∧ ∃ record, (RowShape.mk true false).convert "_sync" ticketRow = .ok record ∧
      record.Unique ∧ record.get? "_sync" = some (.string "t1") ∧
      record.get? "_rev" = some (.string "3-abc") ∧ record.get? "open" = ticket.get? "open" := by
  have hunique : ticket.Unique := by
    show (["title", "_sync", "_rev", "open"] : List String).Nodup
    decide
  have hrevision : HasRevision ticket "3-abc" :=
    ⟨[("sequence", .ofUInt64 12), ("rev", .string "3-abc")], rfl, rfl⟩
  obtain ⟨record, hrecord, hframe⟩ :=
    (convert_frames ⟨true, false⟩ "_sync" ticketRow).2.2 "t1" ticket rfl rfl hunique
  have hfields : GatewayRecord ticket "_sync" "t1" record := hframe
  exact ⟨hunique, record, hrecord, hfields.unique, hfields.identified,
    hfields.revised (by decide) "3-abc" hrevision,
    hfields.others "open" (by decide) (by decide) (by decide)⟩

end RowShape

end BucketQuery
