import BucketQuery.Operation.Error
import BucketQuery.Query.Statement

set_option autoImplicit false

/-! # Records

A row carries a document and its id. The shape of the rows says under which field the id goes
into the document, and whether the document carries the metadata of a gateway; a record type
says how the finished document is read.

| documents of | default id field | id field of the record type |
|---|---|---|
| a plain bucket | `id` | as declared |
| a gateway's bucket | `_id` | as declared |
-/

namespace BucketQuery

/-- How a row becomes a record document. -/
structure RowShape where
  gateway : Bool
  defaultIdField : Bool
  deriving DecidableEq

namespace RowShape

/-- The name of a shape. -/
def name : RowShape → String
  | ⟨false, true⟩ => "couchbase"
  | ⟨false, false⟩ => "couchbase-id-field"
  | ⟨true, true⟩ => "sync-gateway"
  | ⟨true, false⟩ => "sync-gateway-id-field"

/-- The field that receives the id, given the one that the record type declares. -/
def target (shape : RowShape) (declared : String) : String :=
  match shape with
  | ⟨_, false⟩ => declared
  | ⟨false, true⟩ => "id"
  | ⟨true, true⟩ => "_id"

/-- The document and the id of a row. -/
def split (row : Members) : Except RowError (Members × String) :=
  match row.get? idField with
  | none => .error .idAbsent
  | some (.string id) =>
    match row.get? dataField with
    | none => .error .dataAbsent
    | some (.object document) => .ok (document, id)
    | some other => .error (.dataNotObject other)
  | some other => .error (.idNotString other)

/-- The field of a gateway's metadata. -/
def metadataField : String := "_sync"

/-- The field that shows the revision of a gateway's document. -/
def revisionField : String := "_rev"

/-- The revision in a gateway's metadata. -/
def revision? (document : Members) : Option String :=
  (document.get? metadataField).bind fun metadata =>
    (metadata.member? "rev").bind (·.string?)

/-- A gateway's document without its metadata, the revision shown in a field of its own. -/
def withoutMetadata (document : Members) : Members :=
  let rest := document.remove metadataField
  match revision? document with
  | some revision => rest.insert revisionField (.string revision)
  | none => rest

/-- The record document of a row. -/
def convert (shape : RowShape) (declared : String) (row : Members) : Except RowError Members := do
  let (document, id) ← split row
  let document := if shape.gateway then withoutMetadata document else document
  return document.insert (shape.target declared) (.string id)

end RowShape

/-- A type of records: the field that receives the document id when the shape of the rows
honours it, how a document is read, and how a record is shown. -/
structure RecordType (α : Type) where
  idField : String
  read : Members → Except RecordError α
  toJson : α → Json

namespace RecordType

variable {α : Type}

/-- Records that are documents as they are. -/
def untyped (idField : String) : RecordType Json :=
  ⟨idField, fun document => .ok (.object document), id⟩

/-- Reads the record of a row. -/
def readRow (type : RecordType α) (shape : RowShape) (row : Members) : Except QueryError α :=
  match shape.convert type.idField row with
  | .error e => .error (.row e)
  | .ok document => (type.read document).mapError .record

/-- Reads the record of a row that may not even be an object. -/
def readValue (type : RecordType α) (shape : RowShape) : Json → Except QueryError α
  | .object row => type.readRow shape row
  | other => .error (.row (.notObject other))

/-- Reads the records of rows, in order. The first row that is none decides the failure. -/
def readAll (type : RecordType α) (shape : RowShape) : List Json → Except QueryError (List α)
  | [] => .ok []
  | row :: rest => do
    let record ← type.readValue shape row
    let records ← type.readAll shape rest
    return record :: records

end RecordType

end BucketQuery
