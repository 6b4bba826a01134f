import BucketQuery.Json.Written

set_option autoImplicit false

/-! # Buckets in memory

A bucket holds documents by id, in the order of the ids. The order is part of the type: the
documents with distinct ids are always listed with ascending ids (`Bucket.sorted`), however
they came into the bucket.
-/

namespace BucketQuery

/-- Documents with ascending ids. -/
def IdSorted (documents : List (String × Json)) : Prop :=
  documents.Pairwise fun a b => compare a.1 b.1 = .lt

/-- Puts a document into a list with ascending ids; a document with the same id is replaced. -/
def insertById (id : String) (document : Json) : List (String × Json) → List (String × Json)
  | [] => [(id, document)]
  | (i, d) :: rest =>
    match compare id i with
    | .lt => (id, document) :: (i, d) :: rest
    | .eq => (id, document) :: rest
    | .gt => (i, d) :: insertById id document rest

/-- A document found after an insertion was inserted or was there before. -/
theorem mem_insertById {id : String} {document : Json} {documents : List (String × Json)}
    {entry : String × Json} (h : entry ∈ insertById id document documents) :
    entry = (id, document) ∨ entry ∈ documents := by
  induction documents with
  | nil => simpa [insertById] using h
  | cons head rest ih =>
    obtain ⟨i, d⟩ := head
    simp only [insertById] at h
    split at h
    · simpa using h
    · rcases List.mem_cons.1 h with h | h
      · exact .inl h
      · exact .inr (List.mem_cons_of_mem _ h)
    · rcases List.mem_cons.1 h with h | h
      · exact .inr (h ▸ List.mem_cons_self)
      · exact (ih h).imp_right (List.mem_cons_of_mem _)

/-- An insertion keeps the ids ascending. -/
theorem idSorted_insertById {id : String} {document : Json} {documents : List (String × Json)}
    (h : IdSorted documents) : IdSorted (insertById id document documents) := by
  induction documents with
  | nil => exact List.pairwise_singleton _ _
  | cons head rest ih =>
    obtain ⟨i, d⟩ := head
    have ⟨below, sorted⟩ := List.pairwise_cons.1 h
    simp only [insertById]
    split
    · next lt =>
      refine List.pairwise_cons.2 ⟨fun entry mem => ?_, h⟩
      rcases List.mem_cons.1 mem with rfl | mem
      · exact lt
      · exact Std.TransCmp.lt_trans lt (below entry mem)
    · next eq =>
      refine List.pairwise_cons.2 ⟨fun entry mem => ?_, sorted⟩
      exact (Std.LawfulEqCmp.eq_of_compare eq) ▸ below entry mem
    · next gt =>
      refine List.pairwise_cons.2 ⟨fun entry mem => ?_, ih sorted⟩
      rcases mem_insertById mem with rfl | mem
      · exact Std.OrientedCmp.lt_of_gt gt
      · exact below entry mem

/-- A named bucket of documents. -/
structure Bucket where
  name : String
  documents : List (String × Json)
  sorted : IdSorted documents

namespace Bucket

/-- The bucket without documents. -/
def empty (name : String) : Bucket := ⟨name, [], List.Pairwise.nil⟩

/-- The bucket with a document put in; one with the same id is replaced. -/
def insert (bucket : Bucket) (id : String) (document : Json) : Bucket :=
  { bucket with
    documents := insertById id document bucket.documents
    sorted := idSorted_insertById bucket.sorted }

/-- The bucket with some documents put in, in turn. -/
def insertAll (bucket : Bucket) : List (String × Json) → Bucket
  | [] => bucket
  | (id, document) :: rest => insertAll (bucket.insert id document) rest

/-- The bucket of the documents of a list. -/
def ofList (name : String) (documents : List (String × Json)) : Bucket :=
  (empty name).insertAll documents

/-- The bucket that a text holds: a JSON object with the documents by id. -/
def read? (name text : String) : Option Bucket := (Members.read? text).map (ofList name)

/-- How many documents a bucket holds. -/
def size (bucket : Bucket) : Nat := bucket.documents.length

end Bucket

end BucketQuery
