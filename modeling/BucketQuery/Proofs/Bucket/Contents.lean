import BucketQuery.Bucket.Basic
import BucketQuery.Proofs.Json.Members
import Mathlib.Data.List.Nodup

set_option autoImplicit false

/-! # What a bucket contains

Documents come into a bucket in turn, and one with an id that is there already takes the place of
the old one. So under each id lies the document that was put in last (`get?_documents_ofList`), and
as the ids are in order whatever was put in first, nothing else of the history is left
(`ofList_eq_ofList_iff`).
-/

namespace BucketQuery

/-- The document that was put in last under an id. -/
def lastPut? : List (String × Json) → String → Option Json
  | [], _ => none
  | (i, document) :: rest, id => (lastPut? rest id).or (if i = id then some document else none)

/-! ## Looking up a document -/

/-- Putting in a document changes what is found under its own id, and under no other. -/
theorem get?_insertById (id : String) (document : Json) (documents : List (String × Json))
    (key : String) :
    Members.get? (insertById id document documents) key =
      if id = key then some document else Members.get? documents key := by
  induction documents with
  | nil => rfl
  | cons entry rest ih =>
      obtain ⟨i, d⟩ := entry
      rw [insertById]
      split
      · rw [Members.get?]
      · next heq =>
        -- the document that stood under this id is replaced
        have hid : id = i := Std.LawfulEqCmp.eq_of_compare heq
        rw [Members.get?, Members.get?, hid]
        split
        · rfl
        · rfl
      · next hgt =>
        have hne : id ≠ i := by
          rintro rfl
          simp at hgt
        rw [Members.get?, Members.get?, ih]
        by_cases hkey : i = key
        · rw [if_pos hkey, if_pos hkey, if_neg (hkey ▸ hne)]
        · rw [if_neg hkey, if_neg hkey]

/-- **The last one put in counts**; under an id that nothing was put in the old one stays. -/
theorem Bucket.get?_documents_insertAll (bucket : Bucket) (entries : List (String × Json))
    (id : String) :
    Members.get? (bucket.insertAll entries).documents id =
      (lastPut? entries id).or (Members.get? bucket.documents id) := by
  induction entries generalizing bucket with
  | nil => rfl
  | cons entry rest ih =>
      obtain ⟨i, document⟩ := entry
      have hput : Members.get? (bucket.insert i document).documents id =
          (if i = id then some document else none).or (Members.get? bucket.documents id) := by
        rw [insert, get?_insertById]
        split
        · rfl
        · rfl
      rw [insertAll, ih, hput, lastPut?, Option.or_assoc]

theorem Bucket.get?_documents_ofList (name : String) (entries : List (String × Json))
    (id : String) : Members.get? (ofList name entries).documents id = lastPut? entries id := by
  rw [ofList, get?_documents_insertAll]
  exact Option.or_none

/-! ## Documents in order -/

theorem IdSorted.unique {documents : List (String × Json)} (h : IdSorted documents) :
    Members.Unique documents := by
  refine List.pairwise_map.mpr (h.imp fun hlt heq => ?_)
  simp [heq] at hlt

/-- In an order in which no two items are each before the other, a list is determined by its
members. -/
theorem eq_of_mem_iff_of_pairwise {α : Type} {before : α → α → Prop}
    (hasymm : ∀ a b, before a b → ¬ before b a) {items others : List α}
    (hitems : items.Pairwise before) (hothers : others.Pairwise before)
    (h : ∀ a, a ∈ items ↔ a ∈ others) : items = others := by
  have hne (a b : α) (hab : before a b) : a ≠ b := by
    rintro rfl
    exact hasymm a a hab hab
  have hperm : items.Perm others :=
    (List.perm_ext_iff_of_nodup (hitems.imp (hne _ _)) (hothers.imp (hne _ _))).mpr h
  exact hperm.eq_of_pairwise (fun a b _ _ hab hba => absurd hba (hasymm a b hab)) hitems hothers

/-- Documents in order are determined by what is found under each id. -/
theorem IdSorted.eq_of_get?_eq {documents others : List (String × Json)}
    (hdocuments : IdSorted documents) (hothers : IdSorted others)
    (h : ∀ id, Members.get? documents id = Members.get? others id) : documents = others := by
  have hasymm (a b : String × Json) (hab : compare a.1 b.1 = .lt) : ¬ compare b.1 a.1 = .lt :=
    Std.OrientedCmp.not_lt_of_lt hab
  refine eq_of_mem_iff_of_pairwise hasymm hdocuments hothers ?_
  rintro ⟨id, document⟩
  rw [← Members.get?_eq_some_iff_mem hdocuments.unique, h,
    Members.get?_eq_some_iff_mem hothers.unique]

namespace Bucket

/-- **A bucket is its contents.** Two buckets are equal when they have the same name and the same
document under each id. -/
theorem ext_get? {bucket other : Bucket} (hname : bucket.name = other.name)
    (h : ∀ id, Members.get? bucket.documents id = Members.get? other.documents id) :
    bucket = other := by
  have hdocuments := bucket.sorted.eq_of_get?_eq other.sorted h
  cases bucket
  cases other
  cases hname
  cases hdocuments
  rfl

theorem name_insertAll (bucket : Bucket) (entries : List (String × Json)) :
    (bucket.insertAll entries).name = bucket.name := by
  induction entries generalizing bucket with
  | nil => rfl
  | cons entry rest ih => exact ih _

/-- Two histories of insertions end with the same bucket exactly when the last document under each
id is the same. -/
theorem ofList_eq_ofList_iff (name : String) (entries others : List (String × Json)) :
    ofList name entries = ofList name others ↔ ∀ id, lastPut? entries id = lastPut? others id := by
  constructor
  · intro h id
    rw [← get?_documents_ofList name, h, get?_documents_ofList]
  · intro h
    refine ext_get? ?_ fun id => ?_
    · rw [ofList, ofList, name_insertAll, name_insertAll]
    · rw [get?_documents_ofList, get?_documents_ofList, h]

end Bucket

end BucketQuery
