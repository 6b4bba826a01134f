import BucketQuery.Proofs.Operation.Paging

set_option autoImplicit false

/-! # The next page

A page says twice whether there is one after it: `hasNext` compares the end of its rows with the
number of all matches, and what is known about the page counts the pages. A page that has a next one
lies before the last of the pages that are counted, wherever its first row is, as long as pages are
not empty (`succ_page_lt_totalPages`). There are no pages of size zero, but before the last match
`hasNext` holds of an empty page all the same (`run_findPage_hasNext`), so that a client which asks
for one empty page after another never stops (`not_collects_of_size_zero`).
-/

namespace BucketQuery

/-! ## Pages cut out of records -/

/-- The page that a request cuts out of all records. -/
def Page.cut {α : Type} (request : PageRequest) (records : List α) : Page α :=
  ⟨(records.drop request.offset.toNat).take request.size.toNat,
    .of request (UInt64.ofNat records.length)⟩

namespace Page

variable {α : Type} {request : PageRequest} {records : List α}

/-- A page with a next one is full. -/
theorem length_cut_of_hasNext
    (hfits : request.offset.toNat + (cut request records).content.length < 2 ^ 64)
    (hnext : (cut request records).hasNext = true) :
    (cut request records).content.length = request.size.toNat := by
  have hlength : (cut request records).content.length =
      min request.size.toNat (records.length - request.offset.toNat) := by
    rw [cut, List.length_take, List.length_drop]
  have htotal : (UInt64.ofNat records.length).toNat ≤ records.length :=
    UInt64.toNat_ofNat ▸ Nat.mod_le _ _
  have hend := (hasNext_iff hfits).mp hnext
  change _ < (UInt64.ofNat records.length).toNat at hend
  change request.offset.toNat + _ < _ at hend
  omega

/-- **A page with a next one is not the last that is counted.** -/
theorem succ_page_lt_totalPages (hsize : 0 < request.size)
    (hfits : request.offset.toNat + (cut request records).content.length < 2 ^ 64)
    (hnext : (cut request records).hasNext = true) :
    (cut request records).info.page.toNat + 1 < (cut request records).info.totalPages.toNat := by
  have hend := (hasNext_iff hfits).mp hnext
  rw [length_cut_of_hasNext hfits hnext] at hend
  show request.pageNumber.toNat + 1 < (pagesFor (UInt64.ofNat records.length) request.size).toNat
  rw [lt_pagesFor_iff _ hsize, PageRequest.toNat_pageNumber]
  calc (request.offset.toNat / request.size.toNat + 1) * request.size.toNat
      = request.offset.toNat / request.size.toNat * request.size.toNat + request.size.toNat :=
        Nat.succ_mul _ _
    _ ≤ request.offset.toNat + request.size.toNat :=
        Nat.add_le_add_right (Nat.div_mul_le_self _ _) _
    _ < (UInt64.ofNat records.length).toNat := hend

/-- Before the last match an empty page has a next one. -/
theorem hasNext_cut_of_size_zero (hsize : request.size = 0) :
    (cut request records).hasNext = true ↔ request.offset < UInt64.ofNat records.length := by
  have hcontent : (cut request records).content.length = 0 := by
    rw [cut, hsize, UInt32.toNat_zero, List.take_zero, List.length_nil]
  rw [hasNext, hcontent, decide_eq_true_iff]
  show request.offset + 0 < _ ↔ _
  rw [UInt64.add_zero]
  rfl

/-- No pages are counted when they are empty. -/
theorem totalPages_cut_of_size_zero (request : PageRequest) (records : List α)
    (hsize : request.size = 0) :
    (cut request records).info.page = 0 ∧ (cut request records).info.totalPages = 0 :=
  ⟨if_pos hsize, if_pos hsize⟩

end Page

/-! ## Pages of a bucket -/

namespace Executor

variable {bucket : Bucket} {executor : Executor}

/-- On a bucket of objects every request is answered with a page cut out of the same records, one
for each match. -/
theorem exists_records_run_findPage (h : executor.bucket = bucket.name)
    (hobjects : ∀ entry ∈ bucket.documents, ∃ members, entry.2 = .object members)
    (filters : Filters) (sort : List Order) (idName : String) :
    ∃ records : List Json,
      records.length = (bucket.matching (filters.predicate executor.bucket) filters).length ∧
      ∀ request : PageRequest, request.sort = sort →
        (executor.findPage (.untyped idName) filters request).run bucket.answer =
          .ok (.cut request records) := by
  obtain ⟨records, hrecords⟩ :=
    exists_readAll_sorted hobjects idName executor.bucket executor.shape filters filters sort
  refine ⟨records, (length_matching_of_readAll hrecords).symm, ?_⟩
  rintro request rfl
  exact run_findPage_of_readAll h hrecords

/-- **What a page says about the next one.** On a bucket of objects every request for a page is
answered. Let the end of its rows be a 64-bit word. If pages are not empty and this one has a next
one, then the pages that are counted go on after it. An empty page has a next one whenever it stands
before the last match, and then no pages are counted at all. -/
theorem run_findPage_hasNext (h : executor.bucket = bucket.name)
    (hobjects : ∀ entry ∈ bucket.documents, ∃ members, entry.2 = .object members)
    (filters : Filters) (request : PageRequest) (idName : String) :
    ∃ page, (executor.findPage (.untyped idName) filters request).run bucket.answer = .ok page ∧
      (executor.count filters).run bucket.answer = .ok page.info.totalElements ∧
      (request.offset.toNat + page.content.length < 2 ^ 64 → 0 < request.size →
        page.hasNext = true → page.info.page.toNat + 1 < page.info.totalPages.toNat) ∧
      (request.size = 0 → page.info.page = 0 ∧ page.info.totalPages = 0 ∧
        (page.hasNext = true ↔ request.offset < page.info.totalElements)) := by
  obtain ⟨records, hlength, hrun⟩ :=
    exists_records_run_findPage h hobjects filters request.sort idName
  refine ⟨_, hrun request rfl, ?_, fun hfits hsize => Page.succ_page_lt_totalPages hsize hfits, ?_⟩
  · rw [run_count h, ← hlength]
    rfl
  · intro hsize
    obtain ⟨hpage, htotal⟩ := Page.totalPages_cut_of_size_zero request records hsize
    exact ⟨hpage, htotal, Page.hasNext_cut_of_size_zero hsize⟩

end Executor

/-! ## Asking for empty pages -/

/-- A client never stops while every page has a next one. -/
theorem not_collects_of_hasNext {α : Type} {fetch : UInt32 → Except QueryError (Page α)}
    (hnext : ∀ index page, fetch index = .ok page → page.hasNext = true) (index : UInt32)
    (collected : List α) : ¬ Collects fetch index collected := by
  intro hcollects
  induction hcollects with
  | last hpage hlast =>
      rw [hnext _ _ hpage] at hlast
      cases hlast
  | next _ _ _ _ ih => exact ih

/-- **A client that asks for empty pages never stops** when something matches. -/
theorem Executor.not_collects_of_size_zero {bucket : Bucket} {executor : Executor}
    (h : executor.bucket = bucket.name)
    (hobjects : ∀ entry ∈ bucket.documents, ∃ members, entry.2 = .object members)
    (filters : Filters) (sort : List Order) (idName : String)
    (hmatches : 0 < UInt64.ofNat
      (bucket.matching (filters.predicate executor.bucket) filters).length)
    (index : UInt32) (collected : List Json) :
    ¬ Collects (executor.pageAt bucket (.untyped idName) filters 0 sort) index collected := by
  obtain ⟨records, hlength, hrun⟩ := exists_records_run_findPage h hobjects filters sort idName
  refine not_collects_of_hasNext (fun k page hpage => ?_) index collected
  rw [pageAt, hrun _ rfl] at hpage
  cases hpage
  rw [Page.hasNext_cut_of_size_zero rfl, hlength]
  show 0 * k.toUInt64 < _
  rw [UInt64.zero_mul]
  exact hmatches

/-! ## Pages of the shop -/

theorem length_matching_shop :
    (shop.matching (Filters.predicate shopExecutor.bucket []) []).length = 3 := by
  decide +kernel

/-- The second of three documents, on a page of its own, has a page after it, and it is counted. -/
theorem run_findPage_hasNext_second :
    (∀ entry ∈ shop.documents, ∃ members, entry.2 = Json.object members) ∧
    ∃ page, (shopExecutor.findPage (.untyped "id") [] ⟨1, 1, []⟩).run shop.answer = .ok page ∧
      page.hasNext = true ∧ page.info.page.toNat + 1 < page.info.totalPages.toNat := by
  have hbucket : shopExecutor.bucket = shop.name := rfl
  obtain ⟨page, hpage, _, hcounted, _⟩ :=
    Executor.run_findPage_hasNext hbucket shop_objects [] ⟨1, 1, []⟩ "id"
  obtain ⟨records, hlength, hrun⟩ :=
    Executor.exists_records_run_findPage hbucket shop_objects [] [] "id"
  cases hpage.symm.trans (hrun ⟨1, 1, []⟩ rfl)
  rw [length_matching_shop] at hlength
  have hcontent : (Page.cut ⟨1, 1, []⟩ records).content.length = 1 := by
    show ((records.drop 1).take 1).length = 1
    rw [List.length_take, List.length_drop, hlength]
    rfl
  have hfits : 1 + (Page.cut ⟨1, 1, []⟩ records).content.length < 2 ^ 64 := by
    rw [hcontent]
    decide
  have hnext : (Page.cut ⟨1, 1, []⟩ records).hasNext = true := by
    rw [@Page.hasNext_iff _ (.cut ⟨1, 1, []⟩ records) hfits, hcontent]
    show 1 + 1 < (UInt64.ofNat records.length).toNat
    rw [hlength]
    decide
  exact ⟨shop_objects, _, hpage, hnext, hcounted hfits (by decide) hnext⟩

/-- **An empty page of the shop has a next one, though no page is counted.** Whoever asks for the
empty pages one after another never stops. -/
theorem hasNext_without_pages :
    (∃ page, (shopExecutor.findPage (.untyped "id") [] (.ofIndex 0 0 [])).run shop.answer =
        .ok page ∧ page.hasNext = true ∧ page.info.page = 0 ∧ page.info.totalPages = 0 ∧
        ¬ page.info.page.toNat + 1 < page.info.totalPages.toNat) ∧
    ∀ collected, ¬ Collects (shopExecutor.pageAt shop (.untyped "id") [] 0 []) 0 collected := by
  have hbucket : shopExecutor.bucket = shop.name := rfl
  obtain ⟨records, hlength, hrun⟩ :=
    Executor.exists_records_run_findPage hbucket shop_objects [] [] "id"
  have hmatches : 0 < UInt64.ofNat
      (shop.matching (Filters.predicate shopExecutor.bucket []) []).length := by
    rw [length_matching_shop]
    decide
  constructor
  · obtain ⟨hpage, htotal⟩ := Page.totalPages_cut_of_size_zero (.ofIndex 0 0 []) records rfl
    refine ⟨_, hrun (.ofIndex 0 0 []) rfl, ?_, hpage, htotal, ?_⟩
    · rw [Page.hasNext_cut_of_size_zero rfl, hlength]
      exact hmatches
    · rw [hpage, htotal]
      decide
  · exact Executor.not_collects_of_size_zero hbucket shop_objects [] [] "id" hmatches 0

end BucketQuery
