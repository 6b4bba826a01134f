import BucketQuery.Proofs.Bucket.Sorted
import BucketQuery.Proofs.Json.Members
import BucketQuery.Proofs.Operation.Executor
import BucketQuery.Proofs.Query.Page
import BucketQuery.Proofs.Record.Reading

set_option autoImplicit false

/-! # Paging

The rows of a paged statement are a stretch of the rows in the same order without limit and offset
(`rows_paged`), and reading rows as records keeps stretches. So the page with index `k` is the
`k`-th piece of all records, and a client that asks for one page after another until there is no
next one has collected every record once and in order (`pageAt_pages`).
-/

namespace BucketQuery

/-! ## Records of object documents -/

/-- The row of an object document is read as an untyped record that carries its id. -/
theorem RecordType.exists_readValue_documentRow (idName : String) (shape : RowShape) (id : String)
    (members : Members) :
    ∃ record, (untyped idName).readValue shape (documentRow (id, .object members)) = .ok record ∧
      record.member? (shape.target idName) = some (.string id) := by
  refine ⟨_, rfl, ?_⟩
  show Members.get? (Members.insert _ (shape.target idName) _) _ = _
  rw [Members.get?_insert, if_pos rfl]

/-- All rows of a bucket of objects are read as untyped records, in whatever order. -/
theorem exists_readAll_sorted {bucket : Bucket}
    (hobjects : ∀ entry ∈ bucket.documents, ∃ members, entry.2 = .object members)
    (idName name : String) (shape : RowShape) (filters parameters : Filters) (sort : List Order) :
    ∃ records, (RecordType.untyped idName).readAll shape
      (bucket.rows (.sorted name filters sort) parameters) = .ok records := by
  refine RecordType.exists_readAll fun row hrow => ?_
  rw [(bucket.rows_sorted_perm name filters parameters sort).mem_iff, Bucket.rows_list,
    List.mem_map] at hrow
  obtain ⟨⟨id, document⟩, hentry, rfl⟩ := hrow
  obtain ⟨members, rfl⟩ := hobjects _ (List.mem_of_mem_filter hentry)
  obtain ⟨record, hrecord, _⟩ := RecordType.exists_readValue_documentRow idName shape id members
  exact ⟨record, hrecord⟩

/-! ## One page -/

/-- What a bucket answers to the request for the page with an index. -/
def Executor.pageAt {α : Type} (executor : Executor) (bucket : Bucket) (type : RecordType α)
    (filters : Filters) (size : UInt32) (sort : List Order) (index : UInt32) :
    Except QueryError (Page α) :=
  (executor.findPage type filters (.ofIndex index size sort)).run bucket.answer

section Pieces

variable {bucket : Bucket} {executor : Executor} {type : RecordType Json} {filters : Filters}
  {sort : List Order} {records : List Json}

/-- There are as many records as documents that match. -/
theorem length_matching_of_readAll
    (hrecords : type.readAll executor.shape
      (bucket.rows (.sorted executor.bucket filters sort) filters) = .ok records) :
    (bucket.matching (filters.predicate executor.bucket) filters).length = records.length := by
  rw [RecordType.length_of_readAll hrecords, (bucket.rows_sorted_perm _ _ _ _).length_eq,
    Bucket.rows_list, List.length_map]

/-- A page is a stretch of all records, and it carries the number of them. -/
theorem Executor.run_findPage_of_readAll (h : executor.bucket = bucket.name)
    {request : PageRequest}
    (hrecords : type.readAll executor.shape
      (bucket.rows (.sorted executor.bucket filters request.sort) filters) = .ok records) :
    (executor.findPage type filters request).run bucket.answer =
      .ok ⟨(records.drop request.offset.toNat).take request.size.toNat,
        .of request (UInt64.ofNat records.length)⟩ := by
  rw [run_findPage h, Bucket.rows_paged, RecordType.readAll_take_drop hrecords,
    length_matching_of_readAll hrecords]
  rfl

/-- The page with an index is a piece of all records. -/
theorem Executor.pageAt_eq (h : executor.bucket = bucket.name)
    (hrecords : type.readAll executor.shape
      (bucket.rows (.sorted executor.bucket filters sort) filters) = .ok records)
    (size index : UInt32) :
    executor.pageAt bucket type filters size sort index =
      .ok ⟨(records.drop (index.toNat * size.toNat)).take size.toNat,
        .of (.ofIndex index size sort) (UInt64.ofNat records.length)⟩ := by
  have hsize : (PageRequest.ofIndex index size sort).size = size := rfl
  rw [pageAt, run_findPage_of_readAll h hrecords, PageRequest.toNat_offset_ofIndex, hsize]

end Pieces

/-- A page that is a piece of all records knows whether they go on after it. -/
theorem hasNext_ofIndex_iff {records : List Json} {size : UInt32}
    (hbound : records.length ≤ 2 ^ 32 * size.toNat) (page : UInt32) (sort : List Order) :
    (Page.mk ((records.drop (page.toNat * size.toNat)).take size.toNat)
        (.of (.ofIndex page size sort) (UInt64.ofNat records.length))).hasNext = true ↔
      (page.toNat + 1) * size.toNat < records.length := by
  have hpage := page.toNat_lt
  have hsize := size.toNat_lt
  have hoffset := PageRequest.toNat_offset_ofIndex page size sort
  have htotal : (UInt64.ofNat records.length).toNat = records.length := by
    refine UInt64.toNat_ofNat_of_lt' (Nat.lt_of_le_of_lt hbound ?_)
    rw [UInt64.size]
    omega
  -- the end of a page is a 64-bit word whatever the index and the size, so nothing wraps around
  have hend : (page.toNat + 1) * size.toNat < 2 ^ 64 := by
    calc (page.toNat + 1) * size.toNat ≤ 2 ^ 32 * size.toNat := Nat.mul_le_mul_right _ hpage
      _ < 2 ^ 64 := by omega
  have hmul : (page.toNat + 1) * size.toNat = page.toNat * size.toNat + size.toNat :=
    Nat.succ_mul _ _
  have hlength : ((records.drop (page.toNat * size.toNat)).take size.toNat).length =
      min size.toNat (records.length - page.toNat * size.toNat) := by
    rw [List.length_take, List.length_drop]
  rw [Page.hasNext_iff]
  · show (PageRequest.ofIndex page size sort).offset.toNat + _ < (UInt64.ofNat _).toNat ↔ _
    rw [hoffset, htotal, hlength]
    omega
  · show (PageRequest.ofIndex page size sort).offset.toNat + _ < _
    rw [hoffset, hlength]
    omega

/-! ## One page after another -/

/-- What a client has collected that asks for the pages from an index on, one after another while
there is a next one, until it stops. The index stays a 32-bit word. -/
inductive Collects {α : Type} (fetch : UInt32 → Except QueryError (Page α)) :
    UInt32 → List α → Prop where
  | last {index : UInt32} {page : Page α} (hpage : fetch index = .ok page)
      (hnext : page.hasNext = false) : Collects fetch index page.content
  | next {index : UInt32} {page : Page α} {rest : List α} (hpage : fetch index = .ok page)
      (hnext : page.hasNext = true) (hfits : index.toNat + 1 < 2 ^ 32)
      (hrest : Collects fetch (index + 1) rest) : Collects fetch index (page.content ++ rest)

/-- A client cannot collect two things. -/
theorem Collects.unique {α : Type} {fetch : UInt32 → Except QueryError (Page α)} {index : UInt32}
    {a b : List α} (ha : Collects fetch index a) (hb : Collects fetch index b) : a = b := by
  induction ha generalizing b with
  | last hpage hnext =>
      cases hb with
      | last hpage' hnext' =>
          cases hpage.symm.trans hpage'
          rfl
      | next hpage' hnext' =>
          cases hpage.symm.trans hpage'
          rw [hnext] at hnext'
          cases hnext'
  | next hpage hnext _ _ ih =>
      cases hb with
      | last hpage' hnext' =>
          cases hpage.symm.trans hpage'
          rw [hnext] at hnext'
          cases hnext'
      | next hpage' _ _ hrest' =>
          cases hpage.symm.trans hpage'
          rw [ih hrest']

/-- Pages that are the pieces of a list, and know whether the list goes on, collect the list. -/
theorem collects_drop {α : Type} {fetch : UInt32 → Except QueryError (Page α)} {records : List α}
    {size : Nat}
    (hpages : ∀ index : UInt32, ∃ page, fetch index = .ok page ∧
      page.content = (records.drop (index.toNat * size)).take size ∧
      (page.hasNext = true ↔ (index.toNat + 1) * size < records.length))
    (hbound : records.length ≤ 2 ^ 32 * size) (index : UInt32) :
    Collects fetch index (records.drop (index.toNat * size)) := by
  -- the induction is on the number of indices that are left
  induction hleft : 2 ^ 32 - index.toNat generalizing index with
  | zero =>
      have hindex := index.toNat_lt
      omega
  | succ left ih =>
      obtain ⟨page, hpage, hcontent, hnext⟩ := hpages index
      have hsplit : records.drop (index.toNat * size) =
          page.content ++ records.drop ((index.toNat + 1) * size) := by
        rw [hcontent, Nat.succ_mul, ← List.drop_drop, List.take_append_drop]
      by_cases hmore : (index.toNat + 1) * size < records.length
      · -- more records than fit on the pages so far, so the next index is still a word
        have hfits : index.toNat + 1 < 2 ^ 32 :=
          Nat.lt_of_mul_lt_mul_right (Nat.lt_of_lt_of_le hmore hbound)
        have hsucc : (index + 1).toNat = index.toNat + 1 := by
          rw [UInt32.toNat_add, UInt32.toNat_one, Nat.mod_eq_of_lt hfits]
        rw [hsplit, ← hsucc]
        exact .next hpage (hnext.mpr hmore) hfits (ih (index + 1) (by omega))
      · have hend : records.drop ((index.toNat + 1) * size) = [] :=
          List.drop_eq_nil_of_le (Nat.le_of_not_lt hmore)
        rw [hsplit, hend, List.append_nil]
        exact .last hpage (Bool.eq_false_iff.mpr (mt hnext.mp hmore))

/-- **Paging neither loses nor repeats a record.** On a bucket of objects, take all matching rows in
an order, and the records they are read as. The page with index `k` holds the records from
`k * size` to `(k + 1) * size`; every page carries the count of all matches, as counting on its own
gives it, and how many pages they fill. A client that starts at the first page and goes on while
there is a next one stops with exactly these records.

Counts are 64-bit words and indices 32-bit words: the numbers on a page are those of the rows as
long as the rows can be counted at all, and a client gets through as long as indices last. -/
theorem pageAt_pages {bucket : Bucket} {executor : Executor} (h : executor.bucket = bucket.name)
    (hobjects : ∀ entry ∈ bucket.documents, ∃ members, entry.2 = .object members)
    {size : UInt32} (hsize : 0 < size) (filters : Filters) (sort : List Order) (idName : String) :
    ∃ rows listed records : List Json,
      bucket.answer ⟨.sorted executor.bucket filters sort, filters⟩ = .ok rows ∧
      bucket.answer ⟨.list executor.bucket filters, filters⟩ = .ok listed ∧ rows.Perm listed ∧
      (RecordType.untyped idName).readAll executor.shape rows = .ok records ∧
      (∀ k : UInt32, ∃ page,
        executor.pageAt bucket (.untyped idName) filters size sort k = .ok page ∧
        page.content = records.extract (k.toNat * size.toNat)
          (min ((k.toNat + 1) * size.toNat) rows.length) ∧
        (executor.count filters).run bucket.answer = .ok page.info.totalElements ∧
        (rows.length < 2 ^ 64 → page.info.totalElements.toNat = rows.length ∧
          page.info.totalPages.toNat = rows.length ⌈/⌉ size.toNat)) ∧
      (rows.length ≤ 2 ^ 32 * size.toNat → ∀ collected : List Json,
        Collects (executor.pageAt bucket (.untyped idName) filters size sort) 0 collected ↔
          collected = records) := by
  obtain ⟨records, hrecords⟩ :=
    exists_readAll_sorted hobjects idName executor.bucket executor.shape filters filters sort
  have hpage := Executor.pageAt_eq h hrecords size
  have hperm := bucket.rows_sorted_perm executor.bucket filters filters sort
  have hlength := RecordType.length_of_readAll hrecords
  refine ⟨_, _, records, Bucket.answer_of_bucket_eq h _, Bucket.answer_of_bucket_eq h _, hperm,
    hrecords, ?_, ?_⟩
  · -- one page: its piece of the records, and the numbers that it carries
    intro k
    refine ⟨_, hpage k, ?_, ?_, ?_⟩
    · show (records.drop _).take _ = records.extract _ _
      rw [← hlength, List.extract_eq_take_drop, List.take_eq_take_iff, List.length_drop,
        Nat.succ_mul]
      omega
    · rw [Executor.run_count h, length_matching_of_readAll hrecords]
      rfl
    · intro hfits
      have htotal : (UInt64.ofNat records.length).toNat =
          (bucket.rows (.sorted executor.bucket filters sort) filters).length := by
        rw [hlength, UInt64.toNat_ofNat_of_lt' hfits]
      refine ⟨htotal, ?_⟩
      show (pagesFor _ _).toNat = _
      rw [← htotal]
      exact toNat_pagesFor _ hsize
  · -- the whole run: the client can collect the records, and nothing else
    intro hbound collected
    rw [← hlength] at hbound
    have hall : Collects (executor.pageAt bucket (.untyped idName) filters size sort) 0 records := by
      have hdrop := collects_drop
        (fun k => ⟨_, hpage k, rfl, hasNext_ofIndex_iff hbound k sort⟩) hbound 0
      rwa [UInt32.toNat_zero, Nat.zero_mul, List.drop_zero] at hdrop
    constructor
    · intro hcollected
      exact hcollected.unique hall
    · rintro rfl
      exact hall

theorem shop_objects : ∀ entry ∈ shop.documents, ∃ members, entry.2 = Json.object members := by
  show ∀ entry ∈ [("apple", Json.object [("price", .ofUInt64 3)]), ("nut", .object []),
    ("pear", .object [("price", .ofUInt64 2)])], _
  simp

/-- The shop's documents by their prices, dear ones first. What has no price comes last. -/
theorem listed_shop :
    shop.listed [⟨"price", .descending, false⟩] [] =
      [("apple", .object [("price", .ofUInt64 3)]), ("pear", .object [("price", .ofUInt64 2)]),
        ("nut", .object [])] := by
  refine shop.listed_eq_of_pairwise ?_ (by decide +kernel)
  exact .cons _ (.swap _ _ _)

/-- A client that asks for the shop's documents two by two, dear ones first, collects all three in
this order. -/
theorem pageAt_pages_shop :
    (∀ entry ∈ shop.documents, ∃ members, entry.2 = Json.object members) ∧
    ∃ rows records : List Json,
      shop.answer ⟨.sorted "shop" [] [⟨"price", .descending, false⟩], []⟩ = .ok rows ∧
      (RecordType.untyped "id").readAll shopExecutor.shape rows = .ok records ∧
      records = [.object [("price", .ofUInt64 3), ("id", .string "apple")],
        .object [("price", .ofUInt64 2), ("id", .string "pear")],
        .object [("id", .string "nut")]] ∧
      ∀ collected : List Json,
        Collects (shopExecutor.pageAt shop (.untyped "id") [] 2 [⟨"price", .descending, false⟩])
          0 collected ↔ collected = records := by
  obtain ⟨rows, _, records, hrows, _, _, hread, _, hcollects⟩ :=
    @pageAt_pages shop shopExecutor rfl shop_objects 2 (by decide) []
      [⟨"price", .descending, false⟩] "id"
  have hlisted := (shop.answer_sorted [⟨"price", .descending, false⟩] []).symm.trans hrows
  rw [listed_shop] at hlisted
  cases hlisted
  cases hread
  exact ⟨shop_objects, _, _, hrows, rfl, rfl, hcollects (by decide)⟩

end BucketQuery
