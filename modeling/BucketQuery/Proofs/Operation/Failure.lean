import BucketQuery.Proofs.Operation.Paging

set_option autoImplicit false

/-! # Failures of operations

A document that is no object cannot be read as a record. An operation on a bucket in memory meets
such a document exactly when it is among those whose rows it reads, and then fails with the first of
them (`Confined`): finding reads every match in the order of the ids, finding the only record reads
the same before it looks how many there are, and a page reads the rows of its window and no others.
Counting reads no document (`Executor.failures_confined`).
-/

namespace BucketQuery

/-- A value that is an object. -/
def Json.IsObject (value : Json) : Prop := ∃ members, value = .object members

/-! ## Reading documents -/

/-- The first entry whose document is no object. -/
def FirstNonObject (entries : List (String × Json)) (id : String) (document : Json) : Prop :=
  ∃ before after, entries = before ++ (id, document) :: after ∧
    (∀ entry ∈ before, entry.2.IsObject) ∧ ¬ document.IsObject

/-- **A failure is confined to the entries that are read.** There is one exactly when some document
among them is no object, and it is that of the first such document. Otherwise the records carry the
ids of the entries, in order. -/
structure Confined (shape : RowShape) (idName : String) (entries : List (String × Json))
    (outcome : Except QueryError (List Json)) : Prop where
  fails : (∃ error, outcome = .error error) ↔ ∃ entry ∈ entries, ¬ entry.2.IsObject
  first : ∀ error, outcome = .error error →
    ∃ id document, FirstNonObject entries id document ∧ error = .row (.dataNotObject document)
  carries : ∀ records, outcome = .ok records →
    records.map (·.member? (shape.target idName)) = entries.map fun entry => some (.string entry.1)

section Documents

variable {shape : RowShape} {idName : String}

/-- An object is read as a record that carries the id. -/
theorem exists_readValue_of_isObject {entry : String × Json} (h : entry.2.IsObject) :
    ∃ record, (RecordType.untyped idName).readValue shape (documentRow entry) = .ok record ∧
      record.member? (shape.target idName) = some (.string entry.1) := by
  obtain ⟨id, document⟩ := entry
  obtain ⟨members, rfl⟩ := h
  exact RecordType.exists_readValue_documentRow idName shape id members

theorem readValue_of_not_isObject {entry : String × Json} (h : ¬ entry.2.IsObject) :
    (RecordType.untyped idName).readValue shape (documentRow entry) =
      .error (.row (.dataNotObject entry.2)) := by
  obtain ⟨id, document⟩ := entry
  cases document with
  | object members => exact absurd ⟨members, rfl⟩ h
  | _ => rfl

theorem isObject_of_readValue {entry : String × Json} {record : Json}
    (h : (RecordType.untyped idName).readValue shape (documentRow entry) = .ok record) :
    entry.2.IsObject ∧ record.member? (shape.target idName) = some (.string entry.1) := by
  by_cases hobject : entry.2.IsObject
  · obtain ⟨same, hsame, hid⟩ := exists_readValue_of_isObject hobject
    cases h.symm.trans hsame
    exact ⟨hobject, hid⟩
  · cases h.symm.trans (readValue_of_not_isObject hobject)

theorem exists_firstNonObject_of_readAll {entries : List (String × Json)} {error : QueryError}
    (h : (RecordType.untyped idName).readAll shape (entries.map documentRow) = .error error) :
    ∃ id document, FirstNonObject entries id document ∧ error = .row (.dataNotObject document) := by
  obtain ⟨before, row, after, hrows, hbefore, hrow⟩ := RecordType.readAll_eq_error_iff.mp h
  obtain ⟨first, rest, rfl, rfl, hrest⟩ := List.map_eq_append_iff.mp hrows
  obtain ⟨entry, last, rfl, rfl, rfl⟩ := List.map_eq_cons_iff.mp hrest
  have hobject : ¬ entry.2.IsObject := by
    intro hobject
    obtain ⟨record, hrecord, _⟩ := exists_readValue_of_isObject hobject
    cases hrow.symm.trans hrecord
  refine ⟨entry.1, entry.2, ⟨first, last, rfl, fun other hother => ?_, hobject⟩, ?_⟩
  · obtain ⟨record, hrecord⟩ := hbefore _ (List.mem_map_of_mem hother)
    exact (isObject_of_readValue hrecord).1
  · cases hrow.symm.trans (readValue_of_not_isObject hobject)
    rfl

/-- Reading the rows of entries fails where it must and nowhere else. -/
theorem confined_readAll (shape : RowShape) (idName : String) (entries : List (String × Json)) :
    Confined shape idName entries
      ((RecordType.untyped idName).readAll shape (entries.map documentRow)) where
  fails := by
    constructor
    · rintro ⟨error, herror⟩
      obtain ⟨id, document, ⟨before, after, rfl, _, hobject⟩, _⟩ :=
        exists_firstNonObject_of_readAll herror
      exact ⟨(id, document), List.mem_append_right before List.mem_cons_self, hobject⟩
    · rintro ⟨entry, hentry, hobject⟩
      cases houtcome : (RecordType.untyped idName).readAll shape (entries.map documentRow) with
      | error error => exact ⟨error, rfl⟩
      | ok records =>
          obtain ⟨record, hrecord⟩ :=
            RecordType.exists_readValue_of_readAll houtcome (List.mem_map_of_mem hentry)
          exact absurd (isObject_of_readValue hrecord).1 hobject
  first _ := exists_firstNonObject_of_readAll
  carries := by
    intro records hrecords
    have hread := List.forall₂_map_left_iff.mp (RecordType.readAll_eq_ok_iff.mp hrecords)
    have hids : List.Forall₂ (fun entry record =>
        record.member? (shape.target idName) = some (.string entry.1)) entries records :=
      hread.imp fun entry record hrecord => (isObject_of_readValue hrecord).2
    rw [← List.forall₂_eq_eq_eq, List.forall₂_map_left_iff, List.forall₂_map_right_iff]
    exact hids.flip

end Documents

/-! ## Operations -/

/-- Ids in ascending order are distinct. -/
theorem nodup_ids_of_pairwise {entries : List (String × Json)}
    (h : entries.Pairwise fun a b => utf8 a.1 < utf8 b.1) : (entries.map Prod.fst).Nodup := by
  refine List.pairwise_map.mpr (h.imp fun {a b} hlt hsame => ?_)
  rw [hsame] at hlt
  exact List.lt_irrefl _ hlt

/-- **The only record, out of those that are found.** A failure to find them is the failure; then it
counts how many entries match, and two are a failure that carries the filters. -/
structure Only (filters : Filters) (entries : List (String × Json))
    (found : Except QueryError (List Json)) (only : Except QueryError (Option Json)) : Prop where
  fails : ∀ error, found = .error error → only = .error error
  absent : ∀ records, found = .ok records → entries.length = 0 → only = .ok none
  single : ∀ records, found = .ok records → entries.length = 1 →
    ∃ record, records = [record] ∧ only = .ok (some record)
  several : ∀ records, found = .ok records → 2 ≤ entries.length →
    only = .error (.nonUnique filters)

namespace Executor

variable {bucket : Bucket} {executor : Executor}

theorem only_run_findOne {answer : Query → Except TransportError (List Json)}
    {type : RecordType Json} {filters : Filters} {entries : List (String × Json)}
    (hlength : ∀ records, (executor.find type filters).run answer = .ok records →
      records.length = entries.length) :
    Only filters entries ((executor.find type filters).run answer)
      ((executor.findOne type filters).run answer) := by
  rw [findOne, Plan.run_andThen]
  cases hfound : (executor.find type filters).run answer with
  | error error =>
      constructor
      · intro e he
        cases he
        rfl
      · exact fun _ h => nomatch h
      · exact fun _ h => nomatch h
      · exact fun _ h => nomatch h
  | ok records =>
      have hrecords := hlength records hfound
      constructor
      · exact fun _ h => nomatch h
      · intro same hsame hzero
        cases hsame
        rw [hzero] at hrecords
        rw [List.length_eq_zero_iff.mp hrecords]
        rfl
      · intro same hsame hone
        cases hsame
        rw [hone] at hrecords
        obtain ⟨record, rfl⟩ := List.length_eq_one_iff.mp hrecords
        exact ⟨record, rfl, rfl⟩
      · intro same hsame htwo
        cases hsame
        match records with
        | [] => exact absurd (hrecords ▸ htwo) (by simp)
        | [_] => exact absurd (hrecords ▸ htwo) (by simp)
        | _ :: _ :: _ => rfl

/-- Finding reads the documents that match. -/
theorem confined_run_find (h : executor.bucket = bucket.name) (idName : String)
    (filters : Filters) :
    Confined executor.shape idName
      (bucket.matching (filters.predicate executor.bucket) filters)
      ((executor.find (.untyped idName) filters).run bucket.answer) := by
  rw [run_find h]
  exact confined_readAll _ _ _

/-- A page reads the documents in its window. -/
theorem confined_run_findPage (h : executor.bucket = bucket.name) (idName : String)
    (filters : Filters) (request : PageRequest) :
    Confined executor.shape idName
      (((bucket.listed request.sort filters).drop request.offset.toNat).take request.size.toNat)
      (((executor.findPage (.untyped idName) filters request).run bucket.answer).map
        Page.content) := by
  have hrows : bucket.rows (.paged executor.bucket filters request) filters =
      (((bucket.listed request.sort filters).drop request.offset.toNat).take
        request.size.toNat).map documentRow := by
    rw [Bucket.rows_paged, h, Bucket.rows_sorted, List.map_take, List.map_drop]
  have hcontent : ((executor.findPage (.untyped idName) filters request).run bucket.answer).map
        Page.content =
      (RecordType.untyped idName).readAll executor.shape
        (bucket.rows (.paged executor.bucket filters request) filters) := by
    rw [run_findPage h]
    cases (RecordType.untyped idName).readAll executor.shape
      (bucket.rows (.paged executor.bucket filters request) filters) with
    | error error => rfl
    | ok records => rfl
  rw [hcontent, hrows]
  exact confined_readAll _ _ _

/-- **Failures are confined to the rows that an operation returns.** On a bucket in memory, take the
documents that match some filters, in the order of their ids. Finding fails exactly when one of them
is no object, and with the first such; finding the only record fails when finding does and as it
does, and otherwise counts the matches, naming the filters when there are two; a page fails exactly
when a document in its window of the matches in its order is no object, whatever lies outside;
counting never fails. Records that are returned carry the ids of the documents in their order, and
no id comes twice. -/
theorem failures_confined (h : executor.bucket = bucket.name) (idName : String)
    (filters : Filters) :
    ∃ entries : List (String × Json),
      (∀ id document, (id, document) ∈ entries ↔
        (id, document) ∈ bucket.documents ∧ ¬ GatewayId id ∧ filters.Satisfied document) ∧
      entries.Pairwise (fun a b => utf8 a.1 < utf8 b.1) ∧
      Confined executor.shape idName entries
        ((executor.find (.untyped idName) filters).run bucket.answer) ∧
      Only filters entries ((executor.find (.untyped idName) filters).run bucket.answer)
        ((executor.findOne (.untyped idName) filters).run bucket.answer) ∧
      (executor.count filters).run bucket.answer = .ok (UInt64.ofNat entries.length) ∧
      ∀ request : PageRequest, ∃ sorted window : List (String × Json),
        sorted.Perm entries ∧
        sorted.Pairwise (fun a b => compareEntries request.sort a b = .lt ∨
          compareEntries request.sort a b = .eq ∧ utf8 a.1 < utf8 b.1) ∧
        window = (sorted.drop request.offset.toNat).take request.size.toNat ∧
        (window.map Prod.fst).Nodup ∧
        Confined executor.shape idName window
          (((executor.findPage (.untyped idName) filters request).run bucket.answer).map
            Page.content) := by
  have hids := bucket.pairwise_matching (filters.predicate executor.bucket) filters
  refine ⟨bucket.matching (filters.predicate executor.bucket) filters, ?_, hids,
    confined_run_find h idName filters, only_run_findOne ?_, run_count h filters, ?_⟩
  · intro id document
    rw [Bucket.matching, List.mem_filter, evaluate_predicate,
      and_comm (a := filters.Satisfied document)]
  · intro records hrecords
    rw [run_find h] at hrecords
    rw [RecordType.length_of_readAll hrecords, List.length_map]
  · intro request
    have hperm : (bucket.listed request.sort filters).Perm
        (bucket.matching (filters.predicate executor.bucket) filters) := by
      rw [h]
      exact List.mergeSort_perm _ _
    have hsorted := pairwise_mergeSort_stable (compareEntries request.sort) hids
    rw [h] at hsorted
    refine ⟨bucket.listed request.sort filters, _, hperm, hsorted, rfl, ?_,
      confined_run_findPage h idName filters request⟩
    -- the ids in a window are some of the ids of all matches
    have hnodup := ((hperm.map Prod.fst).nodup_iff).mpr (nodup_ids_of_pairwise hids)
    exact hnodup.sublist (((List.take_sublist _ _).trans (List.drop_sublist _ _)).map Prod.fst)

end Executor

/-- A bucket with a list between two objects. -/
def mixed : Bucket :=
  .ofList "mixed" [("a", .object [("n", .ofUInt64 1)]), ("b", .array []), ("c", .object [])]

/-- An executor on the bucket. -/
def mixedExecutor : Executor := ⟨"mixed", ⟨true, false⟩⟩

/-- The ids leave one order for all its documents. -/
theorem eq_documents_mixed {entries : List (String × Json)}
    (hentries : ∀ id document, (id, document) ∈ entries ↔
      (id, document) ∈ mixed.documents ∧ ¬ GatewayId id ∧ Filters.Satisfied [] document)
    (hids : entries.Pairwise fun a b => utf8 a.1 < utf8 b.1) : entries = mixed.documents := by
  have hvisible : ∀ id ∈ mixed.documents.map Prod.fst, ¬ GatewayId id := by decide +kernel
  have hasymm (a b : String × Json) (hab : utf8 a.1 < utf8 b.1) : ¬ utf8 b.1 < utf8 a.1 :=
    List.lt_asymm hab
  refine eq_of_mem_iff_of_pairwise hasymm hids (by decide +kernel) ?_
  rintro ⟨id, document⟩
  rw [hentries]
  exact ⟨fun h => h.1, fun h => ⟨h, hvisible _ (List.mem_map_of_mem h), Filters.satisfied_nil _⟩⟩

/-- Finding fails with the list, and so do finding the only record and the page of the second
document. The page of the first one is read. -/
theorem Executor.failures_confined_mixed :
    mixedExecutor.bucket = mixed.name ∧
    (mixedExecutor.find (.untyped "key") []).run mixed.answer =
      .error (.row (.dataNotObject (.array []))) ∧
    (mixedExecutor.findOne (.untyped "key") []).run mixed.answer =
      .error (.row (.dataNotObject (.array []))) ∧
    (∃ error, ((mixedExecutor.findPage (.untyped "key") [] ⟨1, 1, []⟩).run mixed.answer).map
      Page.content = .error error) ∧
    ∃ record, ((mixedExecutor.findPage (.untyped "key") [] ⟨1, 0, []⟩).run mixed.answer).map
        Page.content = .ok [record] ∧
      record.member? (mixedExecutor.shape.target "key") = some (.string "a") := by
  have hbucket : mixedExecutor.bucket = mixed.name := rfl
  have hlist : ¬ (Json.array []).IsObject := by
    rintro ⟨_, ⟨⟩⟩
  obtain ⟨entries, hentries, hids, hfind, hone, _, hpage⟩ := failures_confined hbucket "key" []
  have hfailure : (mixedExecutor.find (.untyped "key") []).run mixed.answer =
      .error (.row (.dataNotObject (.array []))) := by
    rw [eq_documents_mixed hentries hids] at hfind
    obtain ⟨error, herror⟩ :=
      hfind.fails.mpr ⟨("b", .array []), List.mem_cons_of_mem _ List.mem_cons_self, hlist⟩
    -- the list is the only document that the failure can be about
    obtain ⟨id, document, ⟨before, after, hsplit, _, hobject⟩, rfl⟩ := hfind.first error herror
    have honly : ∀ entry ∈ mixed.documents, ¬ entry.2.IsObject → Json.array [] = entry.2 := by
      rw [show mixed.documents =
        [("a", .object [("n", .ofUInt64 1)]), ("b", .array []), ("c", .object [])] from rfl]
      simp [Json.IsObject]
    have hmem : (id, document) ∈ mixed.documents := by
      rw [hsplit]
      exact List.mem_append_right before List.mem_cons_self
    rw [herror, honly _ hmem hobject]
  have hwindow (request : PageRequest) (hsort : request.sort = []) :
      Confined mixedExecutor.shape "key"
        ((mixed.documents.drop request.offset.toNat).take request.size.toNat)
        (((mixedExecutor.findPage (.untyped "key") [] request).run mixed.answer).map
          Page.content) := by
    -- without a sort entry all documents tie, so their ids alone order them
    obtain ⟨sorted, window, hperm, hsorted, rfl, _, hconfined⟩ := hpage request
    rw [hsort] at hsorted
    have hall : sorted = mixed.documents := by
      refine eq_documents_mixed (fun id document => hperm.mem_iff.trans (hentries id document)) ?_
      refine hsorted.imp fun h => ?_
      rcases h with hlt | hlevel
      · cases hlt
      · exact hlevel.2
    rwa [hall] at hconfined
  refine ⟨hbucket, hfailure, hone.fails _ hfailure, ?_, ?_⟩
  · exact (hwindow ⟨1, 1, []⟩ rfl).fails.mpr ⟨("b", .array []), List.mem_cons_self, hlist⟩
  · have hfirst := hwindow ⟨1, 0, []⟩ rfl
    cases houtcome : ((mixedExecutor.findPage (.untyped "key") [] ⟨1, 0, []⟩).run
      mixed.answer).map Page.content with
    | error error =>
        -- the first document is alone on its page, and it is an object
        obtain ⟨entry, hentry, hobject⟩ := hfirst.fails.mp ⟨error, houtcome⟩
        cases List.mem_singleton.mp hentry
        exact absurd ⟨_, rfl⟩ hobject
    | ok records =>
        obtain ⟨record, rest, rfl, hrecord, hrest⟩ :=
          List.map_eq_cons_iff.mp (hfirst.carries records houtcome)
        rw [List.map_eq_nil_iff.mp hrest]
        exact ⟨record, rfl, hrecord⟩

end BucketQuery
