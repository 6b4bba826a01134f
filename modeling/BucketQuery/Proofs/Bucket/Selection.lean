import BucketQuery.Proofs.Bucket.Contents
import BucketQuery.Proofs.Bucket.Exclusion
import Mathlib.Data.Set.Lattice
import Mathlib.Order.CompletePartialOrder

set_option autoImplicit false

/-! # What the operators select

Listing a bucket by a filter map selects a set of documents (`Bucket.ids`). A filter on one property
selects by what is found at its path alone (`ids_append_suffix`), so what the operators have to do
with each other is settled value by value: a value is absent, null or neither, and a value that is
not null lies before, after or level with another one. In sets of documents, the operators of a
property divide the documents of a bucket between them (`ids_partition`).
-/

namespace BucketQuery

/-! ## Operators on one value -/

/-- Null is level with nothing but null, and below everything else. -/
theorem Json.collate_null {value : Json} (h : value ≠ .null) : collate value .null = .gt := by
  cases value with
  | null => exact absurd rfl h
  | bool b => cases b <;> rfl
  | number n => rfl
  | string s => rfl
  | array items => rfl
  | object members => rfl

theorem compared_and_iff {p q : Ordering → Prop} (found : Option Json) (wanted : Json) :
    Compared p found wanted ∧ Compared q found wanted ↔
      Compared (fun o => p o ∧ q o) found wanted := by
  constructor
  · rintro ⟨⟨value, hfound, hvalue, hwanted, hp⟩, ⟨other, hother, _, _, hq⟩⟩
    have heq : other = value := Option.some.inj (hother.symm.trans hfound)
    rw [heq] at hq
    exact ⟨value, hfound, hvalue, hwanted, hp, hq⟩
  · rintro ⟨value, hfound, hvalue, hwanted, hp, hq⟩
    exact ⟨⟨value, hfound, hvalue, hwanted, hp⟩, value, hfound, hvalue, hwanted, hq⟩

namespace Operator

variable {found : Option Json} {wanted : Json}

/-- Two tests of which every order passes one accept together what is neither absent nor null. -/
theorem compared_or_iff {p q : Ordering → Prop} (hall : ∀ o, p o ∨ q o) (hwanted : wanted ≠ .null) :
    Compared p found wanted ∨ Compared q found wanted ↔ isNotNull.Accepts found wanted := by
  constructor
  · rintro (⟨value, hfound, hvalue, _⟩ | ⟨value, hfound, hvalue, _⟩)
    · exact ⟨value, hfound, hvalue⟩
    · exact ⟨value, hfound, hvalue⟩
  · rintro ⟨value, hfound, hvalue⟩
    rcases hall (Json.collate value wanted) with hp | hq
    · exact .inl ⟨value, hfound, hvalue, hwanted, hp⟩
    · exact .inr ⟨value, hfound, hvalue, hwanted, hq⟩

/-- What is found is absent, null or neither. -/
theorem missing_or_null_or_not (found : Option Json) (a b c : Json) :
    (isMissing.Accepts found a ∨ isNull.Accepts found b) ∨ isNotNull.Accepts found c := by
  by_cases hmissing : found = none
  · exact .inl (.inl hmissing)
  · obtain ⟨value, hvalue⟩ := Option.ne_none_iff_exists'.mp hmissing
    by_cases hnull : value = .null
    · subst hnull
      exact .inl (.inr hvalue)
    · exact .inr ⟨value, hvalue, hnull⟩

theorem not_isNull_of_isMissing {a b : Json} (h : isMissing.Accepts found a) :
    ¬ isNull.Accepts found b := by
  intro hnull
  cases h.symm.trans hnull

theorem not_isNotNull_of_isMissing {a b : Json} (h : isMissing.Accepts found a) :
    ¬ isNotNull.Accepts found b := by
  rintro ⟨value, hvalue, _⟩
  cases h.symm.trans hvalue

theorem not_isNotNull_of_isNull {a b : Json} (h : isNull.Accepts found a) :
    ¬ isNotNull.Accepts found b := by
  rintro ⟨value, hvalue, hne⟩
  exact hne (Option.some.inj (hvalue.symm.trans h))

theorem not_notEquals_of_equals (h : equals.Accepts found wanted) :
    ¬ notEquals.Accepts found wanted := by
  rintro ⟨other, hother, _, _, hne⟩
  obtain ⟨value, hvalue, _, _, heq⟩ := h
  have hsame : other = value := Option.some.inj (hother.symm.trans hvalue)
  rw [hsame] at hne
  exact hne heq

theorem accepts_atLeast_and_atMost_iff :
    atLeast.Accepts found wanted ∧ atMost.Accepts found wanted ↔ equals.Accepts found wanted := by
  have horder : (fun o : Ordering => o ≠ .lt ∧ o ≠ .gt) = (· = .eq) := by
    funext o
    cases o <;> simp
  have hand := compared_and_iff (p := (· ≠ .lt)) (q := (· ≠ .gt)) found wanted
  rw [horder] at hand
  exact hand

/-- An array accepts what one of its items does. Null items accept nothing. -/
theorem accepts_isIn_iff (items : List Json) :
    isIn.Accepts found (.array items) ↔ ∃ item ∈ items, equals.Accepts found item := by
  constructor
  · rintro ⟨value, items, hfound, hvalue, ⟨⟩, item, hitem, heq⟩
    refine ⟨item, hitem, value, hfound, hvalue, ?_, heq⟩
    rintro rfl
    rw [Json.collate_null hvalue] at heq
    cases heq
  · rintro ⟨item, hitem, value, hfound, hvalue, _, heq⟩
    exact ⟨value, items, hfound, hvalue, rfl, item, hitem, heq⟩

end Operator

/-! ## Filter maps of a few keys -/

namespace Filters

theorem satisfied_nil (document : Json) : Satisfied [] document := by
  intro key wanted hkey
  cases hkey

/-- A filter map is satisfied when its first filter is and the others are. -/
theorem satisfied_cons_iff {key path : String} {operator : Operator} {rest : Filters}
    (hkey : FilterKey.read key = ⟨key, path, operator⟩) (hnew : rest.get? key = none)
    (wanted document : Json) :
    Satisfied ((key, wanted) :: rest) document ↔
      operator.Accepts (document.lookup? path) wanted ∧ rest.Satisfied document := by
  constructor
  · intro h
    have hfirst := h key wanted (Members.get?_cons_self rest key wanted)
    rw [hkey] at hfirst
    refine ⟨hfirst, ?_⟩
    intro other value hother
    have hne : key ≠ other := by
      rintro rfl
      cases hnew.symm.trans hother
    exact h other value ((Members.get?_cons_of_ne hne rest wanted).trans hother)
  · rintro ⟨hfirst, hrest⟩ other value hother
    by_cases heq : key = other
    · subst heq
      rw [Members.get?_cons_self, Option.some_inj] at hother
      rw [hkey, ← hother]
      exact hfirst
    · rw [Members.get?_cons_of_ne heq] at hother
      exact hrest other value hother

end Filters

/-! ## Sets of documents -/

/-- The ids that rows carry. -/
def idsIn (rows : List Json) : Set String :=
  {id | ∃ row ∈ rows, row.member? idField = some (.string id)}

theorem mem_idsIn_map_documentRow (entries : List (String × Json)) (id : String) :
    id ∈ idsIn (entries.map documentRow) ↔ ∃ document, (id, document) ∈ entries := by
  constructor
  · rintro ⟨row, hrow, hid⟩
    obtain ⟨⟨i, document⟩, hentry, rfl⟩ := List.mem_map.mp hrow
    have hsame : i = id := Json.string.inj (Option.some.inj hid)
    exact ⟨document, hsame ▸ hentry⟩
  · rintro ⟨document, hentry⟩
    exact ⟨_, List.mem_map.mpr ⟨_, hentry, rfl⟩, rfl⟩

namespace Bucket

/-- The ids of the documents that listing a bucket by a filter map returns. -/
def ids (bucket : Bucket) (filters : Filters) : Set String :=
  {id | ∃ rows, bucket.answer ⟨.list bucket.name filters, filters⟩ = .ok rows ∧ id ∈ idsIn rows}

variable (bucket : Bucket)

theorem answer_list_eq (filters : Filters) :
    bucket.answer ⟨.list bucket.name filters, filters⟩ =
      .ok ((bucket.matching (filters.predicate bucket.name) filters).map documentRow) := by
  rw [answer_of_bucket_eq rfl, rows_list]

theorem mem_matching_predicate (name : String) (filters : Filters) (id : String)
    (document : Json) :
    (id, document) ∈ bucket.matching (filters.predicate name) filters ↔
      (id, document) ∈ bucket.visible ∧ filters.Satisfied document := by
  rw [matching, List.mem_filter, evaluate_predicate, mem_visible_iff, and_assoc]
  exact and_congr Iff.rfl And.comm

theorem mem_ids_iff (filters : Filters) (id : String) :
    id ∈ bucket.ids filters ↔
      ∃ document, (id, document) ∈ bucket.visible ∧ filters.Satisfied document := by
  have hrows : id ∈ bucket.ids filters ↔
      id ∈ idsIn ((bucket.matching (filters.predicate bucket.name) filters).map documentRow) := by
    constructor
    · rintro ⟨rows, hrows, hid⟩
      rw [answer_list_eq, Except.ok.injEq] at hrows
      exact hrows ▸ hid
    · intro hid
      exact ⟨_, bucket.answer_list_eq filters, hid⟩
  rw [hrows, mem_idsIn_map_documentRow]
  simp only [mem_matching_predicate]

/-- The ids of the visible documents where what is found at a path is as wanted. -/
def having (path : String) (wanted : Option Json → Prop) : Set String :=
  {id | ∃ document, (id, document) ∈ bucket.visible ∧ wanted (document.lookup? path)}

/-- There is one document under an id, so it alone decides. -/
theorem mem_having_iff {id : String} {document : Json} (h : (id, document) ∈ bucket.visible)
    (path : String) (wanted : Option Json → Prop) :
    id ∈ bucket.having path wanted ↔ wanted (document.lookup? path) := by
  constructor
  · rintro ⟨other, hother, hwanted⟩
    have hunique := bucket.sorted.unique
    have hfirst := (Members.get?_eq_some_iff_mem hunique id other).mpr (List.mem_of_mem_filter hother)
    have hsecond := (Members.get?_eq_some_iff_mem hunique id document).mpr (List.mem_of_mem_filter h)
    have hsame : other = document := Option.some.inj (hfirst.symm.trans hsecond)
    exact hsame ▸ hwanted
  · intro hwanted
    exact ⟨document, h, hwanted⟩

variable {bucket} {path : String} {p q r : Option Json → Prop}

theorem having_union (h : ∀ found, r found ↔ p found ∨ q found) :
    bucket.having path p ∪ bucket.having path q = bucket.having path r := by
  ext id
  constructor
  · rintro (⟨document, hmem, hp⟩ | ⟨document, hmem, hq⟩)
    · exact ⟨document, hmem, (h _).mpr (.inl hp)⟩
    · exact ⟨document, hmem, (h _).mpr (.inr hq)⟩
  · rintro ⟨document, hmem, hr⟩
    rcases (h _).mp hr with hp | hq
    · exact .inl ⟨document, hmem, hp⟩
    · exact .inr ⟨document, hmem, hq⟩

theorem having_inter (h : ∀ found, r found ↔ p found ∧ q found) :
    bucket.having path p ∩ bucket.having path q = bucket.having path r := by
  ext id
  constructor
  · rintro ⟨⟨document, hmem, hp⟩, hq⟩
    have hq' := (bucket.mem_having_iff hmem path q).mp hq
    exact ⟨document, hmem, (h _).mpr ⟨hp, hq'⟩⟩
  · rintro ⟨document, hmem, hr⟩
    obtain ⟨hp, hq⟩ := (h _).mp hr
    exact ⟨⟨document, hmem, hp⟩, document, hmem, hq⟩

theorem disjoint_having (h : ∀ found, p found → ¬ q found) :
    Disjoint (bucket.having path p) (bucket.having path q) := by
  rw [Set.disjoint_left]
  rintro id ⟨document, hmem, hp⟩ hq
  exact h _ hp ((bucket.mem_having_iff hmem path q).mp hq)

theorem having_iUnion {items : List Json} {accepts : Json → Option Json → Prop}
    (h : ∀ found, r found ↔ ∃ item ∈ items, accepts item found) :
    ⋃ item ∈ items, bucket.having path (accepts item) = bucket.having path r := by
  ext id
  simp only [Set.mem_iUnion, exists_prop]
  constructor
  · rintro ⟨item, hitem, document, hmem, haccepts⟩
    exact ⟨document, hmem, (h _).mpr ⟨item, hitem, haccepts⟩⟩
  · rintro ⟨document, hmem, hr⟩
    obtain ⟨item, hitem, haccepts⟩ := (h _).mp hr
    exact ⟨item, hitem, document, hmem, haccepts⟩

/-! ## Filters on one property -/

variable (bucket)

/-- The ids of the visible documents where an operator accepts what is found at a path. -/
def selecting (path : String) (operator : Operator) (wanted : Json) : Set String :=
  bucket.having path fun found => operator.Accepts found wanted

/-- Filters that ask something of what is found at a path select by that. -/
theorem ids_eq_having {filters : Filters} {path : String} {wanted : Option Json → Prop}
    (h : ∀ document, filters.Satisfied document ↔ wanted (document.lookup? path)) :
    bucket.ids filters = bucket.having path wanted := by
  ext id
  rw [mem_ids_iff]
  exact exists_congr fun document => and_congr_right fun _ => h document

/-- **A filter selects by what is found at its path.** -/
theorem ids_append_suffix (path : String) (operator : Operator)
    (h : operator = .equals → ¬ EndsReserved path) (wanted : Json) :
    bucket.ids [(path ++ operator.suffix, wanted)] = bucket.selecting path operator wanted := by
  have hread := FilterKey.read_append_suffix path h
  refine bucket.ids_eq_having fun document => ?_
  rw [Filters.satisfied_cons_iff hread rfl]
  exact and_iff_left (Filters.satisfied_nil document)

/-- Without a filter the visible documents are selected. -/
theorem mem_ids_nil_iff (id : String) :
    id ∈ bucket.ids [] ↔ ∃ document, (id, document) ∈ bucket.visible := by
  rw [mem_ids_iff]
  exact exists_congr fun document => and_iff_left (Filters.satisfied_nil document)

/-- In terms of a path, whatever is found there. -/
theorem ids_nil (path : String) : bucket.ids [] = bucket.having path fun _ => True :=
  bucket.ids_eq_having fun document => iff_true_intro (Filters.satisfied_nil document)

variable (path)

/-- Every visible document is missing something at a path, or has null there, or another value. -/
theorem selecting_kinds (a b c : Json) :
    Disjoint (bucket.selecting path .isMissing a) (bucket.selecting path .isNull b) ∧
    Disjoint (bucket.selecting path .isMissing a) (bucket.selecting path .isNotNull c) ∧
    Disjoint (bucket.selecting path .isNull b) (bucket.selecting path .isNotNull c) ∧
    bucket.selecting path .isMissing a ∪ bucket.selecting path .isNull b ∪
      bucket.selecting path .isNotNull c = bucket.ids [] := by
  refine ⟨?_, ?_, ?_, ?_⟩
  · exact disjoint_having fun _ => Operator.not_isNull_of_isMissing
  · exact disjoint_having fun _ => Operator.not_isNotNull_of_isMissing
  · exact disjoint_having fun _ => Operator.not_isNotNull_of_isNull
  · unfold selecting
    rw [having_union fun _ => Iff.rfl, bucket.ids_nil path]
    exact having_union fun found => iff_of_true trivial (Operator.missing_or_null_or_not found a b c)

/-- The other values are level with a value or not. -/
theorem selecting_level {v : Json} (hv : v ≠ .null) (c : Json) :
    Disjoint (bucket.selecting path .equals v) (bucket.selecting path .notEquals v) ∧
    bucket.selecting path .equals v ∪ bucket.selecting path .notEquals v =
      bucket.selecting path .isNotNull c := by
  refine ⟨disjoint_having fun _ => Operator.not_notEquals_of_equals, ?_⟩
  have hall (o : Ordering) : o = .eq ∨ o ≠ .eq := em _
  exact having_union fun _ => (Operator.compared_or_iff hall hv).symm

/-- They do not lie before it or do not lie after it, and where both hold they are level with it. -/
theorem selecting_sides {v : Json} (hv : v ≠ .null) (c : Json) :
    bucket.selecting path .atLeast v ∪ bucket.selecting path .atMost v =
      bucket.selecting path .isNotNull c ∧
    bucket.selecting path .atLeast v ∩ bucket.selecting path .atMost v =
      bucket.selecting path .equals v := by
  have hall (o : Ordering) : o ≠ .lt ∨ o ≠ .gt := by
    cases o <;> simp
  constructor
  · exact having_union fun _ => (Operator.compared_or_iff hall hv).symm
  · exact having_inter fun _ => Operator.accepts_atLeast_and_atMost_iff.symm

theorem selecting_isNullOrMissing (a b d : Json) :
    bucket.selecting path .isNullOrMissing d =
      bucket.selecting path .isMissing a ∪ bucket.selecting path .isNull b :=
  (having_union fun _ => Iff.rfl).symm

theorem selecting_isIn (items : List Json) :
    bucket.selecting path .isIn (.array items) =
      ⋃ item ∈ items, bucket.selecting path .equals item :=
  (having_iUnion fun _ => Operator.accepts_isIn_iff items).symm

variable {path}

/-- **The operators of a property divide the documents between them.** A list is always answered, and
without a filter it has every document that is not a gateway's own. What is missing, null and not
null are three parts of the whole list, and the first two make up what is null or missing. Every
value that is not null divides the third part, into what is level with it and what is not; what does
not lie before the value and what does not lie after it cover the third part and share what is level
with it. An array selects what its items select, each on its own. The values `a`, `b`, `c` and `d` of
filters that have nothing to compare make no difference. -/
theorem ids_partition (hpath : ¬ EndsReserved path) {v : Json} (hv : v ≠ .null) (a b c d : Json) :
    (∀ filters, ∃ rows, bucket.answer ⟨.list bucket.name filters, filters⟩ = .ok rows) ∧
    (∀ id, id ∈ bucket.ids [] ↔ ∃ document, (id, document) ∈ bucket.visible) ∧
    (Disjoint (bucket.ids [(path ++ "_missing", a)]) (bucket.ids [(path ++ "_null", b)]) ∧
      Disjoint (bucket.ids [(path ++ "_missing", a)]) (bucket.ids [(path ++ "_notnull", c)]) ∧
      Disjoint (bucket.ids [(path ++ "_null", b)]) (bucket.ids [(path ++ "_notnull", c)]) ∧
      bucket.ids [(path ++ "_missing", a)] ∪ bucket.ids [(path ++ "_null", b)] ∪
        bucket.ids [(path ++ "_notnull", c)] = bucket.ids []) ∧
    bucket.ids [(path ++ "_nullormissing", d)] =
      bucket.ids [(path ++ "_missing", a)] ∪ bucket.ids [(path ++ "_null", b)] ∧
    (Disjoint (bucket.ids [(path, v)]) (bucket.ids [(path ++ "_not", v)]) ∧
      bucket.ids [(path, v)] ∪ bucket.ids [(path ++ "_not", v)] =
        bucket.ids [(path ++ "_notnull", c)]) ∧
    (bucket.ids [(path ++ "_from", v)] ∪ bucket.ids [(path ++ "_to", v)] =
        bucket.ids [(path ++ "_notnull", c)] ∧
      bucket.ids [(path ++ "_from", v)] ∩ bucket.ids [(path ++ "_to", v)] =
        bucket.ids [(path, v)]) ∧
    ∀ items : List Json,
      bucket.ids [(path ++ "_in", .array items)] = ⋃ item ∈ items, bucket.ids [(path, item)] := by
  have hequals (wanted : Json) :
      bucket.ids [(path, wanted)] = bucket.selecting path .equals wanted := by
    have hselected := bucket.ids_append_suffix path .equals (fun _ => hpath) wanted
    rwa [Operator.suffix, String.append_empty] at hselected
  -- only equality has no suffix of its own
  have hsuffixed (operator : Operator) (hne : operator ≠ .equals) (wanted : Json) :=
    bucket.ids_append_suffix path operator (fun heq => absurd heq hne) wanted
  have hmissing := hsuffixed .isMissing (by decide) a
  have hnull := hsuffixed .isNull (by decide) b
  have hnotNull := hsuffixed .isNotNull (by decide) c
  have hnullOrMissing := hsuffixed .isNullOrMissing (by decide) d
  have hnotEquals := hsuffixed .notEquals (by decide) v
  have hatLeast := hsuffixed .atLeast (by decide) v
  have hatMost := hsuffixed .atMost (by decide) v
  have hisIn (items : List Json) : bucket.ids [(path ++ "_in", .array items)] = _ :=
    hsuffixed .isIn (by decide) (.array items)
  simp only [Operator.suffix] at hmissing hnull hnotNull hnullOrMissing hnotEquals hatLeast hatMost
  simp only [hequals, hmissing, hnull, hnotNull, hnullOrMissing, hnotEquals, hatLeast, hatMost,
    hisIn]
  exact ⟨fun filters => ⟨_, bucket.answer_list_eq filters⟩, bucket.mem_ids_nil_iff,
    bucket.selecting_kinds path a b c, bucket.selecting_isNullOrMissing path a b d,
    bucket.selecting_level path hv c, bucket.selecting_sides path hv c,
    bucket.selecting_isIn path⟩

end Bucket

/-! ## Owners of parcels -/

/-- A bucket with a document for each kind of owner, and one that is a gateway's own. -/
def depot : Bucket :=
  .ofList "depot"
    [("p1", .object [("owner", .string "ada")]), ("p2", .object [("owner", .null)]),
      ("p3", .object []), ("p4", .object [("owner", .ofUInt64 7)]),
      ("_sync:p5", .object [("owner", .string "ada")])]

/-- In the depot, who is wanted and who is not wanted make up the owners there are. -/
theorem ids_partition_depot :
    ¬ EndsReserved "owner" ∧ Json.string "ada" ≠ .null ∧
    "p1" ∈ depot.ids [("owner", .string "ada")] ∧
    Disjoint (depot.ids [("owner", .string "ada")]) (depot.ids [("owner_not", .string "ada")]) ∧
    depot.ids [("owner", .string "ada")] ∪ depot.ids [("owner_not", .string "ada")] =
      depot.ids [("owner_notnull", .bool true)] ∧
    depot.ids [("owner_missing", .null)] ∪ depot.ids [("owner_null", .null)] ∪
      depot.ids [("owner_notnull", .bool true)] = depot.ids [] ∧
    depot.ids [("owner_in", .array [.string "ada", .null])] =
      ⋃ item ∈ [Json.string "ada", .null], depot.ids [("owner", item)] := by
  have hpath : ¬ EndsReserved "owner" := by decide
  have hvalue : Json.string "ada" ≠ .null := Json.noConfusion
  obtain ⟨_, _, ⟨_, _, _, hkinds⟩, _, ⟨hdisjoint, hlevel⟩, _, hitems⟩ :=
    depot.ids_partition hpath hvalue .null .null (.bool true) .null
  refine ⟨hpath, hvalue, ?_, hdisjoint, hlevel, hkinds, hitems _⟩
  have hvisible : ("p1", Json.object [("owner", .string "ada")]) ∈ depot.visible := by
    rw [Bucket.mem_visible_iff]
    exact ⟨List.mem_cons_of_mem _ List.mem_cons_self, by decide +kernel⟩
  rw [Bucket.mem_ids_iff]
  refine ⟨_, hvisible, ?_⟩
  rw [Filters.satisfied_cons_iff (FilterKey.readWith_of_not_endsReserved
    (List.Subset.refl _) hpath) rfl]
  exact ⟨⟨_, rfl, hvalue, hvalue, rfl⟩, Filters.satisfied_nil _⟩

end BucketQuery
