import BucketQuery.Proofs.Bucket.Sorted

set_option autoImplicit false

/-! # Ranges

Filters from a value and up to a value compare by the collation of values, and so does ORDER BY,
where what is missing comes before every value (`Within`). Filtering does not change the order of
the documents that are left (`listed_eq_filter`), and a list in order is cut by a value into what
lies before it and what does not (`exists_stretch`). So a range of a property is a stretch of all
documents in the order of that property (`range_stretch`).
-/

namespace BucketQuery

/-! ## Stretches of a list -/

section Stretch

variable {α : Type}

/-- Where what passes a test is followed by nothing but what passes it, the test cuts the list in
two. -/
theorem filter_not_append_filter {items : List α} {p : α → Bool}
    (h : items.Pairwise fun a b => p a = true → p b = true) :
    items.filter (fun x => !p x) ++ items.filter p = items := by
  induction items with
  | nil => rfl
  | cons first rest ih =>
      obtain ⟨hfirst, hrest⟩ := List.pairwise_cons.mp h
      by_cases hp : p first = true
      · have hall : ∀ x ∈ first :: rest, p x = true :=
          List.forall_mem_cons.mpr ⟨hp, fun x hx => hfirst x hx hp⟩
        have hkept : (first :: rest).filter p = first :: rest := List.filter_eq_self.mpr hall
        have hdropped : (first :: rest).filter (fun x => !p x) = [] := by
          apply List.filter_eq_nil_iff.mpr
          intro x hx
          rw [hall x hx]
          exact Bool.false_ne_true
        rw [hkept, hdropped, List.nil_append]
      · have hnot : (!p first) = true := by
          simpa using hp
        have hkept : (first :: rest).filter (fun x => !p x) =
            first :: rest.filter fun x => !p x := List.filter_cons_of_pos hnot
        rw [hkept, List.filter_cons_of_neg hp, List.cons_append, ih hrest]

/-- A test that once passed stays passed and one that once failed stays failed cut a stretch out of
a list: what passes both. -/
theorem exists_stretch {items : List α} {low high : α → Bool}
    (hlow : items.Pairwise fun a b => low a = true → low b = true)
    (hhigh : items.Pairwise fun a b => high b = true → high a = true) :
    ∃ before after, items = before ++ items.filter (fun x => low x && high x) ++ after ∧
      ∀ x ∈ before ++ after, (low x && high x) = false := by
  have hfail : (items.filter low).Pairwise fun a b => (!high a) = true → (!high b) = true := by
    refine (hhigh.filter low).imp fun {a b} hab ha => ?_
    rw [Bool.not_eq_true', ← Bool.not_eq_true] at ha ⊢
    exact mt hab ha
  have hinner := filter_not_append_filter hfail
  simp only [Bool.not_not, List.filter_filter] at hinner
  refine ⟨items.filter fun x => !low x, items.filter fun x => !high x && low x, ?_, ?_⟩
  · have hcomm : (fun x => high x && low x) = fun x => low x && high x :=
      funext fun x => Bool.and_comm _ _
    rw [hcomm] at hinner
    rw [List.append_assoc, hinner]
    exact (filter_not_append_filter hlow).symm
  · intro x hx
    rcases List.mem_append.mp hx with hx | hx
    · have hnot := (List.mem_filter.mp hx).2
      rw [Bool.not_eq_true'] at hnot
      rw [hnot, Bool.false_and]
    · have hnot := (Bool.and_eq_true_iff.mp (List.mem_filter.mp hx).2).1
      rw [Bool.not_eq_true'] at hnot
      rw [hnot, Bool.and_false]

end Stretch

/-! ## Values in a range -/

/-- The filters for the values of a property from one value up to another. -/
def Filters.range (path : String) (low high : Json) : Filters :=
  [(path ++ "_from", low), (path ++ "_to", high)]

/-- What is found lies between two values, ends included, in the order of ORDER BY. -/
def Within (low high : Json) (found : Option Json) : Prop :=
  (Outcome.collate (.value low) (.ofOption found)).isLE = true ∧
    (Outcome.collate (.ofOption found) (.value high)).isLE = true

section Range

variable {low high : Json}

/-- What is missing or null lies below every value that is not null. -/
theorem accepts_atLeast_iff (h : low ≠ .null) (found : Option Json) :
    Operator.atLeast.Accepts found low ↔
      (Outcome.collate (.value low) (.ofOption found)).isLE = true := by
  cases found with
  | none =>
      refine iff_of_false ?_ Bool.false_ne_true
      rintro ⟨value, ⟨⟩, _⟩
  | some value =>
      have hle : (Outcome.collate (.value low) (.ofOption (some value))).isLE = true ↔
          Json.collate value low ≠ .lt :=
        Ordering.isLE_iff_ne_gt.trans (not_congr Std.OrientedCmp.gt_iff_lt)
      rw [hle]
      constructor
      · rintro ⟨_, ⟨⟩, _, _, hcmp⟩
        exact hcmp
      · intro hcmp
        refine ⟨value, rfl, ?_, h, hcmp⟩
        rintro rfl
        exact hcmp (Std.OrientedCmp.lt_of_gt (Json.collate_null h))

/-- For what is found and not null, an upper end is compared as ORDER BY compares it. -/
theorem accepts_atMost_iff (h : high ≠ .null) {value : Json} (hvalue : value ≠ .null) :
    Operator.atMost.Accepts (some value) high ↔
      (Outcome.collate (.value value) (.value high)).isLE = true := by
  have hle : (Outcome.collate (.value value) (.value high)).isLE = true ↔
      Json.collate value high ≠ .gt := Ordering.isLE_iff_ne_gt
  rw [hle]
  constructor
  · rintro ⟨_, ⟨⟩, _, _, hcmp⟩
    exact hcmp
  · intro hcmp
    exact ⟨value, rfl, hvalue, h, hcmp⟩

/-- **A range asks for what lies within it.** -/
theorem satisfied_range_iff (path : String) (hlow : low ≠ .null) (hhigh : high ≠ .null)
    (document : Json) :
    (Filters.range path low high).Satisfied document ↔
      Within low high (document.lookup? path) := by
  have hfrom : FilterKey.read (path ++ "_from") = ⟨path ++ "_from", path, .atLeast⟩ :=
    @FilterKey.read_append_suffix path .atLeast nofun
  have hto : FilterKey.read (path ++ "_to") = ⟨path ++ "_to", path, .atMost⟩ :=
    @FilterKey.read_append_suffix path .atMost nofun
  have hkeys : path ++ "_to" ≠ path ++ "_from" := by
    intro heq
    rw [heq, hfrom] at hto
    cases congrArg FilterKey.operator hto
  have hnew : Members.get? [(path ++ "_to", high)] (path ++ "_from") = none :=
    Members.get?_cons_of_ne hkeys [] high
  rw [Filters.range, Filters.satisfied_cons_iff hfrom hnew, Filters.satisfied_cons_iff hto rfl,
    accepts_atLeast_iff hlow, Within]
  refine and_congr_right fun hle => ?_
  rw [and_iff_left (Filters.satisfied_nil document)]
  -- what is not below the lower end is a value other than null
  obtain ⟨value, hfound, hvalue, _⟩ := (accepts_atLeast_iff hlow _).mpr hle
  rw [hfound]
  exact accepts_atMost_iff hhigh hvalue

/-- Nothing lies within a range whose ends are the wrong way round. -/
theorem not_within_of_lt (h : Json.collate high low = .lt) (found : Option Json) :
    ¬ Within low high found := by
  rintro ⟨hlow, hhigh⟩
  have hle : (Outcome.collate (.value low) (.value high)).isLE = true :=
    Std.TransCmp.isLE_trans hlow hhigh
  have hgt : Outcome.collate (.value low) (.value high) = .gt := Std.OrientedCmp.gt_of_lt h
  rw [hgt] at hle
  cases hle

/-- A wider range has everything within it that a narrower one has. -/
theorem Within.mono {low' high' : Json} (hlow : Json.collate low' low ≠ .gt)
    (hhigh : Json.collate high high' ≠ .gt) {found : Option Json} (h : Within low high found) :
    Within low' high' found := by
  have hlow' : (Outcome.collate (.value low') (.value low)).isLE = true :=
    Ordering.isLE_iff_ne_gt.mpr hlow
  have hhigh' : (Outcome.collate (.value high) (.value high')).isLE = true :=
    Ordering.isLE_iff_ne_gt.mpr hhigh
  exact ⟨Std.TransCmp.isLE_trans hlow' h.1, Std.TransCmp.isLE_trans h.2 hhigh'⟩

end Range

/-! ## Documents in a range -/

/-- A property that does not end in the mark is not compared in lower case. -/
theorem Order.ofProperty_of_not_marked {property : String}
    (h : ¬ ignoreCaseMark.toList <:+ property.toList) (direction : Direction) :
    ofProperty property direction = ⟨property, direction, false⟩ := by
  rw [ofProperty, withoutSuffix?_eq_none_iff.mpr h]

/-- In the order of a property, documents are compared by what is found there. -/
theorem compareEntries_ofProperty {path : String}
    (h : ¬ Order.ignoreCaseMark.toList <:+ path.toList) (a b : String × Json) :
    compareEntries [Order.ofProperty path .ascending] a b =
      Outcome.collate (.ofOption (a.2.lookup? path)) (.ofOption (b.2.lookup? path)) := by
  rw [Order.ofProperty_of_not_marked h]
  exact Ordering.then_eq

namespace Bucket

variable (bucket : Bucket) {path : String} {low high : Json}

theorem ids_range (path : String) (hlow : low ≠ .null) (hhigh : high ≠ .null) :
    bucket.ids (.range path low high) = bucket.having path (Within low high) :=
  bucket.ids_eq_having fun document => satisfied_range_iff path hlow hhigh document

/-- Whatever the order, the rows are those of the documents that are selected. -/
theorem idsIn_listed (sort : List Order) (filters : Filters) :
    idsIn ((bucket.listed sort filters).map documentRow) = bucket.ids filters := by
  ext id
  rw [mem_idsIn_map_documentRow, mem_ids_iff]
  simp only [mem_listed_iff]

/-- In the order of a property, what a range of it selects stands together among all documents. -/
theorem exists_listed_range (hpath : ¬ Order.ignoreCaseMark.toList <:+ path.toList)
    (hlow : low ≠ .null) (hhigh : high ≠ .null) :
    ∃ before after,
      bucket.listed [.ofProperty path .ascending] [] =
        before ++ bucket.listed [.ofProperty path .ascending] (.range path low high) ++ after ∧
      ∀ entry ∈ before ++ after, ¬ Within low high (entry.2.lookup? path) := by
  have horder : (bucket.listed [.ofProperty path .ascending] []).Pairwise fun a b =>
      (Outcome.collate (.ofOption (a.2.lookup? path)) (.ofOption (b.2.lookup? path))).isLE = true := by
    refine (bucket.pairwise_listed _ []).imp fun {a b} hab => ?_
    rwa [compareEntries_ofProperty hpath] at hab
  -- going up, one test turns true at the lower end and the other false after the upper end
  have hfrom := horder.imp fun {a b} hab (ha : (Outcome.collate (.value low) _).isLE = true) =>
    Std.TransCmp.isLE_trans ha hab
  have hto := horder.imp fun {a b} hab (hb : (Outcome.collate _ (.value high)).isLE = true) =>
    Std.TransCmp.isLE_trans hab hb
  obtain ⟨before, after, hsplit, hrest⟩ := exists_stretch hfrom hto
  have hblock := bucket.listed_eq_filter [.ofProperty path .ascending] (.range path low high)
    fun document => Bool.and_eq_true_iff.trans (satisfied_range_iff path hlow hhigh document).symm
  refine ⟨before, after, ?_, fun entry hentry hwithin => ?_⟩
  · rw [hblock]
    exact hsplit
  · have hfalse := hrest entry hentry
    rw [Bool.and_eq_true_iff.mpr hwithin] at hfalse
    cases hfalse

/-- **A range is a stretch.** The filters from a value up to another select the documents that lie
between the two in the order of ORDER BY. List the documents of a bucket in ascending order of the
property: what the range selects stands together there, and the filtered statement in the same order
returns that stretch. A range whose ends are the wrong way round is empty, and a wider range selects
whatever a narrower one does. -/
theorem range_stretch (hpath : ¬ Order.ignoreCaseMark.toList <:+ path.toList)
    (hlow : low ≠ .null) (hhigh : high ≠ .null) :
    bucket.ids (.range path low high) = bucket.having path (Within low high) ∧
    (∃ before block after : List Json,
      bucket.answer ⟨.sorted bucket.name [] [.ofProperty path .ascending], []⟩ =
        .ok (before ++ block ++ after) ∧
      bucket.answer ⟨.sorted bucket.name (.range path low high) [.ofProperty path .ascending],
        .range path low high⟩ = .ok block ∧
      idsIn block = bucket.ids (.range path low high) ∧
      Disjoint (idsIn (before ++ after)) (bucket.ids (.range path low high))) ∧
    (Json.collate high low = .lt → bucket.ids (.range path low high) = ∅) ∧
    ∀ low' high' : Json, low' ≠ .null → high' ≠ .null →
      Json.collate low' low ≠ .gt → Json.collate high high' ≠ .gt →
        bucket.ids (.range path low high) ⊆ bucket.ids (.range path low' high') := by
  refine ⟨bucket.ids_range path hlow hhigh, ?_, ?_, ?_⟩
  · obtain ⟨before, after, hsplit, hrest⟩ := bucket.exists_listed_range hpath hlow hhigh
    refine ⟨before.map documentRow, _, after.map documentRow, ?_, bucket.answer_sorted _ _,
      bucket.idsIn_listed _ _, ?_⟩
    · rw [answer_sorted, hsplit, List.map_append, List.map_append]
    · rw [ids_range _ path hlow hhigh, ← List.map_append, Set.disjoint_left]
      intro id hid hselected
      obtain ⟨document, hentry⟩ := (mem_idsIn_map_documentRow _ id).mp hid
      have hlisted : (id, document) ∈ bucket.listed [.ofProperty path .ascending] [] := by
        rw [hsplit, List.append_assoc]
        rcases List.mem_append.mp hentry with hbefore | hafter
        · exact List.mem_append_left _ hbefore
        · exact List.mem_append_right _ (List.mem_append_right _ hafter)
      -- what is selected lies within the range, and outside of the stretch nothing does
      have hvisible := ((bucket.mem_listed_iff _ _ id document).mp hlisted).1
      exact hrest _ hentry ((bucket.mem_having_iff hvisible path _).mp hselected)
  · intro hlt
    rw [ids_range _ path hlow hhigh, Set.eq_empty_iff_forall_notMem]
    rintro id ⟨document, _, hwithin⟩
    exact not_within_of_lt hlt _ hwithin
  · intro low' high' hlow' hhigh' hbelow habove
    rw [ids_range _ path hlow hhigh, ids_range _ path hlow' hhigh']
    rintro id ⟨document, hvisible, hwithin⟩
    exact ⟨document, hvisible, hwithin.mono hbelow habove⟩

end Bucket

/-! ## A column of several kinds -/

/-- A bucket whose documents have a number, a text, null or nothing as their rank. -/
def ladder : Bucket :=
  .ofList "ladder"
    [("a", .object [("rank", .string "high")]), ("b", .object [("rank", .ofUInt64 3)]),
      ("c", .object []), ("d", .object [("rank", .ofUInt64 1)]),
      ("e", .object [("rank", .null)]), ("f", .object [("rank", .ofUInt64 4)])]

theorem visible_ladder : ladder.visible = ladder.documents := by
  have hids : ∀ id ∈ ladder.documents.map Prod.fst, ¬ GatewayId id := by decide +kernel
  refine List.filter_eq_self.mpr fun entry hentry => ?_
  exact decide_eq_true (hids _ (List.mem_map_of_mem hentry))

/-- From two up to the text `far`, the ranks three and four are a stretch of the ladder. -/
theorem range_stretch_ladder :
    ¬ Order.ignoreCaseMark.toList <:+ "rank".toList ∧
    Json.ofUInt64 2 ≠ .null ∧ Json.string "far" ≠ .null ∧
    (∃ before block after : List Json,
      ladder.answer ⟨.sorted ladder.name [] [.ofProperty "rank" .ascending], []⟩ =
        .ok (before ++ block ++ after) ∧
      ladder.answer ⟨.sorted ladder.name (.range "rank" (.ofUInt64 2) (.string "far"))
        [.ofProperty "rank" .ascending], .range "rank" (.ofUInt64 2) (.string "far")⟩ = .ok block ∧
      "b" ∈ idsIn block ∧ "f" ∈ idsIn block ∧ "a" ∉ idsIn block ∧ "d" ∉ idsIn block) ∧
    ladder.ids (.range "rank" (.string "far") (.ofUInt64 2)) = ∅ := by
  have hpath : ¬ Order.ignoreCaseMark.toList <:+ "rank".toList := by decide
  have hlow : Json.ofUInt64 2 ≠ .null := Json.noConfusion
  have hhigh : Json.string "far" ≠ .null := Json.noConfusion
  obtain ⟨hrange, ⟨before, block, after, hall, hblock, hids, _⟩, _⟩ :=
    ladder.range_stretch hpath hlow hhigh
  obtain ⟨_, _, hempty, _⟩ := ladder.range_stretch hpath hhigh hlow
  have hwithin {id : String} (rank : Json)
      (h : (id, Json.object [("rank", rank)]) ∈ ladder.documents) :
      id ∈ idsIn block ↔ Within (.ofUInt64 2) (.string "far") (some rank) := by
    rw [← visible_ladder] at h
    rw [hids, hrange]
    exact ladder.mem_having_iff h "rank" _
  have hdocuments : ladder.documents =
      [("a", .object [("rank", .string "high")]), ("b", .object [("rank", .ofUInt64 3)]),
        ("c", .object []), ("d", .object [("rank", .ofUInt64 1)]),
        ("e", .object [("rank", .null)]), ("f", .object [("rank", .ofUInt64 4)])] := rfl
  refine ⟨hpath, hlow, hhigh, ⟨before, block, after, hall, hblock, ?_, ?_, ?_, ?_⟩, hempty rfl⟩
  · rw [hwithin (.ofUInt64 3) (by simp [hdocuments])]
    exact ⟨by decide +kernel, by decide +kernel⟩
  · rw [hwithin (.ofUInt64 4) (by simp [hdocuments])]
    exact ⟨by decide +kernel, by decide +kernel⟩
  · rw [hwithin (.string "high") (by simp [hdocuments])]
    exact fun h => absurd h.2 (by decide +kernel)
  · rw [hwithin (.ofUInt64 1) (by simp [hdocuments])]
    exact fun h => absurd h.1 (by decide +kernel)

end BucketQuery
