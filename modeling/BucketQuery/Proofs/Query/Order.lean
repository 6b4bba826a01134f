import BucketQuery.Proofs.Query.Statement

set_option autoImplicit false

/-! # Reading sort entries

A text is a sort entry when it has no colon, or one colon with a direction after it
(`exists_read_iff`); any other text is refused and named in the refusal. An entry is read back from
every form it can be written in, unless its property would be taken apart at a colon or at the mark
for ignoring case (`read_of_mem_texts`). The ORDER BY clause of a list of entries says which entries
they are and in which order (`orderText_clauses_inj`).
-/

namespace BucketQuery.Order

/-! ## The grammar of entries -/

/-- A text that is a sort entry: it has no colon, or one, with nothing but a direction after it. -/
def IsEntry (text : String) : Prop :=
  text.toList.count ':' = 0 ∨
    text.toList.count ':' = 1 ∧ (":asc".toList <:+ text.toList ∨ ":desc".toList <:+ text.toList)

instance (text : String) : Decidable (IsEntry text) := inferInstanceAs (Decidable (_ ∨ _ ∧ _))

/-- A text without a colon is a property. -/
theorem read_of_not_mem {text : String} (h : ':' ∉ text.toList) :
    read text = .ok (ofProperty text .ascending) := by
  rw [read, splitOnChar_eq_splitOn, List.splitOn_eq_singleton h, List.map_singleton,
    String.ofList_toList]

/-- A text with one colon is a property and a direction. -/
theorem read_of_one_colon {text : String} {property direction : List Char}
    (htext : text.toList = property ++ ':' :: direction) (hproperty : ':' ∉ property)
    (hdirection : ':' ∉ direction) :
    read text =
      if direction = "asc".toList then .ok (ofProperty (String.ofList property) .ascending)
      else if direction = "desc".toList then
        .ok (ofProperty (String.ofList property) .descending)
      else .error ⟨text⟩ := by
  have hword (word : String) : String.ofList direction = word ↔ direction = word.toList := by
    rw [← String.toList_inj, String.toList_ofList]
  simp only [read, htext, splitOnChar_eq_splitOn,
    List.splitOn_append_cons_self_of_not_mem hproperty, List.splitOn_eq_singleton hdirection,
    List.map_cons, List.map_nil, hword]

/-- A text with more than one colon is refused. -/
theorem read_of_two_colons {text : String} {first second rest : List Char}
    (htext : text.toList = first ++ ':' :: (second ++ ':' :: rest)) (hfirst : ':' ∉ first)
    (hsecond : ':' ∉ second) : read text = .error ⟨text⟩ := by
  obtain ⟨piece, pieces, hpieces⟩ := List.exists_cons_of_ne_nil (List.splitOn_ne_nil ':' rest)
  rw [read, splitOnChar_eq_splitOn, htext, List.splitOn_append_cons_self_of_not_mem hfirst,
    List.splitOn_append_cons_self_of_not_mem hsecond, hpieces]
  rfl

/-- Where the only colon of a text stands, its direction follows. -/
theorem isSuffix_iff_of_one_colon {text property direction : List Char}
    (htext : text = property ++ ':' :: direction) (hdirection : ':' ∉ direction)
    (word : List Char) (hword : ':' ∉ word) : ':' :: word <:+ text ↔ direction = word := by
  constructor
  · rintro ⟨front, hfront⟩
    exact (append_cons_inj_of_not_mem hword hdirection (hfront.trans htext)).2.symm
  · rintro rfl
    exact ⟨property, htext.symm⟩

/-- What becomes of a text: it is an entry and is read, or it is refused. -/
theorem read_cases (text : String) :
    (IsEntry text ∧ ∃ order, read text = .ok order) ∨
      ¬ IsEntry text ∧ read text = .error ⟨text⟩ := by
  by_cases hcolon : ':' ∈ text.toList
  · obtain ⟨property, direction, htext, hproperty⟩ := List.eq_append_cons_of_mem hcolon
    have hcount : text.toList.count ':' = direction.count ':' + 1 := by
      rw [htext, List.count_append, List.count_cons_self, List.count_eq_zero.mpr hproperty,
        Nat.zero_add]
    by_cases hsecond : ':' ∈ direction
    · obtain ⟨second, rest, rfl, hfree⟩ := List.eq_append_cons_of_mem hsecond
      -- two colons: no entry has as many
      have hmore := List.count_pos_iff.mpr hsecond
      refine .inr ⟨?_, read_of_two_colons htext hproperty hfree⟩
      rw [IsEntry]
      omega
    · rw [List.count_eq_zero.mpr hsecond] at hcount
      -- one colon: what follows it has to be a direction
      have hasc := isSuffix_iff_of_one_colon htext hsecond "asc".toList (by decide)
      have hdesc := isSuffix_iff_of_one_colon htext hsecond "desc".toList (by decide)
      have hentry : IsEntry text ↔ direction = "asc".toList ∨ direction = "desc".toList := by
        rw [IsEntry, hcount, ← hasc, ← hdesc]
        simp
      rw [hentry, read_of_one_colon htext hproperty hsecond]
      by_cases hascending : direction = "asc".toList
      · exact .inl ⟨.inl hascending, _, if_pos hascending⟩
      · by_cases hdescending : direction = "desc".toList
        · exact .inl ⟨.inr hdescending, _, by rw [if_neg hascending, if_pos hdescending]⟩
        · exact .inr ⟨not_or.mpr ⟨hascending, hdescending⟩, by
            rw [if_neg hascending, if_neg hdescending]⟩
  · exact .inl ⟨.inl (List.count_eq_zero.mpr hcolon), _, read_of_not_mem hcolon⟩

/-- **A text is read exactly when it is an entry.** -/
theorem exists_read_iff (text : String) : (∃ order, read text = .ok order) ↔ IsEntry text := by
  rcases read_cases text with ⟨hentry, hread⟩ | ⟨hentry, hread⟩
  · exact iff_of_true hread hentry
  · refine iff_of_false ?_ hentry
    rintro ⟨order, horder⟩
    cases hread.symm.trans horder

/-- Any other text is refused, and the refusal carries it. -/
theorem read_of_not_isEntry {text : String} (h : ¬ IsEntry text) : read text = .error ⟨text⟩ := by
  rcases read_cases text with ⟨hentry, _⟩ | ⟨_, hread⟩
  · exact absurd hentry h
  · exact hread

/-! ## Reading entries back -/

/-- The property of an entry with its mark. -/
def marked (order : Order) : String :=
  order.property ++ if order.ignoreCase then ignoreCaseMark else ""

/-- The texts that an entry can be written as. The direction may be left out when it ascends. -/
def texts (order : Order) : List String :=
  match order.direction with
  | .ascending => [order.marked, order.marked ++ ":asc"]
  | .descending => [order.marked ++ ":desc"]

/-- The property of an entry is read as it stands: it has no colon, and it does not end in the mark
if the entry does not ignore case. -/
def Legible (order : Order) : Prop :=
  ':' ∉ order.property.toList ∧
    (order.ignoreCase = false → ¬ ignoreCaseMark.toList <:+ order.property.toList)

instance (order : Order) : Decidable order.Legible := inferInstanceAs (Decidable (_ ∧ (_ → _)))

theorem not_mem_marked {order : Order} (h : ':' ∉ order.property.toList) :
    ':' ∉ order.marked.toList := by
  have hmark : ':' ∉ (if order.ignoreCase then ignoreCaseMark else "").toList := by
    cases order.ignoreCase <;> decide
  rw [marked, String.toList_append, List.mem_append, not_or]
  exact ⟨h, hmark⟩

/-- The mark is taken off a property once. -/
theorem ofProperty_marked {order : Order} (h : order.Legible) (direction : Direction) :
    ofProperty order.marked direction = { order with direction := direction } := by
  obtain ⟨property, _, ignoreCase⟩ := order
  cases ignoreCase with
  | false =>
      have hnone : withoutSuffix? ignoreCaseMark property = none :=
        withoutSuffix?_eq_none_iff.mpr (h.2 rfl)
      have hplain : marked ⟨property, direction, false⟩ = property := String.append_empty
      show ofProperty (marked ⟨property, direction, false⟩) direction = _
      rw [hplain, ofProperty, hnone]
  | true =>
      have hsome : withoutSuffix? ignoreCaseMark (property ++ ignoreCaseMark) = some property :=
        withoutSuffix?_eq_some_iff.mpr rfl
      show ofProperty (property ++ ignoreCaseMark) direction = _
      rw [ofProperty, hsome]

theorem read_marked_append {order : Order} (h : order.Legible) (word : String)
    (hword : ':' ∉ word.toList) :
    read (order.marked ++ (":" ++ word)) =
      if word.toList = "asc".toList then .ok { order with direction := .ascending }
      else if word.toList = "desc".toList then .ok { order with direction := .descending }
      else .error ⟨order.marked ++ (":" ++ word)⟩ := by
  have htext : (order.marked ++ (":" ++ word)).toList =
      order.marked.toList ++ ':' :: word.toList := by
    rw [String.toList_append, String.toList_append]
    rfl
  rw [read_of_one_colon htext (not_mem_marked h.1) hword, String.ofList_toList,
    ofProperty_marked h, ofProperty_marked h]

/-- **An entry is read back from each of its texts.** -/
theorem read_of_mem_texts {order : Order} (h : order.Legible) {text : String}
    (htext : text ∈ order.texts) : read text = .ok order := by
  cases hdirection : order.direction with
  | ascending =>
      have hsame : { order with direction := .ascending } = order := by rw [← hdirection]
      rw [texts, hdirection] at htext
      rcases List.mem_cons.mp htext with rfl | htext
      · rw [read_of_not_mem (not_mem_marked h.1), ofProperty_marked h, hsame]
      · cases List.mem_singleton.mp htext
        rw [← hsame]
        exact read_marked_append h "asc" (by decide)
  | descending =>
      have hsame : { order with direction := .descending } = order := by rw [← hdirection]
      rw [texts, hdirection] at htext
      cases List.mem_singleton.mp htext
      rw [← hsame]
      exact read_marked_append h "desc" (by decide)

/-- Entries are read back one by one, in their order. -/
theorem mapM_read_of_texts {orders : List Order} {written : List String}
    (hlegible : ∀ order ∈ orders, order.Legible)
    (hwritten : List.Forall₂ (fun text order => text ∈ order.texts) written orders) :
    written.mapM read = .ok orders := by
  induction hwritten with
  | nil => rfl
  | cons htext _ ih =>
      obtain ⟨hfirst, hrest⟩ := List.forall_mem_cons.mp hlegible
      rw [List.mapM_cons, read_of_mem_texts hfirst htext, ih hrest]
      rfl

/-! ## Entries in a statement -/

/-- **An ORDER BY clause says which entries it was made from**, and in which order. -/
theorem orderText_clauses_inj {orders orders' : List Order}
    (h : Statement.orderText (orders.map clause) = Statement.orderText (orders'.map clause)) :
    orders = orders' := by
  have hterms (entries : List Order) : ∀ term ∈ entries.map clause, term.WellFormed := by
    intro term hterm
    obtain ⟨order, _, rfl⟩ := List.mem_map.mp hterm
    exact order.wellFormed_clause
  have hnested (entries : List Order) :
      (entries.map clause).map OrderClause.reassociate = entries.map clause := by
    rw [List.map_map]
    exact List.map_congr_left fun order _ => order.reassociate_clause
  have htext : (Statement.orderText (orders.map clause)).toList ++ [] =
      (Statement.orderText (orders'.map clause)).toList ++ [] := by
    rw [h]
  obtain ⟨hclauses, _⟩ := Statement.orderText_append_inj (hterms orders) (hterms orders')
    (.inl rfl) (.inl rfl) htext
  rw [hnested, hnested] at hclauses
  exact (List.map_inj_right fun _ _ => clause_injective).mp hclauses

/-- **The grammar of sort entries.** A text is read as an entry exactly when it has no colon, or one
with nothing but a direction after it; any other text is refused, and the refusal carries it
unchanged. A legible entry is read back from every text that it can be written as, and so is a list
of them; the terms of ORDER BY that a list of entries stands for are theirs in the same order, and
the clause tells the list from every other. -/
theorem read_grammar :
    (∀ text, (∃ order, read text = .ok order) ↔ IsEntry text) ∧
    (∀ text, ¬ IsEntry text → read text = .error ⟨text⟩) ∧
    (∀ order : Order, order.Legible → ∀ text ∈ order.texts, read text = .ok order) ∧
    (∀ (orders : List Order) (written : List String), (∀ order ∈ orders, order.Legible) →
      List.Forall₂ (fun text order => text ∈ order.texts) written orders →
        written.mapM read = .ok orders) ∧
    ∀ orders orders' : List Order,
      Statement.orderText (orders.map clause) = Statement.orderText (orders'.map clause) ↔
        orders = orders' :=
  ⟨exists_read_iff, fun _ => read_of_not_isEntry, fun _ h _ => read_of_mem_texts h,
    fun _ _ => mapM_read_of_texts, fun _ _ => ⟨orderText_clauses_inj, fun h => by rw [h]⟩⟩

/-- An empty property and a property that ends in the mark are read back with their neighbour; a
second direction is refused. -/
theorem read_grammar_marks :
    ["name_ignorecase:desc", "x_ignorecase_ignorecase", ":asc"].mapM read =
      .ok [⟨"name", .descending, true⟩, ⟨"x_ignorecase", .ascending, true⟩,
        ⟨"", .ascending, false⟩] ∧
    read "age:asc:desc" = .error ⟨"age:asc:desc"⟩ := by
  obtain ⟨_, hrefused, _, hlist, _⟩ := read_grammar
  exact ⟨hlist _ _ (by decide) (by decide), hrefused _ (by decide)⟩

end BucketQuery.Order
