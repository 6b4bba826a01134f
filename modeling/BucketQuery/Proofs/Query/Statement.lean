import BucketQuery.Proofs.Filter.Predicate
import BucketQuery.Proofs.Number.Numeral
import BucketQuery.Query.Statement

set_option autoImplicit false

/-! # Reading statements back

The text of a statement says which statement it is, up to the nesting of conjunctions (`text_inj`).
So no name that a statement is made from can pass for another part of it, and the statements that
the constructors make are told apart by what they were given, the values of the filters aside
(`text_eq_iff`).

The clauses after the predicate are optional. Each starts with a blank and a word of its own, which
tells it from the clauses after it.
-/

namespace BucketQuery

/-! ## Terms of ORDER BY -/

namespace OrderClause

/-- The term with the conjunctions in it nested to the right. -/
def reassociate (clause : OrderClause) : OrderClause :=
  { clause with expression := clause.expression.reassociate }

/-- The expression of a term is a well-formed operand. -/
def WellFormed (clause : OrderClause) : Prop :=
  clause.expression.IsOperand ∧ clause.expression.WellFormed

theorem toList_text (clause : OrderClause) :
    clause.text.toList = clause.expression.text.toList ++ ' ' :: clause.direction.text.toList := by
  simp only [text, String.toList_append, List.append_assoc]
  rfl

theorem direction_append_inj {a b : Direction} {r s : List Char}
    (h : a.text.toList ++ r = b.text.toList ++ s) : a = b ∧ r = s := by
  cases a <;> cases b <;> simp [Direction.text] at h <;> exact ⟨rfl, h⟩

theorem text_append_inj {a b : OrderClause} (ha : a.WellFormed) (hb : b.WellFormed)
    {r s : List Char} (h : a.text.toList ++ r = b.text.toList ++ s) :
    a.reassociate = b.reassociate ∧ r = s := by
  rw [toList_text, toList_text, List.append_assoc, List.append_assoc] at h
  obtain ⟨hexpression, hrest⟩ := (Expression.legibleParts ha.2).1 ha.1 b.expression hb _ _
    List.mem_cons_self List.mem_cons_self h
  obtain ⟨hdirection, hrs⟩ := direction_append_inj (List.tail_eq_of_cons_eq hrest)
  exact ⟨by rw [reassociate, reassociate, hexpression, hdirection], hrs⟩

end OrderClause

namespace Order

theorem wellFormed_clause (order : Order) : order.clause.WellFormed := by
  rw [clause]
  cases order.ignoreCase <;> exact ⟨trivial, trivial⟩

theorem reassociate_clause (order : Order) : order.clause.reassociate = order.clause := by
  rw [clause]
  cases order.ignoreCase <;> rfl

/-- A sort entry is determined by its term. -/
theorem clause_injective {a b : Order} (h : a.clause = b.clause) : a = b := by
  obtain ⟨property, direction, ignoreCase⟩ := a
  obtain ⟨property', direction', ignoreCase'⟩ := b
  cases ignoreCase <;> cases ignoreCase' <;> cases h <;> rfl

end Order

namespace Statement

/-! ## Optional clauses -/

/-- A text that is empty or starts with a blank and one of some words. -/
def ClauseOf (words : List (List Char)) (text : List Char) : Prop :=
  text = [] ∨ ∃ word ∈ words, ∃ rest, text = ' ' :: (word ++ rest)

theorem ClauseOf.append {words words' : List (List Char)} {text rest : List Char}
    (h : ClauseOf words text) (h' : ClauseOf words' rest) :
    ClauseOf (words ++ words') (text ++ rest) := by
  rcases h with rfl | ⟨word, hword, more, rfl⟩
  · rcases h' with rfl | ⟨word, hword, more, rfl⟩
    · exact .inl rfl
    · exact .inr ⟨word, List.mem_append_right _ hword, more, rfl⟩
  · refine .inr ⟨word, List.mem_append_left _ hword, more ++ rest, ?_⟩
    rw [List.cons_append, List.append_assoc]

/-- No clause starts with a digit. -/
theorem ClauseOf.not_isDigit {words : List (List Char)} {text : List Char}
    (h : ClauseOf words text) : ∀ c ∈ text.head?, c.isDigit = false := by
  rcases h with rfl | ⟨word, _, rest, rfl⟩
  · exact nofun
  · rintro c ⟨rfl⟩
    rfl

/-- A clause does not start with a text that none of its words starts with. -/
theorem ClauseOf.not_isPrefix {words : List (List Char)} {text other : List Char}
    (h : ClauseOf words text) (hother : ∀ word ∈ words, ∀ rest, ¬ other <+: word ++ rest) :
    ¬ ' ' :: other <+: text := by
  rcases h with rfl | ⟨word, hword, rest, rfl⟩
  · exact fun h => absurd (List.prefix_nil.mp h) (List.cons_ne_nil _ _)
  · exact fun h => hother word hword rest (List.cons_prefix_cons.mp h).2

theorem clauseOf_boundText (word : String) (n : Option Nat) :
    ClauseOf [word.toList] (boundText word n).toList := by
  cases n with
  | none => exact .inl rfl
  | some n =>
      refine .inr ⟨word.toList, List.mem_singleton_self _, ' ' :: digitsOf n, ?_⟩
      simp only [boundText, String.toList_append, String.toList_ofList, List.append_assoc]
      rfl

/-- A bound is read back when neither its word nor a digit follows. -/
theorem boundText_append_inj {word : String} {m n : Option Nat} {r s : List Char}
    (hr : ¬ ' ' :: word.toList <+: r) (hs : ¬ ' ' :: word.toList <+: s)
    (hr_digit : ∀ c ∈ r.head?, c.isDigit = false) (hs_digit : ∀ c ∈ s.head?, c.isDigit = false)
    (h : (boundText word m).toList ++ r = (boundText word n).toList ++ s) : m = n ∧ r = s := by
  have hsome : ∀ n, (boundText word (some n)).toList =
      ' ' :: word.toList ++ (' ' :: digitsOf n) := by
    intro n
    simp only [boundText, String.toList_append, String.toList_ofList, List.append_assoc]
    rfl
  cases m with
  | none =>
      cases n with
      | none => exact ⟨rfl, h⟩
      | some n =>
          rw [hsome, List.append_assoc] at h
          exact absurd ⟨_, h.symm⟩ hr
  | some m =>
      rw [hsome, List.append_assoc] at h
      cases n with
      | none => exact absurd ⟨_, h⟩ hs
      | some n =>
          rw [hsome, List.append_assoc] at h
          have hdigits := List.tail_eq_of_cons_eq (List.append_cancel_left h)
          obtain ⟨rfl, hrs⟩ := digitsOf_append_inj hr_digit hs_digit hdigits
          exact ⟨rfl, hrs⟩

/-- The text of an ORDER BY clause that has terms. -/
theorem toList_orderText {clauses : List OrderClause} (h : clauses ≠ []) :
    (orderText clauses).toList =
      " ORDER BY ".toList ++
        ", ".toList.intercalate (clauses.map fun clause => clause.text.toList) := by
  rw [orderText, if_neg (by rwa [List.isEmpty_iff]), String.toList_append,
    String.toList_intercalate, List.map_map]
  rfl

theorem clauseOf_orderText (clauses : List OrderClause) :
    ClauseOf ["ORDER".toList] (orderText clauses).toList := by
  by_cases h : clauses = []
  · rw [h]
    exact .inl rfl
  · refine .inr ⟨"ORDER".toList, List.mem_singleton_self _, " BY ".toList ++
      ", ".toList.intercalate (clauses.map fun clause => clause.text.toList), ?_⟩
    rw [toList_orderText h]
    rfl

/-- An ORDER BY clause is read back when only bounds follow. -/
theorem orderText_append_inj {xs ys : List OrderClause} (hxs : ∀ x ∈ xs, x.WellFormed)
    (hys : ∀ y ∈ ys, y.WellFormed) {r s : List Char}
    (hr : ClauseOf ["LIMIT".toList, "OFFSET".toList] r)
    (hs : ClauseOf ["LIMIT".toList, "OFFSET".toList] s)
    (h : (orderText xs).toList ++ r = (orderText ys).toList ++ s) :
    xs.map OrderClause.reassociate = ys.map OrderClause.reassociate ∧ r = s := by
  have horder : ∀ {t : List Char}, ClauseOf ["LIMIT".toList, "OFFSET".toList] t →
      ¬ " ORDER BY ".toList <+: t := by
    intro t ht
    refine ht.not_isPrefix fun word hword rest => ?_
    rw [List.mem_cons, List.mem_singleton] at hword
    rcases hword with rfl | rfl
    · show ¬ 'O' :: _ <+: 'L' :: _
      simp
    · show ¬ 'O' :: 'R' :: _ <+: 'O' :: 'F' :: _
      simp
  have hcomma : ∀ {t : List Char}, ClauseOf ["LIMIT".toList, "OFFSET".toList] t →
      ¬ ", ".toList <+: t := by
    rintro t (rfl | ⟨word, _, rest, rfl⟩)
    · simp
    · show ¬ ',' :: _ <+: ' ' :: _
      simp
  -- if only one of the clauses were there, its words would start what follows the other
  by_cases hxs_nil : xs = []
  · by_cases hys_nil : ys = []
    · rw [hxs_nil, hys_nil] at h ⊢
      exact ⟨rfl, h⟩
    · rw [hxs_nil, toList_orderText hys_nil, List.append_assoc] at h
      exact absurd ⟨_, h.symm⟩ (horder hr)
  · rw [toList_orderText hxs_nil, List.append_assoc] at h
    by_cases hys_nil : ys = []
    · rw [hys_nil] at h
      exact absurd ⟨_, h⟩ (horder hs)
    · rw [toList_orderText hys_nil, List.append_assoc] at h
      exact intercalate_append_inj OrderClause.reassociate OrderClause.WellFormed (fun _ => True)
        (fun x hx y hy _ _ _ _ heq => OrderClause.text_append_inj (hxs x hx) hy heq)
        (fun _ => trivial) hys hxs_nil hys_nil trivial trivial (hcomma hr) (hcomma hs)
        (List.append_cancel_left h)

/-! ## Projections -/

/-- The character that the text of a projection starts with. -/
def projectionInitial : Projection → Char
  | .documents => Name.quote
  | .count => 'C'
  | .sum _ => 'S'

theorem head?_projectionText (bucket : String) (projection : Projection) (rest : List Char) :
    ((projectionText bucket projection).toList ++ rest).head? =
      some (projectionInitial projection) := by
  cases projection with
  | documents =>
      rw [projectionText, String.toList_append, String.toList_append, Name.toList_quoted]
      rfl
  | count =>
      rw [projectionText, String.toList_append]
      rfl
  | sum field =>
      rw [projectionText, String.toList_append, String.toList_append, String.toList_append]
      rfl

/-- The text of a document id is read back when its name in the row follows. -/
theorem documentId_append_inj {a b : String} {r s : List Char}
    (h : (Expression.documentId a).text.toList ++ (" AS ".toList ++ r) =
      (Expression.documentId b).text.toList ++ (" AS ".toList ++ s)) : a = b := by
  have hends : ∀ t, Expression.OperandEnds (" AS ".toList ++ t) := by
    intro t
    show ' ' ∈ _
    exact List.mem_cons_self
  have heq := (Expression.legible_documentId a (.documentId b) ⟨trivial, trivial⟩ _ _
    (hends r) (hends s) h).1
  exact Expression.documentId.inj heq

/-- The text that a statement starts with, up to its predicate. -/
def heading (bucket : String) (projection : Projection) : List Char :=
  "SELECT ".toList ++ ((projectionText bucket projection).toList ++ (", ".toList ++
    ((Expression.documentId bucket).text.toList ++ (" AS ".toList ++ (idField.toList ++
      (" FROM ".toList ++ ((Name.quoted bucket).toList ++ " WHERE ".toList)))))))

/-- **A heading is read back**: the bucket and the projection are told from what follows. -/
theorem heading_append_inj {b b' : String} {p p' : Projection} {r s : List Char}
    (h : heading b p ++ r = heading b' p' ++ s) : b = b' ∧ p = p' ∧ r = s := by
  have hparts : b = b' ∧ p = p' := by
    unfold heading at h
    simp only [List.append_assoc] at h
    have hprojection := List.append_cancel_left h
    have hinitial := congrArg List.head? hprojection
    rw [head?_projectionText, head?_projectionText, Option.some_inj] at hinitial
    -- the first character tells the projections apart
    cases p with
    | documents =>
        cases p' with
        | documents =>
            simp only [projectionText, String.toList_append, List.append_assoc] at hprojection
            have hends : ∀ t, Name.Ends (" AS ".toList ++ t) := fun t => ⟨by decide, by decide⟩
            exact ⟨(Name.quoted_append_inj (hends _) (hends _) hprojection).1, rfl⟩
        | _ => simp [projectionInitial, Name.quote] at hinitial
    | count =>
        cases p' with
        | count =>
            have hid := List.append_cancel_left (List.append_cancel_left hprojection)
            exact ⟨documentId_append_inj hid, rfl⟩
        | _ => simp [projectionInitial, Name.quote] at hinitial
    | sum field =>
        cases p' with
        | sum field' =>
            simp only [projectionText, String.toList_append, List.append_assoc] at hprojection
            have hends : ∀ t, Expression.OperandEnds (") AS ".toList ++ t) := by
              intro t
              show ')' ∈ _
              decide
            obtain ⟨hfield, hrest⟩ := Expression.legible_path field (.path field')
              ⟨trivial, trivial⟩ _ _ (hends _) (hends _) (List.append_cancel_left hprojection)
            have hid := List.append_cancel_left (List.append_cancel_left
              (List.append_cancel_left hrest))
            exact ⟨documentId_append_inj hid, congrArg Projection.sum
              (Expression.path.inj hfield)⟩
        | _ => simp [projectionInitial, Name.quote] at hinitial
  -- equal parts make equal headings, and these cancel
  obtain ⟨rfl, rfl⟩ := hparts
  exact ⟨rfl, rfl, List.append_cancel_left h⟩

/-! ## Statements -/

/-- The statement with the conjunctions in it nested to the right. -/
def reassociate (statement : Statement) : Statement :=
  { statement with
    predicate := statement.predicate.reassociate
    orderBy := statement.orderBy.map OrderClause.reassociate }

theorem reassociate_eq_self {statement : Statement}
    (hpredicate : statement.predicate.reassociate = statement.predicate)
    (horder : ∀ clause ∈ statement.orderBy, clause.reassociate = clause) :
    statement.reassociate = statement := by
  have hclauses : statement.orderBy.map OrderClause.reassociate = statement.orderBy := by
    rw [List.map_congr_left horder, List.map_id']
  rw [reassociate, hpredicate, hclauses]

/-- The predicate and the terms of ORDER BY are well-formed. -/
def WellFormed (statement : Statement) : Prop :=
  statement.predicate.WellFormed ∧ ∀ clause ∈ statement.orderBy, clause.WellFormed

/-- The clause that groups rows by document id, for a bucket and a projection. -/
def groupText (bucket : String) (projection : Projection) : List Char :=
  if projection != .documents then
    " GROUP BY ".toList ++ (Expression.documentId bucket).text.toList
  else []

/-- The text of the bounds of a statement. -/
def boundsText (statement : Statement) : List Char :=
  (boundText "LIMIT" (statement.limit.map UInt32.toNat)).toList ++
    (boundText "OFFSET" (statement.offset.map UInt64.toNat)).toList

theorem toList_text (statement : Statement) :
    statement.text.toList =
      heading statement.bucket statement.projection ++ (statement.predicate.text.toList ++
        (groupText statement.bucket statement.projection ++
          ((orderText statement.orderBy).toList ++ boundsText statement))) := by
  have hgroup : (if statement.groupsById then
      " GROUP BY " ++ (Expression.documentId statement.bucket).text else "").toList =
        groupText statement.bucket statement.projection := by
    rw [groupsById, groupText]
    split
    · rw [String.toList_append]
    · rfl
  unfold text heading boundsText
  simp only [String.toList_append, hgroup, List.append_assoc]

theorem clauseOf_boundsText (statement : Statement) :
    ClauseOf ["LIMIT".toList, "OFFSET".toList] statement.boundsText :=
  (clauseOf_boundText "LIMIT" _).append (clauseOf_boundText "OFFSET" _)

theorem clauseOf_groupText (bucket : String) (projection : Projection) :
    ClauseOf ["GROUP".toList] (groupText bucket projection) := by
  rw [groupText]
  split
  · exact .inr ⟨"GROUP".toList, List.mem_singleton_self _,
      " BY ".toList ++ (Expression.documentId bucket).text.toList, rfl⟩
  · exact .inl rfl

/-- What follows the predicate of a statement ends it. -/
theorem ends_clauses (statement : Statement) :
    Expression.Ends (groupText statement.bucket statement.projection ++
      ((orderText statement.orderBy).toList ++ boundsText statement)) := by
  have hclauses := (clauseOf_groupText statement.bucket statement.projection).append
    ((clauseOf_orderText statement.orderBy).append (clauseOf_boundsText statement))
  rcases hclauses with hnone | ⟨word, hword, rest, hrest⟩
  · rw [hnone]
    exact ⟨trivial, by simp⟩
  · rw [hrest]
    simp only [List.cons_append, List.nil_append, List.mem_cons, List.not_mem_nil,
      or_false] at hword
    rcases hword with rfl | rfl | rfl | rfl
    · exact Expression.ends_blank (by decide) _
    · exact Expression.ends_blank (by decide) _
    · exact Expression.ends_blank (by decide) _
    · exact Expression.ends_blank (by decide) _

/-- The bounds of a statement are read back. -/
theorem boundsText_inj {a b : Statement} (h : a.boundsText = b.boundsText) :
    a.limit = b.limit ∧ a.offset = b.offset := by
  have hclause : ∀ n, ClauseOf ["OFFSET".toList] (boundText "OFFSET" n).toList :=
    clauseOf_boundText "OFFSET"
  have hlimit : ∀ n, ¬ ' ' :: "LIMIT".toList <+: (boundText "OFFSET" n).toList := by
    refine fun n => (hclause n).not_isPrefix fun word hword rest => ?_
    cases List.mem_singleton.mp hword
    show ¬ 'L' :: _ <+: 'O' :: _
    simp
  -- an offset ends a limit, and the end of the text ends an offset
  have hnothing : ¬ ' ' :: "OFFSET".toList <+: [] := by simp
  obtain ⟨hlimits, hoffsets⟩ := boundText_append_inj (hlimit _) (hlimit _)
    (hclause _).not_isDigit (hclause _).not_isDigit h
  rw [← List.append_nil (boundText "OFFSET" _).toList,
    ← List.append_nil (boundText "OFFSET" (b.offset.map _)).toList] at hoffsets
  obtain ⟨hoffsets, _⟩ := boundText_append_inj hnothing hnothing nofun nofun hoffsets
  exact ⟨(Option.map_inj_right fun _ _ => UInt32.toNat_inj.mp).mp hlimits,
    (Option.map_inj_right fun _ _ => UInt64.toNat_inj.mp).mp hoffsets⟩

/-- **The text of a statement says which statement it is**, up to the nesting of conjunctions. -/
theorem text_inj {a b : Statement} (ha : a.WellFormed) (hb : b.WellFormed)
    (h : a.text = b.text) : a.reassociate = b.reassociate := by
  -- the text is taken apart from the left, one clause after another
  have htext := congrArg String.toList h
  rw [toList_text, toList_text] at htext
  obtain ⟨hbucket, hprojection, hrest⟩ := heading_append_inj htext
  obtain ⟨hpredicate, hclauses⟩ := Expression.legible ha.1 b.predicate ⟨trivial, hb.1⟩ _ _
    (ends_clauses a) (ends_clauses b) hrest
  rw [hbucket, hprojection] at hclauses
  obtain ⟨horder, hbounds⟩ := orderText_append_inj ha.2 hb.2 (clauseOf_boundsText a)
    (clauseOf_boundsText b) (List.append_cancel_left hclauses)
  obtain ⟨hlimit, hoffset⟩ := boundsText_inj hbounds
  rw [reassociate, reassociate, hbucket, hprojection, hpredicate, horder, hlimit, hoffset]

end Statement

/-! ## Statements as they are made -/

/-- What a statement is made from. -/
inductive Construction where
  | list (bucket : String) (filters : Filters)
  | paged (bucket : String) (filters : Filters) (page : PageRequest)
  | count (bucket : String) (filters : Filters)
  | sum (bucket : String) (filters : Filters) (field : String)

namespace Construction

/-- The statement that is made. -/
def statement : Construction → Statement
  | .list bucket filters => .list bucket filters
  | .paged bucket filters page => .paged bucket filters page
  | .count bucket filters => .count bucket filters
  | .sum bucket filters field => .sum bucket filters field

/-- Whether two constructions agree: on the shape, the bucket, the keys of the filters in their
order, and on the page or the field. The values of the filters may differ. -/
def Agrees : Construction → Construction → Prop
  | .list bucket filters, .list bucket' filters' =>
    bucket = bucket' ∧ filters.map Prod.fst = filters'.map Prod.fst
  | .paged bucket filters page, .paged bucket' filters' page' =>
    bucket = bucket' ∧ filters.map Prod.fst = filters'.map Prod.fst ∧
      page.sort = page'.sort ∧ page.size = page'.size ∧ page.offset = page'.offset
  | .count bucket filters, .count bucket' filters' =>
    bucket = bucket' ∧ filters.map Prod.fst = filters'.map Prod.fst
  | .sum bucket filters field, .sum bucket' filters' field' =>
    bucket = bucket' ∧ filters.map Prod.fst = filters'.map Prod.fst ∧ field = field'
  | _, _ => False

theorem wellFormed_statement (construction : Construction) :
    construction.statement.WellFormed := by
  cases construction with
  | paged bucket filters page =>
      refine ⟨Filters.wellFormed_predicate bucket filters, ?_⟩
      intro clause hclause
      obtain ⟨order, _, rfl⟩ := List.mem_map.mp hclause
      exact order.wellFormed_clause
  | list bucket filters | count bucket filters | sum bucket filters _ =>
      exact ⟨Filters.wellFormed_predicate bucket filters, nofun⟩

/-- Made statements have their conjunctions nested to the right already. -/
theorem reassociate_statement (construction : Construction) :
    construction.statement.reassociate = construction.statement := by
  cases construction with
  | paged bucket filters page =>
      refine Statement.reassociate_eq_self (filters.reassociate_predicate bucket) ?_
      intro clause hclause
      obtain ⟨order, _, rfl⟩ := List.mem_map.mp hclause
      exact order.reassociate_clause
  | list bucket filters | count bucket filters | sum bucket filters _ =>
      exact Statement.reassociate_eq_self (filters.reassociate_predicate bucket) nofun

theorem statement_eq_of_agrees {a b : Construction} (h : a.Agrees b) :
    a.statement = b.statement := by
  cases a with
  | list bucket filters =>
      cases b with
      | list bucket' filters' =>
          obtain ⟨rfl, hkeys⟩ := h
          rw [statement, statement, Statement.list, Statement.list, Statement.select,
            Statement.select, Filters.predicate_congr bucket hkeys]
      | _ => exact h.elim
  | paged bucket filters page =>
      cases b with
      | paged bucket' filters' page' =>
          obtain ⟨rfl, hkeys, hsort, hsize, hoffset⟩ := h
          rw [statement, statement, Statement.paged, Statement.paged, Statement.select,
            Statement.select, Filters.predicate_congr bucket hkeys, hsort, hsize, hoffset]
      | _ => exact h.elim
  | count bucket filters =>
      cases b with
      | count bucket' filters' =>
          obtain ⟨rfl, hkeys⟩ := h
          rw [statement, statement, Statement.count, Statement.count, Statement.select,
            Statement.select, Filters.predicate_congr bucket hkeys]
      | _ => exact h.elim
  | sum bucket filters field =>
      cases b with
      | sum bucket' filters' field' =>
          obtain ⟨rfl, hkeys, rfl⟩ := h
          rw [statement, statement, Statement.sum, Statement.sum, Statement.select,
            Statement.select, Filters.predicate_congr bucket hkeys]
      | _ => exact h.elim

theorem agrees_of_statement_eq {a b : Construction} (h : a.statement = b.statement) :
    a.Agrees b := by
  -- the projection and the limit tell the shapes apart; the predicate gives the bucket and the keys
  have hprojection := congrArg Statement.projection h
  have hpredicate := congrArg Statement.predicate h
  have hlimit := congrArg Statement.limit h
  cases a with
  | list bucket filters =>
      cases b with
      | list bucket' filters' => exact (Filters.predicate_inj hpredicate).symm
      | paged _ _ _ => cases hlimit
      | count _ _ | sum _ _ _ => cases hprojection
  | paged bucket filters page =>
      cases b with
      | paged bucket' filters' page' =>
          have hsort := congrArg Statement.orderBy h
          have hoffset := congrArg Statement.offset h
          obtain ⟨hkeys, hbucket⟩ := Filters.predicate_inj hpredicate
          exact ⟨hbucket, hkeys, (List.map_inj_right fun _ _ => Order.clause_injective).mp hsort,
            Option.some.inj hlimit, Option.some.inj hoffset⟩
      | list _ _ => cases hlimit
      | count _ _ | sum _ _ _ => cases hprojection
  | count bucket filters =>
      cases b with
      | count bucket' filters' => exact (Filters.predicate_inj hpredicate).symm
      | list _ _ | paged _ _ _ | sum _ _ _ => cases hprojection
  | sum bucket filters field =>
      cases b with
      | sum bucket' filters' field' =>
          obtain ⟨hkeys, hbucket⟩ := Filters.predicate_inj hpredicate
          exact ⟨hbucket, hkeys, Projection.sum.inj hprojection⟩
      | list _ _ | paged _ _ _ | count _ _ => cases hprojection

/-- **No name can pass for another part of a statement.** The texts of two statements are equal
exactly when the statements have the same shape, the same bucket, the same keys of filters in the
same order, and the same page or field. -/
theorem text_eq_iff (a b : Construction) :
    a.statement.text = b.statement.text ↔ a.Agrees b := by
  constructor
  · intro h
    have hnested := Statement.text_inj a.wellFormed_statement b.wellFormed_statement h
    rw [reassociate_statement, reassociate_statement] at hnested
    exact agrees_of_statement_eq hnested
  · intro h
    rw [statement_eq_of_agrees h]

end Construction

end BucketQuery
