import BucketQuery.Proofs.Program.Kept

set_option autoImplicit false

/-! # What the script of a filter map says

Each part of a script says its statement (`contentsFrom_part`), so a script says the statements of a
filter map in their order, and after them what is left of the comment with the placeholders
(`contents_script`). A line break in a key ends that comment early. Something is left of it when a
later line is neither blank nor a comment (`contentsFrom_eq_nothing_iff`), and then the key says
more than its placeholder.
-/

namespace BucketQuery.Script

/-! ## Ends of statements -/

/-- A text that starts and ends with something else than blanks. -/
def Solid (text : List Char) : Prop :=
  (∀ c ∈ text.head?, isBlank c = false) ∧ ∀ c ∈ text.getLast?, isBlank c = false

theorem getLast?_append_of_eq_some {text : List Char} {c : Char} (h : text.getLast? = some c)
    (front : List Char) : (front ++ text).getLast? = some c := by
  rw [List.getLast?_append, h]
  rfl

theorem getLast?_documentId (bucket : String) :
    (Expression.documentId bucket).text.toList.getLast? = some 'd' := by
  have hid : ('(' :: ((Name.quoted bucket).toList ++ ").id".toList)).getLast? = some 'd' :=
    getLast?_append_of_eq_some (by decide) ('(' :: (Name.quoted bucket).toList)
  rw [Expression.toList_text_documentId]
  exact getLast?_append_of_eq_some hid _

/-- A predicate ends in the pattern of the exclusion. -/
theorem getLast?_predicate (bucket : String) (filters : Filters) :
    (filters.predicate bucket).text.toList.getLast? = some '"' := by
  induction filters with
  | nil =>
      have hpattern : (' ' :: (Json.quoted gatewayPattern).toList).getLast? = some '"' := by decide
      rw [Filters.predicate, Filters.exclusion, Expression.toList_text_compare, ← List.cons_append,
        ← List.append_assoc]
      exact getLast?_append_of_eq_some hpattern _
  | cons entry rest ih =>
      rw [Filters.predicate, Expression.text, String.toList_append]
      exact getLast?_append_of_eq_some ih _

theorem solid_of_getLast? (statement : Statement) {c : Char}
    (hlast : statement.text.toList.getLast? = some c) (hc : isBlank c = false) :
    Solid statement.text.toList := by
  constructor
  · rw [Statement.toList_text]
    rintro d ⟨rfl⟩
    rfl
  · rw [hlast]
    rintro d ⟨rfl⟩
    exact hc

theorem solid_select (bucket : String) (projection : Projection) (filters : Filters) :
    Solid (Statement.select bucket projection filters).text.toList := by
  have hgrouped : ((" GROUP BY ".toList ++ (Expression.documentId bucket).text.toList) ++
      []).getLast? = some 'd' := by
    rw [List.append_nil]
    exact getLast?_append_of_eq_some (getLast?_documentId bucket) _
  cases projection with
  | documents =>
      have hpredicate : ((filters.predicate bucket).text.toList ++ []).getLast? = some '"' := by
        rw [List.append_nil]
        exact getLast?_predicate bucket filters
      refine solid_of_getLast? _ (c := '"') ?_ (by decide)
      rw [Statement.toList_text]
      exact getLast?_append_of_eq_some hpredicate _
  | count | sum _ =>
      refine solid_of_getLast? _ (c := 'd') ?_ (by decide)
      rw [Statement.toList_text]
      exact getLast?_append_of_eq_some (getLast?_append_of_eq_some hgrouped _) _

theorem solid_paged (bucket : String) (filters : Filters) (page : PageRequest) :
    Solid (Statement.paged bucket filters page).text.toList := by
  obtain ⟨c, hdigits⟩ : ∃ c, (digitsOf page.offset.toNat).getLast? = some c :=
    ⟨_, List.getLast?_eq_some_getLast Nat.toDigits_ne_nil⟩
  have hdigit : c.isDigit = true := isDigit_of_mem_digitsOf (List.mem_of_getLast? hdigits)
  -- the offset comes last
  have hoffset : (Statement.boundText "OFFSET" (some page.offset.toNat)).toList.getLast? =
      some c := by
    rw [Statement.boundText, String.toList_append, String.toList_ofList]
    exact getLast?_append_of_eq_some hdigits _
  refine solid_of_getLast? _ ?_ (isBlank_eq_false_of_isDigit hdigit)
  rw [Statement.toList_text, ← List.append_assoc, ← List.append_assoc, ← List.append_assoc,
    Statement.boundsText, ← List.append_assoc]
  exact getLast?_append_of_eq_some hoffset _

/-- A solid text is all that is left of it. -/
theorem trimmed_of_solid {text : String} (h : Solid text.toList) : trimmed text.toList = text := by
  rw [trimmed, trimBlanks_eq_self h.1 h.2, String.ofList_toList]

/-! ## Blanks and comments -/

/-- Blanks in front of what has been read of a statement change nothing. -/
theorem contentsFrom_append_of_isBlank {front : List Char}
    (hfront : ∀ c ∈ front, isBlank c = true) (place : Place) (piece text : List Char) :
    contentsFrom place (front ++ piece) text = contentsFrom place piece text := by
  have htrimmed : trimmed (front ++ piece) = trimmed piece := trimBlanks_append hfront piece
  induction text generalizing place piece with
  | nil => rw [contentsFrom, contentsFrom, htrimmed]
  | cons c text ih =>
      have hrest (place : Place) : contentsFrom place (front ++ piece ++ [c]) text =
          contentsFrom place (piece ++ [c]) text := by
        rw [List.append_assoc]
        exact ih place (piece ++ [c]) (trimBlanks_append hfront _)
      rw [contentsFrom, contentsFrom, htrimmed, ih .comment piece htrimmed, hrest]

/-- Blanks alone are as good as nothing. -/
theorem contentsFrom_of_isBlank {front : List Char} (hfront : ∀ c ∈ front, isBlank c = true)
    (place : Place) (text : List Char) :
    contentsFrom place front text = contentsFrom place [] text := by
  have h := contentsFrom_append_of_isBlank hfront place [] text
  rwa [List.append_nil] at h

theorem contentsFrom_break (rest : List Char) :
    contentsFrom .outside [] ('\n' :: rest) = contentsFrom .outside [] rest :=
  contentsFrom_of_isBlank (List.forall_mem_singleton.mpr rfl) .outside rest

theorem contentsFrom_dashes (piece rest : List Char) :
    contentsFrom .outside piece ('-' :: '-' :: rest) = contentsFrom .comment piece rest := rfl

/-- A comment is left out up to the end of its line. -/
theorem contentsFrom_comment {line rest : List Char} (hline : '\n' ∉ line)
    (hrest : ∀ c ∈ rest.head?, c = '\n') (piece : List Char) :
    contentsFrom .comment piece (line ++ rest) = contentsFrom .outside piece rest := by
  induction line with
  | nil =>
      cases rest with
      | nil => rfl
      | cons c rest =>
          -- the break belongs to what is read next, as it does outside of a comment
          obtain rfl := hrest c rfl
          rfl
  | cons c line ih =>
      obtain ⟨hc, hline⟩ := not_or.mp fun h => hline (List.mem_cons.mpr h)
      have hinside : Place.comment ≠ .outside := by decide
      rw [List.cons_append, contentsFrom, if_neg fun h => hinside h.1, Place.next,
        if_neg (Ne.symm hc), if_pos rfl, ih hline]

/-- A character that starts no comment and ends no statement is read. -/
theorem exists_contentsFrom_cons {c : Char} {rest : List Char} (hsemicolon : c ≠ ';')
    (hdashes : ¬ (c = '-' ∧ rest.head? = some '-')) (piece : List Char) :
    ∃ place, contentsFrom .outside piece (c :: rest) = contentsFrom place (piece ++ [c]) rest := by
  have hnext : Place.next .outside c rest ≠ .comment := by
    rw [Place.next]
    split_ifs <;> decide
  exact ⟨_, by rw [contentsFrom, if_neg fun h => hsemicolon h.2, if_neg hnext]⟩

/-! ## Remarks -/

/-- The contents of a script that says nothing. -/
def Contents.nothing : Contents := ⟨[], ""⟩

theorem Contents.eq_nothing_iff (contents : Contents) :
    contents = .nothing ↔ contents.statements = [] ∧ contents.rest = "" := by
  cases contents
  rw [nothing, mk.injEq]

/-- A line with nothing on it but blanks, or with a comment after them. -/
def IsRemark (line : List Char) : Prop :=
  line.dropWhile isBlank = [] ∨ ['-', '-'] <+: line.dropWhile isBlank

theorem kept_of_isBlank {front : List Char} (hfront : ∀ c ∈ front, isBlank c = true) :
    Kept front :=
  .of_forall fun c hc => isInert_of_kind (by decide) (hfront c hc)

/-- A script says nothing only when nothing but blanks has been read of a statement. -/
theorem isBlank_of_contentsFrom_eq_nothing {place : Place} {piece text : List Char}
    (h : contentsFrom place piece text = .nothing) : ∀ c ∈ piece, isBlank c = true := by
  induction text generalizing place piece with
  | nil =>
      rw [contentsFrom] at h
      exact (trimBlanks_eq_empty_iff piece).mp (congrArg Contents.rest h)
  | cons c text ih =>
      rw [contentsFrom] at h
      split_ifs at h with hsemicolon hcomment
      · cases h
      · exact ih h
      · exact fun d hd => ih h d (List.mem_append_left _ hd)

/-- A remark is left out. -/
theorem contentsFrom_remark {line rest : List Char} (hremark : IsRemark line) (hline : '\n' ∉ line)
    (hrest : ∀ c ∈ rest.head?, c = '\n') :
    contentsFrom .outside [] (line ++ rest) = contentsFrom .outside [] rest := by
  obtain ⟨front, body, rfl, hfront, hbody⟩ := exists_run isBlank line
  rw [IsRemark, dropWhile_run hfront hbody] at hremark
  rw [List.append_assoc, kept_of_isBlank hfront, List.nil_append, contentsFrom_of_isBlank hfront]
  rcases hremark with rfl | ⟨comment, rfl⟩
  · rfl
  · have hcomment : '\n' ∉ comment := fun h =>
      hline (List.mem_append_right _ (List.mem_append_right _ h))
    exact contentsFrom_comment hcomment hrest []

/-- A line that is no remark says something. -/
theorem isRemark_of_contentsFrom_eq_nothing {line rest : List Char}
    (hrest : ∀ c ∈ rest.head?, c = '\n')
    (h : contentsFrom .outside [] (line ++ rest) = .nothing) : IsRemark line := by
  obtain ⟨front, body, rfl, hfront, hbody⟩ := exists_run isBlank line
  rw [IsRemark, dropWhile_run hfront hbody]
  rw [List.append_assoc, kept_of_isBlank hfront, List.nil_append] at h
  cases body with
  | nil => exact .inl rfl
  | cons c body =>
      right
      by_contra hno
      have hdashes : ¬ (c = '-' ∧ (body ++ rest).head? = some '-') := by
        rintro ⟨rfl, hhead⟩
        cases body with
        | nil => exact absurd (hrest '-' hhead) (by decide)
        | cons d body =>
            obtain rfl := Option.some.inj hhead
            exact hno ⟨body, rfl⟩
      by_cases hsemicolon : c = ';'
      · rw [hsemicolon, List.cons_append, contentsFrom, if_pos ⟨rfl, rfl⟩] at h
        cases h
      · -- the character is read and is no blank, so it is left
        obtain ⟨place, hread⟩ := exists_contentsFrom_cons hsemicolon hdashes front
        have hblank : isBlank c = true := isBlank_of_contentsFrom_eq_nothing (hread.symm.trans h) c
          (List.mem_append_right _ List.mem_cons_self)
        rw [hbody c rfl] at hblank
        cases hblank

/-- **A text says nothing exactly when all of its lines are remarks.** -/
theorem contentsFrom_eq_nothing_iff (text : List Char) :
    contentsFrom .outside [] text = .nothing ↔ ∀ line ∈ text.splitOn '\n', IsRemark line := by
  by_cases hbreak : '\n' ∈ text
  · -- the first line comes off, and the reader starts the next one with nothing read
    obtain ⟨line, rest, htext, hline⟩ := List.eq_append_cons_of_mem hbreak
    have hshorter : rest.length < text.length := by
      rw [htext, List.length_append, List.length_cons]
      omega
    have hhead : ∀ c ∈ ('\n' :: rest).head?, c = '\n' := by
      rintro c ⟨rfl⟩
      rfl
    rw [htext, List.splitOn_append_cons_self_of_not_mem hline, List.forall_mem_cons,
      ← contentsFrom_eq_nothing_iff rest]
    constructor
    · intro h
      have hremark := isRemark_of_contentsFrom_eq_nothing hhead h
      rw [contentsFrom_remark hremark hline hhead, contentsFrom_break] at h
      exact ⟨hremark, h⟩
    · rintro ⟨hremark, h⟩
      rw [contentsFrom_remark hremark hline hhead, contentsFrom_break, h]
  · have hlast : ∀ c ∈ ([] : List Char).head?, c = '\n' := nofun
    rw [List.splitOn_eq_singleton hbreak, List.forall_mem_singleton]
    constructor
    · intro h
      exact isRemark_of_contentsFrom_eq_nothing hlast (by rwa [List.append_nil])
    · intro h
      have hread := contentsFrom_remark h hbreak hlast
      rwa [List.append_nil] at hread
termination_by text.length

/-! ## Parts -/

/-- **A part says its statement**, whatever follows the part. -/
theorem contentsFrom_part (title : String) (statement : Statement) (htitle : '\n' ∉ title.toList)
    (hsolid : Solid statement.text.toList) (rest : List Char) :
    contentsFrom .outside [] ((part title statement).toList ++ rest) =
      (contentsFrom .outside [] rest).after statement.text := by
  have hheading : '\n' ∉ ' ' :: title.toList := by
    rw [List.mem_cons, not_or]
    exact ⟨by decide, htitle⟩
  have hpart : (part title statement).toList ++ rest = '-' :: '-' :: (' ' :: title.toList ++
      '\n' :: (statement.text.toList ++ ';' :: '\n' :: '\n' :: rest)) := by
    have hdashes : "-- ".toList = ['-', '-', ' '] := by decide
    have hbreak : "\n".toList = ['\n'] := by decide
    have hend : ";\n\n".toList = [';', '\n', '\n'] := by decide
    simp only [part, String.toList_append, hdashes, hbreak, hend, List.append_assoc,
      List.cons_append, List.nil_append]
  have hsemicolon (text : List Char) : contentsFrom .outside statement.text.toList (';' :: text) =
      (contentsFrom .outside [] text).after (trimmed statement.text.toList) := rfl
  rw [hpart, contentsFrom_dashes, contentsFrom_comment hheading (by rintro c ⟨rfl⟩; rfl),
    contentsFrom_break, kept_statement, List.nil_append, hsemicolon, contentsFrom_break,
    contentsFrom_break, trimmed_of_solid hsolid]

/-- The statements of a script. -/
def statements (bucket : String) (filters : Filters) (page : PageRequest) (field : Option String) :
    List Statement :=
  [.list bucket filters, .paged bucket filters page, .count bucket filters] ++
    (field.map (Statement.sum bucket filters)).toList

/-- A script says its statements, and then what is left of the placeholders. -/
theorem contents_text (bucket : String) (filters : Filters) (page : PageRequest)
    (field : Option String) :
    contents (text bucket filters page field) =
      ⟨(statements bucket filters page field).map Statement.text ++
        (contents (placeholders filters)).statements, (contents (placeholders filters)).rest⟩ := by
  have hlist := contentsFrom_part "list" (.list bucket filters) (by decide)
    (solid_select bucket .documents filters)
  have hpage := contentsFrom_part "page" (.paged bucket filters page) (by decide)
    (solid_paged bucket filters page)
  have hcount := contentsFrom_part "count" (.count bucket filters) (by decide)
    (solid_select bucket .count filters)
  rw [contents, text.eq_def, String.toList_append, String.toList_append, String.toList_append,
    String.toList_append, List.append_assoc, List.append_assoc, List.append_assoc, hlist, hpage,
    hcount]
  cases field with
  | none => rfl
  | some field =>
      rw [contentsFrom_part "sum" (.sum bucket filters field) (by decide)
        (solid_select bucket (.sum field) filters)]
      rfl

/-! ## Placeholders -/

theorem break_not_mem_placeholder {key : String} (hkey : '\n' ∉ key.toList) :
    '\n' ∉ (Expression.placeholder key).toList := by
  rw [Expression.placeholder, String.toList_append, List.mem_append, not_or]
  refine ⟨by decide, fun hname => ?_⟩
  rcases Name.mem_write hname with hquote | hbreak
  · exact absurd hquote (by decide)
  · exact hkey hbreak

/-- A comment on a line of its own is a remark, and so is the empty line after it. -/
theorem isRemark_of_mem_comment {comment : List Char} (hcomment : '\n' ∉ comment) :
    ∀ line ∈ ('-' :: '-' :: (comment ++ ['\n'])).splitOn '\n', IsRemark line := by
  have hline : '\n' ∉ '-' :: '-' :: comment := by
    rw [List.mem_cons, List.mem_cons, not_or, not_or]
    exact ⟨by decide, by decide, hcomment⟩
  have hremark : IsRemark ('-' :: '-' :: comment) := .inr (List.prefix_append ['-', '-'] comment)
  have hempty : IsRemark [] := .inl rfl
  rw [← List.cons_append, ← List.cons_append, List.splitOn_append_cons_self_of_not_mem hline,
    List.forall_mem_cons]
  exact ⟨hremark, List.forall_mem_singleton.mpr hempty⟩

/-- Without a line break in a key all lines of the placeholders are remarks. -/
theorem isRemark_of_mem_placeholders {filters : Filters}
    (hkeys : ∀ entry ∈ filters, '\n' ∉ entry.1.toList) :
    ∀ line ∈ (placeholders filters).toList.splitOn '\n', IsRemark line := by
  rw [placeholders]
  split
  · exact List.forall_mem_singleton.mpr (.inl rfl)
  · have hjoined : '\n' ∉ (", ".toList).intercalate
        (filters.map fun entry => (Expression.placeholder entry.1).toList) := by
      intro hmem
      rcases mem_intercalate hmem with hcomma | ⟨_, hpiece, hbreak⟩
      · exact absurd hcomma (by decide)
      · obtain ⟨entry, hentry, rfl⟩ := List.mem_map.mp hpiece
        exact break_not_mem_placeholder (hkeys entry hentry) hbreak
    have htitle : '\n' ∉ " parameters: ".toList := by decide
    have hdashes : "-- parameters: ".toList = '-' :: '-' :: " parameters: ".toList := by decide
    have hbreak : "\n".toList = ['\n'] := by decide
    rw [String.toList_append, String.toList_append, String.toList_intercalate, List.map_map,
      hdashes, hbreak, List.cons_append, List.cons_append, List.cons_append, List.cons_append]
    exact isRemark_of_mem_comment fun h => (List.mem_append.mp h).elim htitle hjoined

/-! ## Scripts -/

/-- **What a script says.** Whatever stands in its names, it says its statements in their order,
and then what is left of the comment with the placeholders. Nothing is left of that comment exactly
when all of its lines are remarks, as they are when no key has a line break. -/
theorem contents_script (bucket : String) (filters : Filters) (page : PageRequest)
    (field : Option String) :
    contents (text bucket filters page field) =
      ⟨(statements bucket filters page field).map Statement.text ++
        (contents (placeholders filters)).statements, (contents (placeholders filters)).rest⟩ ∧
    (contents (text bucket filters page field) =
        ⟨(statements bucket filters page field).map Statement.text, ""⟩ ↔
      ∀ line ∈ (placeholders filters).toList.splitOn '\n', IsRemark line) ∧
    ((∀ entry ∈ filters, '\n' ∉ entry.1.toList) →
      contents (text bucket filters page field) =
        ⟨(statements bucket filters page field).map Statement.text, ""⟩) := by
  have hcontents := contents_text bucket filters page field
  have hexact : contents (text bucket filters page field) =
        ⟨(statements bucket filters page field).map Statement.text, ""⟩ ↔
      ∀ line ∈ (placeholders filters).toList.splitOn '\n', IsRemark line := by
    rw [hcontents, Contents.mk.injEq, List.append_right_eq_self, ← contentsFrom_eq_nothing_iff,
      ← contents, Contents.eq_nothing_iff]
  exact ⟨hcontents, hexact, fun hkeys => hexact.mpr (isRemark_of_mem_placeholders hkeys)⟩

/-- Dashes, semicolons and quotes in names leave nothing of the comment, and neither does a line
break in a bucket, a field or a property to sort by. -/
theorem contents_script_names :
    (∀ entry ∈ [("a`;--\"", Json.null), ("b -- c;_contains", .null)], '\n' ∉ entry.1.toList) ∧
    contents (text "p`\n--;" [("a`;--\"", .null), ("b -- c;_contains", .null)]
        (.ofIndex 1 20 [⟨"c\n;`--", .descending, true⟩]) (some "d\n;\"")) =
      ⟨(statements "p`\n--;" [("a`;--\"", .null), ("b -- c;_contains", .null)]
        (.ofIndex 1 20 [⟨"c\n;`--", .descending, true⟩]) (some "d\n;\"")).map Statement.text,
        ""⟩ := by
  have hkeys : ∀ entry ∈ [("a`;--\"", Json.null), ("b -- c;_contains", .null)],
      '\n' ∉ entry.1.toList := by
    decide
  exact ⟨hkeys, (contents_script _ _ _ _).2.2 hkeys⟩

/-- **A line break in a key ends the comment.** What follows in the key is a statement of the
script, and it is none of its own. -/
theorem contents_script_break :
    contents (text "people" [("a\nDELETE FROM people; --", .null)] (.ofIndex 0 20 []) none) =
      ⟨(statements "people" [("a\nDELETE FROM people; --", .null)] (.ofIndex 0 20 [])
        none).map Statement.text ++ ["DELETE FROM people"], ""⟩ ∧
    contents (text "people" [("a\nDELETE FROM people; --", .null)] (.ofIndex 0 20 []) none) ≠
      ⟨(statements "people" [("a\nDELETE FROM people; --", .null)] (.ofIndex 0 20 [])
        none).map Statement.text, ""⟩ := by
  have hleft : contents (placeholders [("a\nDELETE FROM people; --", .null)]) =
      ⟨["DELETE FROM people"], ""⟩ := by
    decide +kernel
  have hcontents := contents_text "people" [("a\nDELETE FROM people; --", .null)]
    (.ofIndex 0 20 []) none
  rw [hleft] at hcontents
  refine ⟨hcontents, fun h => ?_⟩
  rw [hcontents, Contents.mk.injEq, List.append_right_eq_self] at h
  cases h.1

end BucketQuery.Script
