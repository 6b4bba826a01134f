import BucketQuery.Bucket.Evaluation
import BucketQuery.Proofs.Query.Statement
import BucketQuery.Proofs.Text.Word

set_option autoImplicit false

/-! # Keywords in statements

Which bare words the text of a statement has. Its own words are fixed by its shape, and its paths
add their plain names to them; no bucket, placeholder or literal adds any (`bareWords_text`). A
keyword is a plain identifier, so a name that is spelled like one is written bare and reads as the
keyword: the keywords of the text are those of the statement itself exactly when no name in its
paths is a keyword (`bareWords_made`).
-/

namespace BucketQuery

/-- The words with a meaning of their own in a statement. -/
def keywords : List String :=
  ["SELECT", "AS", "FROM", "WHERE", "AND", "OR", "IN", "IS", "NOT", "NULL", "MISSING", "LIKE",
    "GROUP", "BY", "ORDER", "ASC", "DESC", "LIMIT", "OFFSET"]

/-- A word is a keyword in some case of its letters. -/
def IsKeyword (word : String) : Prop := String.ofList (word.toList.map Char.toUpper) ∈ keywords

instance (word : String) : Decidable (IsKeyword word) := inferInstanceAs (Decidable (_ ∈ _))

/-! ## Wordings -/

/-- What is written in bare words: a word of the statement's own, or a path. -/
inductive Wording where
  | own (word : String)
  | path (names : String)

namespace Wording

/-- The words of a wording, given those of a path. -/
def words (ofPath : String → List String) : Wording → List String
  | .own word => [word]
  | .path names => ofPath names

/-- The paths in a list of wordings. -/
def paths (wordings : List Wording) : List String :=
  wordings.filterMap fun
    | .own _ => none
    | .path names => some names

theorem sublist_words (ofPath : String → List String) (wordings : List Wording) :
    (wordings.flatMap (words fun _ => [])).Sublist (wordings.flatMap (words ofPath)) := by
  induction wordings with
  | nil => exact .slnil
  | cons wording wordings ih =>
      cases wording with
      | own word => exact ih.cons_cons word
      | path names => exact ih.trans (List.sublist_append_right _ _)

/-- Of the words that pass a test, paths add none exactly when no word of theirs passes it. -/
theorem filter_words_eq_iff (ofPath : String → List String) (test : String → Bool)
    (wordings : List Wording) :
    (wordings.flatMap (words ofPath)).filter test =
        (wordings.flatMap (words fun _ => [])).filter test ↔
      ∀ path ∈ paths wordings, (ofPath path).filter test = [] := by
  induction wordings with
  | nil => exact iff_of_true rfl (fun _ h => absurd h List.not_mem_nil)
  | cons wording wordings ih =>
      cases wording with
      | own word =>
          rw [show paths (.own word :: wordings) = paths wordings from rfl, ← ih,
            List.flatMap_cons, List.flatMap_cons, List.filter_append, List.filter_append]
          exact List.append_right_inj _
      | path names =>
          rw [show paths (.path names :: wordings) = names :: paths wordings from rfl,
            List.forall_mem_cons, ← ih, List.flatMap_cons, List.flatMap_cons, List.filter_append,
            List.filter_append]
          constructor
          · -- the other words are there in any case, so there is no room for those of the path
            intro h
            have hlength := congrArg List.length h
            have hothers := ((sublist_words ofPath wordings).filter test).length_le
            simp only [List.length_append, words, List.filter_nil, List.length_nil] at hlength
            have hnone : (ofPath names).filter test = [] := List.eq_nil_of_length_eq_zero (by omega)
            refine ⟨hnone, ?_⟩
            rwa [words, hnone] at h
          · rintro ⟨hnone, hothers⟩
            rw [words, hnone, hothers]
            rfl

end Wording

/-! ## The wording of statements -/

/-- The words of a comparison. -/
def Comparison.wording : Comparison → List Wording
  | .isIn => [.own "IN"]
  | .notLike => [.own "NOT", .own "LIKE"]
  | .equal | .notEqual | .atLeast | .atMost => []

/-- The words of a test. -/
def Check.wording : Check → List Wording
  | .isNull => [.own "IS", .own "NULL"]
  | .isNotNull => [.own "IS", .own "NOT", .own "NULL"]
  | .isMissing => [.own "IS", .own "MISSING"]

/-- The wording of an expression. -/
def Expression.wording : Expression → List Wording
  | .path names => [.path names]
  | .parameter _ | .literal _ => []
  | .documentId _ => [.own "META", .own "id"]
  | .lower operand => .own "LOWER" :: operand.wording
  | .contains whole part => .own "CONTAINS" :: (whole.wording ++ part.wording)
  | .compare left comparison right => left.wording ++ (comparison.wording ++ right.wording)
  | .check operand test => operand.wording ++ test.wording
  | .and left right => left.wording ++ .own "AND" :: right.wording
  | .or left right => left.wording ++ .own "OR" :: right.wording

/-- The wording of a term of ORDER BY. -/
def OrderClause.wording (clause : OrderClause) : List Wording :=
  clause.expression.wording ++ [.own clause.direction.text]

namespace Statement

/-- The wording of a projection. -/
def projectionWording : Projection → List Wording
  | .documents => [.own "AS", .own "data"]
  | .count => [.own "COUNT", .own "AS", .own "count"]
  | .sum field => [.own "SUM", .path field, .own "AS", .own "sum"]

/-- The wording of an ORDER BY clause. -/
def orderWording : List OrderClause → List Wording
  | [] => []
  | clauses => .own "ORDER" :: .own "BY" :: clauses.flatMap OrderClause.wording

/-- The wording of a bound. -/
def boundWording (word : String) : Option Nat → List Wording
  | none => []
  | some n => [.own word, .own (String.ofList (digitsOf n))]

/-- The wording of the clause that groups rows. -/
def groupWording (projection : Projection) : List Wording :=
  if projection != .documents then [.own "GROUP", .own "BY", .own "META", .own "id"] else []

/-- **The wording of a statement.** -/
def wording (statement : Statement) : List Wording :=
  .own "SELECT" :: (projectionWording statement.projection ++
    .own "META" :: .own "id" :: .own "AS" :: .own "id" :: .own "FROM" :: .own "WHERE" ::
      (statement.predicate.wording ++ (groupWording statement.projection ++
        (orderWording statement.orderBy ++
          (boundWording "LIMIT" (statement.limit.map UInt32.toNat) ++
            boundWording "OFFSET" (statement.offset.map UInt64.toNat))))))

/-- The words that a statement has whatever its paths are. -/
def ownWords (statement : Statement) : List String :=
  statement.wording.flatMap (Wording.words fun _ => [])

end Statement

/-! ## Reading the words of a statement -/

/-- The names of a path that are written bare. -/
def bareNames (path : String) : List String :=
  (segments path).filter fun name => Name.isPlain name.toList

/-- A text is worded in some way: in front of a text that breaks words, these are its bare words. -/
def WordedAs (text : List Char) (wordings : List Wording) : Prop :=
  ∀ rest, Breaks rest → Reading.between.words (text ++ rest) =
    wordings.flatMap (Wording.words bareNames) ++ Reading.between.words rest

/-- A sign: a character that is in no word and opens nothing. -/
def IsSign (c : Char) : Prop := Reading.start c = .between

theorem IsSign.breaks {c : Char} (h : IsSign c) (rest : List Char) : Breaks (c :: rest) := by
  refine breaks_cons (Bool.eq_false_iff.mpr fun hinner => ?_) rest
  rw [IsSign, Reading.start_of_isInner hinner] at h
  cases h

namespace WordedAs

variable {a b : List Char} {v w : List Wording}

theorem nil : WordedAs [] [] := fun _ _ => rfl

theorem sign {c : Char} (hc : IsSign c) (hb : WordedAs b w) : WordedAs (c :: b) w := by
  intro rest hrest
  rw [List.cons_append, Reading.words, hc, hb rest hrest]

/-- One text after another, which breaks the words of the first. -/
theorem append (ha : WordedAs a v) (hb : WordedAs b w)
    (hbreaks : ∀ rest, Breaks rest → Breaks (b ++ rest)) : WordedAs (a ++ b) (v ++ w) := by
  intro rest hrest
  rw [List.append_assoc, ha _ (hbreaks rest hrest), hb rest hrest, List.flatMap_append,
    List.append_assoc]

/-- Two texts with a sign between them. -/
theorem join (ha : WordedAs a v) {c : Char} (hc : IsSign c) (hb : WordedAs b w) :
    WordedAs (a ++ c :: b) (v ++ w) :=
  ha.append (hb.sign hc) fun rest _ => hc.breaks (b ++ rest)

/-- A text with a sign at its end. -/
theorem close (ha : WordedAs a v) {c : Char} (hc : IsSign c) : WordedAs (a ++ [c]) v := by
  have h := ha.join hc nil
  rwa [List.append_nil] at h

theorem run {text : List Char} (hne : text ≠ [])
    (hrun : ∀ c ∈ text, Name.isInner c = true) : WordedAs text [.own (String.ofList text)] :=
  fun _ hrest => Reading.words_run hne hrun hrest

/-- A word that is a plain identifier. -/
theorem own (word : String) (h : Name.isPlain word.toList = true) :
    WordedAs word.toList [.own word] := by
  have hne : word.toList ≠ [] := by
    intro hnil
    rw [hnil] at h
    cases h
  have hword := run hne (Name.isInner_of_mem_of_isPlain h)
  rwa [String.ofList_toList] at hword

theorem quoted (name : String) : WordedAs (Name.quoted name).toList [] :=
  fun rest _ => Reading.words_quoted name rest

theorem path (names : String) : WordedAs (Name.writePath names).toList [.path names] := by
  intro rest hrest
  rw [Reading.words_writePath names hrest, List.flatMap_singleton]
  rfl

end WordedAs

/-! ## Expressions -/

theorem Comparison.wordedAs (comparison : Comparison) :
    WordedAs comparison.text.toList comparison.wording := by
  cases comparison with
  | equal => exact .sign rfl .nil
  | notEqual => exact .sign rfl (.sign rfl .nil)
  | atLeast => exact .sign rfl (.sign rfl .nil)
  | atMost => exact .sign rfl (.sign rfl .nil)
  | isIn => exact .own "IN" rfl
  | notLike =>
      have hnot := WordedAs.own "NOT" rfl
      exact hnot.join (c := ' ') rfl (.own "LIKE" rfl)

theorem Check.wordedAs (test : Check) : WordedAs test.text.toList test.wording := by
  have his := WordedAs.own "IS" rfl
  have hnull := WordedAs.own "NULL" rfl
  cases test with
  | isNull => exact his.join (c := ' ') rfl hnull
  | isNotNull =>
      have hnot := WordedAs.own "NOT" rfl
      exact his.join (c := ' ') rfl (hnot.join (c := ' ') rfl hnull)
  | isMissing =>
      have hmissing := WordedAs.own "MISSING" rfl
      exact his.join (c := ' ') rfl hmissing

namespace Expression

theorem wordedAs_documentId (bucket : String) :
    WordedAs (documentId bucket).text.toList (documentId bucket).wording := by
  have hmeta := WordedAs.own "META" rfl
  have hid := WordedAs.own "id" rfl
  rw [toList_text_documentId]
  exact hmeta.join (c := '(') rfl
    ((WordedAs.quoted bucket).join (c := ')') rfl (hid.sign (c := '.') rfl))

/-- **The bare words of an expression.** -/
theorem wordedAs (e : Expression) : WordedAs e.text.toList e.wording := by
  induction e with
  | path names => exact .path names
  | parameter name =>
      intro rest hrest
      rw [toList_text_parameter]
      exact Reading.words_dollar name hrest
  | literal characters => exact fun rest _ => Reading.words_literal characters rest
  | documentId bucket => exact wordedAs_documentId bucket
  | lower operand ih =>
      have hlower := WordedAs.own "LOWER" rfl
      rw [toList_text_lower]
      exact hlower.join (c := '(') rfl (ih.close (c := ')') rfl)
  | contains whole part ihw ihp =>
      have hcontains := WordedAs.own "CONTAINS" rfl
      rw [toList_text_contains]
      exact hcontains.join (c := '(') rfl
        (ihw.join (c := ',') rfl (.sign (c := ' ') rfl (ihp.close (c := ')') rfl)))
  | compare left comparison right ihl ihr =>
      rw [toList_text_compare]
      exact ihl.join (c := ' ') rfl (comparison.wordedAs.join (c := ' ') rfl ihr)
  | check operand test ih =>
      rw [toList_text_check]
      exact ih.join (c := ' ') rfl test.wordedAs
  | and left right ihl ihr =>
      have hand := WordedAs.own "AND" rfl
      rw [text, String.toList_append, String.toList_append, List.append_assoc]
      exact ihl.join (c := ' ') rfl (hand.join (c := ' ') rfl ihr)
  | or left right ihl ihr =>
      have hor := WordedAs.own "OR" rfl
      rw [toList_text_or]
      exact .sign (c := '(') rfl
        (ihl.join (c := ' ') rfl (hor.join (c := ' ') rfl (ihr.close (c := ')') rfl)))

end Expression

/-! ## Clauses -/

theorem OrderClause.wordedAs (clause : OrderClause) :
    WordedAs clause.text.toList clause.wording := by
  have hdirection : WordedAs clause.direction.text.toList [.own clause.direction.text] := by
    cases clause.direction with
    | ascending => exact .own "ASC" rfl
    | descending => exact .own "DESC" rfl
  rw [toList_text]
  exact clause.expression.wordedAs.join (c := ' ') rfl hdirection

namespace Statement

theorem wordedAs_terms (first : OrderClause) (others : List OrderClause) :
    WordedAs (", ".toList.intercalate ((first :: others).map fun clause => clause.text.toList))
      ((first :: others).flatMap OrderClause.wording) := by
  induction others generalizing first with
  | nil =>
      rw [List.map_singleton, List.intercalate_singleton, List.flatMap_singleton]
      exact first.wordedAs
  | cons second others ih =>
      rw [List.map_cons, List.map_cons, List.intercalate_cons_cons, List.flatMap_cons,
        List.append_assoc]
      exact first.wordedAs.join (c := ',') rfl ((ih second).sign (c := ' ') rfl)

/-- A clause is worded in some way, and breaks the words in front of it. -/
def ClauseWordedAs (text : List Char) (wordings : List Wording) : Prop :=
  WordedAs text wordings ∧ ∀ rest, Breaks rest → Breaks (text ++ rest)

theorem ClauseWordedAs.append {a b : List Char} {v w : List Wording} (ha : ClauseWordedAs a v)
    (hb : ClauseWordedAs b w) : ClauseWordedAs (a ++ b) (v ++ w) := by
  refine ⟨ha.1.append hb.1 hb.2, fun rest hrest => ?_⟩
  rw [List.append_assoc]
  exact ha.2 _ (hb.2 rest hrest)

theorem clauseWordedAs_nil : ClauseWordedAs [] [] := ⟨.nil, fun _ h => h⟩

/-- A clause that is there starts with a blank. -/
theorem clauseWordedAs_blank {text : List Char} {w : List Wording} (h : WordedAs text w) :
    ClauseWordedAs (' ' :: text) w :=
  ⟨h.sign rfl, fun rest _ => IsSign.breaks (c := ' ') rfl (text ++ rest)⟩

theorem clauseWordedAs_groupText (bucket : String) (projection : Projection) :
    ClauseWordedAs (groupText bucket projection) (groupWording projection) := by
  rw [groupText, groupWording]
  split
  · have hgroup := WordedAs.own "GROUP" rfl
    have hby := WordedAs.own "BY" rfl
    exact clauseWordedAs_blank (hgroup.join (c := ' ') rfl
      (hby.join (c := ' ') rfl (Expression.wordedAs_documentId bucket)))
  · exact clauseWordedAs_nil

theorem clauseWordedAs_orderText (clauses : List OrderClause) :
    ClauseWordedAs (orderText clauses).toList (orderWording clauses) := by
  cases clauses with
  | nil => exact clauseWordedAs_nil
  | cons first others =>
      have horder := WordedAs.own "ORDER" rfl
      have hby := WordedAs.own "BY" rfl
      rw [toList_orderText (List.cons_ne_nil _ _)]
      exact clauseWordedAs_blank (horder.join (c := ' ') rfl
        (hby.join (c := ' ') rfl (wordedAs_terms first others)))

theorem wordedAs_digitsOf (n : Nat) :
    WordedAs (digitsOf n) [.own (String.ofList (digitsOf n))] := by
  have hinner : ∀ c ∈ digitsOf n, Name.isInner c = true := fun _ hc =>
    Name.isInner_of_isDigit (isDigit_of_mem_digitsOf hc)
  exact .run Nat.toDigits_ne_nil hinner

theorem clauseWordedAs_boundText (word : String) (hword : Name.isPlain word.toList = true)
    (n : Option Nat) :
    ClauseWordedAs (boundText word n).toList (boundWording word n) := by
  cases n with
  | none => exact clauseWordedAs_nil
  | some n =>
      have htext : (boundText word (some n)).toList =
          ' ' :: (word.toList ++ ' ' :: digitsOf n) := by
        simp only [boundText, String.toList_append, String.toList_ofList, List.append_assoc]
        rfl
      rw [htext]
      exact clauseWordedAs_blank ((WordedAs.own word hword).join (c := ' ') rfl
        (wordedAs_digitsOf n))

/-! ## Statements -/

theorem wordedAs_projectionText (bucket : String) (projection : Projection) :
    WordedAs (projectionText bucket projection).toList (projectionWording projection) := by
  have has := WordedAs.own "AS" rfl
  cases projection with
  | documents =>
      have hdata := WordedAs.own "data" rfl
      rw [projectionText, String.toList_append, String.toList_append, List.append_assoc]
      exact (WordedAs.quoted bucket).join (c := ' ') rfl (has.join (c := ' ') rfl hdata)
  | count =>
      have hfunction := WordedAs.own "COUNT" rfl
      have hcount := WordedAs.own "count" rfl
      rw [projectionText, String.toList_append]
      exact hfunction.join (c := '(') rfl (.sign (c := '*') rfl (.sign (c := ')') rfl
        (.sign (c := ' ') rfl (has.join (c := ' ') rfl hcount))))
  | sum field =>
      have hfunction := WordedAs.own "SUM" rfl
      have hsum := WordedAs.own "sum" rfl
      rw [projectionText, String.toList_append, String.toList_append, String.toList_append,
        List.append_assoc, List.append_assoc]
      exact hfunction.join (c := '(') rfl ((WordedAs.path field).join (c := ')') rfl
        (.sign (c := ' ') rfl (has.join (c := ' ') rfl hsum)))

/-- The text of a statement, with the signs between its words. -/
theorem toList_text_signs (statement : Statement) :
    statement.text.toList =
      "SELECT".toList ++ ' ' :: ((projectionText statement.bucket statement.projection).toList ++
        ',' :: ' ' :: ((Expression.documentId statement.bucket).text.toList ++
          ' ' :: ("AS".toList ++ ' ' :: (idField.toList ++ ' ' :: ("FROM".toList ++
            ' ' :: ((Name.quoted statement.bucket).toList ++ ' ' :: ("WHERE".toList ++
              ' ' :: (statement.predicate.text.toList ++
                (groupText statement.bucket statement.projection ++
                  ((orderText statement.orderBy).toList ++ boundsText statement)))))))))) := by
  have hselect : ∀ rest, "SELECT ".toList ++ rest = "SELECT".toList ++ ' ' :: rest := fun _ => rfl
  have hcomma : ∀ rest, ", ".toList ++ rest = ',' :: ' ' :: rest := fun _ => rfl
  have has : ∀ rest, " AS ".toList ++ rest = ' ' :: ("AS".toList ++ ' ' :: rest) := fun _ => rfl
  have hfrom : ∀ rest, " FROM ".toList ++ rest = ' ' :: ("FROM".toList ++ ' ' :: rest) :=
    fun _ => rfl
  have hwhere : ∀ rest, " WHERE ".toList ++ rest = ' ' :: ("WHERE".toList ++ ' ' :: rest) :=
    fun _ => rfl
  rw [toList_text]
  unfold heading
  rw [List.append_assoc, hselect, List.append_assoc, List.append_assoc, hcomma, List.append_assoc,
    List.append_assoc, has, List.append_assoc, List.append_assoc, hfrom, List.append_assoc, hwhere]

/-- **The bare words of a statement.** Its own words are there in their order, and each path adds
its plain names; nothing else is a bare word. -/
theorem bareWords_text (statement : Statement) :
    bareWords statement.text = statement.wording.flatMap (Wording.words bareNames) := by
  have hselect := WordedAs.own "SELECT" rfl
  have has := WordedAs.own "AS" rfl
  have hid := WordedAs.own "id" rfl
  have hfrom := WordedAs.own "FROM" rfl
  have hwhere := WordedAs.own "WHERE" rfl
  have hlimit := clauseWordedAs_boundText "LIMIT" rfl
    (statement.limit.map UInt32.toNat)
  have hoffset := clauseWordedAs_boundText "OFFSET" rfl
    (statement.offset.map UInt64.toNat)
  have hclauses := (clauseWordedAs_groupText statement.bucket statement.projection).append
    ((clauseWordedAs_orderText statement.orderBy).append (hlimit.append hoffset))
  have hpredicate := statement.predicate.wordedAs.append hclauses.1 hclauses.2
  have hbucket := (WordedAs.quoted statement.bucket).join (c := ' ') rfl
    (hwhere.join (c := ' ') rfl hpredicate)
  have hsource := has.join (c := ' ') rfl (hid.join (c := ' ') rfl
    (hfrom.join (c := ' ') rfl hbucket))
  have hstatement := hselect.join (c := ' ') rfl
    ((wordedAs_projectionText statement.bucket statement.projection).join (c := ',') rfl
      (.sign (c := ' ') rfl ((Expression.wordedAs_documentId statement.bucket).join (c := ' ') rfl
        hsource)))
  have hwords := hstatement [] nofun
  rw [List.append_nil, ← boundsText, ← idField, ← toList_text_signs] at hwords
  rw [bareWords, hwords]
  exact List.append_nil _

end Statement

/-! ## Keywords among the names -/

theorem isAlpha_of_isAlpha_toUpper {c : Char} (h : c.toUpper.isAlpha = true) :
    c.isAlpha = true := by
  by_cases hlower : c.isLower = true
  · exact Bool.or_eq_true_iff.mpr (.inr hlower)
  · have hsame : c.toUpper = c := dif_neg fun hrange =>
      hlower (Bool.and_eq_true_iff.mpr ⟨decide_eq_true hrange.1, decide_eq_true hrange.2⟩)
    rwa [hsame] at h

/-- **A keyword is a plain identifier**, so nothing keeps a name that is one from being written
bare. -/
theorem isPlain_of_isKeyword {word : String} (h : IsKeyword word) :
    Name.isPlain word.toList = true := by
  have hletters : ∀ k ∈ keywords, k.toList ≠ [] ∧ k.toList.all Char.isAlpha = true := by decide
  obtain ⟨hne, hall⟩ := hletters _ h
  rw [String.toList_ofList] at hne hall
  rw [List.all_eq_true] at hall
  have halpha : ∀ c ∈ word.toList, c.isAlpha = true := fun c hc =>
    isAlpha_of_isAlpha_toUpper (hall _ (List.mem_map_of_mem hc))
  cases hword : word.toList with
  | nil =>
      rw [hword] at hne
      exact absurd rfl hne
  | cons c rest =>
      rw [hword, List.forall_mem_cons] at halpha
      rw [Name.isPlain, Name.isInitial, halpha.1, Bool.true_or, Bool.true_and, List.all_eq_true]
      intro d hd
      rw [Name.isInner, Char.isAlphanum, halpha.2 d hd, Bool.true_or, Bool.true_or]

/-- The keywords among the bare names of a path are those among its names. -/
theorem filter_bareNames_eq_nil_iff (path : String) :
    (bareNames path).filter (fun name => IsKeyword name) = [] ↔
      ∀ name ∈ segments path, ¬ IsKeyword name := by
  rw [bareNames, List.filter_filter, List.filter_eq_nil_iff]
  refine forall₂_congr fun name _ => ?_
  rw [Bool.and_eq_true, decide_eq_true_iff]
  exact not_congr (and_iff_left_of_imp isPlain_of_isKeyword)

/-! ## Statements as they are made -/

theorem Wording.paths_append (v w : List Wording) : paths (v ++ w) = paths v ++ paths w :=
  List.filterMap_append

theorem Wording.paths_own (word : String) (w : List Wording) : paths (.own word :: w) = paths w :=
  rfl

/-- The path of a filter is the only one in its fragment. -/
theorem FilterKey.mem_paths_fragment (filter : FilterKey) (path : String) :
    path ∈ Wording.paths filter.fragment.wording ↔ path = filter.path := by
  rw [fragment]
  cases filter.operator <;>
    simp [Expression.wording, Comparison.wording, Check.wording, Wording.paths]

/-- The paths of a filter map. -/
def Filters.paths (filters : Filters) : List String :=
  filters.map fun entry => (FilterKey.read entry.1).path

theorem Filters.mem_paths_predicate (bucket : String) (filters : Filters) (path : String) :
    path ∈ Wording.paths (filters.predicate bucket).wording ↔ path ∈ filters.paths := by
  induction filters with
  | nil => simp [predicate, exclusion, paths, Expression.wording, Comparison.wording, Wording.paths]
  | cons entry rest ih =>
      obtain ⟨key, value⟩ := entry
      have hand : Wording.paths (predicate bucket ((key, value) :: rest)).wording =
          Wording.paths (FilterKey.read key).fragment.wording ++
            Wording.paths (predicate bucket rest).wording := by
        rw [predicate, Expression.wording, Wording.paths_append]
        rfl
      rw [hand, List.mem_append, FilterKey.mem_paths_fragment, ih, paths, paths, List.map_cons,
        List.mem_cons]

/-- The property of a sort entry is the only path in its term. -/
theorem Order.paths_clause (order : Order) :
    Wording.paths order.clause.wording = [order.property] := by
  rw [clause]
  cases order.ignoreCase <;> rfl

namespace Construction

/-- The paths that a statement is made from. -/
def paths : Construction → List String
  | .list _ filters | .count _ filters => filters.paths
  | .paged _ filters page => filters.paths ++ page.sort.map Order.property
  | .sum _ filters field => filters.paths ++ [field]

theorem paths_orderWording (orders : List Order) :
    Wording.paths (Statement.orderWording (orders.map Order.clause)) =
      orders.map Order.property := by
  have hterms : ∀ others : List Order,
      Wording.paths ((others.map Order.clause).flatMap OrderClause.wording) =
        others.map Order.property := by
    intro others
    induction others with
    | nil => rfl
    | cons order others ih =>
        rw [List.map_cons, List.flatMap_cons, Wording.paths_append, Order.paths_clause, ih]
        rfl
  cases orders with
  | nil => rfl
  | cons order others => exact hterms (order :: others)

theorem paths_boundWording (word : String) (n : Option Nat) :
    Wording.paths (Statement.boundWording word n) = [] := by
  cases n <;> rfl

/-- The paths in the wording of a statement are those it is made from. -/
theorem mem_paths_wording (construction : Construction) (path : String) :
    path ∈ Wording.paths construction.statement.wording ↔ path ∈ construction.paths := by
  have hwording : ∀ statement : Statement, Wording.paths statement.wording =
      Wording.paths (Statement.projectionWording statement.projection) ++
        (Wording.paths statement.predicate.wording ++
          Wording.paths (Statement.orderWording statement.orderBy)) := by
    intro statement
    have hgroup : Wording.paths (Statement.groupWording statement.projection) = [] := by
      rw [Statement.groupWording]
      split <;> rfl
    simp only [Statement.wording, Wording.paths_append, Wording.paths_own, hgroup,
      paths_boundWording, List.append_nil, List.nil_append]
  rw [hwording, List.mem_append, List.mem_append]
  cases construction with
  | list bucket filters | count bucket filters =>
      show path ∈ [] ∨ path ∈ Wording.paths (filters.predicate bucket).wording ∨ path ∈ [] ↔
        path ∈ filters.paths
      rw [Filters.mem_paths_predicate, or_iff_left List.not_mem_nil, or_iff_right List.not_mem_nil]
  | paged bucket filters page =>
      show path ∈ [] ∨ path ∈ Wording.paths (filters.predicate bucket).wording ∨
          path ∈ Wording.paths (Statement.orderWording (page.sort.map Order.clause)) ↔
        path ∈ filters.paths ++ page.sort.map Order.property
      rw [Filters.mem_paths_predicate, paths_orderWording, or_iff_right List.not_mem_nil,
        List.mem_append]
  | sum bucket filters field =>
      show path ∈ [field] ∨ path ∈ Wording.paths (filters.predicate bucket).wording ∨ path ∈ [] ↔
        path ∈ filters.paths ++ [field]
      rw [Filters.mem_paths_predicate, or_iff_left List.not_mem_nil, List.mem_append, Or.comm]

/-- **The keywords of a statement.** Exactly the names that are plain identifiers are written bare,
and every keyword is one. The bare words of the text are its own and the plain names of its paths,
so its keywords are its own alone exactly when no name of a filter key, a sort property or a sum
field is a keyword. -/
theorem bareWords_made (construction : Construction) :
    (∀ name, Name.write name = name ↔ Name.isPlain name.toList = true) ∧
    (∀ name, IsKeyword name → Name.isPlain name.toList = true) ∧
    bareWords construction.statement.text =
      construction.statement.wording.flatMap (Wording.words bareNames) ∧
    ((bareWords construction.statement.text).filter (fun word => IsKeyword word) =
        construction.statement.ownWords.filter (fun word => IsKeyword word) ↔
      ∀ path ∈ construction.paths, ∀ name ∈ segments path, ¬ IsKeyword name) := by
  have hwords := construction.statement.bareWords_text
  refine ⟨write_eq_self_iff, fun _ => isPlain_of_isKeyword, hwords, ?_⟩
  rw [hwords, Statement.ownWords, Wording.filter_words_eq_iff]
  refine forall_congr' fun path => ?_
  rw [mem_paths_wording, filter_bareNames_eq_nil_iff]

/-- The statement that asks for a property `null` to be null. -/
def askingNull : Construction := .list "b" [("null_null", .null)]

/-- It asks whether the constant null is null, which it is; as a property, `null` is missing from
an empty document. -/
theorem askingNull_reads_constant :
    askingNull.paths = ["null"] ∧ segments "null" = ["null"] ∧ IsKeyword "null" ∧
    Name.write "null" = "null" ∧
    (FilterKey.read "null_null").fragment.text = "null IS NULL" ∧
    ((FilterKey.read "null_null").fragment.evaluate ⟨"a", .object [], []⟩).isTrue = false := by
  refine ⟨?_, ?_, ?_, ?_, ?_, ?_⟩ <;> decide +kernel

end Construction

end BucketQuery
