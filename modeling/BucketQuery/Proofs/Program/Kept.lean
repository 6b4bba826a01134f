import BucketQuery.Program.Command
import BucketQuery.Proofs.Query.Statement
import BucketQuery.Proofs.Text.Character
import BucketQuery.Proofs.Text.Word

set_option autoImplicit false

/-! # Reading scripts

A script is read from left to right (`contents`). Outside of back quotes and string literals two
dashes start a comment, which goes on to the end of its line, and a semicolon ends a statement. The
text of a statement is read as it stands, whatever names it is made from (`kept_statement`): all
that a name could bring in is between back quotes.
-/

namespace BucketQuery.Script

/-! ## The reader -/

/-- Where a reader of a script stands. -/
inductive Place where
  | outside
  | name
  | literal
  | escape
  | comment
  deriving DecidableEq

/-- Where a character leads, given what follows it. A comment starts at two dashes and ends at the
end of its line. -/
def Place.next : Place → Char → List Char → Place
  | .outside, c, rest =>
    if c = Name.quote then .name
    else if c = '"' then .literal
    else if c = '-' ∧ rest.head? = some '-' then .comment
    else .outside
  | .name, c, _ => if c = Name.quote then .outside else .name
  | .literal, c, _ => if c = '"' then .outside else if c = '\\' then .escape else .literal
  | .escape, _, _ => .literal
  | .comment, c, _ => if c = '\n' then .outside else .comment

/-- What a script says: its statements, each up to the semicolon that ends it, and what is left
after the last one, all without comments and without the blanks around them. -/
structure Contents where
  statements : List String
  rest : String
  deriving DecidableEq

/-- The contents with a statement in front. -/
def Contents.after (statement : String) (contents : Contents) : Contents :=
  ⟨statement :: contents.statements, contents.rest⟩

/-- A piece of a script without the blanks around it. -/
def trimmed (piece : List Char) : String := trimBlanks (String.ofList piece)

/-- What a script says from a place in it, where `piece` has been read of a statement. -/
def contentsFrom : Place → List Char → List Char → Contents
  | _, piece, [] => ⟨[], trimmed piece⟩
  | place, piece, c :: rest =>
    if place = .outside ∧ c = ';' then (contentsFrom .outside [] rest).after (trimmed piece)
    else if place.next c rest = .comment then contentsFrom .comment piece rest
    else contentsFrom (place.next c rest) (piece ++ [c]) rest

/-- **What a script says.** -/
def contents (script : String) : Contents := contentsFrom .outside [] script.toList

/-! ## Text that is kept -/

/-- A text that a reader outside of quotes and comments takes as it is, and stays outside. -/
def Kept (text : List Char) : Prop :=
  ∀ piece rest, contentsFrom .outside piece (text ++ rest) =
    contentsFrom .outside (piece ++ text) rest

/-- A character that means nothing to a reader. -/
def IsInert (c : Char) : Prop := c ≠ ';' ∧ c ≠ '-' ∧ c ≠ '"' ∧ c ≠ Name.quote

instance (c : Char) : Decidable (IsInert c) := inferInstanceAs (Decidable (_ ∧ _))

theorem Kept.nil : Kept [] := by
  intro piece rest
  rw [List.append_nil, List.nil_append]

theorem Kept.append {a b : List Char} (ha : Kept a) (hb : Kept b) : Kept (a ++ b) := by
  intro piece rest
  rw [List.append_assoc, ha, hb, List.append_assoc]

theorem Kept.cons {c : Char} (hc : IsInert c) {text : List Char} (h : Kept text) :
    Kept (c :: text) := by
  intro piece rest
  obtain ⟨hsemicolon, hdash, hliteral, hquote⟩ := hc
  have hnext : Place.next .outside c (text ++ rest) = .outside := by
    rw [Place.next, if_neg hquote, if_neg hliteral, if_neg fun h => hdash h.1]
  rw [List.cons_append, contentsFrom, if_neg fun h => hsemicolon h.2, hnext, if_neg nofun, h,
    List.append_assoc]
  rfl

theorem Kept.of_forall {text : List Char} (h : ∀ c ∈ text, IsInert c) : Kept text := by
  induction text with
  | nil => exact .nil
  | cons c text ih =>
      obtain ⟨hc, htext⟩ := List.forall_mem_cons.mp h
      exact .cons hc (ih htext)

theorem Kept.of_all {text : List Char} (h : text.all (IsInert ·) = true) : Kept text :=
  .of_forall fun c hc => of_decide_eq_true (List.all_eq_true.mp h c hc)

theorem contentsFrom_name (piece : List Char) (c : Char) (rest : List Char) :
    contentsFrom .name piece (c :: rest) =
      contentsFrom (if c = Name.quote then .outside else .name) (piece ++ [c]) rest := by
  rw [contentsFrom, if_neg nofun, Place.next, if_neg]
  split <;> exact nofun

theorem contentsFrom_literal (piece : List Char) (c : Char) (rest : List Char) :
    contentsFrom .literal piece (c :: rest) =
      contentsFrom (if c = '"' then .outside else if c = '\\' then .escape else .literal)
        (piece ++ [c]) rest := by
  rw [contentsFrom, if_neg nofun, Place.next, if_neg]
  split_ifs <;> exact nofun

theorem contentsFrom_escape (piece : List Char) (c : Char) (rest : List Char) :
    contentsFrom .escape piece (c :: rest) = contentsFrom .literal (piece ++ [c]) rest := by
  rw [contentsFrom, if_neg nofun, Place.next, if_neg nofun]

/-- A name is kept up to the back quote that closes it. -/
theorem contentsFrom_doubleQuotes (name piece rest : List Char) :
    contentsFrom .name piece (Name.doubleQuotes name ++ Name.quote :: rest) =
      contentsFrom .outside (piece ++ (Name.doubleQuotes name ++ [Name.quote])) rest := by
  induction name generalizing piece with
  | nil =>
      rw [Name.doubleQuotes, List.nil_append, List.nil_append, contentsFrom_name, if_pos rfl]
  | cons c name ih =>
      rw [Name.doubleQuotes]
      by_cases hc : c = Name.quote
      · -- a doubled back quote closes the name and opens it again
        have hopen (piece rest : List Char) : contentsFrom .outside piece (Name.quote :: rest) =
            contentsFrom .name (piece ++ [Name.quote]) rest := rfl
        rw [if_pos hc, List.cons_append, List.cons_append, contentsFrom_name, if_pos rfl, hopen, ih]
        simp only [List.append_assoc, List.cons_append, List.nil_append]
      · rw [if_neg hc, List.cons_append, contentsFrom_name, if_neg hc, ih]
        simp only [List.append_assoc, List.cons_append, List.nil_append]

/-- What stands between back quotes is kept, whatever it is. -/
theorem Kept.quoted (name : String) : Kept (Name.quoted name).toList := by
  intro piece rest
  have hopen (text : List Char) : contentsFrom .outside piece (Name.quote :: text) =
      contentsFrom .name (piece ++ [Name.quote]) text := rfl
  rw [Name.toList_quoted, List.cons_append, List.append_assoc, List.singleton_append, hopen,
    contentsFrom_doubleQuotes, List.append_assoc]
  rfl

theorem contentsFrom_plain {run : List Char} (hrun : ∀ c ∈ run, c ≠ '"' ∧ c ≠ '\\')
    (piece rest : List Char) :
    contentsFrom .literal piece (run ++ rest) = contentsFrom .literal (piece ++ run) rest := by
  induction run generalizing piece with
  | nil => rw [List.nil_append, List.append_nil]
  | cons c run ih =>
      obtain ⟨⟨hquote, hslash⟩, hrun⟩ := List.forall_mem_cons.mp hrun
      rw [List.cons_append, contentsFrom_literal, if_neg hquote, if_neg hslash, ih hrun,
        List.append_assoc]
      rfl

/-- After a backslash a literal goes on, whatever character follows. -/
theorem contentsFrom_backslash (c : Char) (piece rest : List Char) :
    contentsFrom .literal piece ('\\' :: c :: rest) =
      contentsFrom .literal (piece ++ ['\\', c]) rest := by
  have hslash (text : List Char) : contentsFrom .literal piece ('\\' :: text) =
      contentsFrom .escape (piece ++ ['\\']) text := rfl
  rw [hslash, contentsFrom_escape, List.append_assoc]
  rfl

/-- A character of a literal is kept, however it is escaped. -/
theorem contentsFrom_escaped (c : Char) (piece rest : List Char) :
    contentsFrom .literal piece (Json.escape c ++ rest) =
      contentsFrom .literal (piece ++ Json.escape c) rest := by
  rw [Json.escape]
  split_ifs with hquote hslash
  · exact contentsFrom_backslash _ piece rest
  · exact contentsFrom_backslash _ piece rest
  · exact contentsFrom_backslash _ piece rest
  · exact contentsFrom_backslash _ piece rest
  · exact contentsFrom_backslash _ piece rest
  · exact contentsFrom_backslash _ piece rest
  · exact contentsFrom_backslash _ piece rest
  · -- a number of hexadecimal digits, of which none ends the literal
    have hdigits : ∀ d ∈ ['0', '0', Nat.digitChar (c.toNat / 16), Nat.digitChar (c.toNat % 16)],
        d ≠ '"' ∧ d ≠ '\\' := by
      simp only [List.forall_mem_cons]
      exact ⟨by decide, by decide, Reading.digitChar_ne (by omega), Reading.digitChar_ne (by omega),
        List.forall_mem_nil _⟩
    rw [Json.controlByNumber, List.cons_append, List.cons_append, contentsFrom_backslash,
      contentsFrom_plain hdigits, List.append_assoc]
    rfl
  · exact contentsFrom_plain (by simpa using ⟨hquote, hslash⟩) piece rest

theorem Kept.literal (text : String) : Kept (Json.quoted text).toList := by
  intro piece rest
  have hopen (text : List Char) : contentsFrom .outside piece ('"' :: text) =
      contentsFrom .literal (piece ++ ['"']) text := rfl
  have hescapes (text piece : List Char) :
      contentsFrom .literal piece (text.flatMap Json.escape ++ '"' :: rest) =
        contentsFrom .outside (piece ++ (text.flatMap Json.escape ++ ['"'])) rest := by
    induction text generalizing piece with
    | nil => rw [List.flatMap_nil, List.nil_append, contentsFrom_literal, if_pos rfl]; rfl
    | cons c text ih =>
        rw [List.flatMap_cons, List.append_assoc, contentsFrom_escaped, ih]
        simp only [List.append_assoc]
  rw [Json.toList_quoted, List.cons_append, List.append_assoc, List.singleton_append, hopen,
    hescapes, List.append_assoc]
  rfl

/-- Pieces joined by a separator are kept when each of them is. -/
theorem Kept.intercalate {separator : List Char} (hseparator : Kept separator)
    {pieces : List (List Char)} (hpieces : ∀ piece ∈ pieces, Kept piece) :
    Kept (separator.intercalate pieces) := by
  cases pieces with
  | nil => exact .nil
  | cons first others =>
      obtain ⟨hfirst, hothers⟩ := List.forall_mem_cons.mp hpieces
      rw [intercalate_cons]
      refine hfirst.append ?_
      clear hpieces hfirst
      induction others with
      | nil => exact .nil
      | cons second others ih =>
          obtain ⟨hsecond, hothers⟩ := List.forall_mem_cons.mp hothers
          rw [List.flatMap_cons]
          exact (hseparator.append hsecond).append (ih hothers)

/-- A kind of characters without the four that mean something to a reader. -/
theorem isInert_of_kind {kind : Char → Bool}
    (hkind : [';', '-', '"', Name.quote].any kind = false) {c : Char} (h : kind c = true) :
    IsInert c := by
  have hne : ∀ d ∈ [';', '-', '"', Name.quote], c ≠ d := by
    rintro d hd rfl
    exact List.any_eq_false.mp hkind c hd h
  simp only [List.forall_mem_cons] at hne
  exact ⟨hne.1, hne.2.1, hne.2.2.1, hne.2.2.2.1⟩

theorem isInert_of_isInner {c : Char} (h : Name.isInner c = true) : IsInert c :=
  isInert_of_kind (by decide) h

theorem Kept.write (name : String) : Kept (Name.write name).toList := by
  rw [Name.write]
  split
  · next hplain =>
    exact .of_forall fun c hc => isInert_of_isInner (Name.isInner_of_mem_of_isPlain hplain c hc)
  · exact .quoted name

theorem Kept.writePath (path : String) : Kept (Name.writePath path).toList := by
  rw [Name.toList_writePath]
  refine .intercalate (.of_all (by decide)) fun piece hpiece => ?_
  obtain ⟨name, _, rfl⟩ := List.mem_map.mp hpiece
  exact .write name

theorem Kept.digitsOf (n : Nat) : Kept (digitsOf n) := by
  have hinner : ∀ c ∈ BucketQuery.digitsOf n, Name.isInner c = true := fun _ hc =>
    Name.isInner_of_isDigit (isDigit_of_mem_digitsOf hc)
  exact .of_forall fun c hc => isInert_of_isInner (hinner c hc)

/-! ## Statements -/

theorem kept_comparison (comparison : Comparison) : Kept comparison.text.toList := by
  cases comparison <;> exact .of_all (by decide)

theorem kept_check (test : Check) : Kept test.text.toList := by
  cases test <;> exact .of_all (by decide)

/-- **The text of an expression is kept.** No dash or semicolon in it stands outside of quotes. -/
theorem kept_expression (e : Expression) : Kept e.text.toList := by
  have hblank : IsInert ' ' := by decide
  have hopen : IsInert '(' := by decide
  have hclose : Kept [')'] := .of_all (by decide)
  induction e with
  | path names => exact .writePath names
  | parameter name =>
      rw [Expression.toList_text_parameter]
      exact .cons (by decide) (.write name)
  | literal characters => exact .literal characters
  | documentId bucket =>
      have hmeta : Kept "META".toList := .of_all (by decide)
      have hid : Kept ").id".toList := .of_all (by decide)
      rw [Expression.toList_text_documentId]
      exact hmeta.append (.cons hopen ((Kept.quoted bucket).append hid))
  | lower operand ih =>
      have hlower : Kept "LOWER".toList := .of_all (by decide)
      rw [Expression.toList_text_lower]
      exact hlower.append (.cons hopen (ih.append hclose))
  | contains whole part ihw ihp =>
      have hcontains : Kept "CONTAINS".toList := .of_all (by decide)
      have hcomma : Kept ", ".toList := .of_all (by decide)
      rw [Expression.toList_text_contains]
      exact hcontains.append (.cons hopen (ihw.append (hcomma.append (ihp.append hclose))))
  | compare left comparison right ihl ihr =>
      rw [Expression.toList_text_compare]
      exact ihl.append (.cons hblank ((kept_comparison comparison).append (.cons hblank ihr)))
  | check operand test ih =>
      rw [Expression.toList_text_check]
      exact ih.append (.cons hblank (kept_check test))
  | and left right ihl ihr =>
      have hand : Kept " AND ".toList := .of_all (by decide)
      rw [Expression.text, String.toList_append, String.toList_append]
      exact (ihl.append hand).append ihr
  | or left right ihl ihr =>
      have hor : Kept " OR ".toList := .of_all (by decide)
      rw [Expression.toList_text_or]
      exact .cons hopen (ihl.append (hor.append (ihr.append hclose)))

theorem kept_orderText (clauses : List OrderClause) :
    Kept (Statement.orderText clauses).toList := by
  by_cases hnone : clauses = []
  · rw [hnone]
    exact .nil
  · have horder : Kept " ORDER BY ".toList := .of_all (by decide)
    have hcomma : Kept ", ".toList := .of_all (by decide)
    rw [Statement.toList_orderText hnone]
    refine horder.append (hcomma.intercalate fun term hterm => ?_)
    obtain ⟨clause, _, rfl⟩ := List.mem_map.mp hterm
    have hdirection : Kept clause.direction.text.toList := by
      cases clause.direction <;> exact .of_all (by decide)
    rw [OrderClause.toList_text]
    exact (kept_expression clause.expression).append (.cons (by decide) hdirection)

theorem kept_boundText {word : String} (hword : Kept word.toList) (n : Option Nat) :
    Kept (Statement.boundText word n).toList := by
  cases n with
  | none => exact .nil
  | some n =>
      have hblank : Kept " ".toList := .of_all (by decide)
      have hdigits : Kept (String.ofList (digitsOf n)).toList := by
        rw [String.toList_ofList]
        exact .digitsOf n
      rw [Statement.boundText, String.toList_append, String.toList_append, String.toList_append]
      exact ((hblank.append hword).append hblank).append hdigits

theorem kept_projectionText (bucket : String) (projection : Projection) :
    Kept (Statement.projectionText bucket projection).toList := by
  cases projection with
  | documents =>
      have has : Kept " AS ".toList := .of_all (by decide)
      have hdata : Kept dataField.toList := .of_all (by decide)
      rw [Statement.projectionText, String.toList_append, String.toList_append]
      exact ((Kept.quoted bucket).append has).append hdata
  | count =>
      have hfunction : Kept "COUNT(*) AS ".toList := .of_all (by decide)
      have hcount : Kept countField.toList := .of_all (by decide)
      rw [Statement.projectionText, String.toList_append]
      exact hfunction.append hcount
  | sum field =>
      have hopen : Kept "SUM(".toList := .of_all (by decide)
      have has : Kept ") AS ".toList := .of_all (by decide)
      have hsum : Kept sumField.toList := .of_all (by decide)
      rw [Statement.projectionText, String.toList_append, String.toList_append,
        String.toList_append]
      exact ((hopen.append (kept_expression (.path field))).append has).append hsum

/-- **The text of a statement is kept.** -/
theorem kept_statement (statement : Statement) : Kept statement.text.toList := by
  have hselect : Kept "SELECT ".toList := .of_all (by decide)
  have hcomma : Kept ", ".toList := .of_all (by decide)
  have has : Kept " AS ".toList := .of_all (by decide)
  have hid : Kept idField.toList := .of_all (by decide)
  have hfrom : Kept " FROM ".toList := .of_all (by decide)
  have hwhere : Kept " WHERE ".toList := .of_all (by decide)
  have hdocumentId := kept_expression (.documentId statement.bucket)
  have hheading : Kept (Statement.heading statement.bucket statement.projection) :=
    hselect.append ((kept_projectionText statement.bucket statement.projection).append
      (hcomma.append (hdocumentId.append (has.append (hid.append (hfrom.append
        ((Kept.quoted statement.bucket).append hwhere)))))))
  have hgroup : Kept (Statement.groupText statement.bucket statement.projection) := by
    have hby : Kept " GROUP BY ".toList := .of_all (by decide)
    rw [Statement.groupText]
    split
    · exact hby.append hdocumentId
    · exact .nil
  have hbounds : Kept statement.boundsText :=
    (kept_boundText (.of_all (by decide)) _).append (kept_boundText (.of_all (by decide)) _)
  rw [Statement.toList_text]
  exact hheading.append ((kept_expression statement.predicate).append
    (hgroup.append ((kept_orderText statement.orderBy).append hbounds)))

end BucketQuery.Script
