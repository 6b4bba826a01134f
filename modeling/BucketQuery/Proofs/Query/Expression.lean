import BucketQuery.Proofs.Json.Quoted
import BucketQuery.Proofs.Query.Conjunction
import BucketQuery.Proofs.Text.Name

set_option autoImplicit false

/-! # Reading expressions back

The text of an expression says which expression it is, up to the nesting of conjunctions, which has
no parentheses (`legible`). Comparisons and tests have none either, so this holds of well-formed
expressions, where they are about operands only.

An operand ends before a blank, a comma or a parenthesis. A comparison or a test goes on with a
blank and one of a few characters, and a conjunction with ` AND `; so what follows an operand, a
conjunct or a whole expression decides which of them it is.
-/

namespace BucketQuery

namespace Expression

/-! ## Well-formed expressions -/

/-- What comparisons and tests are about. -/
def IsOperand : Expression → Prop
  | .compare _ _ _ | .check _ _ | .and _ _ => False
  | _ => True

/-- Everywhere in the expression, comparisons and tests are about operands. -/
def WellFormed : Expression → Prop
  | .path _ | .parameter _ | .literal _ | .documentId _ => True
  | .lower operand => operand.WellFormed
  | .contains left right | .and left right | .or left right => left.WellFormed ∧ right.WellFormed
  | .compare left _ right =>
    (left.IsOperand ∧ left.WellFormed) ∧ right.IsOperand ∧ right.WellFormed
  | .check operand _ => operand.IsOperand ∧ operand.WellFormed

theorem wellFormed_of_mem_conjuncts {e c : Expression} (h : e.WellFormed) (hc : c ∈ e.conjuncts) :
    c.WellFormed := by
  induction e using induction_conjuncts with
  | conjunct e he =>
      rw [conjuncts_of_isConjunct he, List.mem_singleton] at hc
      exact hc ▸ h
  | and left right ihl ihr =>
      rw [conjuncts, List.mem_append] at hc
      exact hc.elim (ihl h.1) (ihr h.2)

/-! ## What may follow -/

/-- What may follow an operand: a blank, a comma or a closing parenthesis, or nothing. -/
def OperandEnds : List Char → Prop
  | [] => True
  | c :: _ => c ∈ [' ', ',', ')']

/-- What may follow a conjunct: what may follow an operand, but nothing that could go on as a
comparison or a test. -/
def ConjunctEnds : List Char → Prop
  | [] => True
  | c :: rest => c ∈ [',', ')'] ∨ c = ' ' ∧ ∀ d ∈ rest.head?, d ∉ ['=', '!', '>', '<', 'I', 'N']

/-- What may follow an expression: what may follow a conjunct, but no further one. -/
def Ends (rest : List Char) : Prop := ConjunctEnds rest ∧ ¬ " AND ".toList <+: rest

theorem OperandEnds.ends {rest : List Char} (h : OperandEnds rest) : Name.Ends rest := by
  cases rest with
  | nil => trivial
  | cons c rest =>
      rw [OperandEnds, List.mem_cons, List.mem_cons, List.mem_singleton] at h
      rcases h with rfl | rfl | rfl
      · exact ⟨by decide, by decide⟩
      · exact ⟨by decide, by decide⟩
      · exact ⟨by decide, by decide⟩

theorem OperandEnds.head?_ne {rest : List Char} (h : OperandEnds rest) {c : Char}
    (hc : c ∉ [' ', ',', ')']) : rest.head? ≠ some c := by
  cases rest with
  | nil => exact nofun
  | cons d rest =>
      rintro ⟨rfl⟩
      exact hc h

theorem ConjunctEnds.operandEnds {rest : List Char} (h : ConjunctEnds rest) :
    OperandEnds rest := by
  cases rest with
  | nil => trivial
  | cons c rest =>
      rcases h with h | ⟨rfl, _⟩
      · exact List.mem_cons_of_mem _ h
      · exact List.mem_cons_self

/-! ## How operands open -/

/-- How the text of an operand opens: with a name, a call, or a sign of its own. -/
inductive Opening where
  | name
  | call (function : List Char)
  | parameter
  | literal
  | group

/-- How a text opens. -/
def opening (text : List Char) : Opening :=
  if text.head? = some '$' then .parameter
  else if text.head? = some '"' then .literal
  else if text.head? = some '(' then .group
  else
    let (name, rest) := Name.read text
    if rest.head? = some '(' then .call name else .name

/-- How the text of an operand opens, by what it is. -/
def openingOf : Expression → Opening
  | .parameter _ => .parameter
  | .literal _ => .literal
  | .or _ _ => .group
  | .documentId _ => .call "META".toList
  | .lower _ => .call "LOWER".toList
  | .contains _ _ => .call "CONTAINS".toList
  | _ => .name

/-- A text that starts with a name opens with a call if a parenthesis follows the name. -/
theorem opening_write (name : String) {rest : List Char} (h : Name.Ends rest) :
    opening ((Name.write name).toList ++ rest) =
      if rest.head? = some '(' then .call name.toList else .name := by
  obtain ⟨c, hc, hstart⟩ := Name.exists_head?_write name rest
  have hsigns : ∀ d ∈ ['$', '"', '('], d ≠ Name.quote ∧ Name.isInitial d = false := by
    intro d hd
    rw [List.mem_cons, List.mem_cons, List.mem_singleton] at hd
    rcases hd with rfl | rfl | rfl
    · exact ⟨by decide, by decide⟩
    · exact ⟨by decide, by decide⟩
    · exact ⟨by decide, by decide⟩
  have hne : ∀ d ∈ ['$', '"', '('], ((Name.write name).toList ++ rest).head? ≠ some d := by
    intro d hd heq
    rw [hc, Option.some_inj] at heq
    obtain ⟨hquote, hinitial⟩ := hsigns d hd
    rcases hstart with hstart | hstart
    · exact hquote (heq ▸ hstart)
    · rw [heq, hinitial] at hstart
      cases hstart
  rw [opening, if_neg (hne '$' (by decide)), if_neg (hne '"' (by decide)),
    if_neg (hne '(' (by decide)), Name.read_write name h]

theorem opening_call {function : String} (h : Name.isPlain function.toList = true)
    (rest : List Char) : opening (function.toList ++ '(' :: rest) = .call function.toList := by
  have hends : Name.Ends ('(' :: rest) := ⟨by decide, by decide⟩
  have hopening := opening_write function hends
  rwa [Name.write, if_pos h, List.head?_cons, if_pos rfl] at hopening

theorem opening_writePath (path : String) {rest : List Char} (h : OperandEnds rest) :
    opening ((Name.writePath path).toList ++ rest) = .name := by
  obtain ⟨first, others, hsegments⟩ := List.exists_cons_of_ne_nil (segments_ne_nil path)
  have hdot : ∀ t, Name.Ends (['.'] ++ t) ∧ (['.'] ++ t).head? ≠ some '(' := by
    intro t
    exact ⟨⟨by decide, by decide⟩, fun heq => absurd (Option.some.inj heq) (by decide)⟩
  have hstop := stop_pieces (fun name => (Name.write name).toList)
    (fun t => Name.Ends t ∧ t.head? ≠ some '(') hdot others ⟨h.ends, h.head?_ne (by decide)⟩
  rw [Name.toList_writePath, hsegments, List.map_cons, intercalate_cons, List.flatMap_map,
    List.append_assoc, opening_write first hstop.1, if_neg hstop.2]

/-! ## Texts of operands, comparisons and tests -/

theorem toList_text_parameter (name : String) :
    (parameter name).text.toList = '$' :: (Name.write name).toList := by
  rw [text, placeholder, String.toList_append]
  rfl

theorem toList_text_documentId (bucket : String) :
    (documentId bucket).text.toList =
      "META".toList ++ '(' :: ((Name.quoted bucket).toList ++ ").id".toList) := by
  rw [text, String.toList_append, String.toList_append]
  rfl

theorem toList_text_lower (operand : Expression) :
    (lower operand).text.toList = "LOWER".toList ++ '(' :: (operand.text.toList ++ [')']) := by
  rw [text, String.toList_append, String.toList_append]
  rfl

theorem toList_text_contains (whole part : Expression) :
    (contains whole part).text.toList =
      "CONTAINS".toList ++
        '(' :: (whole.text.toList ++ (", ".toList ++ (part.text.toList ++ [')']))) := by
  simp only [text, String.toList_append, List.append_assoc]
  rfl

theorem toList_text_or (left right : Expression) :
    (or left right).text.toList =
      '(' :: (left.text.toList ++ (" OR ".toList ++ (right.text.toList ++ [')']))) := by
  simp only [text, String.toList_append, List.append_assoc]
  rfl

theorem toList_text_compare (left : Expression) (comparison : Comparison) (right : Expression) :
    (compare left comparison right).text.toList =
      left.text.toList ++ (' ' :: (comparison.text.toList ++ (' ' :: right.text.toList))) := by
  simp only [text, String.toList_append, List.append_assoc]
  rfl

theorem toList_text_check (operand : Expression) (test : Check) :
    (check operand test).text.toList =
      operand.text.toList ++ (' ' :: test.text.toList) := by
  simp only [text, String.toList_append, List.append_assoc]
  rfl

theorem opening_text {e : Expression} (he : e.IsOperand) {rest : List Char}
    (h : OperandEnds rest) : opening (e.text.toList ++ rest) = openingOf e := by
  cases e with
  | path names => exact opening_writePath names h
  | parameter name =>
      rw [toList_text_parameter]
      rfl
  | literal characters =>
      rw [text, Json.toList_quoted]
      rfl
  | documentId bucket =>
      rw [toList_text_documentId, List.append_assoc]
      exact opening_call (by decide) _
  | lower operand =>
      rw [toList_text_lower, List.append_assoc]
      exact opening_call (by decide) _
  | contains whole part =>
      rw [toList_text_contains, List.append_assoc]
      exact opening_call (by decide) _
  | or left right =>
      rw [toList_text_or]
      rfl
  | compare _ _ _ | check _ _ | and _ _ => exact he.elim

/-! ## Legible expressions -/

/-- An expression is legible among those of a kind when its text, followed by one that may stand
there, determines that text and, up to the nesting of conjunctions, the expression. -/
def Legible (Kind : Expression → Prop) (Stop : List Char → Prop) (e : Expression) : Prop :=
  ∀ e', Kind e' ∧ e'.WellFormed → ∀ r s, Stop r → Stop s →
    e.text.toList ++ r = e'.text.toList ++ s → e.reassociate = e'.reassociate ∧ r = s

theorem ends_paren (rest : List Char) : Ends (')' :: rest) :=
  ⟨.inl (by decide), by simp⟩

theorem ends_comma (rest : List Char) : Ends (", ".toList ++ rest) :=
  ⟨.inl (by decide), by simp⟩

/-- A blank and most characters end an expression. -/
theorem ends_blank {c : Char} (h : c ∉ ['=', '!', '>', '<', 'I', 'N', 'A']) (rest : List Char) :
    Ends (' ' :: c :: rest) := by
  rw [show ['=', '!', '>', '<', 'I', 'N', 'A'] = ['=', '!', '>', '<', 'I', 'N'] ++ ['A'] from rfl,
    List.mem_append, not_or, List.mem_singleton] at h
  refine ⟨.inr ⟨rfl, ?_⟩, ?_⟩
  · rintro d ⟨rfl⟩
    exact h.1
  · rintro ⟨t, ht⟩
    exact h.2 (List.cons.inj (List.tail_eq_of_cons_eq ht)).1.symm

theorem ends_or (rest : List Char) : Ends (" OR ".toList ++ rest) := ends_blank (by decide) _

/-- An operand need only be told from operands that open as it does. -/
theorem legible_of_opening {e : Expression} (he : e.IsOperand)
    (h : ∀ e', e'.IsOperand → e'.WellFormed → openingOf e = openingOf e' → ∀ r s, OperandEnds r →
      OperandEnds s → e.text.toList ++ r = e'.text.toList ++ s →
        e.reassociate = e'.reassociate ∧ r = s) : Legible IsOperand OperandEnds e := by
  intro e' ⟨he', hwf⟩ r s hr hs htext
  have hopening := congrArg opening htext
  rw [opening_text he hr, opening_text he' hs] at hopening
  exact h e' he' hwf hopening r s hr hs htext

theorem legible_path (names : String) : Legible IsOperand OperandEnds (.path names) := by
  refine legible_of_opening trivial fun e' he' hwf hopening r s hr hs h => ?_
  cases e' with
  | path names' =>
      obtain ⟨rfl, hrs⟩ := Name.writePath_append_inj hr.ends hs.ends (hr.head?_ne (by decide))
        (hs.head?_ne (by decide)) h
      exact ⟨rfl, hrs⟩
  | compare _ _ _ | check _ _ | and _ _ => exact he'.elim
  | _ => cases hopening

theorem legible_parameter (name : String) : Legible IsOperand OperandEnds (.parameter name) := by
  refine legible_of_opening trivial fun e' he' hwf hopening r s hr hs h => ?_
  cases e' with
  | parameter name' =>
      rw [toList_text_parameter, toList_text_parameter] at h
      obtain ⟨rfl, hrs⟩ := Name.write_append_inj hr.ends hs.ends (List.tail_eq_of_cons_eq h)
      exact ⟨rfl, hrs⟩
  | compare _ _ _ | check _ _ | and _ _ => exact he'.elim
  | _ => cases hopening

theorem legible_literal (characters : String) :
    Legible IsOperand OperandEnds (.literal characters) := by
  refine legible_of_opening trivial fun e' he' hwf hopening r s hr hs h => ?_
  cases e' with
  | literal characters' =>
      obtain ⟨rfl, hrs⟩ := Json.quoted_append_inj h
      exact ⟨rfl, hrs⟩
  | compare _ _ _ | check _ _ | and _ _ => exact he'.elim
  | _ => cases hopening

theorem legible_documentId (bucket : String) :
    Legible IsOperand OperandEnds (.documentId bucket) := by
  refine legible_of_opening trivial fun e' he' hwf hopening r s hr hs h => ?_
  cases e' with
  | documentId bucket' =>
      have hparen : ∀ t, Name.Ends (").id".toList ++ t) := fun t => ⟨by decide, by decide⟩
      simp only [toList_text_documentId, List.append_assoc, List.cons_append] at h
      have hname := List.tail_eq_of_cons_eq (List.append_cancel_left h)
      obtain ⟨rfl, hrest⟩ := Name.quoted_append_inj (hparen r) (hparen s) hname
      exact ⟨rfl, List.append_cancel_left hrest⟩
  | compare _ _ _ | check _ _ | and _ _ => exact he'.elim
  | _ => simp [openingOf] at hopening

theorem legible_lower {operand : Expression} (h : Legible (fun _ => True) Ends operand) :
    Legible IsOperand OperandEnds (.lower operand) := by
  refine legible_of_opening trivial fun e' he' hwf hopening r s hr hs htext => ?_
  cases e' with
  | lower operand' =>
      simp only [toList_text_lower, List.append_assoc, List.cons_append, List.nil_append] at htext
      have hoperand := List.tail_eq_of_cons_eq (List.append_cancel_left htext)
      obtain ⟨heq, hrest⟩ := h operand' ⟨trivial, hwf⟩ _ _ (ends_paren r) (ends_paren s) hoperand
      exact ⟨congrArg lower heq, List.tail_eq_of_cons_eq hrest⟩
  | compare _ _ _ | check _ _ | and _ _ => exact he'.elim
  | _ => simp [openingOf] at hopening

theorem legible_contains {whole part : Expression} (hwhole : Legible (fun _ => True) Ends whole)
    (hpart : Legible (fun _ => True) Ends part) :
    Legible IsOperand OperandEnds (.contains whole part) := by
  refine legible_of_opening trivial fun e' he' hwf hopening r s hr hs htext => ?_
  cases e' with
  | contains whole' part' =>
      simp only [toList_text_contains, List.append_assoc, List.cons_append,
        List.nil_append] at htext
      have hoperands := List.tail_eq_of_cons_eq (List.append_cancel_left htext)
      obtain ⟨heq, hrest⟩ :=
        hwhole whole' ⟨trivial, hwf.1⟩ _ _ (ends_comma _) (ends_comma _) hoperands
      obtain ⟨heq', hrest'⟩ := hpart part' ⟨trivial, hwf.2⟩ _ _ (ends_paren r) (ends_paren s)
        (List.append_cancel_left hrest)
      exact ⟨congrArg₂ contains heq heq', List.tail_eq_of_cons_eq hrest'⟩
  | compare _ _ _ | check _ _ | and _ _ => exact he'.elim
  | _ => simp [openingOf] at hopening

theorem legible_or {left right : Expression} (hleft : Legible (fun _ => True) Ends left)
    (hright : Legible (fun _ => True) Ends right) :
    Legible IsOperand OperandEnds (.or left right) := by
  refine legible_of_opening trivial fun e' he' hwf hopening r s hr hs htext => ?_
  cases e' with
  | or left' right' =>
      simp only [toList_text_or, List.append_assoc, List.cons_append, List.nil_append] at htext
      have hoperands := List.tail_eq_of_cons_eq htext
      obtain ⟨heq, hrest⟩ := hleft left' ⟨trivial, hwf.1⟩ _ _ (ends_or _) (ends_or _) hoperands
      obtain ⟨heq', hrest'⟩ := hright right' ⟨trivial, hwf.2⟩ _ _ (ends_paren r) (ends_paren s)
        (List.append_cancel_left hrest)
      exact ⟨congrArg₂ or heq heq', List.tail_eq_of_cons_eq hrest'⟩
  | compare _ _ _ | check _ _ | and _ _ => exact he'.elim
  | _ => cases hopening

/-! ## Comparisons, tests and conjunctions -/

/-- The word of a comparison starts with a character that cannot follow a conjunct. -/
theorem not_conjunctEnds_comparison (comparison : Comparison) (rest : List Char) :
    ¬ ConjunctEnds (' ' :: (comparison.text.toList ++ rest)) := by
  rintro (h | ⟨_, h⟩)
  · exact absurd h (by decide)
  · cases comparison <;> exact absurd (h _ rfl) (by decide)

/-- So do the words of a test. -/
theorem not_conjunctEnds_check (test : Check) (rest : List Char) :
    ¬ ConjunctEnds (' ' :: (test.text.toList ++ rest)) := by
  rintro (h | ⟨_, h⟩)
  · exact absurd h (by decide)
  · cases test <;> exact absurd (h _ rfl) (by decide)

theorem comparison_append_inj {a b : Comparison} {r s : List Char}
    (h : a.text.toList ++ ' ' :: r = b.text.toList ++ ' ' :: s) : a = b ∧ r = s := by
  cases a <;> cases b <;> simp [Comparison.text] at h <;> exact ⟨rfl, h⟩

theorem check_append_inj {a b : Check} {r s : List Char}
    (h : a.text.toList ++ r = b.text.toList ++ s) : a = b ∧ r = s := by
  cases a <;> cases b <;> simp [Check.text] at h <;> exact ⟨rfl, h⟩

theorem comparison_append_ne_check (comparison : Comparison) (test : Check) (r s : List Char) :
    comparison.text.toList ++ ' ' :: r ≠ test.text.toList ++ s := by
  intro h
  cases comparison <;> cases test <;> simp [Comparison.text, Check.text] at h

/-- The operand that a conjunct starts with. -/
def subject : Expression → Expression
  | .compare left _ _ => left
  | .check operand _ => operand
  | other => other

/-- What a conjunct says of its subject. -/
def remark : Expression → List Char
  | .compare _ comparison right => ' ' :: (comparison.text.toList ++ ' ' :: right.text.toList)
  | .check _ test => ' ' :: test.text.toList
  | _ => []

theorem toList_text_subject (e : Expression) :
    e.text.toList = e.subject.text.toList ++ e.remark := by
  cases e with
  | compare left comparison right => exact toList_text_compare left comparison right
  | check operand test => exact toList_text_check operand test
  | _ => exact (List.append_nil _).symm

theorem operandEnds_remark (e : Expression) {rest : List Char} (h : ConjunctEnds rest) :
    OperandEnds (e.remark ++ rest) := by
  cases e with
  | compare _ _ _ | check _ _ => exact List.mem_cons_self
  | _ => exact h.operandEnds

theorem isOperand_subject {e : Expression} (he : e.IsConjunct) (hwf : e.WellFormed) :
    e.subject.IsOperand ∧ e.subject.WellFormed := by
  cases e with
  | compare left comparison right => exact hwf.1
  | check operand test => exact hwf
  | and left right => exact he.elim
  | _ => exact ⟨trivial, hwf⟩

/-- A conjunct is an operand, a comparison or a test. -/
theorem IsConjunct.operand_or {e : Expression} (h : e.IsConjunct) :
    (e.IsOperand ∧ e.subject = e ∧ e.remark = []) ∨
      (∃ left comparison right, e = .compare left comparison right) ∨
      ∃ operand test, e = .check operand test := by
  cases e with
  | compare left comparison right => exact .inr (.inl ⟨left, comparison, right, rfl⟩)
  | check operand test => exact .inr (.inr ⟨operand, test, rfl⟩)
  | and left right => exact h.elim
  | _ => exact .inl ⟨trivial, rfl, rfl⟩

/-- A conjunct is legible when its operands are: its subject ends where the operand does, and what
follows says whether it is a comparison, a test, or the subject alone. -/
theorem legible_conjunct {e : Expression} (he : e.IsConjunct)
    (hsubject : Legible IsOperand OperandEnds e.subject)
    (hright : ∀ left comparison right, e = .compare left comparison right →
      Legible IsOperand OperandEnds right) : Legible IsConjunct ConjunctEnds e := by
  rintro e' ⟨he', hwf⟩ r s hr hs htext
  rw [toList_text_subject e, toList_text_subject e', List.append_assoc, List.append_assoc] at htext
  obtain ⟨heq, hrest⟩ := hsubject e'.subject (isOperand_subject he' hwf) _ _
    (operandEnds_remark e hr) (operandEnds_remark e' hs) htext
  -- the subjects agree; what follows them is compared by what the two conjuncts are
  rcases he.operand_or with ⟨_, hself, hnone⟩ | ⟨left, comparison, right, rfl⟩ | ⟨operand, test, rfl⟩
  · -- the subject alone
    rw [hnone, List.nil_append] at hrest
    rcases he'.operand_or with ⟨_, hself', hnone'⟩ | ⟨left', comparison', right', rfl⟩ |
      ⟨operand', test', rfl⟩
    · rw [hnone', List.nil_append] at hrest
      rw [hself, hself'] at heq
      exact ⟨heq, hrest⟩
    · rw [hrest, remark, List.cons_append, List.append_assoc] at hr
      exact absurd hr (not_conjunctEnds_comparison _ _)
    · rw [hrest, remark, List.cons_append] at hr
      exact absurd hr (not_conjunctEnds_check _ _)
  · -- a comparison
    rw [remark, List.cons_append, List.append_assoc, List.cons_append] at hrest
    rcases he'.operand_or with ⟨_, _, hnone'⟩ | ⟨left', comparison', right', rfl⟩ |
      ⟨operand', test', rfl⟩
    · rw [hnone', List.nil_append] at hrest
      exact absurd (hrest ▸ hs) (not_conjunctEnds_comparison _ _)
    · rw [remark, List.cons_append, List.append_assoc, List.cons_append] at hrest
      obtain ⟨rfl, hoperand⟩ := comparison_append_inj (List.tail_eq_of_cons_eq hrest)
      obtain ⟨heq', hrs⟩ := hright left comparison right rfl right' hwf.2 r s hr.operandEnds
        hs.operandEnds hoperand
      exact ⟨congrArg₂ (compare · comparison ·) heq heq', hrs⟩
    · rw [remark, List.cons_append] at hrest
      exact absurd (List.tail_eq_of_cons_eq hrest) (comparison_append_ne_check _ _ _ _)
  · -- a test
    rw [remark, List.cons_append] at hrest
    rcases he'.operand_or with ⟨_, _, hnone'⟩ | ⟨left', comparison', right', rfl⟩ |
      ⟨operand', test', rfl⟩
    · rw [hnone', List.nil_append] at hrest
      exact absurd (hrest ▸ hs) (not_conjunctEnds_check _ _)
    · rw [remark, List.cons_append, List.append_assoc, List.cons_append] at hrest
      exact absurd (List.tail_eq_of_cons_eq hrest).symm (comparison_append_ne_check _ _ _ _)
    · rw [remark, List.cons_append] at hrest
      obtain ⟨rfl, hrs⟩ := check_append_inj (List.tail_eq_of_cons_eq hrest)
      exact ⟨congrArg (check · test) heq, hrs⟩

/-- An expression is legible when its conjuncts are. -/
theorem legible_of_conjuncts {e : Expression}
    (h : ∀ c ∈ e.conjuncts, Legible IsConjunct ConjunctEnds c) :
    Legible (fun _ => True) Ends e := by
  rintro e' ⟨_, hwf⟩ r s hr hs htext
  have hand : ∀ t, ConjunctEnds (" AND ".toList ++ t) := by
    intro t
    show ConjunctEnds (' ' :: 'A' :: 'N' :: 'D' :: ' ' :: t)
    exact .inr ⟨rfl, by simp⟩
  have hconjuncts : ∀ c ∈ e'.conjuncts, c.IsConjunct ∧ c.WellFormed := fun c hc =>
    ⟨isConjunct_of_mem_conjuncts hc, wellFormed_of_mem_conjuncts hwf hc⟩
  -- nesting does not show in the text, so only the lists of conjuncts are compared
  rw [text_eq_intercalate e, text_eq_intercalate e', String.toList_intercalate,
    String.toList_intercalate, List.map_map, List.map_map] at htext
  obtain ⟨heq, hrs⟩ := intercalate_append_inj reassociate (fun c => c.IsConjunct ∧ c.WellFormed)
    ConjunctEnds h hand hconjuncts (conjuncts_ne_nil e) (conjuncts_ne_nil e') hr.1 hs.1 hr.2 hs.2
    htext
  exact ⟨reassociate_eq_of_conjuncts heq, hrs⟩

/-- Of an operand, and of an expression with its conjuncts, what the induction needs. -/
def LegibleParts (e : Expression) : Prop :=
  (e.IsOperand → Legible IsOperand OperandEnds e) ∧
    ∀ c ∈ e.conjuncts, Legible IsConjunct ConjunctEnds c

theorem LegibleParts.whole {e : Expression} (h : e.LegibleParts) :
    Legible (fun _ => True) Ends e :=
  legible_of_conjuncts h.2

theorem legibleParts_of_operand {e : Expression} (he : e.IsOperand)
    (h : Legible IsOperand OperandEnds e) : e.LegibleParts := by
  refine ⟨fun _ => h, ?_⟩
  cases e with
  | compare _ _ _ | check _ _ | and _ _ => exact he.elim
  | _ =>
      intro c hc
      cases List.mem_singleton.mp hc
      exact legible_conjunct trivial h nofun

theorem legibleParts {e : Expression} (h : e.WellFormed) : e.LegibleParts := by
  -- operands need that the expressions inside them are legible as a whole, comparisons and tests
  -- that their operands are legible as operands; the induction carries both
  induction e with
  | path names => exact legibleParts_of_operand trivial (legible_path names)
  | parameter name => exact legibleParts_of_operand trivial (legible_parameter name)
  | literal characters => exact legibleParts_of_operand trivial (legible_literal characters)
  | documentId bucket => exact legibleParts_of_operand trivial (legible_documentId bucket)
  | lower operand ih => exact legibleParts_of_operand trivial (legible_lower (ih h).whole)
  | contains whole part ihw ihp =>
      exact legibleParts_of_operand trivial (legible_contains (ihw h.1).whole (ihp h.2).whole)
  | compare left comparison right ihl ihr =>
      refine ⟨False.elim, fun c hc => ?_⟩
      cases List.mem_singleton.mp hc
      refine legible_conjunct trivial ((ihl h.1.2).1 h.1.1) ?_
      rintro _ _ _ ⟨rfl⟩
      exact (ihr h.2.2).1 h.2.1
  | check operand test ih =>
      refine ⟨False.elim, fun c hc => ?_⟩
      cases List.mem_singleton.mp hc
      exact legible_conjunct trivial ((ih h.2).1 h.1) nofun
  | and left right ihl ihr =>
      refine ⟨False.elim, fun c hc => ?_⟩
      rw [conjuncts, List.mem_append] at hc
      exact hc.elim ((ihl h.1).2 c) ((ihr h.2).2 c)
  | or left right ihl ihr =>
      exact legibleParts_of_operand trivial (legible_or (ihl h.1).whole (ihr h.2).whole)

/-- **Every well-formed expression is legible.** Whatever its names and literals contain, its text
says which expression it is, up to the nesting of conjunctions, and where it ends. -/
theorem legible {e : Expression} (h : e.WellFormed) : Legible (fun _ => True) Ends e :=
  (legibleParts h).whole

end Expression

end BucketQuery
