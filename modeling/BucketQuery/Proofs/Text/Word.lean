import BucketQuery.Proofs.Json.Quoted
import BucketQuery.Proofs.Text.Name

set_option autoImplicit false

/-! # Bare words

The bare words of a text are the runs of characters of names that stand outside of back quotes and
string literals and do not follow a dollar sign (`bareWords`). They are what can be taken for
keywords. A name is a bare word exactly when it is a plain identifier (`write_eq_self_iff`); between
back quotes, in a literal and in a placeholder no word is bare, whatever they contain.
-/

namespace BucketQuery

/-- Where a reader of words stands. The letters of a word are kept in reverse. -/
inductive Reading where
  | between
  | word (letters : List Char)
  | placeholder
  | quoted
  | literal
  | escape

namespace Reading

/-- Where a character leads that goes on with nothing. -/
def start (c : Char) : Reading :=
  if c = Name.quote then .quoted
  else if c = '"' then .literal
  else if c = '$' then .placeholder
  else if Name.isInner c then .word [c]
  else .between

/-- The bare words of a text, from a place in it. -/
def words : Reading → List Char → List String
  | .word letters, [] => [String.ofList letters.reverse]
  | _, [] => []
  | .between, c :: rest => words (start c) rest
  | .word letters, c :: rest =>
    if Name.isInner c then words (.word (c :: letters)) rest
    else String.ofList letters.reverse :: words (start c) rest
  | .placeholder, c :: rest =>
    if Name.isInner c then words .placeholder rest else words (start c) rest
  | .quoted, c :: rest => words (if c = Name.quote then .between else .quoted) rest
  | .literal, c :: rest =>
    words (if c = '"' then .between else if c = '\\' then .escape else .literal) rest
  | .escape, _ :: rest => words .literal rest

end Reading

/-- **The bare words of a text.** -/
def bareWords (text : String) : List String := Reading.between.words text.toList

/-- What may follow a word: nothing that could go on with it. -/
def Breaks (rest : List Char) : Prop := ∀ c ∈ rest.head?, Name.isInner c = false

theorem breaks_cons {c : Char} (h : Name.isInner c = false) (rest : List Char) :
    Breaks (c :: rest) := by
  rintro d ⟨rfl⟩
  exact h

namespace Reading

/-! ## Words and names -/

theorem words_word {run rest : List Char} (letters : List Char)
    (hrun : ∀ c ∈ run, Name.isInner c = true) (hrest : Breaks rest) :
    words (.word letters) (run ++ rest) =
      String.ofList (letters.reverse ++ run) :: words .between rest := by
  induction run generalizing letters with
  | nil =>
      rw [List.append_nil, List.nil_append]
      cases rest with
      | nil => rfl
      | cons c rest =>
          simp only [words, hrest c rfl, Bool.false_eq_true, if_false]
  | cons c run ih =>
      obtain ⟨hc, hrun⟩ := List.forall_mem_cons.mp hrun
      rw [List.cons_append, words, if_pos hc, ih (c :: letters) hrun, List.reverse_cons,
        List.append_assoc]
      rfl

theorem words_placeholder {run rest : List Char} (hrun : ∀ c ∈ run, Name.isInner c = true)
    (hrest : Breaks rest) : words .placeholder (run ++ rest) = words .between rest := by
  induction run with
  | nil =>
      cases rest with
      | nil => rfl
      | cons c rest =>
          simp only [List.nil_append, words, hrest c rfl, Bool.false_eq_true, if_false]
  | cons c run ih =>
      obtain ⟨hc, hrun⟩ := List.forall_mem_cons.mp hrun
      rw [List.cons_append, words, if_pos hc, ih hrun]

/-- No word between back quotes is bare. -/
theorem words_doubleQuotes (name rest : List Char) :
    words .quoted (Name.doubleQuotes name ++ Name.quote :: rest) = words .between rest := by
  induction name with
  | nil => rfl
  | cons c name ih =>
      rw [Name.doubleQuotes]
      by_cases hc : c = Name.quote
      · -- a doubled back quote closes the name and opens it again
        rw [if_pos hc]
        exact ih
      · rw [if_neg hc, List.cons_append, words, if_neg hc, ih]

theorem words_quoted (name : String) (rest : List Char) :
    words .between ((Name.quoted name).toList ++ rest) = words .between rest := by
  rw [Name.toList_quoted, List.cons_append, List.append_assoc]
  exact words_doubleQuotes name.toList rest

theorem start_of_isInner {c : Char} (h : Name.isInner c = true) : start c = .word [c] := by
  have hne : ∀ d, Name.isInner d = false → c ≠ d := fun d => Name.ne_of_isInner h
  rw [start, if_neg (hne _ (by decide)), if_neg (hne _ (by decide)), if_neg (hne _ (by decide)),
    if_pos h]

/-- A run of characters of names is a bare word. -/
theorem words_run {run rest : List Char} (hne : run ≠ [])
    (hrun : ∀ c ∈ run, Name.isInner c = true) (hrest : Breaks rest) :
    words .between (run ++ rest) = String.ofList run :: words .between rest := by
  cases run with
  | nil => exact absurd rfl hne
  | cons c run =>
      obtain ⟨hc, hrun⟩ := List.forall_mem_cons.mp hrun
      rw [List.cons_append, words, start_of_isInner hc, words_word [c] hrun hrest]
      rfl

/-- The bare words of a written name: the name, or none. -/
theorem words_write (name : String) {rest : List Char} (h : Breaks rest) :
    words .between ((Name.write name).toList ++ rest) =
      [name].filter (fun name => Name.isPlain name.toList) ++ words .between rest := by
  rw [Name.write, List.filter_cons, List.filter_nil]
  by_cases hplain : Name.isPlain name.toList = true
  · have hne : name.toList ≠ [] := by
      intro hnil
      rw [hnil] at hplain
      cases hplain
    rw [if_pos hplain, if_pos hplain, words_run hne (Name.isInner_of_mem_of_isPlain hplain) h,
      String.ofList_toList]
    rfl
  · rw [if_neg hplain, if_neg hplain]
    exact words_quoted name rest

/-- No word of a placeholder is bare. -/
theorem words_dollar (name : String) {rest : List Char} (h : Breaks rest) :
    words .between ('$' :: ((Name.write name).toList ++ rest)) = words .between rest := by
  show words .placeholder _ = _
  rw [Name.write]
  split
  · next hplain => exact words_placeholder (Name.isInner_of_mem_of_isPlain hplain) h
  · rw [← words_quoted name rest, Name.toList_quoted]
    rfl

/-- The bare words of a path are its plain names. -/
theorem words_writePath (path : String) {rest : List Char} (h : Breaks rest) :
    words .between ((Name.writePath path).toList ++ rest) =
      (segments path).filter (fun name => Name.isPlain name.toList) ++ words .between rest := by
  rw [Name.toList_writePath]
  obtain ⟨first, others, hsegments⟩ := List.exists_cons_of_ne_nil (segments_ne_nil path)
  rw [hsegments, List.map_cons, intercalate_cons, List.append_assoc]
  clear hsegments
  induction others generalizing first with
  | nil => exact words_write first h
  | cons second others ih =>
      have hdot : ∀ text, Breaks (['.'] ++ text) := breaks_cons (by decide)
      rw [List.map_cons, List.flatMap_cons, List.append_assoc, List.append_assoc,
        words_write first (hdot _), ← List.singleton_append (l := second :: others),
        List.filter_append, List.append_assoc, ← ih second]
      rfl

/-! ## Literals -/

theorem words_literal_cons {c : Char} (hquote : c ≠ '"') (hslash : c ≠ '\\') (rest : List Char) :
    words .literal (c :: rest) = words .literal rest := by
  rw [words, if_neg hquote, if_neg hslash]

theorem digitChar_ne {n : Nat} (h : n < 16) : Nat.digitChar n ≠ '"' ∧ Nat.digitChar n ≠ '\\' := by
  revert n
  decide

/-- No escape ends a literal. -/
theorem words_escape (c : Char) (rest : List Char) :
    words .literal (Json.escape c ++ rest) = words .literal rest := by
  rw [Json.escape]
  split_ifs with hquote hslash h8 h9 h10 h12 h13 hcontrol
  · rfl
  · rfl
  · rfl
  · rfl
  · rfl
  · rfl
  · rfl
  · -- a number of hexadecimal digits, of which none is a double quote
    obtain ⟨hhigh, hhigh'⟩ := digitChar_ne (n := c.toNat / 16) (by omega)
    obtain ⟨hlow, hlow'⟩ := digitChar_ne (n := c.toNat % 16) (by omega)
    show words .literal (Nat.digitChar (c.toNat / 16) :: Nat.digitChar (c.toNat % 16) :: rest) = _
    rw [words_literal_cons hhigh hhigh', words_literal_cons hlow hlow']
  · exact words_literal_cons hquote hslash rest

/-- No word of a literal is bare. -/
theorem words_literal (text : String) (rest : List Char) :
    words .between ((Json.quoted text).toList ++ rest) = words .between rest := by
  rw [Json.toList_quoted, List.cons_append, List.append_assoc]
  show words .literal (text.toList.flatMap Json.escape ++ '"' :: rest) = _
  induction text.toList with
  | nil => rfl
  | cons c text ih => rw [List.flatMap_cons, List.append_assoc, words_escape, ih]

end Reading

/-! ## Names that are written bare -/

/-- **A name is written bare exactly when it is a plain identifier.** -/
theorem write_eq_self_iff (name : String) :
    Name.write name = name ↔ Name.isPlain name.toList = true := by
  rw [Name.write]
  split
  · next hplain => exact iff_of_true rfl hplain
  · next hplain =>
    -- a quoted name is longer than the name
    refine iff_of_false (fun h => ?_) hplain
    have hlength := congrArg (fun s : String => s.toList.length) h
    have hdoubled : ∀ text : List Char, text.length ≤ (Name.doubleQuotes text).length := by
      intro text
      induction text with
      | nil => exact Nat.le_refl _
      | cons c text ih =>
          rw [Name.doubleQuotes]
          split
          · simp only [List.length_cons]
            omega
          · simp only [List.length_cons]
            omega
    have := hdoubled name.toList
    simp only [Name.toList_quoted, List.length_cons, List.length_append] at hlength
    omega

end BucketQuery
