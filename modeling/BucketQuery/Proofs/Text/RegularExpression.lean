import BucketQuery.Proofs.Text.Like

set_option autoImplicit false

/-! # Patterns and regular expressions

A pattern means what its characters mean one by one (`Stands`): a percent sign takes any run of
characters, an underscore any one character, every other character itself. The same meaning is
written as a regular expression, an anchored sequence of elements

    (?s)^ e₁ … eₙ $      with `eᵢ` one of `.*`, `.`, `\c` for a special `c`, and `c` for another one,

which is read back without loss (`RegularExpression.read?_eq_some_iff`). So deciding a pattern,
cutting the text into the pieces of its characters and matching the regular expression are the same
(`accepts_exact`).
-/

namespace BucketQuery.Like

/-! ## The meaning of a pattern -/

/-- The pieces of a text that a pattern character stands for. -/
inductive Stands : Char → List Char → Prop where
  | run (piece : List Char) : Stands '%' piece
  | one (c : Char) : Stands '_' [c]
  | literal {c : Char} (hrun : c ≠ '%') (hone : c ≠ '_') : Stands c [c]

theorem Token.ofChar_literal {c : Char} (hrun : c ≠ '%') (hone : c ≠ '_') :
    Token.ofChar c = .literal c := by
  rw [Token.ofChar, if_neg hrun, if_neg hone]

/-- A pattern character stands for the pieces that its element takes. -/
theorem takes_ofChar_iff (c : Char) (piece : List Char) :
    (Token.ofChar c).Takes piece ↔ Stands c piece := by
  by_cases hrun : c = '%'
  · subst hrun
    exact iff_of_true trivial (.run piece)
  · by_cases hone : c = '_'
    · subst hone
      constructor
      · rintro ⟨d, rfl⟩
        exact .one d
      · intro h
        cases h with
        | one d => exact ⟨d, rfl⟩
        | literal _ hother => exact absurd rfl hother
    · rw [Token.ofChar_literal hrun hone]
      constructor
      · rintro rfl
        exact .literal hrun hone
      · intro h
        cases h with
        | run => exact absurd rfl hrun
        | one => exact absurd rfl hone
        | literal => rfl

/-- The pattern character of an element. -/
def Token.symbol : Token → Char
  | .run => '%'
  | .one => '_'
  | .literal c => c

theorem Token.symbol_ofChar (c : Char) : (Token.ofChar c).symbol = c := by
  by_cases hrun : c = '%'
  · rw [hrun]
    rfl
  · by_cases hone : c = '_'
    · rw [hone]
      rfl
    · rw [Token.ofChar_literal hrun hone]
      rfl

theorem tokens_injective : Function.Injective tokens := by
  intro pattern other h
  refine String.toList_inj.mp ((List.map_inj_right fun c d hcd => ?_).mp h)
  rw [← Token.symbol_ofChar c, hcd, Token.symbol_ofChar]

/-- **The decision is exact, character by character.** -/
theorem accepts_iff (text pattern : String) :
    accepts text pattern = true ↔
      ∃ pieces, List.Forall₂ Stands pattern.toList pieces ∧ pieces.flatten = text.toList := by
  have hforall (pieces : List (List Char)) :
      List.Forall₂ Token.Takes (tokens pattern) pieces ↔
        List.Forall₂ Stands pattern.toList pieces := by
    rw [tokens, List.forall₂_map_left_iff]
    simp only [takes_ofChar_iff]
  rw [accepts, describes_iff, Describes]
  simp only [hforall]

/-! ## Reading regular expressions -/

namespace RegularExpression

/-- Reads the elements of a regular expression up to the closing anchor. -/
def readElements? : List Char → Option (List Token)
  | ['$'] => some []
  | '.' :: '*' :: rest => (readElements? rest).map (.run :: ·)
  | '.' :: rest => (readElements? rest).map (.one :: ·)
  | '\\' :: c :: rest =>
    if c ∈ special then (readElements? rest).map (.literal c :: ·) else none
  | c :: rest => if c ∈ special then none else (readElements? rest).map (.literal c :: ·)
  | [] => none

/-- Reads an anchored regular expression in which the dot matches line breaks too. -/
def read? (source : String) : Option (List Token) :=
  match source.toList with
  | '(' :: '?' :: 's' :: ')' :: '^' :: rest => readElements? rest
  | _ => none

/-- **A regular expression matches a text** that can be cut into pieces for its elements: any run
for `.*`, any one character for a dot, and itself for a character, escaped or not. -/
def Matches (source text : String) : Prop :=
  ∃ elements, read? source = some elements ∧ Describes elements text.toList

/-- The elements as they are written, and the closing anchor. -/
def body (elements : List Token) : List Char :=
  elements.flatMap Token.regularExpression ++ ['$']

theorem body_cons (element : Token) (elements : List Token) :
    body (element :: elements) = element.regularExpression ++ body elements := by
  rw [body, body, List.flatMap_cons, List.append_assoc]

/-- No element and no anchor begins with a star, so a dot is never taken for a run. -/
theorem head?_body_ne (elements : List Token) : (body elements).head? ≠ some '*' := by
  cases elements with
  | nil => decide
  | cons element elements =>
      rw [body_cons]
      cases element with
      | run => simp [Token.regularExpression]
      | one => simp [Token.regularExpression]
      | literal c =>
          by_cases h : c ∈ special
          · simp [Token.regularExpression, h]
          · have hstar : c ≠ '*' := by
              rintro rfl
              exact h (by decide)
            simpa [Token.regularExpression, h] using hstar

theorem readElements?_one {rest : List Char} (h : rest.head? ≠ some '*') :
    readElements? ('.' :: rest) = (readElements? rest).map (.one :: ·) := by
  cases rest with
  | nil => rfl
  | cons c rest =>
      have hc : c ≠ '*' := by simpa using h
      rw [readElements?]
      rintro _ ⟨⟩
      exact hc rfl

theorem readElements?_escaped {c : Char} (h : c ∈ special) (rest : List Char) :
    readElements? ('\\' :: c :: rest) = (readElements? rest).map (.literal c :: ·) := by
  rw [readElements?, if_pos h]

theorem readElements?_plain {c : Char} (h : c ∉ special) (rest : List Char) :
    readElements? (c :: rest) = (readElements? rest).map (.literal c :: ·) := by
  have hanchor : c ≠ '$' := by
    rintro rfl
    exact h (by decide)
  have hdot : c ≠ '.' := by
    rintro rfl
    exact h (by decide)
  have hslash : c ≠ '\\' := by
    rintro rfl
    exact h (by decide)
  rw [readElements?, if_neg h]
  · exact fun heq _ => hanchor heq
  · exact fun _ heq _ => hdot heq
  · exact hdot
  · exact fun _ _ heq _ => hslash heq

theorem readElements?_body (elements : List Token) :
    readElements? (body elements) = some elements := by
  induction elements with
  | nil => rfl
  | cons element elements ih =>
      rw [body_cons]
      cases element with
      | run =>
          show readElements? ('.' :: '*' :: body elements) = _
          rw [readElements?, ih]
          rfl
      | one =>
          -- no element is written with a star first, so the dot stands alone
          show readElements? ('.' :: body elements) = _
          rw [readElements?_one (head?_body_ne elements), ih]
          rfl
      | literal c =>
          by_cases h : c ∈ special
          · have hwritten : Token.regularExpression (.literal c) = ['\\', c] := by
              simp [Token.regularExpression, h]
            rw [hwritten]
            show readElements? ('\\' :: c :: body elements) = _
            rw [readElements?_escaped h, ih]
            rfl
          · have hwritten : Token.regularExpression (.literal c) = [c] := by
              simp [Token.regularExpression, h]
            rw [hwritten]
            show readElements? (c :: body elements) = _
            rw [readElements?_plain h, ih]
            rfl

theorem eq_body_of_readElements? {source : List Char} {elements : List Token}
    (h : readElements? source = some elements) : source = body elements := by
  -- one case for each way to read an element, and for the ends and what cannot be read
  fun_induction readElements? source generalizing elements with
  | case1 =>
      cases h
      rfl
  | case2 rest ih =>
      obtain ⟨later, hlater, rfl⟩ := Option.map_eq_some_iff.mp h
      rw [body_cons, ← ih hlater]
      rfl
  | case3 rest _ ih =>
      obtain ⟨later, hlater, rfl⟩ := Option.map_eq_some_iff.mp h
      rw [body_cons, ← ih hlater]
      rfl
  | case4 c rest hspecial ih =>
      obtain ⟨later, hlater, rfl⟩ := Option.map_eq_some_iff.mp h
      rw [body_cons, ← ih hlater]
      simp [Token.regularExpression, hspecial]
  | case5 => cases h
  | case6 => cases h
  | case7 c rest _ _ _ _ hplain ih =>
      obtain ⟨later, hlater, rfl⟩ := Option.map_eq_some_iff.mp h
      rw [body_cons, ← ih hlater]
      simp [Token.regularExpression, hplain]
  | case8 => cases h

theorem toList_regularExpression (pattern : String) :
    (regularExpression pattern).toList = "(?s)^".toList ++ body (tokens pattern) := by
  simp only [regularExpression, body, String.toList_append, String.toList_ofList,
    List.append_assoc]
  rfl

/-- **A source is read as the elements that it is written for**, and nothing else is read. -/
theorem read?_eq_some_iff (source : String) (elements : List Token) :
    read? source = some elements ↔ source.toList = "(?s)^".toList ++ body elements := by
  rw [read?]
  constructor
  · intro h
    split at h
    · next rest hsource =>
      rw [hsource, eq_body_of_readElements? h]
      rfl
    · cases h
  · intro h
    rw [h]
    exact readElements?_body elements

/-- The regular expression of a pattern gives back the elements of the pattern. -/
theorem read?_regularExpression (pattern : String) :
    read? (regularExpression pattern) = some (tokens pattern) :=
  (read?_eq_some_iff _ _).mpr (toList_regularExpression pattern)

/-- It matches the texts that the pattern describes. -/
theorem matches_iff (text pattern : String) :
    Matches (regularExpression pattern) text ↔ accepts text pattern = true := by
  rw [accepts, describes_iff, Matches]
  constructor
  · rintro ⟨elements, hread, hdescribes⟩
    rw [read?_regularExpression] at hread
    cases hread
    exact hdescribes
  · intro h
    exact ⟨tokens pattern, read?_regularExpression pattern, h⟩

end RegularExpression

/-- **A pattern is decided exactly.** A text is accepted when it can be cut into consecutive pieces,
one for each pattern character, and the same texts are matched by the regular expression of the
pattern. This expression reads back as the elements of the pattern, so two patterns with the same
expression are the same. -/
theorem accepts_exact (pattern : String) :
    (∀ text, accepts text pattern = true ↔
      ∃ pieces, List.Forall₂ Stands pattern.toList pieces ∧ pieces.flatten = text.toList) ∧
    (∀ text, accepts text pattern = true ↔
      RegularExpression.Matches (regularExpression pattern) text) ∧
    RegularExpression.read? (regularExpression pattern) = some (pattern.toList.map Token.ofChar) ∧
    ∀ other, regularExpression other = regularExpression pattern ↔ other = pattern := by
  refine ⟨fun text => accepts_iff text pattern,
    fun text => (RegularExpression.matches_iff text pattern).symm,
    RegularExpression.read?_regularExpression pattern, fun other => ?_⟩
  constructor
  · intro h
    have hread := RegularExpression.read?_regularExpression other
    rw [h, RegularExpression.read?_regularExpression] at hread
    exact tokens_injective (Option.some.inj hread).symm
  · rintro rfl
    rfl

end BucketQuery.Like
