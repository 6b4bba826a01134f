import BucketQuery.Text.Like
import Mathlib.Data.List.Forall2

set_option autoImplicit false

/-! # What a LIKE pattern describes

A pattern describes a text that can be cut into consecutive pieces, one for each element of the
pattern (`Describes`). The decision procedure computes its answers for all endings of the text
at once, one row for each element. A row for a longer text is the row for the rest of it with
one answer in front (`row_cons`), so each row is read off its first answer, which obeys the
recursion one expects (`describes_run_cons` and its neighbours). From these equations the
procedure is exact (`describes_iff`).
-/

namespace BucketQuery.Like

/-- The pieces that an element stands for. -/
def Token.Takes : Token → List Char → Prop
  | .run, _ => True
  | .one, piece => ∃ c, piece = [c]
  | .literal c, piece => piece = [c]

/-- A text cut into pieces that the elements of a pattern stand for. -/
def Describes (pattern : List Token) (text : List Char) : Prop :=
  ∃ pieces, List.Forall₂ Token.Takes pattern pieces ∧ pieces.flatten = text

/-! ## Rows -/

theorem row_run (pattern : List Token) (text : List Char) :
    row (.run :: pattern) text = orLater (row pattern text) := rfl

theorem row_one (pattern : List Token) (text : List Char) :
    row (.one :: pattern) text = (row pattern text).drop 1 ++ [false] := rfl

theorem row_literal (c : Char) (pattern : List Token) (text : List Char) :
    row (.literal c :: pattern) text =
      List.zipWith (fun d answer => d == c && answer) text ((row pattern text).drop 1) ++
        [false] := rfl

theorem row_ne_nil (pattern : List Token) (text : List Char) : row pattern text ≠ [] := by
  induction pattern with
  | nil => exact List.append_ne_nil_of_right_ne_nil _ (List.cons_ne_nil _ _)
  | cons token pattern ih =>
      cases token with
      | run =>
          obtain ⟨answer, rest, h⟩ := List.exists_cons_of_ne_nil ih
          rw [row_run, h, orLater]
          exact List.cons_ne_nil _ _
      | one => simp [row_one]
      | literal c => simp [row_literal]

/-- The first answer of a row is the one for the whole text. -/
theorem describes_of_row {pattern : List Token} {text : List Char} {answer : Bool}
    {rest : List Bool} (h : row pattern text = answer :: rest) :
    describes pattern text = answer := by
  show (row pattern text).head?.getD false = answer
  rw [h]
  rfl

theorem row_eq_cons (pattern : List Token) (text : List Char) :
    ∃ rest, row pattern text = describes pattern text :: rest := by
  obtain ⟨answer, rest, h⟩ := List.exists_cons_of_ne_nil (row_ne_nil pattern text)
  exact ⟨rest, by rw [describes_of_row h, h]⟩

theorem row_nil (pattern : List Token) : row pattern [] = [describes pattern []] := by
  have hlength : (row pattern []).length = 1 := by
    induction pattern with
    | nil => rfl
    | cons token pattern ih =>
        obtain ⟨answer, h⟩ := List.length_eq_one_iff.mp ih
        cases token with
        | run => rw [row_run, h]; rfl
        | one => rw [row_one, h]; rfl
        | literal c => rw [row_literal, h]; rfl
  obtain ⟨answer, h⟩ := List.length_eq_one_iff.mp hlength
  rw [describes_of_row h, h]

/-- **One more character in front of the text puts one more answer in front of the row.** -/
theorem row_cons (pattern : List Token) (c : Char) (text : List Char) :
    row pattern (c :: text) = describes pattern (c :: text) :: row pattern text := by
  have hrow : ∃ answer, row pattern (c :: text) = answer :: row pattern text := by
    induction pattern with
    | nil => exact ⟨false, rfl⟩
    | cons token pattern ih =>
        obtain ⟨answer, ih⟩ := ih
        obtain ⟨rest, h⟩ := row_eq_cons pattern text
        cases token with
        | run => rw [row_run, ih]; exact ⟨_, rfl⟩
        | one => rw [row_one, row_one, ih, h]; exact ⟨_, rfl⟩
        | literal d => rw [row_literal, row_literal, ih, h]; exact ⟨_, rfl⟩
  obtain ⟨answer, h⟩ := hrow
  rw [describes_of_row h, h]

/-! ## The first answer -/

theorem describes_nil (text : List Char) : describes [] text = text.isEmpty := by
  cases text <;> rfl

theorem describes_run_nil (pattern : List Token) :
    describes (.run :: pattern) [] = describes pattern [] := by
  have hrow : row (.run :: pattern) [] = [describes pattern [] || false] := by
    rw [row_run, row_nil]
    rfl
  rw [describes_of_row hrow, Bool.or_false]

theorem describes_run_cons (pattern : List Token) (c : Char) (text : List Char) :
    describes (.run :: pattern) (c :: text) =
      (describes pattern (c :: text) || describes (.run :: pattern) text) := by
  apply describes_of_row
  rw [row_run, row_cons, orLater]
  rfl

theorem describes_one_nil (pattern : List Token) : describes (.one :: pattern) [] = false := by
  apply describes_of_row
  rw [row_one, row_nil]
  rfl

theorem describes_one_cons (pattern : List Token) (c : Char) (text : List Char) :
    describes (.one :: pattern) (c :: text) = describes pattern text := by
  obtain ⟨rest, h⟩ := row_eq_cons pattern text
  apply describes_of_row
  rw [row_one, row_cons, h]
  rfl

theorem describes_literal_nil (pattern : List Token) (c : Char) :
    describes (.literal c :: pattern) [] = false := by
  apply describes_of_row
  rw [row_literal]
  rfl

theorem describes_literal_cons (pattern : List Token) (c d : Char) (text : List Char) :
    describes (.literal c :: pattern) (d :: text) = (d == c && describes pattern text) := by
  obtain ⟨rest, h⟩ := row_eq_cons pattern text
  apply describes_of_row
  rw [row_literal, row_cons, h]
  rfl

/-! ## Pieces -/

theorem describes_nil_iff (text : List Char) : Describes [] text ↔ text = [] := by
  constructor
  · rintro ⟨pieces, h, rfl⟩
    rw [List.forall₂_nil_left_iff.mp h]
    rfl
  · rintro rfl
    exact ⟨[], .nil, rfl⟩

theorem describes_cons_iff (token : Token) (pattern : List Token) (text : List Char) :
    Describes (token :: pattern) text ↔
      ∃ piece rest, token.Takes piece ∧ Describes pattern rest ∧ text = piece ++ rest := by
  constructor
  · rintro ⟨pieces, h, rfl⟩
    obtain ⟨piece, pieces, hpiece, hrest, rfl⟩ := List.forall₂_cons_left_iff.mp h
    exact ⟨piece, pieces.flatten, hpiece, ⟨pieces, hrest, rfl⟩, rfl⟩
  · rintro ⟨piece, rest, hpiece, ⟨pieces, hrest, rfl⟩, rfl⟩
    exact ⟨piece :: pieces, .cons hpiece hrest, rfl⟩

/-- A run takes nothing, or one character and then a run. -/
theorem describes_run_iff (pattern : List Token) (text : List Char) :
    Describes (.run :: pattern) text ↔
      Describes pattern text ∨ ∃ c rest, text = c :: rest ∧ Describes (.run :: pattern) rest := by
  rw [describes_cons_iff]
  constructor
  · rintro ⟨piece, rest, -, hrest, rfl⟩
    cases piece with
    | nil => exact .inl hrest
    | cons c piece =>
        refine .inr ⟨c, piece ++ rest, rfl, ?_⟩
        rw [describes_cons_iff]
        exact ⟨piece, rest, trivial, hrest, rfl⟩
  · rintro (h | ⟨c, rest, rfl, h⟩)
    · exact ⟨[], text, trivial, h, rfl⟩
    · obtain ⟨piece, rest, -, hrest, rfl⟩ := (describes_cons_iff _ _ _).mp h
      exact ⟨c :: piece, rest, trivial, hrest, rfl⟩

theorem describes_one_iff (pattern : List Token) (text : List Char) :
    Describes (.one :: pattern) text ↔ ∃ c rest, text = c :: rest ∧ Describes pattern rest := by
  rw [describes_cons_iff]
  constructor
  · rintro ⟨piece, rest, ⟨c, rfl⟩, hrest, rfl⟩
    exact ⟨c, rest, rfl, hrest⟩
  · rintro ⟨c, rest, rfl, hrest⟩
    exact ⟨[c], rest, ⟨c, rfl⟩, hrest, rfl⟩

theorem describes_literal_iff (c : Char) (pattern : List Token) (text : List Char) :
    Describes (.literal c :: pattern) text ↔ ∃ rest, text = c :: rest ∧ Describes pattern rest := by
  rw [describes_cons_iff]
  constructor
  · rintro ⟨piece, rest, rfl, hrest, rfl⟩
    exact ⟨rest, rfl, hrest⟩
  · rintro ⟨rest, rfl, hrest⟩
    exact ⟨[c], rest, rfl, hrest, rfl⟩

/-- **The decision procedure is exact.** -/
theorem describes_iff (pattern : List Token) (text : List Char) :
    describes pattern text = true ↔ Describes pattern text := by
  induction pattern generalizing text with
  | nil => rw [describes_nil, describes_nil_iff, List.isEmpty_iff]
  | cons token pattern ih =>
      cases token with
      | run =>
          -- a run stays in place while the text gets shorter, so this is an induction of its own
          induction text with
          | nil => rw [describes_run_nil, describes_run_iff, ih]; simp
          | cons c text ihText =>
              rw [describes_run_cons, describes_run_iff, Bool.or_eq_true, ih, ihText]
              simp
      | one =>
          rw [describes_one_iff]
          cases text with
          | nil => simp [describes_one_nil]
          | cons c text => simp [describes_one_cons, ih]
      | literal d =>
          rw [describes_literal_iff]
          cases text with
          | nil => simp [describes_literal_nil]
          | cons c text =>
              rw [describes_literal_cons, Bool.and_eq_true, beq_iff_eq, ih]
              constructor
              · rintro ⟨rfl, h⟩
                exact ⟨text, rfl, h⟩
              · rintro ⟨rest, heq, h⟩
                obtain ⟨rfl, rfl⟩ := List.cons.inj heq
                exact ⟨rfl, h⟩

end BucketQuery.Like
