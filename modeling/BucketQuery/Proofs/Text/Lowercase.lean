import BucketQuery.Text.Lowercase
import Mathlib.Data.List.TakeWhile

set_option autoImplicit false

/-! # Lower case of a text in its place

The lower case of a capital sigma depends on the characters around it, so the lower case of a text
that occurs in another one depends on where it stands (`lowerBetween`). It is the lower case that
the text has on its own exactly when no sigma at an end of the text takes another form
there (`Reshaped`, `lowerBetween_eq_lowerFrom_iff`).
-/

namespace BucketQuery

/-! ## Characters around a place -/

/-- Characters without case of their own, which are passed over. -/
def MarksOnly (text : List Char) : Prop :=
  ∀ c ∈ text, CaseTable.ignorable.contains c = true

theorem MarksOnly.reverse {text : List Char} (h : MarksOnly text) : MarksOnly text.reverse :=
  fun c hc => h c (List.mem_reverse.mp hc)

theorem marksOnly_reverse_iff (text : List Char) : MarksOnly text.reverse ↔ MarksOnly text := by
  refine ⟨fun h => ?_, MarksOnly.reverse⟩
  have htwice := h.reverse
  rwa [List.reverse_reverse] at htwice

theorem startsCased_of_marksOnly {text : List Char} (h : MarksOnly text) :
    startsCased text = false := by
  have hnil : text.dropWhile CaseTable.ignorable.contains = [] := List.dropWhile_eq_nil_iff.mpr h
  rw [startsCased, hnil]

theorem startsCased_append_of_marksOnly {text : List Char} (h : MarksOnly text)
    (rest : List Char) : startsCased (text ++ rest) = startsCased rest := by
  rw [startsCased, List.dropWhile_append_of_pos h, startsCased]

/-- Once a character is not passed over, what follows makes no difference. -/
theorem startsCased_append_of_not_marksOnly {text : List Char} (h : ¬ MarksOnly text)
    (rest : List Char) : startsCased (text ++ rest) = startsCased text := by
  have hne : text.dropWhile CaseTable.ignorable.contains ≠ [] :=
    fun hnil => h (List.dropWhile_eq_nil_iff.mp hnil)
  obtain ⟨c, tail, hcons⟩ := List.exists_cons_of_ne_nil hne
  have happend : (text ++ rest).dropWhile CaseTable.ignorable.contains = c :: (tail ++ rest) := by
    rw [List.dropWhile_append, hcons]
    rfl
  rw [startsCased, startsCased, happend, hcons]

/-- A place at the end of a word: a cased character stands before it, nearest first, and none after
it. -/
def endsWord (before after : List Char) : Bool := startsCased before && !startsCased after

/-- Two places turn a character into the same lower case, unless it is a capital sigma and only one
of them is at the end of a word. -/
theorem lowerInContext_eq_iff (c : Char) (before after before' after' : List Char) :
    lowerInContext before c after = lowerInContext before' c after' ↔
      (c = capitalSigma → endsWord before after = endsWord before' after') := by
  by_cases hc : c = capitalSigma
  · have hplace (b a : List Char) : lowerInContext b c a =
        [Char.ofNat (if endsWord b a then 0x3C2 else 0x3C3)] := if_pos hc
    rw [hplace, hplace]
    cases endsWord before after <;> cases endsWord before' after' <;> simp [hc]
  · have hplace (b a : List Char) : lowerInContext b c a =
        if c.toNat = 0x130 then [Char.ofNat 0x69, Char.ofNat 0x307] else [lowerChar c] := if_neg hc
    rw [hplace, hplace]
    exact iff_of_true rfl fun h => absurd h hc

/-- The place makes no difference to how many characters the lower case has. -/
theorem length_lowerInContext (c : Char) (before after before' after' : List Char) :
    (lowerInContext before c after).length = (lowerInContext before' c after').length := by
  unfold lowerInContext
  split
  · rfl
  · rfl

/-! ## Texts in their place -/

/-- The lower case of a text in its place, given what stands before it, nearest first, and after. -/
def lowerBetween (before : List Char) : List Char → List Char → List Char
  | [], _ => []
  | c :: rest, after =>
    lowerInContext before c (rest ++ after) ++ lowerBetween (c :: before) rest after

/-- A text on its own has nothing after it. -/
theorem lowerFrom_eq_lowerBetween (before text : List Char) :
    lowerFrom before text = lowerBetween before text [] := by
  induction text generalizing before with
  | nil => rfl
  | cons c rest ih => rw [lowerFrom, lowerBetween, ih, List.append_nil]

/-- **The lower case of a text is that of its pieces**, each in its place. -/
theorem lowerBetween_append (before first second after : List Char) :
    lowerBetween before (first ++ second) after =
      lowerBetween before first (second ++ after) ++
        lowerBetween (first.reverse ++ before) second after := by
  induction first generalizing before with
  | nil => rfl
  | cons c rest ih =>
      rw [List.cons_append, lowerBetween, lowerBetween, ih, List.append_assoc, List.append_assoc,
        List.reverse_cons, List.append_assoc, List.singleton_append]

/-- Two places turn a text into the same lower case when they do for each of its characters, and
that is a question of the capital sigmas alone. -/
theorem lowerBetween_eq_iff (text before after before' after' : List Char) :
    lowerBetween before text after = lowerBetween before' text after' ↔
      ∀ left right, text = left ++ capitalSigma :: right →
        endsWord (left.reverse ++ before) (right ++ after) =
          endsWord (left.reverse ++ before') (right ++ after') := by
  induction text generalizing before before' with
  | nil =>
      refine iff_of_true rfl fun left right h => ?_
      cases left <;> cases h
  | cons c rest ih =>
      rw [lowerBetween, lowerBetween]
      constructor
      · intro h left right htext
        -- the first character has as many lower case characters in the one place as in the other
        obtain ⟨hfirst, hrest⟩ := List.append_inj h (length_lowerInContext _ _ _ _ _)
        cases left with
        | nil =>
            obtain ⟨rfl, rfl⟩ := List.cons.inj htext
            exact (lowerInContext_eq_iff _ _ _ _ _).mp hfirst rfl
        | cons d left =>
            obtain ⟨rfl, hright⟩ := List.cons.inj htext
            have hplace := (ih _ _).mp hrest left right hright
            rwa [List.reverse_cons, List.append_assoc, List.append_assoc, List.singleton_append,
              List.singleton_append]
      · intro h
        have hfirst : lowerInContext before c (rest ++ after) =
            lowerInContext before' c (rest ++ after') := by
          refine (lowerInContext_eq_iff _ _ _ _ _).mpr fun hc => ?_
          exact h [] rest (hc ▸ rfl)
        have hrest : lowerBetween (c :: before) rest after =
            lowerBetween (c :: before') rest after' := by
          refine (ih _ _).mpr fun left right hright => ?_
          have hplace := h (c :: left) right (hright ▸ rfl)
          rwa [List.reverse_cons, List.append_assoc, List.append_assoc, List.singleton_append,
            List.singleton_append] at hplace
        rw [hfirst, hrest]

/-! ## Texts on their own -/

/-- A text that has a sigma of another form on its own than in its place. Either the first sigma ends
a word in its place that begins before the text, so on its own no word comes before it; or the last
sigma ends a word on its own, which in its place goes on after the text. Marks may stand between the
sigma and that end of the text. What stands before the text is given nearest first. -/
def Reshaped (before text after : List Char) : Prop :=
  (∃ marks rest, text = marks ++ capitalSigma :: rest ∧ MarksOnly marks ∧
    startsCased before = true ∧ startsCased (rest ++ after) = false) ∨
  (∃ rest marks, text = rest ++ capitalSigma :: marks ∧ MarksOnly marks ∧
    startsCased rest.reverse = true ∧ startsCased after = true)

/-- The places of a sigma in a text that are at the end of a word only with the text in its place, or
only with the text on its own. -/
theorem endsWord_ne_iff (left right before after : List Char) :
    endsWord (left.reverse ++ before) (right ++ after) ≠ endsWord left.reverse right ↔
      MarksOnly left ∧ startsCased before = true ∧ startsCased (right ++ after) = false ∨
        MarksOnly right ∧ startsCased left.reverse = true ∧ startsCased after = true := by
  unfold endsWord
  by_cases hleft : MarksOnly left
  · rw [startsCased_append_of_marksOnly hleft.reverse, startsCased_of_marksOnly hleft.reverse]
    simp [hleft]
  · have hnot : ¬ MarksOnly left.reverse := mt (marksOnly_reverse_iff left).mp hleft
    rw [startsCased_append_of_not_marksOnly hnot]
    by_cases hright : MarksOnly right
    · rw [startsCased_append_of_marksOnly hright, startsCased_of_marksOnly hright]
      simp [hleft, hright]
    · rw [startsCased_append_of_not_marksOnly hright]
      simp [hleft, hright]

/-- **A text keeps its lower case in its place** unless it is reshaped. -/
theorem lowerBetween_eq_lowerFrom_iff (before text after : List Char) :
    lowerBetween before text after = lowerFrom [] text ↔ ¬ Reshaped before text after := by
  have hplaces (left right : List Char) :
      endsWord (left.reverse ++ before) (right ++ after) =
          endsWord (left.reverse ++ []) (right ++ []) ↔
        ¬ (MarksOnly left ∧ startsCased before = true ∧ startsCased (right ++ after) = false ∨
          MarksOnly right ∧ startsCased left.reverse = true ∧ startsCased after = true) := by
    rw [List.append_nil, List.append_nil, ← endsWord_ne_iff, not_not]
  rw [lowerFrom_eq_lowerBetween, lowerBetween_eq_iff]
  simp only [hplaces]
  constructor
  · rintro h (⟨left, right, htext, hends⟩ | ⟨left, right, htext, hends⟩)
    · exact h left right htext (.inl hends)
    · exact h left right htext (.inr hends)
  · rintro h left right htext (hends | hends)
    · exact h (.inl ⟨left, right, htext, hends⟩)
    · exact h (.inr ⟨left, right, htext, hends⟩)

/-- A text without a capital sigma is not reshaped. -/
theorem not_reshaped_of_not_mem {text : List Char} (h : capitalSigma ∉ text)
    (before after : List Char) : ¬ Reshaped before text after := by
  rintro (⟨left, right, rfl, _⟩ | ⟨left, right, rfl, _⟩)
  · exact h (List.mem_append_right _ List.mem_cons_self)
  · exact h (List.mem_append_right _ List.mem_cons_self)

/-- A text that stands by itself, with no cased character next to it, is not reshaped. -/
theorem not_reshaped_of_not_cased {before after : List Char} (hbefore : startsCased before = false)
    (hafter : startsCased after = false) (text : List Char) : ¬ Reshaped before text after := by
  rintro (⟨_, _, _, _, hcased, _⟩ | ⟨_, _, _, _, _, hcased⟩)
  · rw [hbefore] at hcased
    cases hcased
  · rw [hafter] at hcased
    cases hcased

end BucketQuery
