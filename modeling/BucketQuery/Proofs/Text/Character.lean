import BucketQuery.Proofs.Text.Cut
import BucketQuery.Text.Character
import Mathlib.Data.List.Induction

set_option autoImplicit false

/-! # Sets of characters and trimmed texts

Because its changes ascend, a set has the characters in the ranges between them
(`CharacterSet.contains_iff`).

What trimming leaves of a text (`isTrimmed_trimBlanks`). Blanks in front of a text change nothing
(`trimBlanks_append`), and only blanks leave nothing (`trimBlanks_eq_empty_iff`).
-/

namespace BucketQuery

/-! ## Ranges -/

/-- A number in one of the ranges that a list of changes starts and ends in turn. The last one may
have no end. -/
inductive InRanges (n : Nat) : List Nat → Prop where
  | within {first last : Nat} {rest : List Nat} (hfirst : first ≤ n) (hlast : n < last) :
      InRanges n (first :: last :: rest)
  | endless {first : Nat} (hfirst : first ≤ n) : InRanges n [first]
  | later {first last : Nat} {rest : List Nat} (h : InRanges n rest) :
      InRanges n (first :: last :: rest)

theorem pairwise_of_ascends {changes : List Nat} (h : ascends changes = true) :
    changes.Pairwise (· < ·) := by
  induction changes with
  | nil => exact .nil
  | cons first rest ih =>
      cases rest with
      | nil => exact List.pairwise_singleton _ _
      | cons second rest =>
          obtain ⟨hfirst, hrest⟩ := Bool.and_eq_true_iff.mp h
          have hlt : first < second := of_decide_eq_true hfirst
          have hlater := ih hrest
          refine List.pairwise_cons.mpr ⟨List.forall_mem_cons.mpr ⟨hlt, fun n hn => ?_⟩, hlater⟩
          exact Nat.lt_trans hlt (List.rel_of_pairwise_cons hlater hn)

/-- A number before all changes is in no range. -/
theorem InRanges.exists_le {n : Nat} {changes : List Nat} (h : InRanges n changes) :
    ∃ change ∈ changes, change ≤ n := by
  induction h with
  | within hfirst _ => exact ⟨_, List.mem_cons_self, hfirst⟩
  | endless hfirst => exact ⟨_, List.mem_cons_self, hfirst⟩
  | later _ ih =>
      obtain ⟨change, hmem, hle⟩ := ih
      exact ⟨change, List.mem_cons_of_mem _ (List.mem_cons_of_mem _ hmem), hle⟩

/-- After an odd number of changes a number is in a range. -/
theorem odd_takeWhile_iff {changes : List Nat} (h : changes.Pairwise (· < ·)) (n : Nat) :
    (changes.takeWhile (· ≤ n)).length % 2 = 1 ↔ InRanges n changes := by
  induction changes using List.twoStepInduction with
  | nil => exact ⟨nofun, nofun⟩
  | singleton first =>
      by_cases hfirst : first ≤ n
      · rw [List.takeWhile_cons, if_pos (decide_eq_true hfirst)]
        exact ⟨fun _ => .endless hfirst, fun _ => rfl⟩
      · rw [List.takeWhile_cons, if_neg (by simpa using hfirst)]
        refine ⟨nofun, ?_⟩
        rintro ⟨⟩
        contradiction
  | cons_cons first last rest ih _ =>
      obtain ⟨hbefore, hrest⟩ := List.pairwise_cons.mp h
      by_cases hfirst : first ≤ n
      · rw [List.takeWhile_cons, if_pos (decide_eq_true hfirst)]
        by_cases hlast : last ≤ n
        · -- past the whole range, so it is up to the rest
          rw [List.takeWhile_cons, if_pos (decide_eq_true hlast), List.length_cons,
            List.length_cons, Nat.add_assoc, Nat.add_mod_right, ih (List.pairwise_cons.mp hrest).2]
          refine ⟨.later, ?_⟩
          rintro (⟨-, hlt⟩ | _ | h)
          · omega
          · exact h
        · rw [List.takeWhile_cons, if_neg (by simpa using hlast)]
          exact ⟨fun _ => .within hfirst (Nat.lt_of_not_le hlast), fun _ => rfl⟩
      · -- before the first change, and so before all of them
        rw [List.takeWhile_cons, if_neg (by simpa using hfirst)]
        refine ⟨nofun, fun hin => ?_⟩
        obtain ⟨change, hmem, hle⟩ := hin.exists_le
        rcases List.mem_cons.mp hmem with rfl | hmem
        · exact absurd hle hfirst
        · have := hbefore change hmem
          omega

/-- **A set has the characters in its ranges.** -/
theorem CharacterSet.contains_iff (s : CharacterSet) (c : Char) :
    s.contains c = true ↔ InRanges c.toNat s.changes := by
  rw [contains, beq_iff_eq]
  exact odd_takeWhile_iff (pairwise_of_ascends s.ascending) c.toNat

/-! ## Trimming -/

/-- A text without the blanks at its ends. -/
def IsTrimmed (text trimmed : List Char) : Prop :=
  ∃ front back, text = front ++ (trimmed ++ back) ∧ (∀ c ∈ front, isBlank c = true) ∧
    (∀ c ∈ back, isBlank c = true) ∧ (∀ c ∈ trimmed.head?, isBlank c = false) ∧
    ∀ c ∈ trimmed.getLast?, isBlank c = false

theorem isTrimmed_trimBlanks (s : String) : IsTrimmed s.toList (trimBlanks s).toList := by
  obtain ⟨front, rest, htext, hfront, hrest⟩ := exists_run isBlank s.toList
  obtain ⟨back, kept, hreverse, hback, hkept⟩ := exists_run isBlank rest.reverse
  have hsplit : rest = kept.reverse ++ back.reverse := by
    rw [← List.reverse_append, ← hreverse, List.reverse_reverse]
  -- what is left after the front ends in a run of blanks, which is the back
  have htrim : (trimBlanks s).toList = kept.reverse := by
    rw [trimBlanks, String.toList_ofList, htext, dropWhile_run hfront hrest, dropEnd, hreverse,
      dropWhile_run hback hkept]
  rw [htrim]
  refine ⟨front, back.reverse, by rw [htext, hsplit], hfront, ?_, ?_, ?_⟩
  · exact fun c hc => hback c (List.mem_reverse.mp hc)
  · intro c hc
    refine hrest c ?_
    rw [hsplit, List.head?_append, hc]
    rfl
  · intro c hc
    rw [List.getLast?_reverse] at hc
    exact hkept c hc

theorem isBlank_eq_false_of_isDigit {c : Char} (h : c.isDigit = true) : isBlank c = false := by
  rw [Char.isDigit, Bool.and_eq_true, decide_eq_true_iff, decide_eq_true_iff] at h
  have hlow : 48 ≤ c.toNat := UInt32.le_iff_toNat_le.mp h.1
  have hhigh : c.toNat ≤ 57 := UInt32.le_iff_toNat_le.mp h.2
  simp only [isBlank, Bool.or_eq_false_iff, Bool.and_eq_false_iff, decide_eq_false_iff_not,
    beq_eq_false_iff_ne]
  omega

/-- Blanks in front of a text are trimmed off. -/
theorem trimBlanks_append {front : List Char} (hfront : ∀ c ∈ front, isBlank c = true)
    (text : List Char) :
    trimBlanks (String.ofList (front ++ text)) = trimBlanks (String.ofList text) := by
  rw [trimBlanks, trimBlanks, String.toList_ofList, String.toList_ofList,
    List.dropWhile_append_of_pos hfront]

/-- A text without blanks at its ends is trimmed already. -/
theorem trimBlanks_eq_self {text : List Char} (hhead : ∀ c ∈ text.head?, isBlank c = false)
    (hlast : ∀ c ∈ text.getLast?, isBlank c = false) :
    trimBlanks (String.ofList text) = String.ofList text := by
  have hreverse : ∀ c ∈ text.reverse.head?, isBlank c = false := by
    rwa [List.head?_reverse]
  have hkeeps {rest : List Char} (h : ∀ c ∈ rest.head?, isBlank c = false) :
      rest.dropWhile isBlank = rest := dropWhile_run (List.forall_mem_nil _) h
  rw [trimBlanks, String.toList_ofList, hkeeps hhead, dropEnd, hkeeps hreverse,
    List.reverse_reverse]

/-- Nothing is left of blanks alone. -/
theorem trimBlanks_eq_empty_iff (text : List Char) :
    trimBlanks (String.ofList text) = "" ↔ ∀ c ∈ text, isBlank c = true := by
  constructor
  · intro hempty
    obtain ⟨front, back, htext, hfront, hback, _⟩ := isTrimmed_trimBlanks (String.ofList text)
    rw [String.toList_ofList, hempty] at htext
    rw [htext]
    exact List.forall_mem_append.mpr ⟨hfront, hback⟩
  · intro hblank
    rw [← List.append_nil text, trimBlanks_append hblank]
    rfl

end BucketQuery
