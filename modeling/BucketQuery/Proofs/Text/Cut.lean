import Mathlib.Data.List.TakeDrop

set_option autoImplicit false

/-! # Cutting texts

Where a part of a text ends. A run of characters of a kind ends at the first one of another kind
(`span_append`). A list of pieces joined by a separator can be told from what follows it when each
piece can (`intercalate_append_inj`); paths, conjunctions and ORDER BY clauses are such lists.
-/

namespace BucketQuery

/-- A run of characters of a kind ends where a character of another kind follows. -/
theorem span_append {kind : Char → Bool} {run rest : List Char} (hrun : ∀ c ∈ run, kind c = true)
    (hrest : ∀ c ∈ rest.head?, kind c = false) : (run ++ rest).span kind = (run, rest) := by
  rw [List.span_eq_takeWhile_dropWhile, List.takeWhile_append_of_pos hrun,
    List.dropWhile_append_of_pos hrun]
  cases rest with
  | nil => rw [List.takeWhile_nil, List.dropWhile_nil, List.append_nil]
  | cons c rest =>
      rw [List.takeWhile_cons, List.dropWhile_cons, hrest c rfl, if_neg Bool.false_ne_true,
        if_neg Bool.false_ne_true, List.append_nil]

theorem dropWhile_run {kind : Char → Bool} {run rest : List Char}
    (hrun : ∀ c ∈ run, kind c = true) (hrest : ∀ c ∈ rest.head?, kind c = false) :
    (run ++ rest).dropWhile kind = rest := by
  have h := span_append hrun hrest
  rw [List.span_eq_takeWhile_dropWhile] at h
  exact congrArg Prod.snd h

/-- Every text starts with a run of characters of a kind, which may be empty. -/
theorem exists_run (kind : Char → Bool) (text : List Char) :
    ∃ run rest, text = run ++ rest ∧ (∀ c ∈ run, kind c = true) ∧
      ∀ c ∈ rest.head?, kind c = false := by
  induction text with
  | nil => exact ⟨[], [], rfl, nofun, nofun⟩
  | cons c text ih =>
      by_cases hc : kind c = true
      · obtain ⟨run, rest, rfl, hrun, hrest⟩ := ih
        exact ⟨c :: run, rest, rfl, List.forall_mem_cons.mpr ⟨hc, hrun⟩, hrest⟩
      · refine ⟨[], c :: text, rfl, nofun, ?_⟩
        rintro d ⟨rfl⟩
        exact Bool.not_eq_true _ ▸ hc

/-- A text comes apart in one way at the last occurrence of a character. -/
theorem append_cons_inj_of_not_mem {c : Char} {before before' after after' : List Char}
    (hafter : c ∉ after) (hafter' : c ∉ after')
    (h : before ++ c :: after = before' ++ c :: after') : before = before' ∧ after = after' := by
  rcases List.append_eq_append_iff.mp h with ⟨between, hbefore, hrest⟩ | ⟨between, hbefore, hrest⟩
  · cases between with
    | nil => simpa using And.intro hbefore.symm hrest
    | cons d between =>
        have hmem : c ∈ after := by simp [(List.cons.inj hrest).2]
        exact absurd hmem hafter
  · cases between with
    | nil => simpa using And.intro hbefore hrest.symm
    | cons d between =>
        have hmem : c ∈ after' := by simp [(List.cons.inj hrest).2]
        exact absurd hmem hafter'

/-! ## Joined pieces -/

/-- The first piece, and then each further piece after a separator. -/
theorem intercalate_cons {γ : Type} (separator first : List γ) (rest : List (List γ)) :
    separator.intercalate (first :: rest) =
      first ++ rest.flatMap fun piece => separator ++ piece := by
  induction rest generalizing first with
  | nil => rw [List.intercalate_singleton, List.flatMap_nil, List.append_nil]
  | cons piece rest ih =>
      rw [List.intercalate_cons_cons, ih, List.flatMap_cons, List.append_assoc, List.append_assoc]

/-- What stands in joined pieces comes from the separator or from a piece. -/
theorem mem_intercalate {γ : Type} {separator : List γ} {pieces : List (List γ)} {c : γ}
    (h : c ∈ separator.intercalate pieces) : c ∈ separator ∨ ∃ piece ∈ pieces, c ∈ piece := by
  cases pieces with
  | nil => cases h
  | cons first rest =>
      rw [intercalate_cons, List.mem_append, List.mem_flatMap] at h
      rcases h with hfirst | ⟨piece, hpiece, hc⟩
      · exact .inr ⟨first, List.mem_cons_self, hfirst⟩
      · exact (List.mem_append.mp hc).imp_right fun hc =>
          ⟨piece, List.mem_cons_of_mem _ hpiece, hc⟩

section Join

variable {α β : Type} {separator : List Char} {write : α → List Char} {canonical : α → β}
  {Piece : α → Prop} {Stop : List Char → Prop}

variable (write Stop) in
/-- Whatever pieces are left, the text after a piece stops it. -/
theorem stop_pieces (hseparator : ∀ r, Stop (separator ++ r)) (xs : List α) {r : List Char}
    (hr : Stop r) : Stop (xs.flatMap (fun x => separator ++ write x) ++ r) := by
  cases xs with
  | nil => exact hr
  | cons x xs =>
      rw [List.flatMap_cons, List.append_assoc, List.append_assoc]
      exact hseparator _

/-- Pieces, each after a separator, come apart in one way. -/
theorem pieces_append_inj {xs ys : List α}
    (hpiece : ∀ x ∈ xs, ∀ y, Piece y → ∀ r s, Stop r → Stop s → write x ++ r = write y ++ s →
      canonical x = canonical y ∧ r = s)
    (hseparator : ∀ r, Stop (separator ++ r)) (hys : ∀ y ∈ ys, Piece y) {r s : List Char}
    (hr : Stop r) (hs : Stop s) (hr_sep : ¬ separator <+: r) (hs_sep : ¬ separator <+: s)
    (h : xs.flatMap (fun x => separator ++ write x) ++ r =
      ys.flatMap (fun y => separator ++ write y) ++ s) :
    xs.map canonical = ys.map canonical ∧ r = s := by
  induction xs generalizing ys with
  | nil =>
      cases ys with
      | nil => exact ⟨rfl, h⟩
      | cons y ys =>
          -- the text after the shorter list would start with a separator
          rw [List.flatMap_nil, List.nil_append, List.flatMap_cons, List.append_assoc,
            List.append_assoc] at h
          exact absurd (h ▸ List.prefix_append _ _) hr_sep
  | cons x xs ih =>
      rw [List.flatMap_cons, List.append_assoc, List.append_assoc] at h
      cases ys with
      | nil =>
          rw [List.flatMap_nil, List.nil_append] at h
          exact absurd (h ▸ List.prefix_append _ _) hs_sep
      | cons y ys =>
          rw [List.flatMap_cons, List.append_assoc, List.append_assoc] at h
          obtain ⟨hxy, hrest⟩ := hpiece x List.mem_cons_self y (hys y List.mem_cons_self) _ _
            (stop_pieces write Stop hseparator xs hr)
            (stop_pieces write Stop hseparator ys hs) (List.append_cancel_left h)
          obtain ⟨htail, hrs⟩ := ih (fun z hz => hpiece z (List.mem_cons_of_mem _ hz))
            (fun z hz => hys z (List.mem_cons_of_mem _ hz)) hrest
          exact ⟨by rw [List.map_cons, hxy, htail, ← List.map_cons], hrs⟩

variable (canonical Piece Stop) in
/-- **Joined texts come apart in one way.** Suppose that a piece of the first list, followed by a
text that stops it, determines the text and, up to `canonical`, the piece. A separator stops a
piece, and what follows the list stops a piece but does not start with a separator. Then the text
determines the list. -/
theorem intercalate_append_inj {xs ys : List α}
    (hpiece : ∀ x ∈ xs, ∀ y, Piece y → ∀ r s, Stop r → Stop s → write x ++ r = write y ++ s →
      canonical x = canonical y ∧ r = s)
    (hseparator : ∀ r, Stop (separator ++ r)) (hys : ∀ y ∈ ys, Piece y)
    (hxs_ne : xs ≠ []) (hys_ne : ys ≠ []) {r s : List Char}
    (hr : Stop r) (hs : Stop s) (hr_sep : ¬ separator <+: r) (hs_sep : ¬ separator <+: s)
    (h : separator.intercalate (xs.map write) ++ r = separator.intercalate (ys.map write) ++ s) :
    xs.map canonical = ys.map canonical ∧ r = s := by
  obtain ⟨x, xs, rfl⟩ := List.exists_cons_of_ne_nil hxs_ne
  obtain ⟨y, ys, rfl⟩ := List.exists_cons_of_ne_nil hys_ne
  rw [List.map_cons, List.map_cons, intercalate_cons, intercalate_cons, List.flatMap_map,
    List.flatMap_map, List.append_assoc, List.append_assoc] at h
  obtain ⟨hxy, hrest⟩ := hpiece x List.mem_cons_self y (hys y List.mem_cons_self) _ _
    (stop_pieces write Stop hseparator xs hr) (stop_pieces write Stop hseparator ys hs) h
  obtain ⟨htail, hrs⟩ := pieces_append_inj (fun z hz => hpiece z (List.mem_cons_of_mem _ hz))
    hseparator (fun z hz => hys z (List.mem_cons_of_mem _ hz)) hr hs hr_sep hs_sep hrest
  exact ⟨by rw [List.map_cons, hxy, htail, ← List.map_cons], hrs⟩

end Join

end BucketQuery
