import BucketQuery.Proofs.Operation.RunningTotal
import Mathlib.Algebra.Order.BigOperators.Group.List
import Mathlib.Data.List.Perm.Basic

set_option autoImplicit false

/-! # Sums in another order

A sum that succeeds is the same in every order of the rows, but whether it succeeds is not settled
by the total alone: the running total may leave the signed words and would have come back
(`summed_overdraft`). Every order succeeds exactly when the positive parts alone and the negative
parts alone add up to signed words (`forall_perm_addsUp_iff`), and some order succeeds exactly when
the total is one (`exists_perm_addsUp_iff`). So the order of rows decides nothing but whether a
running total overflows (`Executor.summed_reordered`).
-/

namespace BucketQuery

/-! ## Gains and losses -/

/-- What the positive parts add. -/
def gains (parts : List Int) : Int := (parts.filter (0 < ·)).sum

/-- What the negative parts add. -/
def losses (parts : List Int) : Int := (parts.filter (· < 0)).sum

theorem gains_nonneg (parts : List Int) : 0 ≤ gains parts := by
  refine List.sum_nonneg fun part hpart => ?_
  exact Int.le_of_lt (of_decide_eq_true (List.mem_filter.mp hpart).2)

theorem losses_nonpos (parts : List Int) : losses parts ≤ 0 := by
  have hparts : ∀ part ∈ parts.filter (· < 0), part ≤ 0 := by
    intro part hpart
    exact Int.le_of_lt (of_decide_eq_true (List.mem_filter.mp hpart).2)
  -- in the reversed order of the integers this is a sum of what is not negative
  exact @List.sum_nonneg Intᵒᵈ _ _ _ _ hparts

theorem gains_append (before after : List Int) :
    gains (before ++ after) = gains before + gains after := by
  rw [gains, List.filter_append, List.sum_append]
  rfl

theorem losses_append (before after : List Int) :
    losses (before ++ after) = losses before + losses after := by
  rw [losses, List.filter_append, List.sum_append]
  rfl

theorem gains_perm {parts others : List Int} (h : parts.Perm others) :
    gains parts = gains others := (h.filter _).sum_eq

theorem losses_perm {parts others : List Int} (h : parts.Perm others) :
    losses parts = losses others := (h.filter _).sum_eq

theorem sum_eq_losses_add_gains (parts : List Int) : parts.sum = losses parts + gains parts := by
  induction parts with
  | nil => rfl
  | cons part rest ih =>
      rw [← List.singleton_append, losses_append, gains_append, List.sum_append, ih]
      have hpart : [part].sum = losses [part] + gains [part] := by
        rcases lt_trichotomy part 0 with h | rfl | h
        · simp [losses, gains, h, Int.le_of_lt h]
        · rfl
        · simp [losses, gains, h, Int.le_of_lt h]
      omega

/-! ## Every order, and some order -/

/-- Where gains and losses are signed words, so is every total on the way. -/
theorem stays_of_gains_of_losses {parts : List Int} (hgains : SignedWord (gains parts))
    (hlosses : SignedWord (losses parts)) : Stays 0 parts := by
  rintro before ⟨after, rfl⟩
  rw [gains_append] at hgains
  rw [losses_append] at hlosses
  have hsum := sum_eq_losses_add_gains before
  have hgained := gains_nonneg before
  have hlost := losses_nonpos before
  have hgain := gains_nonneg after
  have hloss := losses_nonpos after
  exact ⟨by have := hlosses.1; omega, by have := hgains.2; omega⟩

/-- **Every order stays within the signed words** exactly when gains and losses are signed words. -/
theorem forall_perm_stays_iff (parts : List Int) :
    (∀ others, parts.Perm others → Stays 0 others) ↔
      SignedWord (gains parts) ∧ SignedWord (losses parts) := by
  constructor
  · -- the worst orders have all positive parts first, or all negative ones
    intro h
    have hfirst (p : Int → Bool) : SignedWord (parts.filter p).sum := by
      have hstays := h _ (List.filter_append_perm p parts).symm
      have hword := hstays (parts.filter p) (List.prefix_append _ _)
      rwa [zero_add] at hword
    exact ⟨hfirst _, hfirst _⟩
  · rintro ⟨hgains, hlosses⟩ others hperm
    rw [gains_perm hperm] at hgains
    rw [losses_perm hperm] at hlosses
    exact stays_of_gains_of_losses hgains hlosses

/-- As long as parts are left whose sum leads to a signed word, one of them can be added next. -/
theorem exists_mem_signedWord_add {total : Int} {parts : List Int} (hne : parts ≠ [])
    (htotal : SignedWord total) (hparts : ∀ part ∈ parts, SignedWord part)
    (hsum : SignedWord (total + parts.sum)) : ∃ part ∈ parts, SignedWord (total + part) := by
  obtain ⟨first, hfirst⟩ := List.exists_mem_of_ne_nil parts hne
  rcases Int.le_total 0 total with hsign | hsign
  · by_cases hdown : ∃ part ∈ parts, part ≤ 0
    · -- a step down from a total that is not negative
      obtain ⟨part, hpart, hle⟩ := hdown
      have hlow := (hparts part hpart).1
      exact ⟨part, hpart, by omega, by have := htotal.2; omega⟩
    · -- only steps up are left, and all of them together stay in range
      have hup : ∀ part ∈ parts, 0 ≤ part := by
        intro part hpart
        by_contra hneg
        exact hdown ⟨part, hpart, by omega⟩
      have hle := List.single_le_sum hup first hfirst
      have hpos := hup first hfirst
      exact ⟨first, hfirst, by have := htotal.1; omega, by have := hsum.2; omega⟩
  -- from a total that is not positive, the same with the signs exchanged
  · by_cases hup : ∃ part ∈ parts, 0 ≤ part
    · obtain ⟨part, hpart, hle⟩ := hup
      have hhigh := (hparts part hpart).2
      exact ⟨part, hpart, by have := htotal.1; omega, by omega⟩
    · have hdown : ∀ part ∈ parts, part ≤ 0 := by
        intro part hpart
        by_contra hpos
        exact hup ⟨part, hpart, by omega⟩
      have hle : parts.sum ≤ first := @List.single_le_sum Intᵒᵈ _ _ _ parts hdown first hfirst
      have hneg := hdown first hfirst
      exact ⟨first, hfirst, by have := hsum.1; omega, by have := htotal.2; omega⟩

/-- From a signed word on, some order of parts whose sum leads to a signed word stays within them. -/
theorem exists_perm_stays {total : Int} {parts : List Int} (htotal : SignedWord total)
    (hparts : ∀ part ∈ parts, SignedWord part) (hsum : SignedWord (total + parts.sum)) :
    ∃ others, parts.Perm others ∧ Stays total others := by
  -- the induction takes out one part after another
  induction hlength : parts.length generalizing total parts with
  | zero =>
      rw [List.length_eq_zero_iff.mp hlength]
      exact ⟨[], .nil, stays_nil_iff.mpr htotal⟩
  | succ n ih =>
      have hne : parts ≠ [] := List.ne_nil_of_length_eq_add_one hlength
      obtain ⟨part, hpart, hnext⟩ := exists_mem_signedWord_add hne htotal hparts hsum
      have hperm := List.perm_cons_erase hpart
      have hrest : SignedWord (total + part + (parts.erase part).sum) := by
        rwa [hperm.sum_eq, List.sum_cons, ← add_assoc] at hsum
      obtain ⟨others, hothers, hstays⟩ := ih hnext
        (fun other hother => hparts other (List.mem_of_mem_erase hother)) hrest
        (by rw [List.length_erase_of_mem hpart, hlength, Nat.add_sub_cancel])
      exact ⟨part :: others, hperm.trans (hothers.cons part), stays_cons_iff.mpr ⟨htotal, hstays⟩⟩

/-! ## Rows in another order -/

/-- A row adds one integer at most. -/
theorem adds_rightUnique : Relator.RightUnique Adds := by
  rintro row _ _ ⟨word, hword, rfl⟩ ⟨other, hother, rfl⟩
  cases hword.symm.trans hother
  rfl

section Rows

variable {rows : List Json} {parts : List Int}

/-- Rows in another order add the same integers in another order. -/
theorem exists_adds_of_perm (h : List.Forall₂ Adds rows parts) {others : List Json}
    (hperm : rows.Perm others) :
    ∃ reordered, parts.Perm reordered ∧ List.Forall₂ Adds others reordered := by
  obtain ⟨reordered, hadds, hreordered⟩ := List.perm_comp_forall₂ hperm.symm h
  exact ⟨reordered, hreordered.symm, hadds⟩

/-- Every order of the integers is that of rows in some order. -/
theorem exists_rows_of_perm (h : List.Forall₂ Adds rows parts) {reordered : List Int}
    (hperm : parts.Perm reordered) :
    ∃ others, rows.Perm others ∧ List.Forall₂ Adds others reordered := by
  obtain ⟨others, hadds, hothers⟩ := List.perm_comp_forall₂ hperm.symm h.flip
  exact ⟨others, hothers.symm, hadds.flip⟩

theorem signedWord_of_adds (h : List.Forall₂ Adds rows parts) : ∀ part ∈ parts, SignedWord part := by
  intro part hpart
  obtain ⟨row, _, hrow⟩ := exists_mem_of_forall₂ h.flip hpart
  exact Adds.signedWord hrow

/-- Among rows each of which adds an integer, a row is refused for overflow only. -/
theorem exists_overflow_of_refuses (h : List.Forall₂ Adds rows parts) {row : Json} (hrow : row ∈ rows)
    {total : Int} (hrefuses : Refuses total row) :
    ∃ part, Adds row part ∧ ¬ SignedWord (total + part) := by
  rcases hrefuses with hnone | hout
  · obtain ⟨_, _, word, hword, _⟩ := exists_mem_of_forall₂ h hrow
    cases hnone.symm.trans hword
  · exact hout

end Rows

/-- Rows add up in every order exactly when each adds an integer and the gains and the losses are
signed words. -/
theorem forall_perm_addsUp_iff (rows : List Json) :
    (∀ others, rows.Perm others → ∃ parts, AddsUp 0 others parts) ↔
      ∃ parts, List.Forall₂ Adds rows parts ∧
        SignedWord (gains parts) ∧ SignedWord (losses parts) := by
  constructor
  · intro h
    obtain ⟨parts, hadds, _⟩ := h rows (.refl rows)
    refine ⟨parts, hadds, (forall_perm_stays_iff parts).mp fun reordered hreordered => ?_⟩
    -- every order of the integers is met by some order of the rows
    obtain ⟨others, hothers, hadds'⟩ := exists_rows_of_perm hadds hreordered
    obtain ⟨same, hsame, hstays⟩ := h others hothers
    rwa [adds_rightUnique.forall₂ hadds' hsame]
  · rintro ⟨parts, hadds, hrange⟩ others hothers
    obtain ⟨reordered, hreordered, hadds'⟩ := exists_adds_of_perm hadds hothers
    exact ⟨reordered, hadds', (forall_perm_stays_iff parts).mpr hrange reordered hreordered⟩

/-- Rows add up in some order exactly when each adds an integer and the sum is a signed word. -/
theorem exists_perm_addsUp_iff (rows : List Json) :
    (∃ others, rows.Perm others ∧ ∃ parts, AddsUp 0 others parts) ↔
      ∃ parts, List.Forall₂ Adds rows parts ∧ SignedWord parts.sum := by
  constructor
  · rintro ⟨others, hothers, reordered, hadds, hstays⟩
    obtain ⟨parts, hparts, hadds'⟩ := exists_adds_of_perm hadds hothers.symm
    refine ⟨parts, hadds', ?_⟩
    have hword := hstays reordered (List.prefix_refl reordered)
    rwa [zero_add, hparts.sum_eq] at hword
  · rintro ⟨parts, hadds, hsum⟩
    rw [← zero_add parts.sum] at hsum
    obtain ⟨reordered, hreordered, hstays⟩ :=
      exists_perm_stays (by decide) (signedWord_of_adds hadds) hsum
    obtain ⟨others, hothers, hadds'⟩ := exists_rows_of_perm hadds hreordered
    exact ⟨others, hothers, reordered, hadds', hstays⟩

/-! ## Summing a field -/

/-- What summing a field comes to when these are the rows. -/
def Executor.summed (executor : Executor) (filters : Filters) (field : String) (rows : List Json) :
    Except QueryError Int64 :=
  (executor.sum filters field).run fun _ => .ok rows

theorem Executor.summed_eq (executor : Executor) (filters : Filters) (field : String)
    (rows : List Json) : executor.summed filters field rows = sumRows 0 rows :=
  run_sum_of_answer rfl

/-- A sum succeeds when the rows add up. -/
theorem Executor.exists_summed_iff (executor : Executor) (filters : Filters) (field : String)
    (rows : List Json) :
    (∃ total, executor.summed filters field rows = .ok total) ↔ ∃ parts, AddsUp 0 rows parts := by
  rw [summed_eq]
  constructor
  · rintro ⟨total, htotal⟩
    obtain ⟨parts, hparts, _⟩ := sumRows_eq_ok_iff.mp htotal
    exact ⟨parts, hparts⟩
  · rintro ⟨parts, hparts⟩
    obtain ⟨total, _, htotal⟩ := @exists_sumRows_of_addsUp 0 rows parts hparts
    exact ⟨total, htotal⟩

/-- **The order of rows decides nothing but whether a running total overflows.** Whatever answers a
sum with rows: in every order in which they can be summed, the total is their exact sum. They can be
summed in every order exactly when each adds an integer and the gains and the losses are signed
words, and in some order exactly when each adds an integer and the exact sum is a signed word. A
failure over rows each of which adds an integer is an overflow of the running total. -/
theorem Executor.summed_reordered (executor : Executor) (filters : Filters) (field : String)
    (rows : List Json) :
    (∀ answer : Query → Except TransportError (List Json),
      answer ⟨.sum executor.bucket filters field, filters⟩ = .ok rows →
        (executor.sum filters field).run answer = executor.summed filters field rows) ∧
    (∀ others total, rows.Perm others → executor.summed filters field others = .ok total →
      (total.toInt : ℚ) = (rows.map fun row => (addend row).exact).sum) ∧
    ((∀ others, rows.Perm others → ∃ total, executor.summed filters field others = .ok total) ↔
      ∃ parts, List.Forall₂ Adds rows parts ∧
        SignedWord (gains parts) ∧ SignedWord (losses parts)) ∧
    ((∃ others, rows.Perm others ∧ ∃ total, executor.summed filters field others = .ok total) ↔
      ∃ parts, List.Forall₂ Adds rows parts ∧ SignedWord parts.sum) ∧
    ∀ parts others error, List.Forall₂ Adds rows parts → rows.Perm others →
      executor.summed filters field others = .error error →
        ∃ before row after earlier part, others = before ++ row :: after ∧
          AddsUp 0 before earlier ∧ Adds row part ∧ ¬ SignedWord (earlier.sum + part) ∧
          error = .aggregate "sum" (addend row) := by
  refine ⟨?_, ?_, ?_, ?_, ?_⟩
  · intro answer hanswer
    rw [run_sum_of_answer hanswer, summed_eq]
  · intro others total hperm htotal
    rw [summed_eq] at htotal
    rw [sumRows_exact htotal, Int64.toInt_zero, Int.cast_zero, zero_add]
    exact (hperm.map _).sum_eq.symm
  · simp only [exists_summed_iff]
    exact forall_perm_addsUp_iff rows
  · simp only [exists_summed_iff]
    exact exists_perm_addsUp_iff rows
  · intro parts others error hadds hothers herror
    rw [summed_eq] at herror
    obtain ⟨row, ⟨before, after, earlier, hsplit, hbefore, hrefuses⟩, rfl⟩ :=
      sumRows_eq_error_iff.mp herror
    have hrow : row ∈ rows := by
      rw [hothers.mem_iff, hsplit]
      exact List.mem_append_right before List.mem_cons_self
    -- the total starts at zero, so in front of the row it is the sum of what was added
    rw [Int64.toInt_zero] at hbefore hrefuses
    rw [zero_add] at hrefuses
    obtain ⟨part, hpart, hout⟩ := exists_overflow_of_refuses hadds hrow hrefuses
    exact ⟨before, row, after, earlier, part, hsplit, hbefore, hpart, hout, rfl⟩

/-! ## An account that is full for a moment -/

/-- An account whose first document is all that a signed word holds, and whose others cancel out. -/
def overdraft : Bucket :=
  .ofList "b"
    [("a", .object [("n", .ofUInt64 9223372036854775807)]), ("b", .object [("n", .ofUInt64 1)]),
      ("c", .object [("n", .number (.ofInt64 (-1)))])]

/-- The rows of a sum over the account. -/
def overdraftRows : List Json :=
  [.object [("sum", .ofUInt64 9223372036854775807), ("id", .string "a")],
    .object [("sum", .ofUInt64 1), ("id", .string "b")],
    .object [("sum", .number (.ofInt64 (-1))), ("id", .string "c")]]

/-- An executor on the account. -/
def overdraftExecutor : Executor := ⟨"b", ⟨false, true⟩⟩

theorem answer_overdraft : overdraft.answer ⟨.sum "b" [] "n", []⟩ = .ok overdraftRows := by
  rw [Bucket.answer_of_bucket_eq rfl, Statement.sum, Bucket.rows_select]
  rfl

theorem adds_overdraftRows :
    List.Forall₂ Adds overdraftRows [9223372036854775807, 1, -1] := by
  have hopening : Adds (.object [("sum", .ofUInt64 9223372036854775807), ("id", .string "a")])
      9223372036854775807 := ⟨9223372036854775807, by decide +kernel, by decide⟩
  have hgain : Adds (.object [("sum", .ofUInt64 1), ("id", .string "b")]) 1 :=
    ⟨1, by decide +kernel, by decide⟩
  have hloss : Adds (.object [("sum", .number (.ofInt64 (-1))), ("id", .string "c")]) (-1) :=
    ⟨-1, by decide +kernel, by decide⟩
  exact .cons hopening (.cons hgain (.cons hloss .nil))

/-- In the order of the ids the second document overflows the running total, though the exact sum is
a signed word and the opposite order of the same rows gives it. -/
theorem summed_overdraft :
    overdraft.answer ⟨.sum "b" [] "n", []⟩ = .ok overdraftRows ∧
    List.Forall₂ Adds overdraftRows [9223372036854775807, 1, -1] ∧
    SignedWord [9223372036854775807, 1, -1].sum ∧
    (overdraftExecutor.sum [] "n").run overdraft.answer =
      .error (.aggregate "sum" (.ofUInt64 1)) ∧
    overdraftRows.Perm overdraftRows.reverse ∧
    overdraftExecutor.summed [] "n" overdraftRows.reverse = .ok 9223372036854775807 := by
  refine ⟨answer_overdraft, adds_overdraftRows, by decide, ?_, (List.reverse_perm _).symm, ?_⟩
  · rw [Executor.run_sum_of_answer answer_overdraft]
    rfl
  · rw [Executor.summed_eq]
    rfl

/-- The account can be summed in some order, which gives the exact sum, and not in every order. -/
theorem Executor.summed_reordered_overdraft :
    (∃ others total, overdraftRows.Perm others ∧
      overdraftExecutor.summed [] "n" others = .ok total ∧
      (total.toInt : ℚ) = (overdraftRows.map fun row => (addend row).exact).sum) ∧
    ¬ ∀ others, overdraftRows.Perm others →
      ∃ total, overdraftExecutor.summed [] "n" others = .ok total := by
  obtain ⟨_, hexact, hevery, hsome, _⟩ := summed_reordered overdraftExecutor [] "n" overdraftRows
  constructor
  · obtain ⟨others, hothers, total, htotal⟩ := hsome.mpr ⟨_, adds_overdraftRows, by decide⟩
    exact ⟨others, total, hothers, htotal, hexact others total hothers htotal⟩
  · intro h
    obtain ⟨parts, hadds, hgains, _⟩ := hevery.mp h
    rw [adds_rightUnique.forall₂ hadds adds_overdraftRows] at hgains
    exact absurd hgains (by decide)

end BucketQuery
