import BucketQuery.Proofs.Operation.Aggregation

set_option autoImplicit false

/-! # Running totals

A sum keeps a running total that is a signed word. A row adds the integer that its value is taken
for (`Adds`), and rows add up when every total on the way is a signed word (`AddsUp`). A sum has a
total exactly when its rows add up (`sumRows_eq_ok_iff`); otherwise it fails with the value of the
first row that the total before it refuses (`sumRows_eq_error_iff`). So the outcome of summing a
field is settled by the rows, to the last digit (`Executor.run_sum_settled`).
-/

namespace BucketQuery

/-! ## Adding one row -/

/-- The integers of the signed 64-bit words. -/
def SignedWord (i : Int) : Prop := -0x8000000000000000 ≤ i ∧ i < 0x8000000000000000

instance (i : Int) : Decidable (SignedWord i) := inferInstanceAs (Decidable (_ ∧ _))

theorem signedWord_toInt (word : Int64) : SignedWord word.toInt := ⟨word.le_toInt, word.toInt_lt⟩

theorem SignedWord.exists_word {i : Int} (h : SignedWord i) : ∃ word : Int64, word.toInt = i :=
  ⟨Int64.ofInt i, Int64.toInt_ofInt_of_le h.1 h.2⟩

/-- The integer that a row adds to a sum. -/
def Adds (row : Json) (part : Int) : Prop :=
  ∃ word, integerValue (addend row) = some word ∧ word.toInt = part

theorem Adds.signedWord {row : Json} {part : Int} (h : Adds row part) : SignedWord part := by
  obtain ⟨word, _, rfl⟩ := h
  exact signedWord_toInt word

/-- A row that cannot be added to a total: its value is taken for no integer, or for one that takes
the total out of the signed words. -/
def Refuses (total : Int) (row : Json) : Prop :=
  integerValue (addend row) = none ∨ ∃ part, Adds row part ∧ ¬ SignedWord (total + part)

/-- Checked addition fails when the exact sum is no signed word. -/
theorem checkedAdd_eq_none_iff {a b : Int64} :
    checkedAdd a b = none ↔ ¬ SignedWord (a.toInt + b.toInt) := by
  rw [checkedAdd]
  split
  · next hrange => exact iff_of_false (Option.some_ne_none _) (not_not_intro hrange)
  · next hrange => exact iff_of_true rfl hrange

theorem bind_checkedAdd_eq_some_iff {row : Json} {total next : Int64} :
    (integerValue (addend row)).bind (checkedAdd total) = some next ↔
      ∃ part, Adds row part ∧ next.toInt = total.toInt + part := by
  rw [Option.bind_eq_some_iff]
  constructor
  · rintro ⟨word, hword, hnext⟩
    exact ⟨word.toInt, ⟨word, hword, rfl⟩, checkedAdd_eq_some_iff.mp hnext⟩
  · rintro ⟨part, ⟨word, hword, rfl⟩, hnext⟩
    exact ⟨word, hword, checkedAdd_eq_some_iff.mpr hnext⟩

theorem bind_checkedAdd_eq_none_iff {row : Json} {total : Int64} :
    (integerValue (addend row)).bind (checkedAdd total) = none ↔ Refuses total.toInt row := by
  rw [Option.bind_eq_none_iff]
  constructor
  · intro h
    cases hvalue : integerValue (addend row) with
    | none => exact .inl hvalue
    | some word =>
        exact .inr ⟨word.toInt, ⟨word, hvalue, rfl⟩, checkedAdd_eq_none_iff.mp (h word hvalue)⟩
  · rintro (h | ⟨part, ⟨word, hword, rfl⟩, hout⟩) other hother
    · rw [h] at hother
      cases hother
    · cases hword.symm.trans hother
      exact checkedAdd_eq_none_iff.mpr hout

/-! ## Adding row after row -/

/-- From a total on, parts are added one after another, and no total on the way leaves the signed
words. -/
def Stays (total : Int) (parts : List Int) : Prop :=
  ∀ before, before <+: parts → SignedWord (total + before.sum)

theorem stays_nil_iff {total : Int} : Stays total [] ↔ SignedWord total := by
  constructor
  · intro h
    have hstart := h [] (List.prefix_refl [])
    rwa [List.sum_nil, add_zero] at hstart
  · intro h before hbefore
    rw [List.prefix_nil.mp hbefore, List.sum_nil, add_zero]
    exact h

theorem stays_cons_iff {total part : Int} {parts : List Int} :
    Stays total (part :: parts) ↔ SignedWord total ∧ Stays (total + part) parts := by
  constructor
  · intro h
    constructor
    · have hstart := h [] List.nil_prefix
      rwa [List.sum_nil, add_zero] at hstart
    · intro before hbefore
      have hnext := h (part :: before) ((List.prefix_cons_inj part).mpr hbefore)
      rwa [List.sum_cons, ← add_assoc] at hnext
  · rintro ⟨htotal, hrest⟩ before hbefore
    rcases List.prefix_cons_iff.mp hbefore with rfl | ⟨tail, rfl, htail⟩
    · rwa [List.sum_nil, add_zero]
    · rw [List.sum_cons, ← add_assoc]
      exact hrest tail htail

instance decidableStays : (total : Int) → (parts : List Int) → Decidable (Stays total parts)
  | _, [] => decidable_of_iff _ stays_nil_iff.symm
  | total, part :: parts =>
      have := decidableStays (total + part) parts
      decidable_of_iff _ stays_cons_iff.symm

/-- **Rows add up** from a total on: each of them adds an integer, and every total on the way is a
signed word. -/
structure AddsUp (total : Int) (rows : List Json) (parts : List Int) : Prop where
  adds : List.Forall₂ Adds rows parts
  stays : Stays total parts

/-- The first row that cannot be added: the rows before it add up to a total that refuses it. -/
def FirstRefused (total : Int) (rows : List Json) (row : Json) : Prop :=
  ∃ before after parts, rows = before ++ row :: after ∧ AddsUp total before parts ∧
    Refuses (total + parts.sum) row

theorem addsUp_cons {total : Int64} {part : Int} {row : Json} {rows : List Json}
    {parts : List Int} (hrow : Adds row part) :
    AddsUp total.toInt (row :: rows) (part :: parts) ↔
      AddsUp (total.toInt + part) rows parts := by
  constructor
  · rintro ⟨hadds, hstays⟩
    exact ⟨(List.forall₂_cons.mp hadds).2, (stays_cons_iff.mp hstays).2⟩
  · rintro ⟨hadds, hstays⟩
    exact ⟨.cons hrow hadds, stays_cons_iff.mpr ⟨signedWord_toInt total, hstays⟩⟩

/-- Rows that add up are added, and the sum goes on from their total. -/
theorem sumRows_append {before : List Json} {total : Int64} {parts : List Int}
    (h : AddsUp total.toInt before parts) (rest : List Json) :
    ∃ next : Int64, next.toInt = total.toInt + parts.sum ∧
      sumRows total (before ++ rest) = sumRows next rest := by
  induction before generalizing total parts with
  | nil =>
      rw [List.forall₂_nil_left_iff.mp h.adds, List.sum_nil, add_zero]
      exact ⟨total, rfl, rfl⟩
  | cons row before ih =>
      obtain ⟨part, parts, hrow, _, rfl⟩ := List.forall₂_cons_left_iff.mp h.adds
      -- the total after the first row is on the way, so it is a word
      have hword := h.stays [part] ((List.prefix_cons_inj part).mpr List.nil_prefix)
      rw [List.sum_singleton] at hword
      obtain ⟨middle, hmiddle⟩ := hword.exists_word
      have hstep := bind_checkedAdd_eq_some_iff.mpr ⟨part, hrow, hmiddle⟩
      have hrest := (addsUp_cons hrow).mp h
      rw [← hmiddle] at hrest
      obtain ⟨next, hnext, hsum⟩ := ih hrest
      refine ⟨next, ?_, ?_⟩
      · rw [hnext, hmiddle, List.sum_cons, add_assoc]
      · rw [List.cons_append, sumRows, hstep]
        exact hsum

/-- Rows add up, or there is a first one that cannot be added. -/
theorem addsUp_or_firstRefused (total : Int64) (rows : List Json) :
    (∃ parts, AddsUp total.toInt rows parts) ∨ ∃ row, FirstRefused total.toInt rows row := by
  induction rows generalizing total with
  | nil => exact .inl ⟨[], .nil, stays_nil_iff.mpr (signedWord_toInt total)⟩
  | cons row rest ih =>
      cases hstep : (integerValue (addend row)).bind (checkedAdd total) with
      | none =>
          have hrefuses := bind_checkedAdd_eq_none_iff.mp hstep
          refine .inr ⟨row, [], rest, [], rfl, ⟨.nil, stays_nil_iff.mpr (signedWord_toInt total)⟩, ?_⟩
          rwa [List.sum_nil, add_zero]
      | some next =>
          obtain ⟨part, hrow, hnext⟩ := bind_checkedAdd_eq_some_iff.mp hstep
          have hfirst {rows : List Json} {parts : List Int} (h : AddsUp next.toInt rows parts) :
              AddsUp total.toInt (row :: rows) (part :: parts) := by
            rw [hnext] at h
            exact (addsUp_cons hrow).mpr h
          rcases ih next with ⟨parts, hparts⟩ | ⟨bad, before, after, parts, rfl, hbefore, hbad⟩
          · exact .inl ⟨part :: parts, hfirst hparts⟩
          · refine .inr ⟨bad, row :: before, after, part :: parts, rfl, hfirst hbefore, ?_⟩
            rwa [List.sum_cons, ← add_assoc, ← hnext]

theorem sumRows_of_firstRefused {total : Int64} {rows : List Json} {row : Json}
    (h : FirstRefused total.toInt rows row) :
    sumRows total rows = .error (.aggregate sumField (addend row)) := by
  obtain ⟨before, after, parts, rfl, hbefore, hrefuses⟩ := h
  obtain ⟨next, hnext, hsum⟩ := sumRows_append hbefore (row :: after)
  rw [← hnext] at hrefuses
  rw [hsum, sumRows, bind_checkedAdd_eq_none_iff.mpr hrefuses]

theorem exists_sumRows_of_addsUp {total : Int64} {rows : List Json} {parts : List Int}
    (h : AddsUp total.toInt rows parts) :
    ∃ result : Int64, result.toInt = total.toInt + parts.sum ∧ sumRows total rows = .ok result := by
  obtain ⟨result, hresult, hsum⟩ := sumRows_append h []
  rw [List.append_nil] at hsum
  exact ⟨result, hresult, hsum⟩

/-- **A sum has a total exactly when its rows add up**, and then it is what they add. -/
theorem sumRows_eq_ok_iff {total result : Int64} {rows : List Json} :
    sumRows total rows = .ok result ↔
      ∃ parts, AddsUp total.toInt rows parts ∧ result.toInt = total.toInt + parts.sum := by
  constructor
  · intro h
    rcases addsUp_or_firstRefused total rows with ⟨parts, hparts⟩ | ⟨row, hrow⟩
    · obtain ⟨other, hother, hsum⟩ := exists_sumRows_of_addsUp hparts
      cases h.symm.trans hsum
      exact ⟨parts, hparts, hother⟩
    · cases h.symm.trans (sumRows_of_firstRefused hrow)
  · rintro ⟨parts, hparts, hresult⟩
    obtain ⟨other, hother, hsum⟩ := exists_sumRows_of_addsUp hparts
    rw [hsum, Int64.toInt_inj.mp (hresult.trans hother.symm)]

/-- **A sum fails exactly at the first row that cannot be added**, and names its value. -/
theorem sumRows_eq_error_iff {total : Int64} {rows : List Json} {error : QueryError} :
    sumRows total rows = .error error ↔
      ∃ row, FirstRefused total.toInt rows row ∧ error = .aggregate sumField (addend row) := by
  constructor
  · intro h
    rcases addsUp_or_firstRefused total rows with ⟨parts, hparts⟩ | ⟨row, hrow⟩
    · obtain ⟨_, _, hsum⟩ := exists_sumRows_of_addsUp hparts
      cases h.symm.trans hsum
    · cases h.symm.trans (sumRows_of_firstRefused hrow)
      exact ⟨row, hrow, rfl⟩
  · rintro ⟨row, hrow, rfl⟩
    exact sumRows_of_firstRefused hrow

/-! ## Summing a field -/

/-- Whatever answers the queries, a sum is that of the rows in the answer. -/
theorem Executor.run_sum_of_answer {answer : Query → Except TransportError (List Json)}
    {executor : Executor} {filters : Filters} {field : String} {rows : List Json}
    (h : answer ⟨.sum executor.bucket filters field, filters⟩ = .ok rows) :
    (executor.sum filters field).run answer = sumRows 0 rows := by
  rw [sum, Plan.run, h]
  rfl

/-- **The rows settle a sum.** Whatever answers the queries: summing a field gives a total exactly
when every row adds an integer and every total on the way is a signed word, and then it gives the
sum of these integers. Otherwise it fails, and the failure carries the value of the first row that
is taken for no integer or takes the total out of range. A number is never taken for an integer
that is not its exact value. -/
theorem Executor.run_sum_settled {answer : Query → Except TransportError (List Json)}
    {executor : Executor} {filters : Filters} {field : String} {rows : List Json}
    (h : answer ⟨.sum executor.bucket filters field, filters⟩ = .ok rows) :
    (∀ total : Int64, (executor.sum filters field).run answer = .ok total ↔
      ∃ parts, AddsUp 0 rows parts ∧ total.toInt = parts.sum) ∧
    (∀ error, (executor.sum filters field).run answer = .error error ↔
      ∃ row, FirstRefused 0 rows row ∧ error = .aggregate "sum" (addend row)) ∧
    ∀ (number : Number) (part : Int64),
      integerValue (.number number) = some part → number.exact = part.toInt := by
  rw [run_sum_of_answer h]
  refine ⟨fun total => ?_, fun error => ?_, fun number part hpart => ?_⟩
  · rw [sumRows_eq_ok_iff, Int64.toInt_zero]
    simp only [zero_add]
  · rw [sumRows_eq_error_iff, Int64.toInt_zero]
    rfl
  · exact exact_of_integerValue_eq_some hpart

/-- The double one. -/
def oneAsDouble : Json := .number (.double ⟨false, Double.unitsPerOne, by decide +kernel⟩)

/-- The rows of an account that is full after the first one. -/
def fullAccount : List Json :=
  [.object [("sum", .ofUInt64 9223372036854775807), ("id", .string "opening")],
    .object [("id", .string "note")],
    .object [("sum", oneAsDouble), ("id", .string "interest")],
    .object [("sum", .string "-1"), ("id", .string "fee")]]

/-- The account refuses the double in its third row, before it comes to the text in the fourth one;
the two rows before them add up. -/
theorem Executor.run_sum_settled_fullAccount :
    (shopExecutor.sum [] "sum").run (fun _ => .ok fullAccount) =
      .error (.aggregate "sum" oneAsDouble) ∧
    (shopExecutor.sum [] "sum").run (fun _ => .ok (fullAccount.take 2)) =
      .ok 9223372036854775807 := by
  have hopening : Adds (.object [("sum", .ofUInt64 9223372036854775807), ("id", .string "opening")])
      9223372036854775807 := ⟨9223372036854775807, by decide +kernel, by decide⟩
  have hnote : Adds (.object [("id", .string "note")]) 0 := ⟨0, rfl, rfl⟩
  have hinterest : Adds (.object [("sum", oneAsDouble), ("id", .string "interest")]) 1 :=
    ⟨1, by decide +kernel, by decide⟩
  have hup : AddsUp 0 (fullAccount.take 2) [9223372036854775807, 0] :=
    ⟨.cons hopening (.cons hnote .nil), by decide⟩
  have hfull : (fun _ => .ok fullAccount : Query → Except TransportError (List Json))
      ⟨.sum "shop" [] "sum", []⟩ = .ok fullAccount := rfl
  have hpart : (fun _ => .ok (fullAccount.take 2) : Query → Except TransportError (List Json))
      ⟨.sum "shop" [] "sum", []⟩ = .ok (fullAccount.take 2) := rfl
  constructor
  · have hrefused : FirstRefused 0 fullAccount
        (.object [("sum", oneAsDouble), ("id", .string "interest")]) :=
      ⟨fullAccount.take 2, fullAccount.drop 3, _, rfl, hup, .inr ⟨1, hinterest, by decide⟩⟩
    exact ((@run_sum_settled _ shopExecutor [] "sum" fullAccount hfull).2.1 _).mpr
      ⟨_, hrefused, rfl⟩
  · refine ((@run_sum_settled _ shopExecutor [] "sum" (fullAccount.take 2) hpart).1 _).mpr ?_
    exact ⟨_, hup, by decide⟩

end BucketQuery
