import BucketQuery.Proofs.Operation.RunningTotal

set_option autoImplicit false

/-! # Which values are integers

An aggregate is taken for an integer when its exact value is one and fits a signed word, however it
is written: null is zero, and a number counts as an integer or as a double. The one exception is the
double `-2^63` (`Double.lowest`), which is refused although it is the least signed word
(`integerValue_eq_some_iff_exact`).
-/

namespace BucketQuery

namespace Double

/-! ## Whole doubles -/

theorem exact_eq_iff {d : Double} {i : Int} : d.exact = i ↔ d.signedUnits = i * unitsPerOne := by
  rw [exact_eq_div, div_eq_iff unitsPerOne_ne_zero, ← Int.cast_natCast (R := ℚ), ← Int.cast_mul,
    Int.cast_inj]

theorem natAbs_signedUnits (d : Double) : d.signedUnits.natAbs = d.units := by
  rw [signedUnits]
  split
  · exact (Int.natAbs_neg _).trans (Int.natAbs_natCast _)
  · exact Int.natAbs_natCast _

/-- A double is taken for the integer that is its exact value, and for no other. -/
theorem integer?_eq_some_iff {d : Double} {i : Int} : d.integer? = some i ↔ d.exact = i := by
  refine ⟨exact_of_integer?_eq_some, fun h => ?_⟩
  have hsigned := exact_eq_iff.mp h
  have hone : 0 < unitsPerOne := by decide
  have hunits : d.units = i.natAbs * unitsPerOne := by
    rw [← natAbs_signedUnits, hsigned, Int.natAbs_mul, Int.natAbs_natCast]
  have hsign : (if d.negative then -(i.natAbs : Int) else i.natAbs) = i := by
    refine Int.eq_of_mul_eq_mul_right (Int.natCast_ne_zero.mpr hone.ne') ?_
    rw [← hsigned, signedUnits, hunits, Nat.cast_mul]
    split
    · exact Int.neg_mul _ _
    · rfl
  rw [integer?, hunits, Nat.mul_mod_left, if_pos rfl, Nat.mul_div_cancel _ hone]
  exact congrArg some hsign

/-- A double that is not zero is determined by its value. -/
theorem eq_of_signedUnits_eq {d e : Double} (h : d.signedUnits = e.signedUnits)
    (hne : e.units ≠ 0) : d = e := by
  have hunits : d.units = e.units := by
    rw [← natAbs_signedUnits d, h, natAbs_signedUnits]
  -- of the two signs only one gives a value that is not zero
  have hsign : d.negative = e.negative := by
    rw [signedUnits, signedUnits, hunits] at h
    cases hd : d.negative <;> cases he : e.negative <;> grind
  cases d
  cases e
  cases hunits
  cases hsign
  rfl

/-- The double `-2^63`, the least signed word. -/
def lowest : Double := ⟨true, 0x8000000000000000 * unitsPerOne, by decide +kernel⟩

theorem signedUnits_lowest : lowest.signedUnits = -0x8000000000000000 * unitsPerOne := by
  rw [signedUnits, lowest, if_pos rfl, Nat.cast_mul, Int.neg_mul]
  rfl

theorem exact_lowest : lowest.exact = (-0x8000000000000000 : Int) :=
  exact_eq_iff.mpr signedUnits_lowest

/-- Only one double has the value `-2^63`. -/
theorem eq_lowest_iff {d : Double} : d = lowest ↔ d.exact = (-0x8000000000000000 : Int) := by
  constructor
  · rintro rfl
    exact exact_lowest
  · intro h
    refine eq_of_signedUnits_eq ((exact_eq_iff.mp h).trans signedUnits_lowest.symm) ?_
    exact Nat.mul_ne_zero (by decide) (by decide)

end Double

/-! ## Values taken for integers -/

theorem integerValue_integer_iff {i : Int} {inRange : IntegerRange i} {word : Int64} :
    integerValue (.number (.integer i inRange)) = some word ↔ i = word.toInt := by
  rw [integerValue, Number.int64?]
  constructor
  · intro h
    split at h
    · next hhigh => rw [← Option.some.inj h, Int64.toInt_ofInt_of_le inRange.1 hhigh]
    · cases h
  · rintro rfl
    have hhigh : word.toInt < 0x8000000000000000 := word.toInt_lt
    rw [if_pos hhigh, Int64.ofInt_toInt]

theorem integerValue_double_iff {d : Double} {word : Int64} :
    integerValue (.number (.double d)) = some word ↔ d ≠ .lowest ∧ d.exact = word.toInt := by
  rw [integerValue]
  constructor
  · intro h
    cases hwhole : d.integer? with
    | none =>
        rw [hwhole] at h
        cases h
    | some i =>
        simp only [hwhole] at h
        split at h
        · next hsmall =>
          -- the bound on the magnitude leaves out the least signed word
          have hexact := Double.integer?_eq_some_iff.mp hwhole
          rw [← Option.some.inj h, Int64.toInt_ofInt_of_le (by omega) (by omega), Ne,
            Double.eq_lowest_iff, hexact, Int.cast_inj]
          exact ⟨by omega, rfl⟩
        · cases h
  · rintro ⟨hlowest, hexact⟩
    -- the magnitude of every signed word but the least one is below the bound
    have hne : word.toInt ≠ -0x8000000000000000 := by
      intro h
      rw [h] at hexact
      exact hlowest (Double.eq_lowest_iff.mpr hexact)
    have hlow := word.le_toInt
    have hhigh := word.toInt_lt
    have hsmall : word.toInt.natAbs < 0x8000000000000000 := by omega
    simp only [Double.integer?_eq_some_iff.mpr hexact]
    rw [if_pos hsmall, Int64.ofInt_toInt]

/-- A number is taken for the signed word that is its exact value, unless it is the double
`-2^63`. -/
theorem integerValue_number_iff {number : Number} {word : Int64} :
    integerValue (.number number) = some word ↔
      number ≠ .double .lowest ∧ number.exact = word.toInt := by
  cases number with
  | integer i inRange =>
      have hne : Number.integer i inRange ≠ .double .lowest := by rintro ⟨⟩
      rw [integerValue_integer_iff, Number.exact, Int.cast_inj, and_iff_right hne]
  | double d => rw [integerValue_double_iff, Number.exact, Ne, Ne, Number.double.injEq]

/-- **Which values are taken for which integer.** Null is taken for zero. A number, an integer or a
double, is taken for a signed word exactly when this is its exact value, unless it is the double
`-2^63`. Nothing else is taken for an integer. -/
theorem integerValue_eq_some_iff_exact (value : Json) (word : Int64) :
    integerValue value = some word ↔
      (value = .null ∧ word = 0) ∨
      ∃ number, value = .number number ∧ number ≠ .double .lowest ∧
        number.exact = word.toInt := by
  cases value with
  | null =>
      rw [integerValue, Option.some_inj]
      constructor
      · rintro rfl
        exact .inl ⟨rfl, rfl⟩
      · rintro (⟨-, rfl⟩ | ⟨_, ⟨⟩, _⟩)
        rfl
  | number number =>
      rw [integerValue_number_iff]
      constructor
      · intro h
        exact .inr ⟨number, rfl, h⟩
      · rintro (⟨⟨⟩, _⟩ | ⟨_, ⟨⟩, h⟩)
        exact h
  | _ =>
      constructor
      · rintro ⟨⟩
      · rintro (⟨⟨⟩, _⟩ | ⟨_, ⟨⟩, _⟩)

/-! ## The least signed word -/

/-- A bucket with one document, which holds the least signed word as a double. -/
def deepDebt : Bucket := .ofList "debts" [("a", .object [("n", .number (.double .lowest))])]

/-- An executor on the bucket. -/
def debtExecutor : Executor := ⟨"debts", ⟨false, true⟩⟩

/-- The least signed word is taken for itself when it is written as an integer, and refused when it
is written as a double, so a sum over it alone fails. -/
theorem run_sum_lowest :
    Double.lowest.exact = (-0x8000000000000000 : Int) ∧ SignedWord (-0x8000000000000000) ∧
    integerValue (.number (.ofInt64 (-0x8000000000000000))) = some (-0x8000000000000000) ∧
    integerValue (.number (.double .lowest)) = none ∧
    (debtExecutor.sum [] "n").run deepDebt.answer =
      .error (.aggregate "sum" (.number (.double .lowest))) := by
  have hrefused : integerValue (.number (.double .lowest)) = none := by decide +kernel
  have hanswer : deepDebt.answer ⟨.sum "debts" [] "n", []⟩ =
      .ok [.object [("sum", .number (.double .lowest)), ("id", .string "a")]] := by
    rw [Bucket.answer_of_bucket_eq rfl, Statement.sum, Bucket.rows_select]
    rfl
  have hfirst : FirstRefused (0 : Int64).toInt
      [.object [("sum", .number (.double .lowest)), ("id", .string "a")]]
      (.object [("sum", .number (.double .lowest)), ("id", .string "a")]) :=
    ⟨[], [], [], rfl, ⟨.nil, by decide⟩, .inl hrefused⟩
  refine ⟨Double.exact_lowest, by decide, by decide +kernel, hrefused, ?_⟩
  rw [Executor.run_sum_of_answer hanswer, sumRows_of_firstRefused hfirst]
  rfl

end BucketQuery
