import BucketQuery.Number.Basic
import Mathlib.Data.Nat.Log
import Mathlib.Tactic.Ring

set_option autoImplicit false

/-! # Rounding to doubles

A natural number is compared as the double nearest to it. Rounding keeps the order of two numbers
(`nearestUnits_mono`), because a result never passes a whole number of steps that the value itself
does not pass. Up to `2^53` every natural number is a double and is its own rounding
(`nearestUnits_of_le`); so a number below `2^53` is told from every other one
(`nearestUnits_lt_of_lt`), while above it two neighbours may round to one double.
-/

namespace BucketQuery

/-! ## Rounded quotients -/

theorem roundQuotient_le {num den k : Nat} (hden : 0 < den) (h : num ≤ k * den) :
    roundQuotient num den ≤ k := by
  have hfloor : num / den ≤ k := Nat.div_le_of_le_mul (by rwa [Nat.mul_comm] at h)
  rw [roundQuotient]
  split
  · next hup =>
    -- a quotient that is rounded up has a rest, so it is not `k` itself
    have hne : num / den ≠ k := by
      rintro rfl
      have hparts := Nat.div_add_mod num den
      rw [Nat.mul_comm] at hparts
      omega
    omega
  · exact hfloor

theorem le_roundQuotient {num den k : Nat} (hden : 0 < den) (h : k * den ≤ num) :
    k ≤ roundQuotient num den := by
  have hfloor : k ≤ num / den := (Nat.le_div_iff_mul_le hden).mpr h
  rw [roundQuotient]
  split
  · exact Nat.le_succ_of_le hfloor
  · exact hfloor

theorem roundQuotient_mul {den : Nat} (hden : 0 < den) (k : Nat) :
    roundQuotient (k * den) den = k :=
  Nat.le_antisymm (roundQuotient_le hden (Nat.le_refl _)) (le_roundQuotient hden (Nat.le_refl _))

theorem roundQuotient_mono {a b den : Nat} (h : a ≤ b) :
    roundQuotient a den ≤ roundQuotient b den := by
  have hfloor : a / den ≤ b / den := Nat.div_le_div_right h
  have ha := Nat.div_add_mod a den
  have hb := Nat.div_add_mod b den
  rw [roundQuotient, roundQuotient]
  by_cases heq : a / den = b / den
  · -- on one step, the greater number has the greater rest
    rw [heq] at ha ⊢
    have hrest : a % den ≤ b % den := by omega
    split
    · split
      · exact Nat.le_refl _
      · omega
    · split
      · exact Nat.le_succ _
      · exact Nat.le_refl _
  · split
    · split
      · omega
      · omega
    · split
      · omega
      · exact hfloor

namespace Double

/-! ## Order -/

/-- A magnitude has at most 53 bits from its lowest bit on. -/
theorem lt_two_pow_lowestBit (units : Nat) : units < 2 ^ (53 + lowestBit units) := by
  have hlog : units < 2 ^ (units.log2 + 1) := Nat.lt_log2_self
  refine Nat.lt_of_lt_of_le hlog (Nat.pow_le_pow_right (by decide) ?_)
  rw [lowestBit]
  omega

/-- A magnitude whose lowest bit is not the lowest of all has 53 bits from it on. -/
theorem two_pow_lowestBit_le {units : Nat} (h : 0 < lowestBit units) :
    2 ^ (52 + lowestBit units) ≤ units := by
  rw [lowestBit] at h
  have hlog : units.log2 = 52 + lowestBit units := by
    rw [lowestBit]
    omega
  have hne : units ≠ 0 := by
    rintro rfl
    simp at h
  rw [← hlog]
  exact Nat.log2_self_le hne

theorem lowestBit_mono {a b : Nat} (h : a ≤ b) : lowestBit a ≤ lowestBit b := by
  have hlog : a.log2 ≤ b.log2 := by
    rw [Nat.log2_eq_log_two, Nat.log2_eq_log_two]
    exact Nat.log_mono_right h
  rw [lowestBit, lowestBit]
  omega

/-- **Rounding keeps the order.** A greater number is never rounded to a smaller double. -/
theorem nearestUnits_mono {m n den : Nat} (hden : 0 < den) (h : m ≤ n) :
    nearestUnits m den ≤ nearestUnits n den := by
  have hscaled : m * unitsPerOne ≤ n * unitsPerOne := Nat.mul_le_mul_right _ h
  rw [nearestUnits, nearestUnits]
  generalize m * unitsPerOne = a at hscaled ⊢
  generalize n * unitsPerOne = b at hscaled ⊢
  simp only [Nat.one_shiftLeft]
  have hquotient : a / den ≤ b / den := Nat.div_le_div_right hscaled
  have hstep : ∀ e, 0 < den * 2 ^ e := fun e => Nat.mul_pos hden (Nat.two_pow_pos e)
  by_cases heq : lowestBit (a / den) = lowestBit (b / den)
  · rw [heq]
    exact Nat.mul_le_mul_right _ (roundQuotient_mono hscaled)
  · -- a power of two lies between the numbers, and neither is rounded past it
    have hlt : lowestBit (a / den) < lowestBit (b / den) :=
      Nat.lt_of_le_of_ne (lowestBit_mono hquotient) heq
    have hbelow := lt_two_pow_lowestBit (a / den)
    have habove := two_pow_lowestBit_le (Nat.lt_of_le_of_lt (Nat.zero_le _) hlt)
    generalize lowestBit (a / den) = e at hlt hbelow ⊢
    generalize lowestBit (b / den) = f at hlt habove ⊢
    have hlow : roundQuotient a (den * 2 ^ e) ≤ 2 ^ 53 := by
      refine roundQuotient_le (hstep e) ?_
      have := (Nat.div_lt_iff_lt_mul hden).mp hbelow
      rw [Nat.pow_add, Nat.mul_assoc, Nat.mul_comm (2 ^ e)] at this
      exact Nat.le_of_lt this
    have hhigh : 2 ^ 52 ≤ roundQuotient b (den * 2 ^ f) := by
      refine le_roundQuotient (hstep f) ?_
      have := (Nat.le_div_iff_mul_le hden).mp habove
      rwa [Nat.pow_add, Nat.mul_assoc, Nat.mul_comm (2 ^ f)] at this
    calc roundQuotient a (den * 2 ^ e) * 2 ^ e
        ≤ 2 ^ 53 * 2 ^ e := Nat.mul_le_mul_right _ hlow
      _ = 2 ^ 52 * 2 ^ (e + 1) := by ring
      _ ≤ 2 ^ 52 * 2 ^ f := Nat.mul_le_mul_left _ (Nat.pow_le_pow_right (by decide) hlt)
      _ ≤ roundQuotient b (den * 2 ^ f) * 2 ^ f := Nat.mul_le_mul_right _ hhigh

/-! ## Exact numbers -/

/-- A number of 53 bits placed higher keeps all its bits. -/
theorem lowestBit_mul_two_pow_le {n : Nat} (h : n < 2 ^ 53) (place : Nat) :
    lowestBit (n * 2 ^ place) ≤ place := by
  by_contra hcon
  have hpow : 2 ^ (53 + place) ≤ 2 ^ (52 + lowestBit (n * 2 ^ place)) :=
    Nat.pow_le_pow_right (by decide) (by omega)
  have hbig : 2 ^ 53 * 2 ^ place ≤ n * 2 ^ place := by
    rw [← Nat.pow_add]
    exact Nat.le_trans hpow (two_pow_lowestBit_le (by omega))
  exact absurd (Nat.le_of_mul_le_mul_right hbig (Nat.two_pow_pos place)) (Nat.not_le_of_lt h)

/-- A number up to `2^53` has no bits below its lowest one, wherever it is placed. -/
theorem two_pow_lowestBit_dvd {n : Nat} (h : n ≤ 2 ^ 53) (place : Nat) :
    2 ^ lowestBit (n * 1 <<< place) ∣ n * 1 <<< place := by
  rw [Nat.one_shiftLeft]
  rcases Nat.lt_or_eq_of_le h with hlt | rfl
  · exact Nat.dvd_mul_left_of_dvd (Nat.pow_dvd_pow 2 (lowestBit_mul_two_pow_le hlt place)) n
  · rw [← Nat.pow_add, lowestBit, Nat.log2_two_pow]
    exact Nat.pow_dvd_pow 2 (Nat.sub_le _ _)

/-- **Natural numbers up to `2^53` are doubles.** -/
theorem nearestUnits_of_le {n : Nat} (h : n ≤ 2 ^ 53) : nearestUnits n 1 = n * unitsPerOne := by
  have hdvd : 2 ^ lowestBit (n * unitsPerOne) ∣ n * unitsPerOne := two_pow_lowestBit_dvd h 1074
  rw [nearestUnits]
  simp only [Nat.div_one, Nat.one_mul, Nat.one_shiftLeft]
  generalize n * unitsPerOne = units at hdvd ⊢
  obtain ⟨k, hk⟩ := hdvd
  calc roundQuotient units (2 ^ lowestBit units) * 2 ^ lowestBit units
      = roundQuotient (k * 2 ^ lowestBit units) (2 ^ lowestBit units) * 2 ^ lowestBit units := by
        rw [Nat.mul_comm k, ← hk]
    _ = k * 2 ^ lowestBit units := by rw [roundQuotient_mul (Nat.two_pow_pos _)]
    _ = units := by rw [Nat.mul_comm, ← hk]

/-- A number below `2^53` is rounded below every greater number. -/
theorem nearestUnits_lt_of_lt {m n : Nat} (hm : m < 2 ^ 53) (h : m < n) :
    nearestUnits m 1 < nearestUnits n 1 := by
  have hone : 0 < unitsPerOne := by decide
  calc nearestUnits m 1
      = m * unitsPerOne := nearestUnits_of_le (Nat.le_of_lt hm)
    _ < (m + 1) * unitsPerOne := Nat.mul_lt_mul_of_pos_right (Nat.lt_succ_self m) hone
    _ = nearestUnits (m + 1) 1 := (nearestUnits_of_le hm).symm
    _ ≤ nearestUnits n 1 := nearestUnits_mono Nat.one_pos h

end Double

/-! ## Integers -/

namespace Number

/-- The integer that a number holds keeps its order when it is rounded. -/
theorem signedUnits_integer_mono {i j : Int} (hi : IntegerRange i) (hj : IntegerRange j)
    (h : i ≤ j) : (integer i hi).signedUnits ≤ (integer j hj).signedUnits := by
  have hmono : ∀ {a b : Nat}, a ≤ b → Double.nearestUnits a 1 ≤ Double.nearestUnits b 1 :=
    Double.nearestUnits_mono Nat.one_pos
  rw [signedUnits, signedUnits]
  split
  · split
    · have := hmono (show j.natAbs ≤ i.natAbs by omega)
      omega
    · omega
  · split
    · omega
    · have := hmono (show i.natAbs ≤ j.natAbs by omega)
      omega

/-- Two integers of which one is below `2^53` in magnitude are told apart when they are rounded. -/
theorem signedUnits_integer_lt {i j : Int} (hi : IntegerRange i) (hj : IntegerRange j)
    (hsmall : i.natAbs < 2 ^ 53 ∨ j.natAbs < 2 ^ 53) (h : i < j) :
    (integer i hi).signedUnits < (integer j hj).signedUnits := by
  have hstrict : ∀ {a b : Nat}, a < 2 ^ 53 → a < b →
      Double.nearestUnits a 1 < Double.nearestUnits b 1 := Double.nearestUnits_lt_of_lt
  rw [signedUnits, signedUnits]
  split
  · split
    · -- the greater of two negative integers has the smaller magnitude
      have := hstrict (show j.natAbs < 2 ^ 53 by omega) (show j.natAbs < i.natAbs by omega)
      omega
    · have := hstrict (show 0 < 2 ^ 53 by decide) (show 0 < i.natAbs by omega)
      omega
  · split
    · omega
    · have := hstrict (show i.natAbs < 2 ^ 53 by omega) (show i.natAbs < j.natAbs by omega)
      omega

end Number

end BucketQuery
