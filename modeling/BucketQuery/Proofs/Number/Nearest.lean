import BucketQuery.Proofs.Number.Exact
import BucketQuery.Proofs.Number.Rounding
import Mathlib.Algebra.Order.Field.Basic
import Mathlib.Algebra.Order.Group.Abs
import Mathlib.Tactic.Linarith

set_option autoImplicit false

/-! # The nearest double

Every number is compared as a double, and which one can be said without any rounding. The values of
finite doubles are the rationals `m * 2 ^ e` whose significand `m` has 53 bits and whose exponent
goes from -1074 to 971 (`Double.IsValue`). Of these an integer is compared as the nearest, and of
two that are equally near as the one with an even significand (`Double.IsNearest`). The key that is
compared counts the units of this value (`Number.roundsTo_iff`).

A magnitude lies between two neighbours on a grid with no value between them, one of which has an
even significand and the other an odd one. So exactly one of them is the nearest (`Neighbours`).
-/

namespace BucketQuery

namespace Double

/-! ## Values -/

/-- A rational has this significand: 53 bits, which a power of two puts into their place. -/
def HasSignificand (q : ℚ) (m : ℤ) : Prop :=
  m.natAbs < 2 ^ 53 ∧ ∃ e : ℤ, -1074 ≤ e ∧ e ≤ 971 ∧ q = m * 2 ^ e

/-- The values of finite doubles. -/
def IsValue (q : ℚ) : Prop := ∃ m, HasSignificand q m

/-- A value that can be written with an even significand. -/
def IsEven (q : ℚ) : Prop := ∃ m, Even m ∧ HasSignificand q m

/-- **The value of a double that is nearest to a rational.** Of two equally near ones it is the one
with an even significand. -/
structure IsNearest (x q : ℚ) : Prop where
  isValue : IsValue q
  nearest : ∀ r, IsValue r → |x - q| ≤ |x - r|
  even : ∀ r, IsValue r → r ≠ q → |x - r| = |x - q| → IsEven q

theorem HasSignificand.neg {q : ℚ} {m : ℤ} (h : HasSignificand q m) : HasSignificand (-q) (-m) := by
  obtain ⟨hbits, e, hlow, hhigh, rfl⟩ := h
  refine ⟨(Int.natAbs_neg m).symm ▸ hbits, e, hlow, hhigh, ?_⟩
  rw [Int.cast_neg, neg_mul]

theorem IsValue.neg {q : ℚ} (h : IsValue q) : IsValue (-q) :=
  h.imp' Neg.neg fun _ hm => hm.neg

theorem IsEven.neg {q : ℚ} (h : IsEven q) : IsEven (-q) :=
  h.imp' Neg.neg fun _ hm => ⟨hm.1.neg, hm.2.neg⟩

/-- Rounding does not see the sign. -/
theorem IsNearest.neg {x q : ℚ} (h : IsNearest x q) : IsNearest (-x) (-q) := by
  have hdist (r : ℚ) : |-x - -r| = |x - r| := by
    rw [neg_sub_neg, abs_sub_comm]
  have hdist' (r : ℚ) : |-x - r| = |x - -r| := by
    rw [← hdist, neg_neg]
  refine ⟨h.isValue.neg, fun r hr => ?_, fun r hr hne heq => ?_⟩
  · rw [hdist, hdist']
    exact h.nearest _ hr.neg
  · rw [hdist, hdist'] at heq
    exact (h.even _ hr.neg (fun hsame => hne (neg_eq_iff_eq_neg.mp hsame)) heq).neg

theorem isNearest_neg_iff {x q : ℚ} : IsNearest (-x) q ↔ IsNearest x (-q) := by
  constructor
  · intro h
    simpa using h.neg
  · intro h
    simpa using h.neg

/-! ## Neighbours -/

/-- A rational lies between two values that have no value between them. -/
structure Neighbours (low high x : ℚ) : Prop where
  isValue_low : IsValue low
  isValue_high : IsValue high
  low_le : low ≤ x
  le_high : x ≤ high
  gap : ∀ r, IsValue r → r ≤ low ∨ high ≤ r

namespace Neighbours

variable {low high x q r : ℚ}

theorem neg (h : Neighbours low high x) : Neighbours (-high) (-low) (-x) where
  isValue_low := h.isValue_high.neg
  isValue_high := h.isValue_low.neg
  low_le := neg_le_neg h.le_high
  le_high := neg_le_neg h.low_le
  gap _ hr := (h.gap _ hr.neg).symm.imp le_neg_of_le_neg neg_le_of_neg_le

theorem abs_sub_of_le_low (h : Neighbours low high x) (hr : r ≤ low) : |x - r| = x - r :=
  abs_of_nonneg (sub_nonneg.mpr (hr.trans h.low_le))

theorem abs_sub_of_high_le (h : Neighbours low high x) (hr : high ≤ r) : |x - r| = r - x := by
  rw [abs_sub_comm]
  exact abs_of_nonneg (sub_nonneg.mpr (h.le_high.trans hr))

/-- The nearest value is one of the two. -/
theorem eq_or_eq (h : Neighbours low high x) (hq : IsNearest x q) : q = low ∨ q = high := by
  rcases h.gap q hq.isValue with hlow | hhigh
  · have hnear := hq.nearest low h.isValue_low
    rw [h.abs_sub_of_le_low hlow, h.abs_sub_of_le_low le_rfl] at hnear
    exact .inl (le_antisymm hlow (by linarith))
  · have hnear := hq.nearest high h.isValue_high
    rw [h.abs_sub_of_high_le hhigh, h.abs_sub_of_high_le le_rfl] at hnear
    exact .inr (le_antisymm (by linarith) hhigh)

/-- The lower one is the nearest when it is nearer, or as near and even. -/
theorem isNearest_low (h : Neighbours low high x)
    (hnear : x - low < high - x ∨ x - low = high - x ∧ IsEven low) : IsNearest x low := by
  have hle : x - low ≤ high - x := hnear.elim le_of_lt fun htie => htie.1.le
  refine ⟨h.isValue_low, fun r hr => ?_, fun r hr hne htie => ?_⟩
  · rw [h.abs_sub_of_le_low le_rfl]
    rcases h.gap r hr with hlow | hhigh
    · rw [h.abs_sub_of_le_low hlow]
      linarith
    · rw [h.abs_sub_of_high_le hhigh]
      linarith
  · rw [h.abs_sub_of_le_low le_rfl] at htie
    rcases h.gap r hr with hlow | hhigh
    · rw [h.abs_sub_of_le_low hlow] at htie
      exact absurd (by linarith) hne
    · -- what is as near on the other side is the upper one, and then the lower one is even
      rw [h.abs_sub_of_high_le hhigh] at htie
      exact hnear.elim (fun hlt => absurd htie (by linarith)) And.right

/-- So is the upper one. -/
theorem isNearest_high (h : Neighbours low high x)
    (hnear : high - x < x - low ∨ high - x = x - low ∧ IsEven high) : IsNearest x high := by
  have hmirror : IsNearest (-x) (-high) := by
    refine h.neg.isNearest_low ?_
    rw [neg_sub_neg, neg_sub_neg]
    exact hnear.imp_right fun htie => ⟨htie.1, htie.2.neg⟩
  have hback := isNearest_neg_iff.mp hmirror
  rwa [neg_neg] at hback

/-- Two neighbours that are not both even do not both come nearest. -/
theorem unique (h : Neighbours low high x) (hparity : ¬ (IsEven low ∧ IsEven high))
    (hq : IsNearest x q) (hr : IsNearest x r) : q = r := by
  have hboth (hlow : IsNearest x low) (hhigh : IsNearest x high) : low = high := by
    by_contra hne
    have htie : |x - low| = |x - high| :=
      le_antisymm (hlow.nearest _ h.isValue_high) (hhigh.nearest _ h.isValue_low)
    exact hparity ⟨hlow.even _ h.isValue_high (Ne.symm hne) htie.symm,
      hhigh.even _ h.isValue_low hne htie⟩
  rcases h.eq_or_eq hq with rfl | rfl <;> rcases h.eq_or_eq hr with rfl | rfl
  · rfl
  · exact hboth hq hr
  · exact (hboth hr hq).symm
  · rfl

end Neighbours

/-! ## Grids -/

/-- A point of the grid at a place: a number of steps of `2 ^ place` units. -/
def gridPoint (steps : ℤ) (place : ℕ) : ℚ := (steps * 2 ^ place : ℤ) / unitsPerOne

theorem gridPoint_add (steps : ℤ) (place finer : ℕ) :
    gridPoint steps (place + finer) = gridPoint (steps * 2 ^ finer) place := by
  rw [gridPoint, gridPoint, Nat.add_comm, pow_add, mul_assoc]

theorem gridPoint_lt_iff {a b : ℤ} {place : ℕ} : gridPoint a place < gridPoint b place ↔ a < b := by
  have hone : (0 : ℚ) < unitsPerOne := Nat.cast_pos.mpr (by decide)
  have hstep : (0 : ℤ) < 2 ^ place := pow_pos two_pos place
  rw [gridPoint, gridPoint, div_lt_div_iff_of_pos_right hone, Int.cast_lt,
    Int.mul_lt_mul_right hstep]

theorem gridPoint_le_iff {a b : ℤ} {place : ℕ} : gridPoint a place ≤ gridPoint b place ↔ a ≤ b := by
  rw [← not_lt, gridPoint_lt_iff, not_lt]

theorem gridPoint_inj {a b : ℤ} {place : ℕ} : gridPoint a place = gridPoint b place ↔ a = b := by
  rw [le_antisymm_iff, gridPoint_le_iff, gridPoint_le_iff, ← le_antisymm_iff]

/-- What a magnitude is above the point below it. -/
theorem sub_floor {units floor rest place : ℕ} (h : 2 ^ place * floor + rest = units) :
    (units / unitsPerOne : ℚ) - gridPoint floor place = rest / unitsPerOne := by
  rw [gridPoint, ← sub_div, ← h]
  congr 1
  push_cast
  ring

/-- What it is below the next one. -/
theorem ceil_sub {units floor rest place : ℕ} (h : 2 ^ place * floor + rest = units) :
    gridPoint (floor + 1 : ℕ) place - (units / unitsPerOne : ℚ) =
      ((2 ^ place : ℕ) - rest) / unitsPerOne := by
  rw [gridPoint, ← sub_div, ← h]
  congr 1
  push_cast
  ring

theorem two_zpow_sub (m n : ℕ) : (2 : ℚ) ^ ((m : ℤ) - n) = 2 ^ m / 2 ^ n := by
  rw [zpow_sub₀ two_ne_zero, zpow_natCast, zpow_natCast]

/-- A value is a number of steps on some grid: its significand. -/
theorem hasSignificand_iff {q : ℚ} {m : ℤ} :
    HasSignificand q m ↔ m.natAbs < 2 ^ 53 ∧ ∃ place ≤ maxLowestBit, q = gridPoint m place := by
  have hpoint (place : ℕ) : gridPoint m place = m * 2 ^ ((place : ℤ) - (1074 : ℕ)) := by
    rw [gridPoint, two_zpow_sub, cast_unitsPerOne, Int.cast_mul, Int.cast_pow, Int.cast_ofNat,
      mul_div_assoc]
  refine and_congr_right fun _ => ?_
  constructor
  · rintro ⟨e, hlow, hhigh, rfl⟩
    obtain ⟨place, hplace⟩ := Int.eq_ofNat_of_zero_le (show 0 ≤ e + 1074 by omega)
    refine ⟨place, by rw [maxLowestBit]; omega, ?_⟩
    rw [hpoint, show (place : ℤ) - (1074 : ℕ) = e by omega]
  · rintro ⟨place, hplace, rfl⟩
    rw [maxLowestBit] at hplace
    exact ⟨_, by omega, by omega, hpoint place⟩

/-- Up to `2^53` steps from zero the points of a grid are values, and even ones after an even number
of steps. -/
theorem exists_significand {steps place : ℕ} (hsteps : steps ≤ 2 ^ 53)
    (hplace : place < maxLowestBit) :
    ∃ m, HasSignificand (gridPoint steps place) m ∧ (Even steps → Even m) := by
  rcases Nat.lt_or_eq_of_le hsteps with hlt | rfl
  · exact ⟨steps, hasSignificand_iff.mpr ⟨hlt, place, hplace.le, rfl⟩, (Int.even_coe_nat steps).mpr⟩
  · -- one bit too many, but the lowest of them is zero
    refine ⟨2 ^ 52, hasSignificand_iff.mpr ⟨by decide, place + 1, hplace, ?_⟩, fun _ => by decide⟩
    rw [gridPoint_add]
    rfl

theorem isValue_gridPoint {steps place : ℕ} (hsteps : steps ≤ 2 ^ 53)
    (hplace : place < maxLowestBit) : IsValue (gridPoint steps place) :=
  (exists_significand hsteps hplace).imp fun _ hm => hm.1

theorem isEven_gridPoint {steps place : ℕ} (hsteps : steps ≤ 2 ^ 53)
    (hplace : place < maxLowestBit) (heven : Even steps) : IsEven (gridPoint steps place) :=
  (exists_significand hsteps hplace).imp fun _ hm => ⟨hm.2 heven, hm.1⟩

/-- A value lies on the grid, or it needs a finer one and lies below all points with 53 bits. -/
theorem on_grid_or_below {m : ℤ} (hbits : m.natAbs < 2 ^ 53) (here place : ℕ) :
    (∃ steps, gridPoint m here = gridPoint steps place ∧ (Even m → Even steps)) ∨
      place ≠ 0 ∧ ∀ steps, 2 ^ 52 ≤ steps → gridPoint m here < gridPoint steps place := by
  rcases Nat.lt_or_ge here place with hlt | hge
  · obtain ⟨finer, rfl⟩ := Nat.exists_eq_add_of_lt hlt
    refine .inr ⟨Nat.succ_ne_zero _, fun steps hsteps => ?_⟩
    rw [Nat.add_assoc, gridPoint_add, gridPoint_lt_iff]
    calc m < 2 ^ 53 := by omega
      _ = 2 ^ 52 * 2 ^ 1 := by decide
      _ ≤ steps * 2 ^ (finer + 1) := by gcongr <;> omega
  · obtain ⟨finer, rfl⟩ := Nat.exists_eq_add_of_le hge
    exact .inl ⟨m * 2 ^ finer, gridPoint_add _ _ _, fun heven => heven.mul_right _⟩

/-- Where a grid is not finer than the values, none lies between two of its points. -/
theorem le_or_le_of_isValue {steps : ℤ} {place : ℕ} (hfine : place = 0 ∨ 2 ^ 52 ≤ steps) {r : ℚ}
    (hr : IsValue r) : r ≤ gridPoint steps place ∨ gridPoint (steps + 1) place ≤ r := by
  obtain ⟨m, hm⟩ := hr
  obtain ⟨hbits, here, -, rfl⟩ := hasSignificand_iff.mp hm
  rcases on_grid_or_below hbits here place with ⟨points, hpoints, -⟩ | ⟨hne, hbelow⟩
  · rw [hpoints, gridPoint_le_iff, gridPoint_le_iff]
    omega
  · exact .inl (hbelow steps (hfine.resolve_left hne)).le

/-- There the even values are an even number of steps from zero. -/
theorem even_of_isEven {steps : ℤ} {place : ℕ} (hfine : place = 0 ∨ 2 ^ 52 ≤ steps)
    (h : IsEven (gridPoint steps place)) : Even steps := by
  obtain ⟨m, heven, hm⟩ := h
  obtain ⟨hbits, here, -, hpoint⟩ := hasSignificand_iff.mp hm
  rcases on_grid_or_below hbits here place with ⟨points, hpoints, hparity⟩ | ⟨hne, hbelow⟩
  · rw [gridPoint_inj.mp (hpoint.trans hpoints)]
    exact hparity heven
  · exact absurd hpoint (hbelow steps (hfine.resolve_left hne)).ne'

/-- A magnitude is below `2^53` steps of its lowest bit. -/
theorem div_lowestBit_lt (units : ℕ) : units / 2 ^ lowestBit units < 2 ^ 53 := by
  rw [Nat.div_lt_iff_lt_mul (Nat.two_pow_pos _), ← Nat.pow_add]
  exact lt_two_pow_lowestBit units

/-- The magnitude of a double is a value. -/
theorem isValue_units (d : Double) : IsValue (d.units / unitsPerOne) := by
  obtain ⟨hdvd, hplace⟩ := d.representable
  rw [Nat.one_shiftLeft] at hdvd
  refine ⟨(d.units / 2 ^ lowestBit d.units : ℕ), hasSignificand_iff.mpr
    ⟨div_lowestBit_lt d.units, lowestBit d.units, hplace, sub_eq_zero.mp ?_⟩⟩
  rw [sub_floor (Nat.div_add_mod _ _), hdvd, Nat.cast_zero, zero_div]

/-- **The values are those of the doubles.** -/
theorem isValue_iff {q : ℚ} : IsValue q ↔ ∃ d : Double, d.exact = q := by
  constructor
  · rintro ⟨m, hm⟩
    obtain ⟨hbits, place, hplace, rfl⟩ := hasSignificand_iff.mp hm
    have hlow := lowestBit_mul_two_pow_le hbits place
    have hrepresentable : Representable (m.natAbs * 2 ^ place) := by
      refine ⟨?_, hlow.trans hplace⟩
      rw [Nat.one_shiftLeft]
      exact Nat.mod_eq_zero_of_dvd (Nat.dvd_mul_left_of_dvd (Nat.pow_dvd_pow 2 hlow) _)
    refine ⟨⟨decide (m < 0), _, hrepresentable⟩, ?_⟩
    rw [exact_eq_div, gridPoint, signedUnits, Nat.cast_mul, Nat.cast_pow, Nat.cast_ofNat]
    congr 2
    rcases lt_or_ge m 0 with hneg | hpos
    · rw [if_pos (decide_eq_true hneg), ← neg_mul, Int.ofNat_natAbs_of_nonpos hneg.le, neg_neg]
    · rw [if_neg (by simpa using hpos), Int.natAbs_of_nonneg hpos]
  · rintro ⟨d, rfl⟩
    rw [exact_eq_div, signedUnits]
    split
    · rw [Int.cast_neg, Int.cast_natCast, neg_div]
      exact d.isValue_units.neg
    · rw [Int.cast_natCast]
      exact d.isValue_units

/-! ## Rounding -/

/-- A magnitude is at least `2^52` steps of its lowest bit from zero, or the bit is one unit. -/
theorem lowestBit_eq_zero_or (units : ℕ) :
    lowestBit units = 0 ∨ 2 ^ 52 ≤ units / 2 ^ lowestBit units := by
  rcases Nat.eq_zero_or_pos (lowestBit units) with hzero | hpos
  · exact .inl hzero
  · refine .inr ((Nat.le_div_iff_mul_le (Nat.two_pow_pos _)).mpr ?_)
    rw [← Nat.pow_add]
    exact two_pow_lowestBit_le hpos

/-- A magnitude that is not too large lies between two neighbours on the grid of its lowest bit. -/
theorem neighbours {units : ℕ} (h : lowestBit units < maxLowestBit) :
    Neighbours (gridPoint (units / 2 ^ lowestBit units : ℕ) (lowestBit units))
      (gridPoint (units / 2 ^ lowestBit units + 1 : ℕ) (lowestBit units))
      (units / unitsPerOne) where
  isValue_low := isValue_gridPoint (div_lowestBit_lt units).le h
  isValue_high := isValue_gridPoint (div_lowestBit_lt units) h
  low_le := by
    rw [← sub_nonneg, sub_floor (Nat.div_add_mod _ _)]
    exact div_nonneg (Nat.cast_nonneg _) (Nat.cast_nonneg _)
  le_high := by
    have hrest := (Nat.mod_lt units (Nat.two_pow_pos (lowestBit units))).le
    rw [← sub_nonneg, ceil_sub (Nat.div_add_mod _ _)]
    exact div_nonneg (sub_nonneg.mpr (Nat.cast_le.mpr hrest)) (Nat.cast_nonneg _)
  gap _ := le_or_le_of_isValue ((lowestBit_eq_zero_or units).imp_right Int.ofNat_le.mpr)

/-- The rest decides which of the two points is nearer. -/
theorem nearer_iff {units floor rest place : ℕ} (h : 2 ^ place * floor + rest = units)
    (hrest : rest ≤ 2 ^ place) :
    let below := (units / unitsPerOne : ℚ) - gridPoint floor place
    let above := gridPoint (floor + 1 : ℕ) place - (units / unitsPerOne : ℚ)
    (below < above ↔ 2 * rest < 2 ^ place) ∧ (above < below ↔ 2 ^ place < 2 * rest) ∧
      (below = above ↔ 2 * rest = 2 ^ place) := by
  have hone : (0 : ℚ) < unitsPerOne := Nat.cast_pos.mpr (by decide)
  dsimp only
  rw [sub_floor h, ceil_sub h, div_lt_div_iff_of_pos_right hone, div_lt_div_iff_of_pos_right hone,
    div_left_inj' hone.ne', ← Nat.cast_sub hrest, Nat.cast_lt, Nat.cast_lt, Nat.cast_inj]
  omega

/-- **Rounding a magnitude finds the nearest value.** -/
theorem isNearest_roundQuotient {units : ℕ} (h : lowestBit units < maxLowestBit) :
    IsNearest (units / unitsPerOne)
      (gridPoint (roundQuotient units (2 ^ lowestBit units) : ℕ) (lowestBit units)) := by
  have hbetween := neighbours h
  have hfloor := div_lowestBit_lt units
  have hrest := (Nat.mod_lt units (Nat.two_pow_pos (lowestBit units))).le
  obtain ⟨hlow, hhigh, htie⟩ := nearer_iff (Nat.div_add_mod _ _) hrest
  rw [roundQuotient]
  split
  · next hup =>
    refine hbetween.isNearest_high (hup.imp hhigh.mpr ?_)
    rintro ⟨hhalf, hodd⟩
    refine ⟨(htie.mpr hhalf).symm, isEven_gridPoint hfloor h ?_⟩
    exact Nat.even_add_one.mpr (Nat.not_even_iff.mpr hodd)
  · next hdown =>
    refine hbetween.isNearest_low ?_
    obtain ⟨hless, hodd⟩ := not_or.mp hdown
    rcases Nat.lt_or_eq_of_le (not_lt.mp hless) with hlt | hhalf
    · exact .inl (hlow.mpr hlt)
    · refine .inr ⟨htie.mpr hhalf, isEven_gridPoint hfloor.le h ?_⟩
      exact Nat.even_iff.mpr (Nat.mod_two_ne_one.mp fun hone => hodd ⟨hhalf, hone⟩)

/-- **No other value is the nearest.** -/
theorem isNearest_iff {units : ℕ} (h : lowestBit units < maxLowestBit) (q : ℚ) :
    IsNearest (units / unitsPerOne) q ↔
      q = gridPoint (roundQuotient units (2 ^ lowestBit units) : ℕ) (lowestBit units) := by
  have hfine := lowestBit_eq_zero_or units
  constructor
  · intro hq
    refine (neighbours h).unique ?_ hq (isNearest_roundQuotient h)
    rintro ⟨hlow, hhigh⟩
    have hfloor := even_of_isEven (hfine.imp_right Int.ofNat_le.mpr) hlow
    have hceil := even_of_isEven
      (hfine.imp_right fun hle => Int.ofNat_le.mpr (Nat.le_succ_of_le hle)) hhigh
    rw [Int.even_coe_nat] at hfloor hceil
    exact Nat.even_add_one.mp hceil hfloor
  · rintro rfl
    exact isNearest_roundQuotient h

theorem lowestBit_mul_shiftLeft_le {n : ℕ} (h : n ≤ 2 ^ 64) (place : ℕ) :
    lowestBit (n * 1 <<< place) ≤ 12 + place := by
  have hmul : n * 1 <<< place ≤ 2 ^ (64 + place) := by
    rw [Nat.one_shiftLeft, Nat.pow_add]
    exact Nat.mul_le_mul_right _ h
  have hmono := lowestBit_mono hmul
  rw [lowestBit, lowestBit, Nat.log2_two_pow] at hmono
  rw [lowestBit]
  omega

/-- The integers that a document holds are far below the largest double. -/
theorem lowestBit_mul_unitsPerOne_lt {n : ℕ} (h : n ≤ 2 ^ 64) :
    lowestBit (n * unitsPerOne) < maxLowestBit :=
  (lowestBit_mul_shiftLeft_le h 1074).trans_lt (by decide)

/-- **The double that a natural number is rounded to is the nearest.** -/
theorem isNearest_natCast_iff {n : ℕ} (h : n ≤ 2 ^ 64) (q : ℚ) :
    IsNearest n q ↔ q = nearestUnits n 1 / unitsPerOne := by
  have hunits : (n : ℚ) = (n * unitsPerOne : ℕ) / unitsPerOne := by
    rw [Nat.cast_mul, mul_div_cancel_right₀ _ unitsPerOne_ne_zero]
  rw [hunits, isNearest_iff (lowestBit_mul_unitsPerOne_lt h), nearestUnits, gridPoint]
  simp only [Nat.div_one, Nat.one_mul, Nat.one_shiftLeft]
  generalize roundQuotient _ _ = steps
  generalize lowestBit _ = place
  push_cast
  rfl

end Double

/-! ## Numbers -/

namespace Number

/-- **The value that a number is compared as.** A double has its exact value, an integer that of the
nearest double. -/
inductive RoundsTo : Number → ℚ → Prop where
  | integer {i : Int} (hi : IntegerRange i) {q : ℚ} (h : Double.IsNearest i q) :
    RoundsTo (.integer i hi) q
  | double (d : Double) : RoundsTo (.double d) d.exact

theorem roundsTo_integer_iff {i : Int} {hi : IntegerRange i} {q : ℚ} :
    (integer i hi).RoundsTo q ↔ Double.IsNearest i q := by
  constructor
  · rintro ⟨_, h⟩
    exact h
  · exact .integer hi

theorem roundsTo_double_iff {d : Double} {q : ℚ} : (double d).RoundsTo q ↔ q = d.exact := by
  constructor
  · rintro ⟨⟩
    rfl
  · rintro rfl
    exact .double d

/-- **The key that is compared counts the units of this value.** -/
theorem roundsTo_iff {n : Number} {q : ℚ} :
    n.RoundsTo q ↔ q = n.signedUnits / Double.unitsPerOne := by
  cases n with
  | integer i hi =>
      have hmagnitude : i.natAbs ≤ 2 ^ 64 := by
        obtain ⟨hlow, hhigh⟩ := hi
        omega
      rw [roundsTo_integer_iff, signedUnits]
      split
      · next hneg =>
        have habs : (i : ℚ) = -(i.natAbs : ℚ) := by
          rw [Nat.cast_natAbs, abs_of_neg hneg, Int.cast_neg, neg_neg]
        rw [habs, Double.isNearest_neg_iff, Double.isNearest_natCast_iff hmagnitude,
          neg_eq_iff_eq_neg, Int.cast_neg, Int.cast_natCast, neg_div]
      · next hpos =>
        have habs : (i : ℚ) = (i.natAbs : ℚ) := by
          rw [Nat.cast_natAbs, abs_of_nonneg (not_lt.mp hpos)]
        rw [habs, Double.isNearest_natCast_iff hmagnitude, Int.cast_natCast]
  | double d => rw [roundsTo_double_iff, signedUnits, Double.exact_eq_div]

theorem roundsTo_of_signedUnits {n : Number} {i : ℕ} (h : n.signedUnits = i * Double.unitsPerOne) :
    n.RoundsTo i := by
  rw [roundsTo_iff, h, Int.cast_mul, Int.cast_natCast, Int.cast_natCast,
    mul_div_cancel_right₀ _ Double.unitsPerOne_ne_zero]

/-- Every number has such a value, and only one. -/
theorem existsUnique_roundsTo (n : Number) : ∃! q, n.RoundsTo q :=
  ⟨_, roundsTo_iff.mpr rfl, fun _ h => roundsTo_iff.mp h⟩

end Number

end BucketQuery
