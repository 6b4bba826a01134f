import BucketQuery.Query.Page
import Mathlib.Algebra.Order.Floor.Div

set_option autoImplicit false

/-! # Page arithmetic

The words of a request and of a page stand for the numbers one expects: the product of an index and
a size fits, the number of pages is the quotient rounded up, and `hasNext` compares the end of the
page with the number of all matches.
-/

namespace BucketQuery

/-- A size that is not zero is a positive number. -/
theorem toNat_size_pos {size : UInt32} (h : 0 < size) : 0 < size.toNat :=
  UInt32.lt_iff_toNat_lt.mp h

/-- The product of two 32-bit words is a 64-bit word. -/
theorem PageRequest.toNat_offset_ofIndex (page size : UInt32) (sort : List Order) :
    (ofIndex page size sort).offset.toNat = page.toNat * size.toNat := by
  have hpage := page.toNat_lt
  have hsize := size.toNat_lt
  have hfits : page.toNat * size.toNat < 2 ^ 64 := by
    calc page.toNat * size.toNat < 2 ^ 32 * 2 ^ 32 := Nat.mul_lt_mul'' hpage hsize
      _ = 2 ^ 64 := rfl
  rw [ofIndex, UInt64.toNat_mul, UInt32.toNat_toUInt64, UInt32.toNat_toUInt64, Nat.mul_comm,
    Nat.mod_eq_of_lt hfits]

/-- As many pages can be filled as the size goes into the total. -/
theorem toNat_div_size (total : UInt64) (size : UInt32) :
    (total / size.toUInt64).toNat = total.toNat / size.toNat := by
  rw [UInt64.toNat_div, UInt32.toNat_toUInt64]

theorem mod_size_eq_zero_iff {total : UInt64} {size : UInt32} :
    total % size.toUInt64 = 0 ↔ size.toNat ∣ total.toNat := by
  rw [← UInt64.toNat_inj, UInt64.toNat_mod, UInt32.toNat_toUInt64, UInt64.toNat_zero,
    Nat.dvd_iff_mod_eq_zero]

/-- A rest that fills no page can be counted as a page of its own. -/
theorem toNat_div_size_add_one {total : UInt64} {size : UInt32} (h : 0 < size)
    (hrest : total % size.toUInt64 ≠ 0) :
    (total / size.toUInt64 + 1).toNat = total.toNat / size.toNat + 1 := by
  have hbound := total.toNat_lt
  -- the filled pages fall short of the total, so adding one to their number cannot wrap
  have hshort : total.toNat / size.toNat < total.toNat := by
    refine Nat.lt_of_le_of_lt (Nat.le_mul_of_pos_right _ (toNat_size_pos h)) ?_
    refine Nat.lt_of_le_of_ne (Nat.div_mul_le_self _ _) fun heq => ?_
    exact hrest (mod_size_eq_zero_iff.mpr ⟨_, heq.symm.trans (Nat.mul_comm _ _)⟩)
  rw [UInt64.toNat_add, toNat_div_size, UInt64.toNat_one, Nat.mod_eq_of_lt (by omega)]

/-- The index of a page is a quotient of numbers; nothing is left of it when pages are empty. -/
theorem PageRequest.toNat_pageNumber (request : PageRequest) :
    request.pageNumber.toNat = request.offset.toNat / request.size.toNat := by
  rw [pageNumber]
  split
  · next hzero =>
    rw [hzero, UInt32.toNat_zero, Nat.div_zero]
    rfl
  · exact toNat_div_size _ _

/-- A number of pages is enough when their sizes add up to the total. -/
theorem pagesFor_le_iff (total : UInt64) {size : UInt32} (h : 0 < size) (m : Nat) :
    (pagesFor total size).toNat ≤ m ↔ total.toNat ≤ m * size.toNat := by
  have hpos := toNat_size_pos h
  have hne : size ≠ 0 := (UInt32.ne_of_lt h).symm
  rw [pagesFor, if_neg hne]
  by_cases hrest : total % size.toUInt64 = 0
  · rw [if_pos hrest, toNat_div_size, ← Nat.mul_le_mul_right_iff hpos,
      Nat.div_mul_cancel (mod_size_eq_zero_iff.mp hrest)]
  · have hexact : total.toNat ≠ m * size.toNat := by
      intro heq
      exact hrest (mod_size_eq_zero_iff.mpr ⟨m, heq.trans (Nat.mul_comm _ _)⟩)
    rw [if_neg hrest, toNat_div_size_add_one h hrest, Nat.succ_le_iff, Nat.div_lt_iff_lt_mul hpos]
    omega

/-- The pages before a page leave some of the total for it when there is such a page. -/
theorem lt_pagesFor_iff (total : UInt64) {size : UInt32} (h : 0 < size) (m : Nat) :
    m < (pagesFor total size).toNat ↔ m * size.toNat < total.toNat := by
  rw [← Nat.not_le, pagesFor_le_iff total h, Nat.not_le]

/-- The number of pages is the quotient rounded up. -/
theorem toNat_pagesFor (total : UInt64) {size : UInt32} (h : 0 < size) :
    (pagesFor total size).toNat = total.toNat ⌈/⌉ size.toNat := by
  refine eq_of_forall_ge_iff fun m => ?_
  rw [pagesFor_le_iff total h, ceilDiv_le_iff_le_mul (toNat_size_pos h), Nat.mul_comm]

/-- Matches remain after a page when its end comes before their number. -/
theorem Page.hasNext_iff {α : Type} {page : Page α}
    (h : page.info.offset.toNat + page.content.length < 2 ^ 64) :
    page.hasNext = true ↔
      page.info.offset.toNat + page.content.length < page.info.totalElements.toNat := by
  rw [hasNext, decide_eq_true_iff, UInt64.lt_iff_toNat_lt, UInt64.toNat_add,
    UInt64.toNat_ofNat_of_lt' (Nat.lt_of_le_of_lt (Nat.le_add_left _ _) h), Nat.mod_eq_of_lt h]

end BucketQuery
