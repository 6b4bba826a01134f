import BucketQuery.Proofs.Query.Page
import Mathlib.Order.Bounds.Basic

set_option autoImplicit false

/-! # Checked page arithmetic

The arithmetic of pages is done on words. Here each of its steps is checked: a product or a sum that
is no word and a division by zero give nothing (`Checked`). No step of it ever gives nothing, and the
results are those of the arithmetic on words (`PageMeta.ofChecked_eq`). So the words stand for the
numbers that one expects, and the pages that are counted cover every row once
(`PageMeta.pages_exact`).
-/

namespace BucketQuery

/-! ## Checked steps -/

namespace Checked

/-- The word of a number, unless the number is too large for one. -/
def word (n : Nat) : Option UInt64 := if n < 2 ^ 64 then some (.ofNat n) else none

/-! A sum and a product that fit, and a quotient and a rest by a divisor that is not zero. -/

def add (a b : UInt64) : Option UInt64 := word (a.toNat + b.toNat)

def mul (a b : UInt64) : Option UInt64 := word (a.toNat * b.toNat)

def div (a b : UInt64) : Option UInt64 := if b = 0 then none else some (a / b)

def mod (a b : UInt64) : Option UInt64 := if b = 0 then none else some (a % b)

theorem word_eq_some_iff {n : Nat} {w : UInt64} : word n = some w ↔ w.toNat = n := by
  rw [word]
  split
  · next hfits =>
    rw [Option.some_inj, ← UInt64.toNat_inj, UInt64.toNat_ofNat_of_lt' hfits]
    exact eq_comm
  · next hlarge =>
    refine iff_of_false nofun ?_
    rintro rfl
    exact hlarge w.toNat_lt

end Checked

/-- The page with this index, its offset computed with checks. -/
def PageRequest.ofIndexChecked (page size : UInt32) (sort : List Order) : Option PageRequest :=
  (Checked.mul size.toUInt64 page.toUInt64).map fun offset => ⟨size, offset, sort⟩

/-- The index of the page that the first row lies on, computed with checks. -/
def PageRequest.pageNumberChecked (request : PageRequest) : Option UInt64 :=
  if request.size = 0 then some 0 else Checked.div request.offset request.size.toUInt64

/-- How many pages of a size hold a number of elements, computed with checks. -/
def pagesForChecked (total : UInt64) (size : UInt32) : Option UInt64 :=
  if size = 0 then some 0
  else
    (Checked.mod total size.toUInt64).bind fun rest =>
      (Checked.div total size.toUInt64).bind fun whole =>
        if rest = 0 then some whole else Checked.add whole 1

/-- What the request and the number of all matches say about a page, computed with checks. -/
def PageMeta.ofChecked (request : PageRequest) (total : UInt64) : Option PageMeta :=
  request.pageNumberChecked.bind fun page =>
    (pagesForChecked total request.size).map fun pages =>
      ⟨page, request.size, request.offset, total, pages⟩

/-! ## Nothing overflows -/

theorem toUInt64_size_ne_zero {size : UInt32} (h : size ≠ 0) : size.toUInt64 ≠ 0 := by
  intro hzero
  refine h (UInt32.toNat_inj.mp ?_)
  rw [← UInt32.toNat_toUInt64, hzero]
  rfl

/-- The offset of a page given by its index fits. -/
theorem PageRequest.ofIndexChecked_eq (page size : UInt32) (sort : List Order) :
    ofIndexChecked page size sort = some (ofIndex page size sort) := by
  have hfits : Checked.mul size.toUInt64 page.toUInt64 =
      some (ofIndex page size sort).offset := by
    rw [Checked.mul, Checked.word_eq_some_iff, toNat_offset_ofIndex, UInt32.toNat_toUInt64,
      UInt32.toNat_toUInt64, Nat.mul_comm]
  rw [ofIndexChecked, hfits]
  rfl

theorem PageRequest.pageNumberChecked_eq (request : PageRequest) :
    request.pageNumberChecked = some request.pageNumber := by
  rw [pageNumberChecked, pageNumber]
  split
  · rfl
  · next hsize => rw [Checked.div, if_neg (toUInt64_size_ne_zero hsize)]

theorem pagesForChecked_eq (total : UInt64) (size : UInt32) :
    pagesForChecked total size = some (pagesFor total size) := by
  rw [pagesForChecked, pagesFor]
  split
  · rfl
  · next hsize =>
    have hpos : 0 < size := UInt32.pos_iff_ne_zero.mpr hsize
    have hne := toUInt64_size_ne_zero hsize
    rw [Checked.mod, Checked.div, if_neg hne, if_neg hne, Option.bind_some, Option.bind_some]
    split
    · rfl
    · next hrest =>
      rw [Checked.add, Checked.word_eq_some_iff, toNat_div_size_add_one hpos hrest, toNat_div_size,
        UInt64.toNat_one]

/-- **No step overflows or divides by zero**, whatever is requested and however much there is. -/
theorem PageMeta.ofChecked_eq (request : PageRequest) (total : UInt64) :
    PageMeta.ofChecked request total = some (.of request total) := by
  rw [ofChecked, PageRequest.pageNumberChecked_eq, pagesForChecked_eq]
  rfl

/-! ## Rows and pages -/

/-- The page of this index holds the row: it starts at the row or before and ends after it. -/
def OnPage (size page row : Nat) : Prop := page * size ≤ row ∧ row < (page + 1) * size

/-- A row lies on one page. -/
theorem onPage_iff {size : Nat} (h : 0 < size) {page row : Nat} :
    OnPage size page row ↔ page = row / size := by
  rw [OnPage, ← Nat.le_div_iff_mul_le h, ← Nat.div_lt_iff_lt_mul h]
  omega

theorem PageRequest.pageNumber_ofIndex {size : UInt32} (h : 0 < size) (page : UInt32)
    (sort : List Order) : (ofIndex page size sort).pageNumber = page.toUInt64 := by
  rw [← UInt64.toNat_inj, toNat_pageNumber, toNat_offset_ofIndex, UInt32.toNat_toUInt64]
  exact Nat.mul_div_cancel _ (toNat_size_pos h)

theorem isLeast_pagesFor (total : UInt64) {size : UInt32} (h : 0 < size) :
    IsLeast {m : ℕ | total.toNat ≤ m * size.toNat} (pagesFor total size).toNat :=
  ⟨(pagesFor_le_iff total h _).mp (Nat.le_refl _), fun _ hm => (pagesFor_le_iff total h _).mpr hm⟩

/-- **The arithmetic of pages is exact**, for all words. The offset of a page is the product of its
index and the size, and gives the index back. What is known about a page is computed without an
overflow and without a division by zero; empty pages are not counted. Pages that are not empty hold
the offset on the page of the request; as few of them are counted as hold the total, and each row
lies on exactly one page, which is counted. -/
theorem PageMeta.pages_exact :
    (∀ (page size : UInt32) (sort : List Order),
      PageRequest.ofIndexChecked page size sort = some (.ofIndex page size sort) ∧
      (PageRequest.ofIndex page size sort).offset.toNat = size.toNat * page.toNat ∧
      (0 < size → (PageRequest.ofIndex page size sort).pageNumber = page.toUInt64)) ∧
    ∀ (request : PageRequest) (total : UInt64),
      request.pageNumberChecked = some request.pageNumber ∧
      PageMeta.ofChecked request total = some (.of request total) ∧
      (request.size = 0 →
        (PageMeta.of request total).page = 0 ∧ (PageMeta.of request total).totalPages = 0) ∧
      (0 < request.size →
        OnPage request.size.toNat request.pageNumber.toNat request.offset.toNat ∧
        IsLeast {m : ℕ | total.toNat ≤ m * request.size.toNat}
          (PageMeta.of request total).totalPages.toNat ∧
        ∀ row < total.toNat,
          row / request.size.toNat < (PageMeta.of request total).totalPages.toNat ∧
          ∀ page, OnPage request.size.toNat page row ↔ page = row / request.size.toNat) := by
  refine ⟨fun page size sort => ⟨?_, ?_, ?_⟩, fun request total => ⟨?_, ?_, ?_, fun hsize => ?_⟩⟩
  · exact PageRequest.ofIndexChecked_eq page size sort
  · rw [PageRequest.toNat_offset_ofIndex, Nat.mul_comm]
  · exact fun hsize => PageRequest.pageNumber_ofIndex hsize page sort
  · exact request.pageNumberChecked_eq
  · exact ofChecked_eq request total
  · intro hsize
    rw [of, PageRequest.pageNumber, pagesFor, if_pos hsize, if_pos hsize]
    exact ⟨rfl, rfl⟩
  · have hpos := toNat_size_pos hsize
    refine ⟨?_, isLeast_pagesFor total hsize, fun row hrow => ⟨?_, fun page => onPage_iff hpos⟩⟩
    · rw [onPage_iff hpos, PageRequest.toNat_pageNumber]
    · show row / request.size.toNat < (pagesFor total request.size).toNat
      rw [lt_pagesFor_iff total hsize]
      exact Nat.lt_of_le_of_lt (Nat.div_mul_le_self _ _) hrow

/-- At the ends of the words: the last page of the largest size starts where it should; of the most
rows that there can be, three on a page, the last one lies on the last page; and empty pages are not
counted. -/
theorem PageMeta.pages_exact_largest :
    (0 : UInt32) < 4294967295 ∧
    (PageRequest.ofIndex 4294967295 4294967295 []).offset.toNat = 4294967295 * 4294967295 ∧
    (PageRequest.ofIndex 4294967295 4294967295 []).pageNumber = 4294967295 ∧
    (0 : UInt32) < 3 ∧ 18446744073709551614 < (18446744073709551615 : UInt64).toNat ∧
    18446744073709551614 / 3 <
      (PageMeta.of ⟨3, 18446744073709551614, []⟩ 18446744073709551615).totalPages.toNat ∧
    OnPage 3 6148914691236517204 18446744073709551614 ∧
    (PageMeta.of ⟨0, 18446744073709551615, []⟩ 18446744073709551615).totalPages = 0 := by
  obtain ⟨hindex, hmeta⟩ := pages_exact
  obtain ⟨-, hoffset, hpage⟩ := hindex 4294967295 4294967295 []
  obtain ⟨-, -, -, hcounted⟩ := hmeta ⟨3, 18446744073709551614, []⟩ 18446744073709551615
  obtain ⟨-, -, hrows⟩ := hcounted (by decide)
  obtain ⟨hlast, honly⟩ := hrows 18446744073709551614 (by decide)
  obtain ⟨-, -, hempty, -⟩ := hmeta ⟨0, 18446744073709551615, []⟩ 18446744073709551615
  exact ⟨by decide, hoffset, hpage (by decide), by decide, by decide, hlast,
    (honly _).mpr (by decide), (hempty rfl).2⟩

end BucketQuery
