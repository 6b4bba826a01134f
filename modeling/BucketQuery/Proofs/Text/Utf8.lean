set_option autoImplicit false

/-! # Texts as bytes

Ids are compared character by character. This file shows that this is the order of their UTF-8
encodings, byte by byte (`compare_eq_lt_iff_utf8`). Of two encodings of different lengths the
longer one starts with the greater byte; those of one length are the digits of the code point to
the base 64 and compare as numbers do.
-/

namespace BucketQuery

/-- The UTF-8 encoding of a text. -/
def utf8 (text : String) : List UInt8 := text.toUTF8.data.toList

theorem utf8_eq_flatMap (text : String) :
    utf8 text = text.toList.flatMap String.utf8EncodeChar := by
  unfold utf8
  rw [String.toUTF8_eq_toByteArray, ← String.utf8Encode_toList]
  exact List.toList_data_toByteArray

/-! ## One character -/

/-- The encodings of the code point `v`, by length. -/
inductive Utf8Form (v : Nat) : List UInt8 → Prop where
  | one (below : v < 0x80) : Utf8Form v [.ofNat v]
  | two (least : 0x80 ≤ v) (below : v < 0x800) :
    Utf8Form v [.ofNat (v / 64 % 32 + 192), .ofNat (v % 64 + 128)]
  | three (least : 0x800 ≤ v) (below : v < 0x10000) :
    Utf8Form v
      [.ofNat (v / 4096 % 16 + 224), .ofNat (v / 64 % 64 + 128), .ofNat (v % 64 + 128)]
  | four (least : 0x10000 ≤ v) (below : v < 0x110000) :
    Utf8Form v
      [.ofNat (v / 262144 % 8 + 240), .ofNat (v / 4096 % 64 + 128), .ofNat (v / 64 % 64 + 128),
        .ofNat (v % 64 + 128)]

theorem utf8Form_utf8EncodeChar (c : Char) : Utf8Form c.toNat (String.utf8EncodeChar c) := by
  have hmax : c.val.toNat < 0x110000 := by
    have := c.valid
    simp only [UInt32.isValidChar, Nat.isValidChar] at this
    omega
  show Utf8Form c.val.toNat _
  unfold String.utf8EncodeChar
  dsimp only
  by_cases h1 : c.val.toNat ≤ 0x7f
  · rw [if_pos h1]
    exact .one (by omega)
  by_cases h2 : c.val.toNat ≤ 0x7ff
  · rw [if_neg h1, if_pos h2]
    exact .two (by omega) (by omega)
  by_cases h3 : c.val.toNat ≤ 0xffff
  · rw [if_neg h1, if_neg h2, if_pos h3]
    exact .three (by omega) (by omega)
  · rw [if_neg h1, if_neg h2, if_neg h3]
    exact .four (by omega) hmax

theorem ofNat_cons_lt_iff {a b : Nat} (ha : a < 256) (hb : b < 256) (s t : List UInt8) :
    UInt8.ofNat a :: s < UInt8.ofNat b :: t ↔ a < b ∨ a = b ∧ s < t := by
  rw [List.cons_lt_cons_iff, UInt8.lt_iff_toNat_lt, ← UInt8.toNat_inj,
    UInt8.toNat_ofNat_of_lt' ha, UInt8.toNat_ofNat_of_lt' hb]

/-- Numbers compare by their digits to the base 64. -/
theorem lt_iff_digits {m n : Nat} :
    m < n ↔ m / 64 < n / 64 ∨ m / 64 = n / 64 ∧ m % 64 + 128 < n % 64 + 128 := by
  omega

/-- The encoding of a smaller code point is smaller, whatever follows. -/
theorem Utf8Form.append_lt {m n : Nat} {a b : List UInt8} (ha : Utf8Form m a)
    (hb : Utf8Form n b) (h : m < n) (s t : List UInt8) : a ++ s < b ++ t := by
  cases ha <;> cases hb
  all_goals
    simp (disch := omega) only [List.cons_append, List.nil_append, ofNat_cons_lt_iff]
  case four.four =>
    -- three digits below the leading one are too many for the arithmetic alone
    rw [lt_iff_digits, lt_iff_digits (m := m / 64), lt_iff_digits (m := m / 64 / 64)] at h
    simp only [Nat.div_div_eq_div_mul] at h
    rw [Nat.mod_eq_of_lt (a := m / 262144) (by omega),
      Nat.mod_eq_of_lt (a := n / 262144) (by omega)]
    omega
  all_goals omega

/-! ## Texts -/

theorem flatMap_utf8EncodeChar_lt {s t : List Char} (h : s < t) :
    s.flatMap String.utf8EncodeChar < t.flatMap String.utf8EncodeChar := by
  induction s generalizing t with
  | nil =>
      cases t with
      | nil => exact absurd h (List.not_lt_nil _)
      | cons d t =>
          obtain ⟨b, bs, hd⟩ := List.exists_cons_of_ne_nil (String.utf8EncodeChar_ne_nil (c := d))
          rw [List.flatMap_nil, List.flatMap_cons, hd]
          exact List.nil_lt_cons _ _
  | cons c s ih =>
      cases t with
      | nil => exact absurd h (List.not_lt_nil _)
      | cons d t =>
          rw [List.flatMap_cons, List.flatMap_cons]
          -- the first characters decide, unless they are the same
          rcases List.cons_lt_cons_iff.mp h with hcd | ⟨rfl, hst⟩
          · exact (utf8Form_utf8EncodeChar c).append_lt (utf8Form_utf8EncodeChar d) hcd _ _
          · exact List.append_left_lt (ih hst)

theorem utf8_lt {a b : String} (h : a < b) : utf8 a < utf8 b := by
  rw [utf8_eq_flatMap, utf8_eq_flatMap]
  exact flatMap_utf8EncodeChar_lt h

/-- **The order of texts is the order of their bytes.** -/
theorem compare_eq_lt_iff_utf8 (a b : String) : compare a b = .lt ↔ utf8 a < utf8 b := by
  show compareOfLessAndEq a b = .lt ↔ _
  rw [compareOfLessAndEq_eq_lt]
  constructor
  · exact utf8_lt
  · intro h
    rcases Std.lt_trichotomy a b with hab | rfl | hba
    · exact hab
    · exact absurd h (List.lt_irrefl _)
    · exact absurd (utf8_lt hba) (List.lt_asymm h)

end BucketQuery
