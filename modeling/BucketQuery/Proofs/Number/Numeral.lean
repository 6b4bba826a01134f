import BucketQuery.Number.Numeral
import BucketQuery.Proofs.Text.Cut

set_option autoImplicit false

/-! # The grammar of numerals

The texts that spell a numeral: a sign, a whole part, a fraction and an exponent, each in its own
grammar. The reader finds exactly the numeral that a text spells (`Numeral.read?_eq_some_iff`).

A natural number written in decimal digits can be told from what follows it, if that does not start
with a digit (`digitsOf_append_inj`).
-/

namespace BucketQuery

/-! ## Decimal digits -/

theorem isDigit_of_mem_digitsOf {n : Nat} {c : Char} (h : c ∈ digitsOf n) : c.isDigit = true :=
  Nat.isDigit_of_mem_toDigits (by decide) (by decide) h

theorem span_digitsOf (n : Nat) {rest : List Char} (h : ∀ c ∈ rest.head?, c.isDigit = false) :
    (digitsOf n ++ rest).span Char.isDigit = (digitsOf n, rest) :=
  span_append (fun _ => isDigit_of_mem_digitsOf) h

theorem digitsOf_injective {m n : Nat} (h : digitsOf m = digitsOf n) : m = n := by
  have hvalue := congrArg (Nat.ofDigitChars 10 · 0) h
  rwa [digitsOf, digitsOf, Nat.ofDigitChars_ten_toDigits, Nat.ofDigitChars_ten_toDigits] at hvalue

theorem digitsOf_append_inj {m n : Nat} {r s : List Char} (hr : ∀ c ∈ r.head?, c.isDigit = false)
    (hs : ∀ c ∈ s.head?, c.isDigit = false) (h : digitsOf m ++ r = digitsOf n ++ s) :
    m = n ∧ r = s := by
  have hspan := congrArg (List.span Char.isDigit) h
  rw [span_digitsOf m hr, span_digitsOf n hs, Prod.mk.injEq] at hspan
  exact ⟨digitsOf_injective hspan.1, hspan.2⟩

namespace Numeral

/-! ## Texts of numerals -/

/-- Decimal digits, at least one. -/
def IsDigits (text : List Char) : Prop := text ≠ [] ∧ ∀ c ∈ text, c.isDigit = true

/-- A whole part: a zero alone, or digits that do not start with a zero. -/
def IsWhole (text : List Char) : Prop := text = ['0'] ∨ IsDigits text ∧ text.head? ≠ some '0'

/-- The texts of a fraction. -/
inductive SpellsFraction : List Char → Option (List Char) → Prop where
  | absent : SpellsFraction [] none
  | digits {digits : List Char} (h : IsDigits digits) :
      SpellsFraction ('.' :: digits) (some digits)

/-- The texts of the sign of an exponent, which is negative or not. -/
inductive SpellsSign : List Char → Bool → Prop where
  | absent : SpellsSign [] false
  | plus : SpellsSign ['+'] false
  | minus : SpellsSign ['-'] true

/-- The texts of an exponent. -/
inductive SpellsExponent : List Char → Option (Bool × List Char) → Prop where
  | absent : SpellsExponent [] none
  | digits {mark : Char} {sign digits : List Char} {negative : Bool}
      (hmark : mark = 'e' ∨ mark = 'E') (hsign : SpellsSign sign negative)
      (hdigits : IsDigits digits) :
      SpellsExponent (mark :: (sign ++ digits)) (some (negative, digits))

/-- The texts of a numeral. -/
inductive Spells : List Char → Numeral → Prop where
  | parts {negative : Bool} {whole fraction exponent : List Char} {f : Option (List Char)}
      {e : Option (Bool × List Char)} (hwhole : IsWhole whole)
      (hfraction : SpellsFraction fraction f) (hexponent : SpellsExponent exponent e) :
      Spells ((if negative then ['-'] else []) ++ (whole ++ (fraction ++ exponent)))
        ⟨negative, whole, f, e⟩

/-- A text that does not go on with a digit. -/
def EndsDigits (rest : List Char) : Prop := ∀ c ∈ rest.head?, c.isDigit = false

/-! ## Parts -/

theorem digits?_append {digits rest : List Char} (h : IsDigits digits) (hrest : EndsDigits rest) :
    digits? (digits ++ rest) = some (digits, rest) := by
  rw [digits?, span_append h.2 hrest]
  exact if_neg (by simpa using h.1)

theorem digits?_sound {text digits rest : List Char} (h : digits? text = some (digits, rest)) :
    IsDigits digits ∧ text = digits ++ rest := by
  obtain ⟨run, rest', rfl, hrun, hrest⟩ := exists_run Char.isDigit text
  rw [digits?, span_append hrun hrest] at h
  obtain ⟨hne, hparts⟩ := Option.ite_none_left_eq_some.mp h
  obtain ⟨rfl, rfl⟩ := Prod.mk.inj (Option.some.inj hparts)
  exact ⟨⟨fun hnil => hne (List.isEmpty_iff.mpr hnil), hrun⟩, rfl⟩

theorem whole?_append {whole rest : List Char} (h : IsWhole whole) (hrest : EndsDigits rest) :
    whole? (whole ++ rest) = some (whole, rest) := by
  obtain rfl | ⟨hdigits, hzero⟩ := h
  · rfl
  · rw [whole?]
    · exact digits?_append hdigits hrest
    · rintro more hmore
      obtain ⟨c, more', rfl⟩ := List.exists_cons_of_ne_nil hdigits.1
      obtain ⟨rfl, -⟩ := List.cons.inj hmore
      exact hzero rfl

theorem whole?_sound {text whole rest : List Char} (h : whole? text = some (whole, rest)) :
    IsWhole whole ∧ text = whole ++ rest := by
  rw [whole?.eq_def] at h
  split at h
  · obtain ⟨rfl, rfl⟩ := Prod.mk.inj (Option.some.inj h)
    exact ⟨.inl rfl, rfl⟩
  · next hzero =>
    obtain ⟨hdigits, rfl⟩ := digits?_sound h
    refine ⟨.inr ⟨hdigits, fun hhead => ?_⟩, rfl⟩
    obtain ⟨more, rfl⟩ := List.head?_eq_some_iff.mp hhead
    exact hzero _ rfl

theorem SpellsExponent.endsDigits {exponent : List Char} {e : Option (Bool × List Char)}
    (h : SpellsExponent exponent e) : EndsDigits exponent := by
  cases h with
  | absent => exact nofun
  | digits hmark =>
      rintro c ⟨rfl⟩
      obtain rfl | rfl := hmark <;> rfl

theorem SpellsFraction.endsDigits {fraction exponent : List Char} {f : Option (List Char)}
    (h : SpellsFraction fraction f) (hexponent : EndsDigits exponent) :
    EndsDigits (fraction ++ exponent) := by
  cases h with
  | absent => exact hexponent
  | digits =>
      rintro c ⟨rfl⟩
      rfl

theorem fraction?_append {fraction exponent : List Char} {f : Option (List Char)}
    {e : Option (Bool × List Char)} (h : SpellsFraction fraction f)
    (hexponent : SpellsExponent exponent e) :
    fraction? (fraction ++ exponent) = some (f, exponent) := by
  cases h with
  | absent =>
      cases hexponent with
      | absent => rfl
      | digits hmark => obtain rfl | rfl := hmark <;> rfl
  | digits hdigits =>
      rw [List.cons_append, fraction?, digits?_append hdigits hexponent.endsDigits]
      rfl

theorem fraction?_sound {text rest : List Char} {f : Option (List Char)}
    (h : fraction? text = some (f, rest)) :
    ∃ fraction, SpellsFraction fraction f ∧ text = fraction ++ rest := by
  rw [fraction?.eq_def] at h
  split at h
  · obtain ⟨⟨digits, rest'⟩, hread, hparts⟩ := Option.map_eq_some_iff.mp h
    obtain ⟨rfl, rfl⟩ := Prod.mk.inj hparts
    obtain ⟨hdigits, rfl⟩ := digits?_sound hread
    exact ⟨_, .digits hdigits, rfl⟩
  · obtain ⟨rfl, rfl⟩ := Prod.mk.inj (Option.some.inj h)
    exact ⟨[], .absent, rfl⟩

theorem exponentDigits?_append {sign digits : List Char} {negative : Bool}
    (hsign : SpellsSign sign negative) (hdigits : IsDigits digits) :
    exponentDigits? (sign ++ digits) = some (some (negative, digits), []) := by
  have hread : digits? digits = some (digits, []) := by
    have hends : EndsDigits [] := nofun
    have h := digits?_append hdigits hends
    rwa [List.append_nil] at h
  cases hsign with
  | absent =>
      have hfirst : ∀ c ∈ digits.head?, c ≠ '-' ∧ c ≠ '+' := by
        rintro c hc
        have hdigit := hdigits.2 c (List.mem_of_mem_head? hc)
        constructor <;> (rintro rfl; cases hdigit)
      rw [List.nil_append, exponentDigits?.eq_def]
      split
      · exact absurd rfl (hfirst _ rfl).1
      · exact absurd rfl (hfirst _ rfl).2
      · rw [hread]
        rfl
  | plus | minus =>
      rw [List.singleton_append, exponentDigits?, hread]
      rfl

theorem exponentDigits?_sound {text rest : List Char} {e : Option (Bool × List Char)}
    (h : exponentDigits? text = some (e, rest)) :
    ∃ sign negative digits, SpellsSign sign negative ∧ IsDigits digits ∧
      e = some (negative, digits) ∧ text = sign ++ (digits ++ rest) := by
  have hparts : ∀ (negative : Bool) (text : List Char),
      ((digits? text).map fun parts => (some (negative, parts.1), parts.2)) = some (e, rest) →
      ∃ digits, IsDigits digits ∧ e = some (negative, digits) ∧ text = digits ++ rest := by
    intro negative text h
    obtain ⟨⟨digits, rest'⟩, hread, hparts⟩ := Option.map_eq_some_iff.mp h
    obtain ⟨rfl, rfl⟩ := Prod.mk.inj hparts
    obtain ⟨hdigits, rfl⟩ := digits?_sound hread
    exact ⟨digits, hdigits, rfl, rfl⟩
  rw [exponentDigits?.eq_def] at h
  split at h
  · obtain ⟨digits, hdigits, he, rfl⟩ := hparts _ _ h
    exact ⟨_, _, digits, .minus, hdigits, he, rfl⟩
  · obtain ⟨digits, hdigits, he, rfl⟩ := hparts _ _ h
    exact ⟨_, _, digits, .plus, hdigits, he, rfl⟩
  · obtain ⟨digits, hdigits, he, rfl⟩ := hparts _ _ h
    exact ⟨_, _, digits, .absent, hdigits, he, rfl⟩

theorem exponent?_eq {exponent : List Char} {e : Option (Bool × List Char)}
    (h : SpellsExponent exponent e) : exponent? exponent = some (e, []) := by
  cases h with
  | absent => rfl
  | digits hmark hsign hdigits =>
      obtain rfl | rfl := hmark <;> exact exponentDigits?_append hsign hdigits

theorem exponent?_sound {text rest : List Char} {e : Option (Bool × List Char)}
    (h : exponent? text = some (e, rest)) :
    ∃ exponent, SpellsExponent exponent e ∧ text = exponent ++ rest := by
  have hmarked : ∀ (mark : Char) (text : List Char), mark = 'e' ∨ mark = 'E' →
      exponentDigits? text = some (e, rest) →
      ∃ exponent, SpellsExponent exponent e ∧ mark :: text = exponent ++ rest := by
    intro mark text hmark h
    obtain ⟨sign, negative, digits, hsign, hdigits, rfl, rfl⟩ := exponentDigits?_sound h
    refine ⟨_, .digits hmark hsign hdigits, ?_⟩
    rw [List.cons_append, List.append_assoc]
  rw [exponent?.eq_def] at h
  split at h
  · exact hmarked 'e' _ (.inl rfl) h
  · exact hmarked 'E' _ (.inr rfl) h
  · obtain ⟨rfl, rfl⟩ := Prod.mk.inj (Option.some.inj h)
    exact ⟨[], .absent, rfl⟩

/-! ## Numerals -/

/-- The numeral of a sign and the text after it. -/
def unsigned? (negative : Bool) (text : List Char) : Option Numeral := do
  let (whole, text) ← whole? text
  let (fraction, text) ← fraction? text
  let (exponent, text) ← exponent? text
  if text.isEmpty then some ⟨negative, whole, fraction, exponent⟩ else none

theorem unsigned?_append (negative : Bool) {whole fraction exponent : List Char}
    {f : Option (List Char)} {e : Option (Bool × List Char)} (hwhole : IsWhole whole)
    (hfraction : SpellsFraction fraction f) (hexponent : SpellsExponent exponent e) :
    unsigned? negative (whole ++ (fraction ++ exponent)) = some ⟨negative, whole, f, e⟩ := by
  have hends := hfraction.endsDigits hexponent.endsDigits
  rw [unsigned?, whole?_append hwhole hends, Option.bind_eq_bind, Option.bind_some]
  simp only [fraction?_append hfraction hexponent, exponent?_eq hexponent, Option.bind_eq_bind,
    Option.bind_some]
  rfl

theorem unsigned?_sound {negative : Bool} {text : List Char} {n : Numeral}
    (h : unsigned? negative text = some n) :
    Spells ((if negative then ['-'] else []) ++ text) n := by
  obtain ⟨⟨whole, text₁⟩, hreadWhole, hfrom₁⟩ := Option.bind_eq_some_iff.mp h
  obtain ⟨⟨f, text₂⟩, hreadFraction, hfrom₂⟩ := Option.bind_eq_some_iff.mp hfrom₁
  obtain ⟨⟨e, text₃⟩, hreadExponent, hfrom₃⟩ := Option.bind_eq_some_iff.mp hfrom₂
  obtain ⟨hwhole, rfl⟩ := whole?_sound hreadWhole
  obtain ⟨fraction, hfraction, rfl⟩ := fraction?_sound hreadFraction
  obtain ⟨exponent, hexponent, rfl⟩ := exponent?_sound hreadExponent
  obtain ⟨hend, hn⟩ := Option.ite_none_right_eq_some.mp hfrom₃
  rw [List.isEmpty_iff.mp hend, List.append_nil, ← Option.some.inj hn]
  exact .parts hwhole hfraction hexponent

theorem read?_minus (rest : List Char) : read? ('-' :: rest) = unsigned? true rest := by
  rw [read?, unsigned?]

theorem read?_unsigned {text : List Char} (h : text.head? ≠ some '-') :
    read? text = unsigned? false text := by
  rw [read?, unsigned?]
  rintro rest rfl
  exact h rfl

theorem IsWhole.ne_minus {whole : List Char} (h : IsWhole whole) (rest : List Char) :
    (whole ++ rest).head? ≠ some '-' := by
  obtain rfl | ⟨⟨hne, hdigits⟩, -⟩ := h
  · exact nofun
  · obtain ⟨c, more, rfl⟩ := List.exists_cons_of_ne_nil hne
    rintro ⟨rfl⟩
    cases hdigits _ List.mem_cons_self

/-- **The reader finds the numeral that a text spells.** -/
theorem read?_eq_some_iff (text : List Char) (n : Numeral) :
    read? text = some n ↔ Spells text n := by
  constructor
  · intro h
    by_cases hminus : text.head? = some '-'
    · obtain ⟨rest, rfl⟩ := List.head?_eq_some_iff.mp hminus
      rw [read?_minus] at h
      exact unsigned?_sound h
    · rw [read?_unsigned hminus] at h
      exact unsigned?_sound h
  · intro h
    cases h with
    | @parts negative _ _ _ _ _ hwhole hfraction hexponent =>
        have hread := unsigned?_append negative hwhole hfraction hexponent
        cases negative with
        | false => exact (read?_unsigned (hwhole.ne_minus _)).trans hread
        | true => exact (read?_minus _).trans hread

end Numeral

end BucketQuery
