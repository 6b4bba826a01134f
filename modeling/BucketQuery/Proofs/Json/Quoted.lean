import BucketQuery.Json.Printer
import BucketQuery.Json.Token
import Mathlib.Tactic.SplitIfs

set_option autoImplicit false

/-! # Reading string literals back

A string literal can be told from the text that goes on after it: each character is read back from
its escape (`unescape?_escape`), and no escape starts with the double quote that ends the literal.
-/

namespace BucketQuery.Json

/-- The character that the text inside a literal starts with, and the text after it. -/
def unescape? : List Char → Option (Char × List Char)
  | [] => none
  | '\\' :: 'u' :: _ :: _ :: high :: low :: rest =>
    (hexDigitValue? high).bind fun h =>
      (hexDigitValue? low).map fun l => (Char.ofNat (16 * h + l), rest)
  | '\\' :: c :: rest => (escaped? c).map fun d => (d, rest)
  | c :: rest => some (c, rest)

theorem hexDigitValue?_digitChar : ∀ n < 16, hexDigitValue? (Nat.digitChar n) = some n := by
  decide

/-- A control character is read back from its number. -/
theorem unescape?_controlByNumber {c : Char} (h : c.toNat < 0x20) (rest : List Char) :
    unescape? (controlByNumber c ++ rest) = some (c, rest) := by
  have hhigh := hexDigitValue?_digitChar (c.toNat / 16) (by omega)
  have hlow := hexDigitValue?_digitChar (c.toNat % 16) (by omega)
  have hnumber : 16 * (c.toNat / 16) + c.toNat % 16 = c.toNat := Nat.div_add_mod _ _
  show ((hexDigitValue? _).bind _) = _
  rw [hhigh, Option.bind_some, hlow, Option.map_some, hnumber, Char.ofNat_toNat]
  rfl

/-- A character that is no backslash is read as it is. -/
theorem unescape?_cons {c : Char} (h : c ≠ '\\') (rest : List Char) :
    unescape? (c :: rest) = some (c, rest) := by
  rw [unescape?]
  · intro high low a b text heq
    exact absurd heq h
  · intro d text heq
    exact absurd heq h

/-- **Every character is read back from its escape.** -/
theorem unescape?_escape (c : Char) (rest : List Char) :
    unescape? (escape c ++ rest) = some (c, rest) := by
  have hnumber : ∀ {n : Nat}, c.toNat = n → Char.ofNat n = c := by
    rintro n rfl
    exact Char.ofNat_toNat c
  rw [escape]
  split_ifs with hquote hslash h8 h9 h10 h12 h13 hcontrol
  · rw [hquote]
    rfl
  · rw [hslash]
    rfl
  · rw [← hnumber h8]
    rfl
  · rw [← hnumber h9]
    rfl
  · rw [← hnumber h10]
    rfl
  · rw [← hnumber h12]
    rfl
  · rw [← hnumber h13]
    rfl
  · exact unescape?_controlByNumber hcontrol rest
  · exact unescape?_cons hslash rest

/-- No escape starts with a double quote. -/
theorem head?_escape_ne (c : Char) (rest : List Char) : (escape c ++ rest).head? ≠ some '"' := by
  have hslash : some '\\' ≠ some '"' := by decide
  rw [escape]
  split_ifs with hquote
  -- an escape starts with a backslash, unless it is the character itself
  all_goals first
    | exact hslash
    | exact fun heq => hquote (Option.some.inj heq)

/-- **What a literal says can be told from what follows it.** -/
theorem escapes_append_inj {a b r s : List Char}
    (h : a.flatMap escape ++ '"' :: r = b.flatMap escape ++ '"' :: s) : a = b ∧ r = s := by
  induction a generalizing b with
  | nil =>
      cases b with
      | nil => exact ⟨rfl, List.tail_eq_of_cons_eq h⟩
      | cons d b =>
          rw [List.flatMap_cons, List.append_assoc] at h
          exact absurd (congrArg List.head? h).symm (head?_escape_ne d _)
  | cons c a ih =>
      rw [List.flatMap_cons, List.append_assoc] at h
      cases b with
      | nil => exact absurd (congrArg List.head? h) (head?_escape_ne c _)
      | cons d b =>
          rw [List.flatMap_cons, List.append_assoc] at h
          -- reading one character takes the first escape off both texts
          have hread := congrArg unescape? h
          rw [unescape?_escape, unescape?_escape, Option.some_inj, Prod.mk.injEq] at hread
          obtain ⟨rfl, hrest⟩ := hread
          obtain ⟨rfl, hrs⟩ := ih hrest
          exact ⟨rfl, hrs⟩

theorem toList_quoted (text : String) :
    (quoted text).toList = '"' :: (text.toList.flatMap escape ++ ['"']) := by
  rw [quoted, String.toList_ofList]

theorem quoted_append_inj {a b : String} {r s : List Char}
    (h : (quoted a).toList ++ r = (quoted b).toList ++ s) : a = b ∧ r = s := by
  rw [toList_quoted, toList_quoted, List.cons_append, List.cons_append, List.append_assoc,
    List.append_assoc] at h
  obtain ⟨hab, hrs⟩ := escapes_append_inj (List.tail_eq_of_cons_eq h)
  exact ⟨String.toList_inj.mp hab, hrs⟩

end BucketQuery.Json
