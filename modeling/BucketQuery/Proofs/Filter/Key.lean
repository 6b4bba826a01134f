import BucketQuery.Filter.Key
import BucketQuery.Proofs.Text.Cut
import Mathlib.Data.List.Nodup

set_option autoImplicit false

/-! # Reading filter keys

A read key remembers the key, and its path followed by the suffix of its operator is the key
(`path_append_suffix_read`). The other way round, a path followed by a suffix is read as that path
and the operator of the suffix (`read_append_suffix`): no key ends in two different suffixes, as
each of them starts at the last underscore of the key. So it does not matter in which order the
suffixes are tried (`readWith_unambiguous`).
-/

namespace BucketQuery

theorem withoutSuffix?_eq_some_iff {suffix text rest : String} :
    withoutSuffix? suffix text = some rest ↔ text = rest ++ suffix := by
  rw [withoutSuffix?, Option.map_eq_some_iff, ← String.toList_inj, String.toList_append]
  constructor
  · rintro ⟨front, hfront, rfl⟩
    rw [String.toList_ofList]
    exact (List.isSuffixOf?_eq_some_iff_append_eq.mp hfront).symm
  · intro h
    exact ⟨rest.toList, List.isSuffixOf?_eq_some_iff_append_eq.mpr h.symm, String.ofList_toList⟩

theorem withoutSuffix?_eq_none_iff {suffix text : String} :
    withoutSuffix? suffix text = none ↔ ¬ suffix.toList <:+ text.toList := by
  rw [Option.eq_none_iff_forall_ne_some]
  constructor
  · rintro h ⟨front, hfront⟩
    have htext : text = String.ofList front ++ suffix := by
      rw [← String.toList_inj, String.toList_append, String.toList_ofList, hfront]
    exact h _ (withoutSuffix?_eq_some_iff.mpr htext)
  · intro h rest hrest
    have htext : text.toList = rest.toList ++ suffix.toList := by
      rw [withoutSuffix?_eq_some_iff.mp hrest, String.toList_append]
    exact h ⟨rest.toList, htext.symm⟩

/-- A text with a suffix at its end is a path followed by the suffix. -/
theorem exists_eq_append_of_isSuffix {suffix text : String} (h : suffix.toList <:+ text.toList) :
    ∃ path, text = path ++ suffix := by
  obtain ⟨front, hfront⟩ := h
  refine ⟨String.ofList front, ?_⟩
  rw [← String.toList_inj, String.toList_append, String.toList_ofList, hfront]

namespace FilterKey

theorem key_readWith (operators : List Operator) (key : String) :
    (readWith operators key).key = key := by
  induction operators with
  | nil => rfl
  | cons operator rest ih =>
      rw [readWith]
      split
      · rfl
      · exact ih

@[simp] theorem key_read (key : String) : (read key).key = key := key_readWith _ _

theorem path_append_suffix_readWith (operators : List Operator) (key : String) :
    (readWith operators key).path ++ (readWith operators key).operator.suffix = key := by
  induction operators with
  | nil => exact String.append_empty
  | cons operator rest ih =>
      rw [readWith]
      split
      · next path h => exact (withoutSuffix?_eq_some_iff.mp h).symm
      · exact ih

/-- **A key is its path followed by the suffix of its operator.** -/
theorem path_append_suffix_read (key : String) :
    (read key).path ++ (read key).operator.suffix = key :=
  path_append_suffix_readWith _ _

end FilterKey

/-! ## Reserved suffixes -/

/-- A key ends in one of the suffixes. -/
def EndsReserved (key : String) : Prop :=
  ∃ operator ∈ Operator.suffixed, operator.suffix.toList <:+ key.toList

instance (key : String) : Decidable (EndsReserved key) :=
  inferInstanceAs (Decidable (∃ operator ∈ Operator.suffixed, _ <:+ _))

/-- Every operator but equality has a suffix. -/
theorem Operator.mem_suffixed_iff {operator : Operator} :
    operator ∈ suffixed ↔ operator ≠ .equals := by
  cases operator <;> decide

/-- A suffix is an underscore and a word without one. -/
theorem Operator.exists_word_of_mem {operator : Operator} (h : operator ∈ suffixed) :
    ∃ word, operator.suffix.toList = '_' :: word ∧ '_' ∉ word := by
  have hall : ∀ operator ∈ suffixed, operator.suffix.toList.head? = some '_' ∧
      '_' ∉ operator.suffix.toList.tail := by decide
  obtain ⟨hhead, htail⟩ := hall operator h
  exact ⟨_, (List.cons_head?_tail hhead).symm, htail⟩

/-- **No key ends in two different suffixes.** -/
theorem Operator.append_suffix_inj {a b : Operator} (ha : a ∈ suffixed) (hb : b ∈ suffixed)
    {path path' : String} (h : path ++ a.suffix = path' ++ b.suffix) : path = path' ∧ a = b := by
  obtain ⟨word, hword, hnot⟩ := exists_word_of_mem ha
  obtain ⟨word', hword', hnot'⟩ := exists_word_of_mem hb
  have htext : path.toList ++ '_' :: word = path'.toList ++ '_' :: word' := by
    rw [← hword, ← hword', ← String.toList_append, ← String.toList_append, h]
  obtain ⟨hpath, hwords⟩ := append_cons_inj_of_not_mem hnot hnot' htext
  have hsuffix : a.suffix = b.suffix := by
    rw [← String.toList_inj, hword, hword', hwords]
  have hnodup : (suffixed.map suffix).Nodup := by decide
  exact ⟨String.toList_inj.mp hpath, List.inj_on_of_nodup_map hnodup ha hb hsuffix⟩

namespace FilterKey

/-- In whatever order the suffixes are tried, the one that a key ends in is found. -/
theorem readWith_append_suffix {operators : List Operator} (hsub : operators ⊆ Operator.suffixed)
    {operator : Operator} (hmem : operator ∈ operators) (path : String) :
    readWith operators (path ++ operator.suffix) = ⟨path ++ operator.suffix, path, operator⟩ := by
  induction operators with
  | nil => cases hmem
  | cons first rest ih =>
      rw [readWith]
      split
      · next path' h =>
        have htext := withoutSuffix?_eq_some_iff.mp h
        obtain ⟨rfl, rfl⟩ := Operator.append_suffix_inj (hsub hmem) (hsub List.mem_cons_self) htext
        rfl
      · next h =>
        -- the first suffix is not the one that the key ends in
        have hne : operator ≠ first := by
          rintro rfl
          rw [withoutSuffix?_eq_some_iff.mpr rfl] at h
          cases h
        have hrest := (List.mem_cons.mp hmem).resolve_left hne
        exact ih (fun _ h => hsub (List.mem_cons_of_mem _ h)) hrest

/-- A key that ends in no suffix is a path, whatever suffixes are tried. -/
theorem readWith_of_not_endsReserved {operators : List Operator}
    (hsub : operators ⊆ Operator.suffixed) {key : String} (h : ¬ EndsReserved key) :
    readWith operators key = ⟨key, key, .equals⟩ := by
  induction operators with
  | nil => rfl
  | cons first rest ih =>
      have hfirst : withoutSuffix? first.suffix key = none :=
        withoutSuffix?_eq_none_iff.mpr fun hends => h ⟨first, hsub List.mem_cons_self, hends⟩
      rw [readWith, hfirst]
      exact ih fun _ hmem => hsub (List.mem_cons_of_mem _ hmem)

/-- **A path followed by a suffix is read as what it was put together from.** Equality has no suffix,
so the path must not end in one then. -/
theorem read_append_suffix (path : String) {operator : Operator}
    (h : operator = .equals → ¬ EndsReserved path) :
    read (path ++ operator.suffix) = ⟨path ++ operator.suffix, path, operator⟩ := by
  by_cases hequals : operator = .equals
  · subst hequals
    have hkey : path ++ Operator.equals.suffix = path := String.append_empty
    rw [hkey]
    exact readWith_of_not_endsReserved (List.Subset.refl _) (h rfl)
  · have hmem : operator ∈ Operator.suffixed := by
      cases operator <;> first | exact absurd rfl hequals | decide
    exact readWith_append_suffix (List.Subset.refl _) hmem path

/-! ## The grammar of keys -/

/-- A key asks for equality when no other operator's suffix is at its end. -/
theorem operator_read_eq_equals_iff (key : String) :
    (read key).operator = .equals ↔ ¬ EndsReserved key := by
  constructor
  · rintro hequals ⟨operator, hmem, hends⟩
    obtain ⟨path, rfl⟩ := exists_eq_append_of_isSuffix hends
    rw [read, readWith_append_suffix (List.Subset.refl _) hmem] at hequals
    exact Operator.mem_suffixed_iff.mp hmem hequals
  · intro h
    rw [read, readWith_of_not_endsReserved (List.Subset.refl _) h]

/-- A key is determined by what it is read as. -/
theorem read_inj {a b : String} (hpath : (read a).path = (read b).path)
    (hoperator : (read a).operator = (read b).operator) : a = b := by
  rw [← path_append_suffix_read a, ← path_append_suffix_read b, hpath, hoperator]

/-- Any order of the suffixes reads every key in the same way. -/
theorem readWith_eq_read {operators : List Operator} (h : operators.Perm Operator.suffixed) :
    readWith operators = read := by
  funext key
  by_cases hends : EndsReserved key
  · obtain ⟨operator, hmem, hsuffix⟩ := hends
    obtain ⟨path, rfl⟩ := exists_eq_append_of_isSuffix hsuffix
    rw [read, readWith_append_suffix h.subset (h.mem_iff.mpr hmem),
      readWith_append_suffix (List.Subset.refl _) hmem]
  · rw [read, readWith_of_not_endsReserved h.subset hends,
      readWith_of_not_endsReserved (List.Subset.refl _) hends]

/-- **The grammar of filter keys is unambiguous.** In whatever order the suffixes are tried, a key
is read in the same way. Its path followed by the suffix of its operator is the key; a path followed
by a suffix is read as what it was put together from; it asks for equality exactly when it ends in
no suffix. So different keys are never read as the same path and operator, and no key ends in the
suffixes of two operators. -/
theorem readWith_unambiguous {operators : List Operator} (h : operators.Perm Operator.suffixed) :
    readWith operators = read ∧
    (∀ key, (read key).key = key ∧ (read key).path ++ (read key).operator.suffix = key) ∧
    (∀ (path : String) (operator : Operator), operator ≠ .equals →
      read (path ++ operator.suffix) = ⟨path ++ operator.suffix, path, operator⟩) ∧
    (∀ key, (read key).operator = .equals ↔
      ∀ operator : Operator, operator ≠ .equals → ¬ operator.suffix.toList <:+ key.toList) ∧
    (∀ a b, (read a).path = (read b).path → (read a).operator = (read b).operator → a = b) ∧
    ∀ (key : String) (a b : Operator), a ≠ .equals → b ≠ .equals →
      a.suffix.toList <:+ key.toList → b.suffix.toList <:+ key.toList → a = b := by
  refine ⟨readWith_eq_read h, fun key => ⟨key_read key, path_append_suffix_read key⟩, ?_, ?_,
    fun a b => read_inj, ?_⟩
  · intro path operator hequals
    exact read_append_suffix path fun heq => absurd heq hequals
  · intro key
    rw [operator_read_eq_equals_iff, EndsReserved, not_exists]
    refine forall_congr' fun operator => ?_
    rw [not_and, Operator.mem_suffixed_iff]
  · intro key a b ha hb hends hends'
    obtain ⟨path, hkey⟩ := exists_eq_append_of_isSuffix hends
    obtain ⟨path', hkey'⟩ := exists_eq_append_of_isSuffix hends'
    exact (Operator.append_suffix_inj (Operator.mem_suffixed_iff.mpr ha)
      (Operator.mem_suffixed_iff.mpr hb) (hkey.symm.trans hkey')).2

/-- With the suffixes tried from the last to the first, a key that ends in two words of suffixes is
read as before: only the word after its last underscore is its suffix. -/
theorem readWith_unambiguous_stacked :
    Operator.suffixed.reverse.Perm Operator.suffixed ∧
    readWith Operator.suffixed.reverse "status_not_in" = ⟨"status_not_in", "status_not", .isIn⟩ ∧
    readWith Operator.suffixed.reverse "owner_nullormissing" =
      ⟨"owner_nullormissing", "owner", .isNullOrMissing⟩ := by
  have hperm := List.reverse_perm Operator.suffixed
  obtain ⟨hread, _, hsuffix, _⟩ := readWith_unambiguous hperm
  refine ⟨hperm, ?_, ?_⟩
  · rw [hread]
    exact hsuffix "status_not" .isIn (by decide)
  · rw [hread]
    exact hsuffix "owner" .isNullOrMissing (by decide)

end FilterKey

end BucketQuery
