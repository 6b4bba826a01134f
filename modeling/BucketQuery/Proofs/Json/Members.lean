import BucketQuery.Json.Basic
import Mathlib.Data.List.Perm.Basic

set_option autoImplicit false

/-! # Members as a map

Looking up a key succeeds exactly when the key stands in the list. Among members with unique keys it
finds the member itself (`get?_eq_some_iff_mem`), so their order makes no difference. Members with
new keys that are set in turn are put at the end (`insertAll_eq_append`). Setting and removing a key
change what is found under that key only (`get?_insert`, `get?_remove`), and keep keys unique.
-/

namespace BucketQuery.Members

theorem mem_keys_iff (members : Members) (key : String) :
    key ∈ members.map Prod.fst ↔ ∃ value, members.get? key = some value := by
  induction members with
  | nil => simp [get?]
  | cons entry rest ih =>
      obtain ⟨k, v⟩ := entry
      rw [List.map_cons, List.mem_cons, ih, get?]
      by_cases h : k = key
      · simp [h]
      · simp [h, Ne.symm h]

/-! ## Looking up -/

@[simp] theorem get?_cons_self (members : Members) (key : String) (value : Json) :
    get? ((key, value) :: members) key = some value := by
  simp [get?]

theorem get?_cons_of_ne {k key : String} (h : k ≠ key) (members : Members) (value : Json) :
    get? ((k, value) :: members) key = members.get? key := by
  simp [get?, h]

theorem mem_of_get? {members : Members} {key : String} {value : Json}
    (h : members.get? key = some value) : (key, value) ∈ members := by
  induction members with
  | nil => cases h
  | cons entry rest ih =>
      obtain ⟨k, v⟩ := entry
      by_cases hk : k = key
      · subst hk
        rw [get?_cons_self] at h
        cases h
        exact List.mem_cons_self
      · rw [get?_cons_of_ne hk] at h
        exact List.mem_cons_of_mem _ (ih h)

/-- Among unique keys a look-up finds every member. -/
theorem get?_eq_some_iff_mem {members : Members} (hunique : members.Unique) (key : String)
    (value : Json) : members.get? key = some value ↔ (key, value) ∈ members := by
  refine ⟨mem_of_get?, fun hmem => ?_⟩
  induction members with
  | nil => cases hmem
  | cons entry rest ih =>
      obtain ⟨k, v⟩ := entry
      obtain ⟨hfirst, hrest⟩ := List.nodup_cons.mp hunique
      rcases List.mem_cons.mp hmem with heq | hmem
      · cases heq
        exact get?_cons_self _ _ _
      · have hk : k ≠ key := by
          rintro rfl
          exact hfirst (List.mem_map.mpr ⟨_, hmem, rfl⟩)
        rw [get?_cons_of_ne hk]
        exact ih hrest hmem

/-- **The order of unique keys makes no difference** to a look-up. -/
theorem get?_perm {members others : Members} (hunique : members.Unique) (h : members.Perm others)
    (key : String) : members.get? key = others.get? key := by
  have hothers : others.Unique := (h.map Prod.fst).nodup_iff.mp hunique
  refine Option.ext fun value => ?_
  rw [get?_eq_some_iff_mem hunique, get?_eq_some_iff_mem hothers, h.mem_iff]

/-! ## Setting -/

/-- A new key is put at the end. -/
theorem insert_of_not_mem {members : Members} {key : String} (h : key ∉ members.map Prod.fst)
    (value : Json) : members.insert key value = members ++ [(key, value)] := by
  induction members with
  | nil => rfl
  | cons entry rest ih =>
      obtain ⟨k, v⟩ := entry
      rw [List.map_cons, List.mem_cons, not_or] at h
      rw [insert, if_neg (Ne.symm h.1), ih h.2, List.cons_append]

/-- **Setting a key** changes what is found under it, and under no other key. -/
theorem get?_insert (members : Members) (k : String) (value : Json) (key : String) :
    (members.insert k value).get? key = if k = key then some value else members.get? key := by
  induction members with
  | nil => rfl
  | cons entry rest ih =>
      obtain ⟨i, v⟩ := entry
      rw [insert]
      by_cases hi : i = k
      · rw [if_pos hi, get?, get?, hi]
        by_cases hk : k = key
        · rw [if_pos hk, if_pos hk]
        · rw [if_neg hk, if_neg hk, if_neg hk]
      · rw [if_neg hi, get?, get?, ih]
        by_cases hkey : i = key
        · rw [if_pos hkey, if_pos hkey, if_neg (hkey ▸ Ne.symm hi)]
        · rw [if_neg hkey, if_neg hkey]

/-- A key that is there keeps its place, and a new one comes last. -/
theorem keys_insert (members : Members) (key : String) (value : Json) :
    (members.insert key value).map Prod.fst =
      if key ∈ members.map Prod.fst then members.map Prod.fst
      else members.map Prod.fst ++ [key] := by
  split
  · next hmem =>
    induction members with
    | nil => cases hmem
    | cons entry rest ih =>
        obtain ⟨k, v⟩ := entry
        rw [insert]
        split
        · rfl
        · next hk =>
          rw [List.map_cons, List.map_cons, ih (List.mem_of_ne_of_mem (Ne.symm hk) hmem)]
  · next hmem => rw [insert_of_not_mem hmem, List.map_append, List.map_singleton]

theorem unique_insert {members : Members} (h : members.Unique) (key : String) (value : Json) :
    (members.insert key value).Unique := by
  rw [Unique, keys_insert]
  split
  · exact h
  · next hmem =>
    have hcons : (key :: members.map Prod.fst).Nodup := List.nodup_cons.mpr ⟨hmem, h⟩
    exact (List.perm_append_singleton key _).nodup_iff.mpr hcons

/-- **New keys that are set in turn are put at the end** in this order. -/
theorem insertAll_eq_append {members : Members} {entries : List (String × Json)}
    (h : Unique (members ++ entries)) : members.insertAll entries = members ++ entries := by
  induction entries generalizing members with
  | nil => exact (List.append_nil _).symm
  | cons entry rest ih =>
      obtain ⟨key, value⟩ := entry
      have hnew : key ∉ members.map Prod.fst := by
        rw [Unique, List.map_append, List.nodup_append] at h
        exact fun hmem => h.2.2 key hmem key List.mem_cons_self rfl
      have hsplit : members ++ (key, value) :: rest = members ++ [(key, value)] ++ rest := by
        rw [List.append_assoc, List.singleton_append]
      rw [hsplit] at h
      rw [insertAll, insert_of_not_mem hnew, ih h, hsplit]

/-! ## Removing -/

theorem lastFirst_perm (members : Members) : (lastFirst members).Perm members := by
  rw [lastFirst]
  cases hlast : members.getLast? with
  | none =>
      rw [List.getLast?_eq_none_iff.mp hlast]
  | some last =>
      have hmembers := List.dropLast_append_getLast? last hlast
      have hperm := (List.perm_append_singleton last members.dropLast).symm
      rwa [hmembers] at hperm

/-- What is left of unique keys are the other members, in some order. -/
theorem remove_perm {members : Members} (h : members.Unique) (key : String) :
    (members.remove key).Perm (members.filter fun member => member.1 ≠ key) := by
  induction members with
  | nil => exact .nil
  | cons entry rest ih =>
      obtain ⟨k, v⟩ := entry
      obtain ⟨hfirst, hrest⟩ := List.nodup_cons.mp h
      rw [remove]
      split
      · next hk =>
        -- the removed key does not come again
        have hothers : rest.filter (fun member => member.1 ≠ key) = rest := by
          refine List.filter_eq_self.mpr fun member hmember => decide_eq_true ?_
          intro hsame
          exact hfirst (List.mem_map.mpr ⟨member, hmember, hsame.trans hk.symm⟩)
        rw [List.filter_cons_of_neg (by simp [hk]), hothers]
        exact lastFirst_perm rest
      · next hk =>
        rw [List.filter_cons_of_pos (by simp [hk])]
        exact (ih hrest).cons _

theorem unique_remove {members : Members} (h : members.Unique) (key : String) :
    (members.remove key).Unique := by
  rw [Unique, ((remove_perm h key).map Prod.fst).nodup_iff]
  exact h.sublist (List.filter_sublist.map Prod.fst)

/-- **Removing a key** changes what is found under it, and under no other key. -/
theorem get?_remove {members : Members} (h : members.Unique) (k key : String) :
    (members.remove k).get? key = if k = key then none else members.get? key := by
  refine Option.ext fun value => ?_
  rw [get?_eq_some_iff_mem (unique_remove h k), (remove_perm h k).mem_iff, List.mem_filter,
    ← get?_eq_some_iff_mem h]
  by_cases hk : k = key
  · simp [hk]
  · simp [hk, Ne.symm hk]

end BucketQuery.Members
