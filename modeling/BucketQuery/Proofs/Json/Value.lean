import BucketQuery.Proofs.Json.Grammar
import BucketQuery.Proofs.Json.Members
import Mathlib.Data.List.Forall2
import Mathlib.Data.List.Induction
import Mathlib.Data.List.Nodup

set_option autoImplicit false

/-! # The value of a text

Which value a tree denotes (`Written.Denotes`), and so which value a text has. Each part of the tree
has to denote one, inside of no more containers than a limit. An object denotes the last member of
each key, and its keys stand where they come first (`Members.KeepsLast`). This value is the one that
is read (`Written.valueWithin?_eq_some_iff`, `Json.read?_eq_some_iff`).
-/

namespace BucketQuery

namespace Members

/-- An entry that is the last one of its key. -/
def IsLast (entries : List (String × Json)) (key : String) (value : Json) : Prop :=
  ∃ before after, entries = before ++ (key, value) :: after ∧ ∀ entry ∈ after, entry.1 ≠ key

/-- The members that are left of entries with repeated keys: the last one of each key, in the order
in which the keys come first. -/
structure KeepsLast (entries : List (String × Json)) (kept : Members) : Prop where
  keys : kept.map Prod.fst = (entries.map Prod.fst).eraseDups
  last : ∀ key value, (key, value) ∈ kept ↔ IsLast entries key value

end Members

namespace Written

/-- **The value of a tree** in which at most a number of containers stand inside each other. -/
inductive Denotes : Nat → Written → Json → Prop where
  | null (depth : Nat) : Denotes depth .null .null
  | bool (depth : Nat) (b : Bool) : Denotes depth (.bool b) (.bool b)
  | number (depth : Nat) (n : Number) : Denotes depth (.number n) (.number n)
  | string (depth : Nat) (s : String) : Denotes depth (.string s) (.string s)
  | array {depth : Nat} (items : List (Written × Json))
      (h : ∀ item ∈ items, Denotes depth item.1 item.2) :
      Denotes (depth + 1) (.array (items.map Prod.fst)) (.array (items.map Prod.snd))
  | object {depth : Nat} (members : List (String × Written × Json))
      (h : ∀ member ∈ members, Denotes depth member.2.1 member.2.2) {kept : Members}
      (hkept : Members.KeepsLast (members.map fun member => (member.1, member.2.2)) kept) :
      Denotes (depth + 1) (.object (members.map fun member => (member.1, member.2.1)))
        (.object kept)

end Written

/-! ## Repeated keys -/

namespace Members

theorem isLast_cons_iff (entry : String × Json) (entries : List (String × Json)) (key : String)
    (value : Json) :
    IsLast (entry :: entries) key value ↔
      IsLast entries key value ∨ entry = (key, value) ∧ ∀ later ∈ entries, later.1 ≠ key := by
  constructor
  · rintro ⟨before, after, hentries, hafter⟩
    cases before with
    | nil =>
        cases hentries
        exact .inr ⟨rfl, hafter⟩
    | cons _ before =>
        cases hentries
        exact .inl ⟨before, after, rfl, hafter⟩
  · rintro (⟨before, after, rfl, hafter⟩ | ⟨rfl, hafter⟩)
    · exact ⟨entry :: before, after, rfl, hafter⟩
    · exact ⟨[], entries, rfl, hafter⟩

/-- After entries have been set in turn, a key has the value of its last entry, or, without one, the
value that it had. -/
theorem get?_insertAll_eq_some_iff (members : Members) (entries : List (String × Json))
    (key : String) (value : Json) :
    (members.insertAll entries).get? key = some value ↔
      IsLast entries key value ∨
        (∀ entry ∈ entries, entry.1 ≠ key) ∧ members.get? key = some value := by
  induction entries generalizing members with
  | nil =>
      have hnone : ¬ IsLast [] key value := fun ⟨before, _, h, _⟩ => by cases before <;> cases h
      simp [insertAll, hnone]
  | cons entry entries ih =>
      obtain ⟨k, v⟩ := entry
      rw [insertAll, ih, get?_insert, isLast_cons_iff, List.forall_mem_cons, or_assoc]
      by_cases hk : k = key
      · simp [hk, and_comm]
      · simp [hk]

theorem insertAll_append (members : Members) (entries more : List (String × Json)) :
    members.insertAll (entries ++ more) = (members.insertAll entries).insertAll more := by
  induction entries generalizing members with
  | nil => rfl
  | cons entry entries ih => exact ih _

theorem unique_insertAll {members : Members} (h : members.Unique)
    (entries : List (String × Json)) : (members.insertAll entries).Unique := by
  induction entries generalizing members with
  | nil => exact h
  | cons entry entries ih => exact ih (unique_insert h _ _)

theorem unique_ofEntries (entries : List (String × Json)) : (ofEntries entries).Unique := by
  have hnone : Unique [] := List.nodup_nil
  exact unique_insertAll hnone entries

/-- A key stands where it comes first. -/
theorem keys_ofEntries (entries : List (String × Json)) :
    (ofEntries entries).map Prod.fst = (entries.map Prod.fst).eraseDups := by
  induction entries using List.reverseRecOn with
  | nil => rfl
  | append_singleton entries entry ih =>
      obtain ⟨key, value⟩ := entry
      have hstep : ofEntries (entries ++ [(key, value)]) = (ofEntries entries).insert key value :=
        insertAll_append _ _ _
      rw [hstep, keys_insert, ih, List.map_append, List.eraseDups_append, List.map_singleton]
      by_cases hmem : key ∈ entries.map Prod.fst
      · simp [List.mem_eraseDups, hmem, List.removeAll]
      · simp [List.mem_eraseDups, hmem, List.removeAll, List.eraseDups_cons]

theorem keepsLast_ofEntries (entries : List (String × Json)) :
    KeepsLast entries (ofEntries entries) where
  keys := keys_ofEntries entries
  last key value := by
    rw [← get?_eq_some_iff_mem (unique_ofEntries entries), ofEntries, get?_insertAll_eq_some_iff]
    simp [get?]

/-- Members are known by their keys in order and by the value of each. -/
theorem eq_of_keys {members others : Members} (hunique : others.Unique)
    (hkeys : members.map Prod.fst = others.map Prod.fst)
    (hmem : ∀ member ∈ members, member ∈ others) : members = others := by
  have hlength : members.length = others.length := by
    simpa using congrArg List.length hkeys
  refine List.ext_getElem hlength fun i hi hi' => ?_
  have hkey : members[i].1 = others[i].1 := by
    simpa [hi, hi'] using congrArg (·[i]?) hkeys
  exact List.inj_on_of_nodup_map hunique (hmem _ (List.getElem_mem hi)) (List.getElem_mem hi') hkey

/-- **The last one of each key is kept.** -/
theorem keepsLast_iff {entries : List (String × Json)} {kept : Members} :
    KeepsLast entries kept ↔ kept = ofEntries entries := by
  have hmade := keepsLast_ofEntries entries
  constructor
  · intro h
    refine eq_of_keys (unique_ofEntries entries) (h.keys.trans hmade.keys.symm) ?_
    exact fun member hmember => (hmade.last _ _).mpr ((h.last _ _).mp hmember)
  · rintro rfl
    exact hmade

end Members

/-! ## Values of trees -/

namespace Written

theorem itemsWithin?_eq (depth : Nat) (items : List Written) :
    itemsWithin? depth items = items.mapM (valueWithin? depth) := by
  induction items with
  | nil => rfl
  | cons item items ih =>
      rw [itemsWithin?, ih, List.mapM_cons]
      rfl

theorem membersWithin?_eq (depth : Nat) (members : List (String × Written)) :
    membersWithin? depth members =
      members.mapM fun member => (valueWithin? depth member.2).map (member.1, ·) := by
  induction members with
  | nil => rfl
  | cons member members ih =>
      obtain ⟨key, item⟩ := member
      rw [membersWithin?, ih, List.mapM_cons]
      cases valueWithin? depth item <;> rfl

/-- A list is read when each of its items is. -/
theorem mapM_eq_some_iff {α β : Type} {read : α → Option β} {States : α → β → Prop}
    (h : ∀ item value, read item = some value ↔ States item value) (items : List α)
    (values : List β) : items.mapM read = some values ↔ List.Forall₂ States items values := by
  induction items generalizing values with
  | nil =>
      constructor
      · rintro ⟨⟩
        exact .nil
      · rintro ⟨⟩
        rfl
  | cons item items ih =>
      rw [List.mapM_cons, Option.bind_eq_bind, Option.bind_eq_some_iff]
      constructor
      · rintro ⟨value, hvalue, hitems⟩
        obtain ⟨values, hvalues, ⟨⟩⟩ := Option.bind_eq_some_iff.mp hitems
        exact .cons ((h _ _).mp hvalue) ((ih _).mp hvalues)
      · intro hstates
        cases hstates with
        | cons hvalue hvalues =>
            exact ⟨_, (h _ _).mpr hvalue, Option.bind_eq_some_iff.mpr ⟨_, (ih _).mpr hvalues, rfl⟩⟩

theorem denotes_array_iff {depth : Nat} {items : List Written} {value : Json} :
    Denotes (depth + 1) (.array items) value ↔
      ∃ values, List.Forall₂ (Denotes depth) items values ∧ Json.array values = value := by
  constructor
  · rintro (_ | _ | _ | _ | ⟨items, h⟩)
    refine ⟨_, ?_, rfl⟩
    rw [List.forall₂_map_left_iff, List.forall₂_map_right_iff, List.forall₂_same]
    exact h
  · rintro ⟨values, h, rfl⟩
    obtain ⟨hlength, hzip⟩ := List.forall₂_iff_zip.mp h
    have harray := Denotes.array (items.zip values) fun item hitem => hzip hitem
    rwa [List.map_fst_zip (Nat.le_of_eq hlength), List.map_snd_zip (Nat.le_of_eq hlength.symm)]
      at harray

/-- A member and its value. -/
def MemberDenotes (depth : Nat) (member : String × Written) (entry : String × Json) : Prop :=
  member.1 = entry.1 ∧ Denotes depth member.2 entry.2

theorem member?_eq_some_iff {depth : Nat}
    (h : ∀ tree value, valueWithin? depth tree = some value ↔ Denotes depth tree value)
    (member : String × Written) (entry : String × Json) :
    (valueWithin? depth member.2).map (member.1, ·) = some entry ↔
      MemberDenotes depth member entry := by
  rw [Option.map_eq_some_iff, MemberDenotes, ← h]
  constructor
  · rintro ⟨value, hvalue, rfl⟩
    exact ⟨rfl, hvalue⟩
  · rintro ⟨hkey, hvalue⟩
    exact ⟨entry.2, hvalue, Prod.ext hkey rfl⟩

theorem denotes_object_iff {depth : Nat} {members : List (String × Written)} {value : Json} :
    Denotes (depth + 1) (.object members) value ↔
      ∃ entries, List.Forall₂ (MemberDenotes depth) members entries ∧
        Json.object (Members.ofEntries entries) = value := by
  constructor
  · rintro (_ | _ | _ | _ | _ | ⟨members, h, hkept⟩)
    refine ⟨_, ?_, congrArg Json.object (Members.keepsLast_iff.mp hkept).symm⟩
    rw [List.forall₂_map_left_iff, List.forall₂_map_right_iff, List.forall₂_same]
    exact fun member hmember => ⟨rfl, h member hmember⟩
  · rintro ⟨entries, h, rfl⟩
    obtain ⟨both, rfl, rfl, hboth⟩ : ∃ both : List (String × Written × Json),
        (both.map fun member => (member.1, member.2.1)) = members ∧
        (both.map fun member => (member.1, member.2.2)) = entries ∧
        ∀ member ∈ both, Denotes depth member.2.1 member.2.2 := by
      induction h with
      | nil => exact ⟨[], rfl, rfl, nofun⟩
      | @cons member entry _ _ hfirst _ ih =>
          obtain ⟨both, rfl, rfl, hboth⟩ := ih
          obtain ⟨key, tree⟩ := member
          obtain ⟨_, value⟩ := entry
          obtain ⟨rfl, hvalue⟩ := hfirst
          exact ⟨(key, tree, value) :: both, rfl, rfl, List.forall_mem_cons.mpr ⟨hvalue, hboth⟩⟩
    exact .object both hboth (Members.keepsLast_iff.mpr rfl)

/-- **The value that is read is the one that the tree denotes.** -/
theorem valueWithin?_eq_some_iff (depth : Nat) (tree : Written) (value : Json) :
    tree.valueWithin? depth = some value ↔ Denotes depth tree value := by
  -- a container is one more around its parts, so they are read within a smaller limit
  induction depth using Nat.strongRecOn generalizing tree value with
  | ind depth ih =>
      cases tree with
      | null | bool _ | number _ | string _ =>
          constructor
          · intro h
            rw [valueWithin?] at h
            cases h
            constructor
          · rintro ⟨⟩
            rw [valueWithin?]
      | valueless =>
          constructor
          · intro h
            rw [valueWithin?] at h
            cases h
          · nofun
      | array items =>
          cases depth with
          | zero =>
              rw [valueWithin?, if_pos rfl]
              exact ⟨nofun, nofun⟩
          | succ depth =>
              rw [valueWithin?, if_neg (Nat.succ_ne_zero depth), Nat.add_sub_cancel,
                itemsWithin?_eq, Option.map_eq_some_iff, denotes_array_iff]
              simp only [mapM_eq_some_iff (ih depth (Nat.lt_succ_self depth))]
      | object members =>
          cases depth with
          | zero =>
              rw [valueWithin?, if_pos rfl]
              exact ⟨nofun, nofun⟩
          | succ depth =>
              rw [valueWithin?, if_neg (Nat.succ_ne_zero depth), Nat.add_sub_cancel,
                membersWithin?_eq, Option.map_eq_some_iff, denotes_object_iff]
              simp only [mapM_eq_some_iff (member?_eq_some_iff (ih depth (Nat.lt_succ_self depth)))]

end Written

/-- **The value of a text** is the one that the tree which it spells denotes, with at most 127
containers inside each other. -/
theorem Json.read?_eq_some_iff (text : String) (value : Json) :
    Json.read? text = some value ↔
      ∃ tree, Written.Spells text.toList tree ∧ tree.Denotes 127 value := by
  simp only [read?, Option.bind_eq_some_iff, Written.read?_eq_some_iff, Written.value?,
    Written.valueWithin?_eq_some_iff, Written.maxDepth]

end BucketQuery
