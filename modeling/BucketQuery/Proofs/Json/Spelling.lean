import BucketQuery.Proofs.Json.Collation
import BucketQuery.Proofs.Number.Nearest
import Mathlib.Data.List.Nodup
import Mathlib.Logic.Relation

set_option autoImplicit false

/-! # Spellings of a value

One value can be spelled in several ways: the members of an object may stand in another order, and
a number may be another one that is rounded to the same double (`Number.RoundsTo`). The order of
values does not see the spelling, and sees everything else: two values whose objects have unique
keys are level exactly when one is a spelling of the other (`Json.collate_eq_eq_iff`).
-/

namespace BucketQuery

namespace Json

/-- One change of spelling, at any depth: the members of an object in another order, or a number
that is rounded to the same value. -/
inductive Respells : Json → Json → Prop where
  | members {ms ns : Members} (h : ms.Perm ns) : Respells (.object ms) (.object ns)
  | number {m n : Number} {q : ℚ} (hm : m.RoundsTo q) (hn : n.RoundsTo q) :
    Respells (.number m) (.number n)
  | item (before after : List Json) {a b : Json} (h : Respells a b) :
    Respells (.array (before ++ a :: after)) (.array (before ++ b :: after))
  | member (before after : Members) (key : String) {a b : Json} (h : Respells a b) :
    Respells (.object (before ++ (key, a) :: after)) (.object (before ++ (key, b) :: after))

/-- Two spellings of one value. -/
def SameValue : Json → Json → Prop := Relation.ReflTransGen Respells

/-- In every object of the value no key stands twice. -/
inductive UniqueKeys : Json → Prop where
  | null : UniqueKeys .null
  | bool (b : Bool) : UniqueKeys (.bool b)
  | number (n : Number) : UniqueKeys (.number n)
  | string (s : String) : UniqueKeys (.string s)
  | array {items : List Json} (h : ∀ item ∈ items, UniqueKeys item) : UniqueKeys (.array items)
  | object {members : Members} (unique : members.Unique)
    (h : ∀ member ∈ members, UniqueKeys member.2) : UniqueKeys (.object members)

/-! ## Changes of spelling -/

theorem Respells.symm {a b : Json} (h : Respells a b) : Respells b a := by
  induction h with
  | members h => exact .members h.symm
  | number hm hn => exact .number hn hm
  | item before after _ ih => exact .item before after ih
  | member before after key _ ih => exact .member before after key ih

theorem SameValue.symm {a b : Json} (h : SameValue a b) : SameValue b a := by
  induction h with
  | refl => exact .refl
  | tail _ hstep ih => exact ih.head hstep.symm

theorem SameValue.item (before after : List Json) {a b : Json} (h : SameValue a b) :
    SameValue (.array (before ++ a :: after)) (.array (before ++ b :: after)) := by
  induction h with
  | refl => exact .refl
  | tail _ hstep ih => exact ih.tail (.item before after hstep)

theorem SameValue.member (before after : Members) (key : String) {a b : Json}
    (h : SameValue a b) :
    SameValue (.object (before ++ (key, a) :: after)) (.object (before ++ (key, b) :: after)) := by
  induction h with
  | refl => exact .refl
  | tail _ hstep ih => exact ih.tail (.member before after key hstep)

/-- Items may be respelled one after the other. -/
theorem SameValue.array {xs ys : List Json} (h : List.Forall₂ SameValue xs ys)
    (before : List Json) : SameValue (.array (before ++ xs)) (.array (before ++ ys)) := by
  induction h generalizing before with
  | nil => exact .refl
  | @cons x y xs ys hxy _ ih =>
      have hrest := ih (before ++ [y])
      rw [List.append_assoc, List.append_assoc] at hrest
      exact (hxy.item before xs).trans hrest

/-- So may the values of members. -/
theorem SameValue.object {ms ns : Members}
    (h : List.Forall₂ (fun m n => m.1 = n.1 ∧ SameValue m.2 n.2) ms ns) (before : Members) :
    SameValue (.object (before ++ ms)) (.object (before ++ ns)) := by
  induction h generalizing before with
  | nil => exact .refl
  | @cons m n ms ns hmn _ ih =>
      obtain ⟨key, v⟩ := m
      obtain ⟨_, w⟩ := n
      obtain ⟨rfl, hvw⟩ := hmn
      have hrest := ih (before ++ [(key, w)])
      rw [List.append_assoc, List.append_assoc] at hrest
      exact (SameValue.member before ms key hvw).trans hrest

/-! ## Key order -/

theorem place_perm (key : String) (value : Json) (members : Members) :
    (Members.place key value members).Perm ((key, value) :: members) := by
  induction members with
  | nil => exact .refl _
  | cons member rest ih =>
      obtain ⟨k, v⟩ := member
      rw [Members.place]
      by_cases h : compare key k = .gt
      · rw [if_pos h]
        exact (ih.cons _).trans (.swap _ _ _)
      · rw [if_neg h]

/-- Members in the order of their keys. -/
def KeyOrdered (members : Members) : Prop :=
  members.Pairwise fun m n => (compare m.1 n.1).isLE = true

theorem keyOrdered_place {members : Members} (h : KeyOrdered members) (key : String)
    (value : Json) : KeyOrdered (Members.place key value members) := by
  induction members with
  | nil => exact List.pairwise_singleton _ _
  | cons member rest ih =>
      obtain ⟨k, v⟩ := member
      obtain ⟨hfirst, hrest⟩ := List.pairwise_cons.mp h
      rw [Members.place]
      by_cases hgt : compare key k = .gt
      · rw [if_pos hgt]
        refine List.pairwise_cons.mpr ⟨fun m hm => ?_, ih hrest⟩
        rcases List.mem_cons.mp ((place_perm key value rest).mem_iff.mp hm) with rfl | hm
        · exact Ordering.isLE_of_eq_lt (Std.OrientedCmp.lt_of_gt hgt)
        · exact hfirst m hm
      · rw [if_neg hgt]
        have hle : (compare key k).isLE = true := Ordering.isLE_iff_ne_gt.mpr hgt
        refine List.pairwise_cons.mpr ⟨fun m hm => ?_, h⟩
        rcases List.mem_cons.mp hm with rfl | hm
        · exact hle
        · exact Std.TransCmp.isLE_trans hle (hfirst m hm)

theorem keySortedItems_eq (items : List Json) : keySortedItems items = items.map keySorted := by
  induction items with
  | nil => rfl
  | cons item rest ih => rw [keySortedItems, ih, List.map_cons]

theorem keySortedMembers_perm (members : Members) :
    (keySortedMembers members).Perm (members.map fun m => (m.1, m.2.keySorted)) := by
  induction members with
  | nil => exact .refl _
  | cons member rest ih => exact (place_perm _ _ _).trans (ih.cons _)

theorem keyOrdered_keySortedMembers (members : Members) :
    KeyOrdered (keySortedMembers members) := by
  induction members with
  | nil => exact List.Pairwise.nil
  | cons member rest ih => exact keyOrdered_place ih _ _

/-- Unique keys have one order. -/
theorem keySortedMembers_congr {ms ns : Members} (hunique : ms.Unique) (h : ms.Perm ns) :
    keySortedMembers ms = keySortedMembers ns := by
  have hperm : (keySortedMembers ms).Perm (keySortedMembers ns) :=
    (keySortedMembers_perm ms).trans ((h.map _).trans (keySortedMembers_perm ns).symm)
  have hkeys : ((keySortedMembers ms).map Prod.fst).Nodup := by
    have hmap := (keySortedMembers_perm ms).map Prod.fst
    rw [List.map_map] at hmap
    exact hmap.nodup_iff.mpr hunique
  -- two members that are each before the other have one key, and so are one member
  refine List.Perm.eq_of_pairwise ?_ (keyOrdered_keySortedMembers ms)
    (keyOrdered_keySortedMembers ns) hperm
  intro m n hm hn hmn hnm
  have hkey : m.1 = n.1 := Std.LawfulEqCmp.eq_of_compare (Std.OrientedCmp.isLE_antisymm hmn hnm)
  exact List.inj_on_of_nodup_map hkeys hm (hperm.mem_iff.mpr hn) hkey

/-- Putting members into key order is a change of spelling. -/
theorem sameValue_keySorted (value : Json) : SameValue value value.keySorted := by
  induction value using induction_parts with
  | null | bool _ | number _ | string _ => exact .refl
  | array items ih =>
      rw [keySorted, keySortedItems_eq]
      refine SameValue.array ?_ []
      rw [List.forall₂_map_right_iff, List.forall₂_same]
      exact ih
  | object members ih =>
      have hvalues : SameValue (.object members)
          (.object (members.map fun m => (m.1, m.2.keySorted))) := by
        refine SameValue.object ?_ []
        rw [List.forall₂_map_right_iff, List.forall₂_same]
        exact fun m hm => ⟨rfl, ih m hm⟩
      -- first the values one by one, then the members into their order
      exact hvalues.tail (.members (keySortedMembers_perm members).symm)

/-! ## Level values -/

/-- Members that have the same keys and level values, one by one. -/
def Level (ms ns : Members) : Prop :=
  List.Forall₂ (fun m n => m.1 = n.1 ∧ compareSorted m.2 n.2 = .eq) ms ns

theorem compareMember_eq_eq_iff (m n : String × Json) :
    compareMember m n = .eq ↔ m.1 = n.1 ∧ compareSorted m.2 n.2 = .eq := by
  rw [compareMember, Ordering.then_eq_eq, Std.LawfulEqCmp.compare_eq_iff_eq]

theorem compareSorted_array_eq_eq_iff (xs ys : List Json) :
    compareSorted (.array xs) (.array ys) = .eq ↔
      List.Forall₂ (fun x y => compareSorted x y = .eq) xs ys := by
  rw [compareSorted, compareItems_eq, compareLex_eq_eq_iff]

theorem compareSorted_object_eq_eq_iff (ms ns : Members) :
    compareSorted (.object ms) (.object ns) = .eq ↔ Level ms ns := by
  rw [compareSorted, compareMembers_eq, Ordering.then_eq_eq, compareLex_eq_eq_iff, Level]
  simp only [compareMember_eq_eq_iff]
  constructor
  · exact And.right
  · exact fun h => ⟨Nat.compare_eq_eq.mpr h.length_eq, h⟩

theorem alike_of_compareSorted {a b : Json} (h : compareSorted a b = .eq) : Alike a b := by
  rw [compareSorted_eq_then, Ordering.then_eq_eq] at h
  exact alike_of_kindRank_eq (Nat.compare_eq_eq.mp h.1)

/-- Numbers are ordered like the values they are rounded to. -/
theorem compareSorted_number {m n : Number} {q r : ℚ} (hm : m.RoundsTo q) (hn : n.RoundsTo r) :
    compareSorted (.number m) (.number n) = compare q r := by
  have hone : (0 : ℚ) < Double.unitsPerOne := Nat.cast_pos.mpr (by decide)
  have hmono : StrictMono fun units : ℤ => (units : ℚ) / Double.unitsPerOne := fun _ _ h =>
    (div_lt_div_iff_of_pos_right hone).mpr (Int.cast_lt.mpr h)
  rw [compareSorted, Number.roundsTo_iff.mp hm, Number.roundsTo_iff.mp hn, ← cmp_eq_compare,
    ← cmp_eq_compare]
  exact (hmono.cmp_map_eq _ _).symm

/-- Level values with their members in key order are spellings of one value. -/
theorem sameValue_of_compareSorted {a b : Json} (h : compareSorted a b = .eq) : SameValue a b := by
  induction a using induction_parts generalizing b with
  | null =>
      cases alike_of_compareSorted h
      exact .refl
  | bool x =>
      cases alike_of_compareSorted h
      exact .refl
  | number m =>
      cases alike_of_compareSorted h with
      | number _ n =>
          obtain ⟨q, hm, -⟩ := m.existsUnique_roundsTo
          obtain ⟨r, hn, -⟩ := n.existsUnique_roundsTo
          rw [compareSorted_number hm hn, compare_eq_iff_eq] at h
          exact .single (.number hm (h ▸ hn))
  | string s =>
      cases alike_of_compareSorted h with
      | string _ t =>
          rw [compareSorted, Std.LawfulEqCmp.compare_eq_iff_eq] at h
          rw [h]
          exact .refl
  | array xs ih =>
      cases alike_of_compareSorted h with
      | array _ ys =>
          rw [compareSorted_array_eq_eq_iff] at h
          refine SameValue.array ?_ []
          exact ((List.forall₂_and_left _ _).mpr ⟨ih, h⟩).imp fun x y hxy => hxy.1 hxy.2
  | object ms ih =>
      cases alike_of_compareSorted h with
      | object _ ns =>
          rw [compareSorted_object_eq_eq_iff] at h
          refine SameValue.object ?_ []
          exact ((List.forall₂_and_left _ _).mpr ⟨ih, h⟩).imp fun m n hmn =>
            ⟨hmn.2.1, hmn.1 hmn.2.2⟩

/-! ## What a change of spelling keeps -/

theorem Level.place {ms ns : Members} (h : Level ms ns) (key : String) {v w : Json}
    (hvw : compareSorted v w = .eq) :
    Level (Members.place key v ms) (Members.place key w ns) := by
  induction h with
  | nil => exact .cons ⟨rfl, hvw⟩ .nil
  | @cons m n ms ns hmn hrest ih =>
      obtain ⟨k, x⟩ := m
      obtain ⟨_, y⟩ := n
      obtain ⟨rfl, hxy⟩ := hmn
      rw [Members.place, Members.place]
      by_cases hgt : compare key k = .gt
      · rw [if_pos hgt, if_pos hgt]
        exact .cons ⟨rfl, hxy⟩ ih
      · rw [if_neg hgt, if_neg hgt]
        exact .cons ⟨rfl, hvw⟩ (.cons ⟨rfl, hxy⟩ hrest)

/-- Level values at one place of an object keep it level. -/
theorem level_keySortedMembers (before after : Members) (key : String) {a b : Json}
    (h : compareSorted a.keySorted b.keySorted = .eq) :
    Level (keySortedMembers (before ++ (key, a) :: after))
      (keySortedMembers (before ++ (key, b) :: after)) := by
  induction before with
  | nil =>
      have hsame : Level (keySortedMembers after) (keySortedMembers after) :=
        List.forall₂_same.mpr fun m _ => ⟨rfl, Std.ReflCmp.compare_self⟩
      exact hsame.place key h
  | cons m before ih => exact ih.place m.1 Std.ReflCmp.compare_self

theorem collate_array_respelled (before after : List Json) {a b : Json} (h : collate a b = .eq) :
    collate (.array (before ++ a :: after)) (.array (before ++ b :: after)) = .eq := by
  rw [collate, keySorted, keySorted, compareSorted_array_eq_eq_iff, keySortedItems_eq,
    keySortedItems_eq, List.forall₂_map_left_iff, List.forall₂_map_right_iff]
  have hsame : ∀ xs, List.Forall₂ (fun x y => collate x y = .eq) xs xs := fun xs =>
    List.forall₂_same.mpr fun _ _ => Std.ReflCmp.compare_self
  exact List.rel_append (hsame before) (.cons h (hsame after))

/-- **A change of spelling stays level**, and keeps keys unique. -/
theorem Respells.collate_eq {a b : Json} (h : Respells a b) (ha : a.UniqueKeys) :
    collate a b = .eq ∧ b.UniqueKeys := by
  induction h with
  | @members ms ns h =>
      cases ha with
      | object hunique hvalues =>
          constructor
          · rw [collate, keySorted, keySorted, keySortedMembers_congr hunique h]
            exact Std.ReflCmp.compare_self
          · exact .object ((h.map Prod.fst).nodup_iff.mp hunique) fun m hm =>
              hvalues m (h.mem_iff.mpr hm)
  | @number m n q hm hn =>
      refine ⟨?_, .number n⟩
      rw [collate, keySorted, keySorted, compareSorted_number hm hn]
      exact compare_eq_iff_eq.mpr rfl
  | @item before after a b _ ih =>
      cases ha with
      | array hitems =>
          obtain ⟨hlevel, hb⟩ := ih (hitems a (by simp))
          refine ⟨collate_array_respelled before after hlevel, .array ?_⟩
          rw [List.forall_mem_append, List.forall_mem_cons] at hitems ⊢
          exact ⟨hitems.1, hb, hitems.2.2⟩
  | @member before after key a b _ ih =>
      cases ha with
      | object hunique hvalues =>
          obtain ⟨hlevel, hb⟩ := ih (hvalues (key, a) (by simp))
          constructor
          · rw [collate, keySorted, keySorted, compareSorted_object_eq_eq_iff]
            exact level_keySortedMembers before after key hlevel
          · refine .object ?_ ?_
            · rw [Members.Unique, List.map_append, List.map_cons] at hunique ⊢
              exact hunique
            · rw [List.forall_mem_append, List.forall_mem_cons] at hvalues ⊢
              exact ⟨hvalues.1, hb, hvalues.2.2⟩

/-- **Values are level exactly when they are spellings of one value.** -/
theorem collate_eq_eq_iff {a : Json} (ha : a.UniqueKeys) (b : Json) :
    collate a b = .eq ↔ SameValue a b := by
  constructor
  · intro h
    have hsorted : SameValue a.keySorted b.keySorted := sameValue_of_compareSorted h
    exact ((sameValue_keySorted a).trans hsorted).trans (sameValue_keySorted b).symm
  · intro h
    have hkept : collate a b = .eq ∧ b.UniqueKeys := by
      induction h with
      | refl => exact ⟨Std.ReflCmp.compare_self, ha⟩
      | tail _ hstep ih =>
          obtain ⟨hlevel, hunique⟩ := hstep.collate_eq ih.2
          exact ⟨Std.TransCmp.eq_trans ih.1 hlevel, hunique⟩
    exact hkept.1

/-- **The order of values is a total preorder, and sees everything but the spelling.** Every value
is level with itself, exchanging two values exchanges their order, and steps that do not go down
can be put together, level ones to a level one. Values are level when one is the other with members
in another order, or with numbers that are rounded to the same value, at any depth. Numbers are
ordered like those values. -/
theorem collate_laws :
    (∀ a, collate a a = .eq) ∧
    (∀ a b, collate b a = (collate a b).swap) ∧
    (∀ a b c, collate a b ≠ .gt → collate b c ≠ .gt → collate a c ≠ .gt) ∧
    (∀ a b c, collate a b = .eq → collate b c = .eq → collate a c = .eq) ∧
    (∀ a b, a.UniqueKeys → (collate a b = .eq ↔ SameValue a b)) ∧
    ∀ m n q r, Number.RoundsTo m q → Number.RoundsTo n r →
      collate (.number m) (.number n) = compare q r := by
  refine ⟨fun _ => Std.ReflCmp.compare_self, fun _ _ => Std.OrientedCmp.eq_swap, ?_,
    fun _ _ _ => Std.TransCmp.eq_trans, fun _ b ha => collate_eq_eq_iff ha b,
    fun _ _ _ _ => compareSorted_number⟩
  intro a b c hab hbc
  have hac : (collate a c).isLE = true :=
    Std.TransCmp.isLE_trans (Ordering.isLE_iff_ne_gt.mpr hab) (Ordering.isLE_iff_ne_gt.mpr hbc)
  exact Ordering.isLE_iff_ne_gt.mp hac

/-- The integer after `2^53` is rounded to `2^53`, and the next one has a value of its own. Two
objects that hold the former two, and the two zeros, are level, and both are below a third that
holds the latter. -/
theorem collate_laws_rounded :
    ∃ a b c : Json,
      a = .object [("k", .ofUInt64 9007199254740993),
        ("l", .array [.number (.double (.zero true))])] ∧
      b = .object [("l", .array [.ofUInt64 0]), ("k", .ofUInt64 9007199254740992)] ∧
      c = .object [("l", .array [.ofUInt64 0]), ("k", .ofUInt64 9007199254740994)] ∧
      a.UniqueKeys ∧ collate a b = .eq ∧ SameValue a b ∧ collate b a = .eq ∧
      collate b c = .lt ∧ collate a c = .lt ∧ ¬ SameValue a c ∧
      (Number.ofUInt64 9007199254740993).RoundsTo 9007199254740992 ∧
      (Number.ofUInt64 9007199254740994).RoundsTo 9007199254740994 ∧
      collate (.ofUInt64 9007199254740993) (.ofUInt64 9007199254740994) = .lt := by
  refine ⟨_, _, _, rfl, rfl, rfl, ?_⟩
  obtain ⟨-, hswap, hup, hlevel, hspelling, hnumbers⟩ := collate_laws
  have hunique : UniqueKeys (.object [("k", .ofUInt64 9007199254740993),
      ("l", .array [.number (.double (.zero true))])]) := by
    have hkeys : ["k", "l"].Nodup := by decide
    refine .object hkeys (List.forall_mem_cons.mpr ⟨.number _, ?_⟩)
    exact List.forall_mem_singleton.mpr (.array (List.forall_mem_singleton.mpr (.number _)))
  have hab : collate (.object [("k", .ofUInt64 9007199254740993),
        ("l", .array [.number (.double (.zero true))])])
      (.object [("l", .array [.ofUInt64 0]), ("k", .ofUInt64 9007199254740992)]) = .eq := by
    decide +kernel
  have hbc : collate (.object [("l", .array [.ofUInt64 0]), ("k", .ofUInt64 9007199254740992)])
      (.object [("l", .array [.ofUInt64 0]), ("k", .ofUInt64 9007199254740994)]) = .lt := by
    decide +kernel
  have hodd : (Number.ofUInt64 9007199254740993).RoundsTo 9007199254740992 :=
    Number.roundsTo_of_signedUnits (by decide +kernel)
  have hnext : (Number.ofUInt64 9007199254740994).RoundsTo 9007199254740994 :=
    Number.roundsTo_of_signedUnits (by decide +kernel)
  generalize Json.object [("k", .ofUInt64 9007199254740993), _] = a at *
  generalize Json.object [_, ("k", .ofUInt64 9007199254740992)] = b at *
  generalize Json.object [_, ("k", .ofUInt64 9007199254740994)] = c at *
  have hba : collate b a = .eq := by
    rw [hswap, hab]
    rfl
  -- were the outer two level, so would be the last two
  have hne : collate a c ≠ .eq := fun hac => by
    have hlast := hlevel b a c hba hac
    rw [hbc] at hlast
    cases hlast
  have hle : collate a c ≠ .gt := hup a b c (by rw [hab]; decide) (by rw [hbc]; decide)
  refine ⟨hunique, hab, (hspelling a b hunique).mp hab, hba, hbc, ?_,
    fun hsame => hne ((hspelling a c hunique).mpr hsame), hodd, hnext, ?_⟩
  · cases hac : collate a c with
    | lt => rfl
    | eq => exact absurd hac hne
    | gt => exact absurd hac hle
  · rw [Json.ofUInt64, Json.ofUInt64, hnumbers _ _ _ _ hodd hnext]
    exact compare_lt_iff_lt.mpr (by norm_num)

end Json

end BucketQuery
