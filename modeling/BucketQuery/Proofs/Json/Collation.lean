import BucketQuery.Json.Collation
import Mathlib.Data.List.Forall2

set_option autoImplicit false

/-! # The order of values

The comparison of values is a total preorder (`Json.transCmp_collate`). It runs through lists of
items and of members, so transitivity has to be carried through lexicographic comparison: going up
from a first value over a middle one to a last one, the first step that is not level decides how
the first and the last value compare (`Climbs`). Unlike transitivity, this passes from the parts of
three lists to the lists.
-/

namespace BucketQuery

/-! ## Two steps up -/

/-- The order `ac` of a first and a last value is that of the first step that is not level, if
neither of the two steps `ab` and `bc` goes down. -/
def Climbs (ab bc ac : Ordering) : Prop := ab ≠ .gt → bc ≠ .gt → ac = ab.then bc

theorem climbs_of_compare {α : Type} [Ord α] [Std.TransOrd α] (a b c : α) :
    Climbs (compare a b) (compare b c) (compare a c) := by
  intro hab hbc
  cases h : compare a b with
  | lt => exact Std.TransCmp.lt_of_lt_of_isLE h (Ordering.isLE_iff_ne_gt.mpr hbc)
  | eq => exact Std.TransCmp.congr_left h
  | gt => exact absurd h hab

/-- If two steps are level, and only then, further comparisons count. -/
theorem Climbs.then {ab bc ac ab' bc' ac' : Ordering} (h : Climbs ab bc ac)
    (h' : ab = .eq → bc = .eq → Climbs ab' bc' ac') :
    Climbs (ab.then ab') (bc.then bc') (ac.then ac') := by
  intro hab hbc
  cases ab with
  | gt => exact absurd rfl hab
  | lt =>
      have hbc_ne : bc ≠ .gt := by
        rintro rfl
        exact hbc rfl
      rw [h nofun hbc_ne]
      rfl
  | eq =>
      cases bc with
      | gt => exact absurd rfl hbc
      | lt =>
          -- the second step goes up, so it does not matter whether the first does
          rw [h nofun nofun]
          cases ab' with
          | gt => exact absurd rfl hab
          | _ => rfl
      | eq =>
          rw [h nofun nofun]
          exact h' rfl rfl hab hbc

theorem Climbs.isLE {ab bc ac : Ordering} (h : Climbs ab bc ac) (hab : ab.isLE = true)
    (hbc : bc.isLE = true) : ac.isLE = true := by
  rw [h (Ordering.isLE_iff_ne_gt.mp hab) (Ordering.isLE_iff_ne_gt.mp hbc)]
  cases ab with
  | lt => rfl
  | eq => exact hbc
  | gt => cases hab

/-! ## Lexicographic comparison -/

section Lexicographic

variable {α : Type} {cmp : α → α → Ordering}

theorem compareLex_swap {xs ys : List α}
    (h : ∀ x ∈ xs, ∀ y, cmp y x = (cmp x y).swap) :
    List.compareLex cmp ys xs = (List.compareLex cmp xs ys).swap := by
  induction xs generalizing ys with
  | nil => cases ys <;> rfl
  | cons x xs ih =>
      cases ys with
      | nil => rfl
      | cons y ys =>
          rw [List.compareLex_cons_cons, List.compareLex_cons_cons, Ordering.swap_then,
            h x List.mem_cons_self y, ih fun x' hx' => h x' (List.mem_cons_of_mem _ hx')]

theorem climbs_compareLex {xs : List α}
    (h : ∀ x ∈ xs, ∀ y z, Climbs (cmp x y) (cmp y z) (cmp x z)) (ys zs : List α) :
    Climbs (List.compareLex cmp xs ys) (List.compareLex cmp ys zs) (List.compareLex cmp xs zs) := by
  induction xs generalizing ys zs with
  | nil =>
      intro _ hbc
      cases ys with
      | nil => cases zs <;> rfl
      | cons y ys =>
          cases zs with
          | nil => exact absurd rfl hbc
          | cons z zs => rfl
  | cons x xs ih =>
      cases ys with
      | nil => exact fun hab _ => absurd rfl hab
      | cons y ys =>
          cases zs with
          | nil => exact fun _ hbc => absurd rfl hbc
          | cons z zs =>
              rw [List.compareLex_cons_cons, List.compareLex_cons_cons, List.compareLex_cons_cons]
              refine (h x List.mem_cons_self y z).then fun _ _ => ?_
              exact ih (fun x' hx' => h x' (List.mem_cons_of_mem _ hx')) ys zs

/-- Lists are level when they are of one length and level item by item. -/
theorem compareLex_eq_eq_iff {xs ys : List α} :
    List.compareLex cmp xs ys = .eq ↔ List.Forall₂ (fun x y => cmp x y = .eq) xs ys := by
  induction xs generalizing ys with
  | nil =>
      cases ys with
      | nil => simp [List.compareLex_nil_nil]
      | cons y ys => simp [List.compareLex_nil_cons]
  | cons x xs ih =>
      cases ys with
      | nil => simp [List.compareLex_cons_nil]
      | cons y ys =>
          rw [List.compareLex_cons_cons, Ordering.then_eq_eq, ih, List.forall₂_cons]

end Lexicographic

namespace Json

/-! ## Values and their parts -/

/-- Induction over a value and the items and members in it. -/
@[elab_as_elim]
theorem induction_parts {motive : Json → Prop} (null : motive .null)
    (bool : ∀ b, motive (.bool b)) (number : ∀ n, motive (.number n))
    (string : ∀ s, motive (.string s))
    (array : ∀ items, (∀ item ∈ items, motive item) → motive (.array items))
    (object : ∀ members, (∀ member ∈ members, motive member.2) → motive (.object members))
    (value : Json) : motive value := by
  refine @Json.rec motive (fun items => ∀ item ∈ items, motive item)
    (fun members => ∀ member ∈ members, motive member.2) (fun member => motive member.2)
    null bool number string array object ?_ ?_ ?_ ?_ (fun _ _ h => h) value
  · exact fun _ h => absurd h List.not_mem_nil
  · exact fun head tail hhead htail => List.forall_mem_cons.mpr ⟨hhead, htail⟩
  · exact fun _ h => absurd h List.not_mem_nil
  · exact fun head tail hhead htail => List.forall_mem_cons.mpr ⟨hhead, htail⟩

/-- The order of two members: first by key, then by value. -/
def compareMember (m n : String × Json) : Ordering :=
  (compare m.1 n.1).then (compareSorted m.2 n.2)

theorem compareItems_eq (xs ys : List Json) :
    compareItems xs ys = List.compareLex compareSorted xs ys := by
  induction xs generalizing ys with
  | nil => cases ys <;> rfl
  | cons x xs ih =>
      cases ys with
      | nil => rfl
      | cons y ys => rw [compareItems, ih, List.compareLex_cons_cons]

theorem compareMembers_eq (ms ns : Members) :
    compareMembers ms ns = List.compareLex compareMember ms ns := by
  induction ms generalizing ns with
  | nil => cases ns <;> rfl
  | cons m ms ih =>
      cases ns with
      | nil => rfl
      | cons n ns =>
          rw [compareMembers, ih, List.compareLex_cons_cons, compareMember, Ordering.then_assoc]

/-- The order of two values of one kind, and level for two of different kinds. -/
def compareAlike : Json → Json → Ordering
  | .number m, .number n => compare m.signedUnits n.signedUnits
  | .string s, .string t => compare s t
  | .array xs, .array ys => List.compareLex compareSorted xs ys
  | .object ms, .object ns =>
    (compare ms.length ns.length).then (List.compareLex compareMember ms ns)
  | _, _ => .eq

/-- The kinds of two values decide, and values of one kind are told apart by what is in them. -/
theorem compareSorted_eq_then (a b : Json) :
    compareSorted a b = (compare a.kindRank b.kindRank).then (compareAlike a b) := by
  cases a with
  | null => cases b <;> exact Ordering.then_eq.symm
  | bool b => cases b <;> exact Ordering.then_eq.symm
  | number m =>
      cases b with
      | number n => rfl
      | _ => exact Ordering.then_eq.symm
  | string s =>
      cases b with
      | string t => rfl
      | _ => exact Ordering.then_eq.symm
  | array xs =>
      cases b with
      | array ys => exact compareItems_eq xs ys
      | _ => exact Ordering.then_eq.symm
  | object ms =>
      cases b with
      | object ns =>
          rw [compareSorted, compareMembers_eq]
          rfl
      | _ => exact Ordering.then_eq.symm

/-- Two values of one kind. -/
inductive Alike : Json → Json → Prop where
  | null : Alike .null .null
  | bool (b : Bool) : Alike (.bool b) (.bool b)
  | number (m n : Number) : Alike (.number m) (.number n)
  | string (s t : String) : Alike (.string s) (.string t)
  | array (xs ys : List Json) : Alike (.array xs) (.array ys)
  | object (ms ns : Members) : Alike (.object ms) (.object ns)

theorem alike_of_kindRank_eq {a b : Json} (h : a.kindRank = b.kindRank) : Alike a b := by
  -- values of different kinds have different ranks
  rcases a with _ | (_ | _) | m | s | xs | ms <;> rcases b with _ | (_ | _) | n | t | ys | ns <;>
    first | constructor | cases h

/-! ## The laws of the order -/

theorem swap_of_alike {a b : Json} (h : compareAlike b a = (compareAlike a b).swap) :
    compareSorted b a = (compareSorted a b).swap := by
  rw [compareSorted_eq_then b a, compareSorted_eq_then a b, Ordering.swap_then, Nat.compare_swap, h]

/-- Exchanging two values exchanges their order. -/
theorem compareSorted_swap (a b : Json) : compareSorted b a = (compareSorted a b).swap := by
  induction a using induction_parts generalizing b with
  | null => exact swap_of_alike (by cases b <;> rfl)
  | bool x => exact swap_of_alike (by cases b <;> rfl)
  | number m =>
      apply swap_of_alike
      cases b with
      | number n => exact (Std.OrientedOrd.eq_swap : compare n.signedUnits m.signedUnits = _)
      | _ => rfl
  | string s =>
      apply swap_of_alike
      cases b with
      | string t => exact (Std.OrientedOrd.eq_swap : compare t s = _)
      | _ => rfl
  -- the parts of an array and of an object are exchanged by the induction
  | array xs ih =>
      apply swap_of_alike
      cases b with
      | array ys => exact compareLex_swap ih
      | _ => rfl
  | object ms ih =>
      apply swap_of_alike
      cases b with
      | object ns =>
          have hmember : ∀ m ∈ ms, ∀ n, compareMember n m = (compareMember m n).swap := by
            intro m hm n
            have hkey : compare n.1 m.1 = (compare m.1 n.1).swap := Std.OrientedOrd.eq_swap
            rw [compareMember, compareMember, Ordering.swap_then, hkey, ih m hm]
          rw [compareAlike, compareAlike, Ordering.swap_then, Nat.compare_swap,
            compareLex_swap hmember]
      | _ => rfl

theorem climbs_of_alike {a b c : Json}
    (h : Alike a b → Alike b c → Climbs (compareAlike a b) (compareAlike b c) (compareAlike a c)) :
    Climbs (compareSorted a b) (compareSorted b c) (compareSorted a c) := by
  rw [compareSorted_eq_then a b, compareSorted_eq_then b c, compareSorted_eq_then a c]
  refine (climbs_of_compare _ _ _).then fun hab hbc => ?_
  exact h (alike_of_kindRank_eq (Nat.compare_eq_eq.mp hab))
    (alike_of_kindRank_eq (Nat.compare_eq_eq.mp hbc))

theorem climbs_compareSorted (a b c : Json) :
    Climbs (compareSorted a b) (compareSorted b c) (compareSorted a c) := by
  induction a using induction_parts generalizing b c with
  | null =>
      refine climbs_of_alike ?_
      rintro ⟨⟩ ⟨⟩
      exact fun _ _ => rfl
  | bool x =>
      refine climbs_of_alike ?_
      rintro ⟨⟩ ⟨⟩
      exact fun _ _ => rfl
  | number m =>
      refine climbs_of_alike ?_
      rintro ⟨⟩ ⟨⟩
      exact climbs_of_compare _ _ _
  | string s =>
      refine climbs_of_alike ?_
      rintro ⟨⟩ ⟨⟩
      exact climbs_of_compare _ _ _
  | array xs ih =>
      refine climbs_of_alike ?_
      rintro ⟨⟩ ⟨⟩
      exact climbs_compareLex ih _ _
  | object ms ih =>
      refine climbs_of_alike ?_
      rintro ⟨⟩ ⟨⟩
      -- size first, then member by member, and in a member the key first
      refine (climbs_of_compare _ _ _).then fun _ _ => climbs_compareLex ?_ _ _
      intro m hm n o
      exact (climbs_of_compare _ _ _).then fun _ _ => ih m hm n.2 o.2

instance transCmp_compareSorted : Std.TransCmp compareSorted where
  eq_swap := compareSorted_swap _ _
  isLE_trans := (climbs_compareSorted _ _ _).isLE

/-- **The order of values is a total preorder.** -/
instance transCmp_collate : Std.TransCmp collate where
  eq_swap := compareSorted_swap _ _
  isLE_trans := (climbs_compareSorted _ _ _).isLE

end Json

end BucketQuery
