import BucketQuery.Program.Layer
import BucketQuery.Proofs.Service.Report

set_option autoImplicit false

/-! # What layers say

Which settings the tree of a file sets (`Layer.said`): each key is looked up on its own, and a part
that is not there or not of the right kind sets nothing. A file that is read sets just these
(`LayerFile.layer_eq_said`). In a stack of layers, every setting comes from the highest layer that
sets it, whatever the other settings do (`Layer.stack_eq_findSome?`).
-/

namespace BucketQuery

/-! ## Files -/

namespace Written

/-- The member of an object under a key. -/
def member? (key : String) : Written → Option Written
  | .object members => members.lookup key
  | _ => none

/-- The member of an object under a key, or the item of an array at a place. -/
def part? (key : String) (place : Nat) : Written → Option Written
  | .array items => items[place]?
  | tree => tree.member? key

end Written

open Written (text? bool? uint64? optional?)

/-- **What the tree of a query service sets.** -/
def ServiceLayer.said (tree : Written) : ServiceLayer :=
  { endpoint := (tree.part? "endpoint" 0).bind text?
    username := (tree.part? "username" 1).bind text?
    password := (tree.part? "password" 2).bind text?
    timeout := (tree.part? "timeout_secs" 3).bind uint64? }

/-- **What the tree of a file sets.** -/
def Layer.said (tree : Written) : Layer :=
  { bucket := (tree.member? "bucket").bind text?
    gateway := (tree.member? "with_sync_gateway").bind bool?
    defaultIdField := (tree.member? "use_default_id_fields").bind bool?
    service := ((tree.member? "query").map ServiceLayer.said).getD {}
    data := (tree.member? "data").bind text? }

namespace Written

theorem lookup_eq_none {members : List (String × Written)} {key : String}
    (h : ∀ member ∈ members, member.1 ≠ key) : members.lookup key = none := by
  rw [List.lookup_eq_none_iff]
  intro member hmember
  exact bne_iff_ne.mpr (h member hmember).symm

/-- A member that is the only one of its key is found under it. -/
theorem lookup_of_uniqueMember? {members : List (String × Written)} {key : String}
    {part : Option Written} (h : uniqueMember? members key = some part) :
    members.lookup key = part := by
  cases (uniqueMember?_eq_some_iff members key part).mp h with
  | absent habsent => exact lookup_eq_none habsent
  | present hmembers hbefore _ =>
      rw [hmembers, List.lookup_append, lookup_eq_none hbefore, List.lookup_cons_self]
      rfl

/-- What may be null is null or can be read. -/
theorem nullable_cases {α : Type} {read : Written → Option α} {tree : Written} {value : Option α}
    (h : nullable read tree = some value) :
    (tree = .null ∧ value = none) ∨ ∃ found, read tree = some found ∧ value = some found := by
  cases tree with
  | null =>
      cases h
      exact .inl ⟨rfl, rfl⟩
  | _ =>
      obtain ⟨found, hread, rfl⟩ := Option.map_eq_some_iff.mp h
      exact .inr ⟨found, hread, rfl⟩

theorem eq_of_nullable {α : Type} {read : Written → Option α} (hnull : read .null = none)
    {tree : Written} {value : Option α} (h : nullable read tree = some value) :
    value = read tree := by
  rcases nullable_cases h with ⟨rfl, rfl⟩ | ⟨found, hread, rfl⟩
  · exact hnull.symm
  · exact hread.symm

/-- An optional member is what is read under its key. -/
theorem eq_of_optionalMember? {α : Type} {read : Written → Option α} (hnull : read .null = none)
    {members : List (String × Written)} {key : String} {value : Option α}
    (h : optionalMember? read members key = some value) :
    value = ((Written.object members).member? key).bind read := by
  obtain ⟨part, hpart, hvalue⟩ := Option.bind_eq_some_iff.mp h
  rw [member?, lookup_of_uniqueMember? hpart]
  cases part with
  | none => exact (Option.some.inj hvalue).symm
  | some tree => exact eq_of_nullable hnull hvalue

end Written

/-- What is read of a query service is what its tree sets. -/
theorem ServiceLayer.eq_said_of_read? {tree : Written} {service : ServiceLayer}
    (h : read? tree = some service) : service = said tree := by
  cases tree with
  | object members =>
      simp only [read?, Option.bind_eq_bind, Option.bind_eq_some_iff, Option.some.injEq] at h
      obtain ⟨endpoint, hendpoint, username, husername, password, hpassword, timeout, htimeout,
        rfl⟩ := h
      rw [Written.eq_of_optionalMember? rfl hendpoint, Written.eq_of_optionalMember? rfl husername,
        Written.eq_of_optionalMember? rfl hpassword, Written.eq_of_optionalMember? rfl htimeout]
      rfl
  | array items =>
      unfold read? at h
      split at h
      · next hitems =>
        cases hitems
      · next endpoint username password timeout hitems =>
        cases hitems
        simp only [Option.bind_eq_bind, Option.bind_eq_some_iff, Option.some.injEq] at h
        obtain ⟨_, hendpoint, _, husername, _, hpassword, _, htimeout, rfl⟩ := h
        rw [Written.eq_of_nullable rfl hendpoint, Written.eq_of_nullable rfl husername,
          Written.eq_of_nullable rfl hpassword, Written.eq_of_nullable rfl htimeout]
        rfl
      · cases h
  | null | bool _ | number _ | string _ | valueless => cases h

/-- A query service that is absent or null sets nothing. -/
theorem ServiceLayer.getD_eq_said {part : Option Written} {service : Option ServiceLayer}
    (h : optional? read? part = some service) : service.getD {} = (part.map said).getD {} := by
  cases part with
  | none =>
      cases h
      rfl
  | some tree =>
      rcases Written.nullable_cases h with ⟨rfl, rfl⟩ | ⟨found, hread, rfl⟩
      · rfl
      · exact eq_said_of_read? hread

/-- **A file that is read sets what its tree sets**, key by key. -/
theorem LayerFile.layer_eq_said {tree : Written} {file : LayerFile}
    (h : ofWritten? tree = some file) : file.layer = Layer.said tree := by
  cases tree with
  | object members =>
      simp only [ofWritten?, Option.bind_eq_bind, Option.bind_eq_some_iff, Option.some.injEq] at h
      obtain ⟨_, hbucket, _, hgateway, _, hdefaultIdField, _, hservice, _, hdata, _, _, rfl⟩ := h
      obtain ⟨part, hpart, hservice⟩ := Option.bind_eq_some_iff.mp hservice
      rw [← Written.lookup_of_uniqueMember? hpart] at hservice
      rw [Written.eq_of_optionalMember? rfl hbucket, Written.eq_of_optionalMember? rfl hgateway,
        Written.eq_of_optionalMember? rfl hdefaultIdField, ServiceLayer.getD_eq_said hservice,
        Written.eq_of_optionalMember? rfl hdata]
      rfl
  | null | bool _ | number _ | string _ | valueless | array _ => cases h

/-! ## Stacks of layers -/

namespace Layer

theorem over_assoc (a b c : Layer) : (a.over b).over c = a.over (b.over c) := by
  simp only [Layer.over, ServiceLayer.over, Option.or_assoc]

theorem over_empty (a : Layer) : a.over {} = a := by
  simp only [Layer.over, ServiceLayer.over, Option.or_none]

/-- The layers over each other, the first one on top. -/
def stack (layers : List Layer) : Layer := layers.foldr Layer.over {}

/-- A part of a layer that is set or not, and that no other part hides. -/
structure IsSetting {α : Type} (setting : Layer → Option α) : Prop where
  empty : setting {} = none
  overlay (upper lower : Layer) : setting (upper.over lower) = (setting upper).or (setting lower)

/-- **A setting comes from the highest layer that sets it.** -/
theorem IsSetting.stack_eq_findSome? {α : Type} {setting : Layer → Option α}
    (h : IsSetting setting) (layers : List Layer) :
    setting (stack layers) = layers.findSome? setting := by
  induction layers with
  | nil => exact h.empty
  | cons upper rest ih =>
      rw [stack, List.foldr_cons, h.overlay, List.findSome?_cons, ← stack, ih]
      cases setting upper with
      | none => rfl
      | some value => rfl

end Layer

end BucketQuery
