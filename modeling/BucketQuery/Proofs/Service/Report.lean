import BucketQuery.Proofs.Json.Value
import BucketQuery.Service.Reply
import Mathlib.Logic.Relation

set_option autoImplicit false

/-! # Reports in bodies

Which report the tree of a body states (`Report.Stated`), and that it is the one which is read
(`Report.read?_eq_some_iff`). A member may be absent and then has its default; a member that is
there is the only one of its key. An array states the same parts by their places. Members of other
keys are not looked at: the order of the members and any more of them, in the report or in an
error, make no difference (`Report.Stated.rearranged`).
-/

namespace BucketQuery

namespace Written

/-- What the members of an object have under a key: nothing, or the value of the only member. -/
inductive Holds (members : List (String × Written)) (key : String) : Option Written → Prop where
  | absent (h : ∀ member ∈ members, member.1 ≠ key) : Holds members key none
  | present {before after : List (String × Written)} {tree : Written}
      (hmembers : members = before ++ (key, tree) :: after)
      (hbefore : ∀ member ∈ before, member.1 ≠ key)
      (hafter : ∀ member ∈ after, member.1 ≠ key) : Holds members key (some tree)

/-- What a part states that may be absent. -/
inductive OrDefault {α : Type} (States : Written → α → Prop) (default : α) :
    Option Written → α → Prop where
  | absent : OrDefault States default none default
  | present {tree : Written} {value : α} (h : States tree value) :
      OrDefault States default (some tree) value

/-- A tree that is a text. -/
inductive IsText : Written → String → Prop where
  | string (s : String) : IsText (.string s) s

end Written

open Written (Holds OrDefault IsText)

namespace ServiceError

/-- The code that a tree states: null, or an integer that fits. -/
inductive StatesCode : Written → Option Int64 → Prop where
  | null : StatesCode .null none
  | integer {i : Int} (hrange : IntegerRange i) {code : Int64} (hcode : code.toInt = i) :
      StatesCode (.number (.integer i hrange)) (some code)

/-- The error that two parts state. -/
structure StatedBy (code message : Option Written) (error : ServiceError) : Prop where
  code : OrDefault StatesCode none code error.code
  message : OrDefault IsText "" message error.message

/-- **The error that a tree states.** -/
inductive Stated : Written → ServiceError → Prop where
  | object {members : List (String × Written)} {code message : Option Written}
      {error : ServiceError} (hcode : Holds members "code" code)
      (hmessage : Holds members "msg" message) (h : StatedBy code message error) :
      Stated (.object members) error
  | array {items : List Written} {error : ServiceError} (hlength : items.length ≤ 2)
      (h : StatedBy items[0]? items[1]? error) : Stated (.array items) error

end ServiceError

namespace Report

/-- The results that a tree states: the values of its items. Of the 127 containers around a part two
are those of the report and of the results themselves. -/
inductive StatesResults : Written → List Json → Prop where
  | array {items : List Written} {results : List Json}
      (h : List.Forall₂ (Written.Denotes 125) items results) : StatesResults (.array items) results

/-- The errors that a tree states. -/
inductive StatesErrors : Written → List ServiceError → Prop where
  | array {items : List Written} {errors : List ServiceError}
      (h : List.Forall₂ ServiceError.Stated items errors) : StatesErrors (.array items) errors

/-- The report that three parts state. -/
structure StatedBy (status results errors : Option Written) (report : Report) : Prop where
  status : OrDefault IsText "" status report.status
  results : OrDefault StatesResults [] results report.results
  errors : OrDefault StatesErrors [] errors report.errors

/-- **The report that a tree states.** -/
inductive Stated : Written → Report → Prop where
  | object {members : List (String × Written)} {status results errors : Option Written}
      {report : Report} (hstatus : Holds members "status" status)
      (hresults : Holds members "results" results) (herrors : Holds members "errors" errors)
      (h : StatedBy status results errors report) : Stated (.object members) report
  | array {items : List Written} {report : Report} (hlength : items.length ≤ 3)
      (h : StatedBy items[0]? items[1]? items[2]? report) : Stated (.array items) report

/-- **The report that a body states.** -/
def StatedIn (body : String) (report : Report) : Prop :=
  ∃ tree, Written.Spells body.toList tree ∧ Stated tree report

end Report

/-! ## Reading parts -/

namespace Written

theorem uniqueMember?_eq_some_iff (members : List (String × Written)) (key : String)
    (part : Option Written) :
    uniqueMember? members key = some part ↔ Holds members key part := by
  have hkey : ∀ member : String × Written, ¬ (member.1 == key) = true ↔ member.1 ≠ key := by
    intro member
    rw [beq_iff_eq]
  constructor
  · intro h
    rw [uniqueMember?] at h
    split at h
    · next hnone =>
      cases h
      exact .absent fun member hmember => (hkey _).mp (List.filter_eq_nil_iff.mp hnone _ hmember)
    · next tree hone =>
      cases h
      obtain ⟨before, after, rfl, hbefore, hfound, hafter⟩ := List.filter_eq_cons_iff.mp hone
      cases eq_of_beq hfound
      exact .present rfl (fun member hmember => (hkey _).mp (hbefore _ hmember))
        fun member hmember => (hkey _).mp (List.filter_eq_nil_iff.mp hafter _ hmember)
    · cases h
  · intro h
    cases h with
    | absent h =>
        rw [uniqueMember?, List.filter_eq_nil_iff.mpr fun member hmember =>
          (hkey _).mpr (h member hmember)]
    | present hmembers hbefore hafter =>
        rw [uniqueMember?, List.filter_eq_cons_iff.mpr ⟨_, _, hmembers,
          fun member hmember => (hkey _).mpr (hbefore member hmember), beq_self_eq_true key,
          List.filter_eq_nil_iff.mpr fun member hmember => (hkey _).mpr (hafter member hmember)⟩]

theorem orDefault_eq_some_iff {α : Type} {read : Written → Option α}
    {States : Written → α → Prop} (h : ∀ tree value, read tree = some value ↔ States tree value)
    (default : α) (part : Option Written) (value : α) :
    orDefault read default part = some value ↔ OrDefault States default part value := by
  cases part with
  | none =>
      constructor
      · rintro ⟨⟩
        exact .absent
      · rintro ⟨⟩
        rfl
  | some tree =>
      refine (h tree value).trans ⟨.present, fun hpresent => ?_⟩
      cases hpresent with
      | present hstates => exact hstates

theorem text?_eq_some_iff (tree : Written) (s : String) : tree.text? = some s ↔ IsText tree s := by
  constructor
  · intro h
    cases tree with
    | string s' =>
        cases h
        exact .string s
    | _ => cases h
  · rintro ⟨⟩
    rfl

end Written

namespace ServiceError

theorem code?_eq_some_iff (tree : Written) (code : Option Int64) :
    Written.nullable Written.int64? tree = some code ↔ StatesCode tree code := by
  constructor
  · intro h
    cases tree with
    | null =>
        cases h
        exact .null
    | number n =>
        obtain ⟨code, hcode, rfl⟩ := Option.map_eq_some_iff.mp h
        cases n with
        | double => cases hcode
        | integer i hrange =>
            obtain ⟨hfits, hword⟩ := Option.ite_none_right_eq_some.mp hcode
            refine .integer hrange ?_
            rw [← Option.some.inj hword, Int64.toInt_ofInt_of_le hrange.1 hfits]
    | _ => cases h
  · intro h
    cases h with
    | null => rfl
    | @integer i hrange code hcode =>
        have hfits : i < 0x8000000000000000 := hcode ▸ code.toInt_lt
        show ((if i < 0x8000000000000000 then some (Int64.ofInt i) else none).map some) = _
        rw [if_pos hfits, ← hcode, Int64.ofInt_toInt]
        rfl

theorem ofParts?_eq_some_iff (code message : Option Written) (error : ServiceError) :
    ofParts? code message = some error ↔ StatedBy code message error := by
  simp only [ofParts?, Option.bind_eq_bind, Option.bind_eq_some_iff,
    Written.orDefault_eq_some_iff code?_eq_some_iff,
    Written.orDefault_eq_some_iff Written.text?_eq_some_iff]
  constructor
  · rintro ⟨code, hcode, message, hmessage, ⟨⟩⟩
    exact ⟨hcode, hmessage⟩
  · rintro ⟨hcode, hmessage⟩
    exact ⟨_, hcode, _, hmessage, rfl⟩

/-- The error that is read is the one that the tree states. -/
theorem read?_eq_some_iff (tree : Written) (error : ServiceError) :
    read? tree = some error ↔ Stated tree error := by
  constructor
  · intro h
    cases tree with
    | object members =>
        simp only [read?, Option.bind_eq_bind, Option.bind_eq_some_iff,
          Written.uniqueMember?_eq_some_iff, ofParts?_eq_some_iff] at h
        obtain ⟨code, hcode, message, hmessage, hparts⟩ := h
        exact .object hcode hmessage hparts
    | array items =>
        obtain ⟨hlength, hparts⟩ := Option.ite_none_right_eq_some.mp h
        exact .array hlength ((ofParts?_eq_some_iff _ _ _).mp hparts)
    | _ => cases h
  · intro h
    cases h with
    | object hcode hmessage hparts =>
        simp only [read?, Option.bind_eq_bind, Option.bind_eq_some_iff,
          Written.uniqueMember?_eq_some_iff, ofParts?_eq_some_iff]
        exact ⟨_, hcode, _, hmessage, hparts⟩
    | array hlength hparts =>
        exact Option.ite_none_right_eq_some.mpr ⟨hlength, (ofParts?_eq_some_iff _ _ _).mpr hparts⟩

end ServiceError

namespace Report

theorem results?_eq_some_iff (tree : Written) (results : List Json) :
    results? tree = some results ↔ StatesResults tree results := by
  constructor
  · intro h
    cases tree with
    | array items =>
        rw [results?, Written.itemsWithin?_eq] at h
        exact .array ((Written.mapM_eq_some_iff (Written.valueWithin?_eq_some_iff 125) _ _).mp h)
    | _ => cases h
  · rintro ⟨h⟩
    rw [results?, Written.itemsWithin?_eq]
    exact (Written.mapM_eq_some_iff (Written.valueWithin?_eq_some_iff 125) _ _).mpr h

theorem errors?_eq_some_iff (tree : Written) (errors : List ServiceError) :
    errors? tree = some errors ↔ StatesErrors tree errors := by
  constructor
  · intro h
    cases tree with
    | array items =>
        exact .array ((Written.mapM_eq_some_iff ServiceError.read?_eq_some_iff _ _).mp h)
    | _ => cases h
  · rintro ⟨h⟩
    exact (Written.mapM_eq_some_iff ServiceError.read?_eq_some_iff _ _).mpr h

theorem ofParts?_eq_some_iff (status results errors : Option Written) (report : Report) :
    ofParts? status results errors = some report ↔ StatedBy status results errors report := by
  simp only [ofParts?, Option.bind_eq_bind, Option.bind_eq_some_iff,
    Written.orDefault_eq_some_iff Written.text?_eq_some_iff,
    Written.orDefault_eq_some_iff results?_eq_some_iff,
    Written.orDefault_eq_some_iff errors?_eq_some_iff]
  constructor
  · rintro ⟨status, hstatus, results, hresults, errors, herrors, ⟨⟩⟩
    exact ⟨hstatus, hresults, herrors⟩
  · rintro ⟨hstatus, hresults, herrors⟩
    exact ⟨_, hstatus, _, hresults, _, herrors, rfl⟩

theorem ofWritten?_eq_some_iff (tree : Written) (report : Report) :
    ofWritten? tree = some report ↔ Stated tree report := by
  constructor
  · intro h
    cases tree with
    | object members =>
        simp only [ofWritten?, Option.bind_eq_bind, Option.bind_eq_some_iff,
          Written.uniqueMember?_eq_some_iff, ofParts?_eq_some_iff] at h
        obtain ⟨status, hstatus, results, hresults, errors, herrors, hparts⟩ := h
        exact .object hstatus hresults herrors hparts
    | array items =>
        obtain ⟨hlength, hparts⟩ := Option.ite_none_right_eq_some.mp h
        exact .array hlength ((ofParts?_eq_some_iff _ _ _ _).mp hparts)
    | _ => cases h
  · intro h
    cases h with
    | object hstatus hresults herrors hparts =>
        simp only [ofWritten?, Option.bind_eq_bind, Option.bind_eq_some_iff,
          Written.uniqueMember?_eq_some_iff, ofParts?_eq_some_iff]
        exact ⟨_, hstatus, _, hresults, _, herrors, hparts⟩
    | array hlength hparts =>
        exact Option.ite_none_right_eq_some.mpr
          ⟨hlength, (ofParts?_eq_some_iff _ _ _ _).mpr hparts⟩

/-- **The report that is read from a body is the one that the body states.** -/
theorem read?_eq_some_iff (body : String) (report : Report) :
    read? body = some report ↔ StatedIn body report := by
  simp only [read?, Option.bind_eq_some_iff, Written.read?_eq_some_iff, ofWritten?_eq_some_iff,
    StatedIn]

end Report

/-! ## Members of other keys and in another order -/

namespace Written

/-- One change to the members of an object that a reader of the known keys does not see. -/
inductive Rearranged (known : List String) : Written → Written → Prop where
  | permuted {members members' : List (String × Written)} (h : members.Perm members') :
      Rearranged known (.object members) (.object members')
  | inserted {key : String} (hkey : key ∉ known) (tree : Written)
      (members : List (String × Written)) :
      Rearranged known (.object members) (.object ((key, tree) :: members))

theorem uniqueMember?_perm {members members' : List (String × Written)} (h : members.Perm members')
    (key : String) : uniqueMember? members key = uniqueMember? members' key := by
  have hfound := h.filter fun member => member.1 == key
  rw [uniqueMember?, uniqueMember?]
  generalize members.filter _ = found at hfound ⊢
  generalize members'.filter _ = found' at hfound ⊢
  match found, found' with
  | [], _ => rw [hfound.nil_eq]
  | [member], _ => rw [hfound.singleton_eq]
  | _ :: _ :: _, [] => exact absurd hfound.length_eq nofun
  | _ :: _ :: _, [_] => exact absurd hfound.length_eq nofun
  | _ :: _ :: _, _ :: _ :: _ => rfl

theorem uniqueMember?_insert {key key' : String} (h : key ≠ key') (tree : Written)
    (members : List (String × Written)) :
    uniqueMember? ((key, tree) :: members) key' = uniqueMember? members key' := by
  rw [uniqueMember?, List.filter_cons_of_neg (by simpa using h)]
  rfl

theorem uniqueMember?_cons_self (key : String) (tree : Written)
    (members : List (String × Written)) :
    uniqueMember? ((key, tree) :: members) key =
      match members.filter fun member => member.1 == key with
      | [] => some (some tree)
      | _ :: _ => none := by
  rw [uniqueMember?, List.filter_cons, if_pos (beq_self_eq_true key)]
  cases members.filter fun member => member.1 == key <;> rfl

/-- A change to the members keeps what they have under the known keys. -/
theorem Rearranged.uniqueMember?_eq {known : List String} {a b : Written}
    (h : Rearranged known a b) :
    ∃ members members', a = .object members ∧ b = .object members' ∧
      ∀ key ∈ known, uniqueMember? members key = uniqueMember? members' key := by
  cases h with
  | permuted h => exact ⟨_, _, rfl, rfl, fun key _ => uniqueMember?_perm h key⟩
  | inserted hkey tree members =>
      refine ⟨_, _, rfl, rfl, fun key hmem => (uniqueMember?_insert ?_ tree members).symm⟩
      rintro rfl
      exact hkey hmem

end Written

/-- The keys of an error. -/
def ServiceError.keys : List String := ["code", "msg"]

/-- A change to the members of an error keeps the error. -/
theorem ServiceError.read?_rearranged {a b : Written} (h : Written.Rearranged keys a b) :
    read? a = read? b := by
  obtain ⟨members, members', rfl, rfl, hkeys⟩ := h.uniqueMember?_eq
  rw [read?, read?, hkeys "code" (by decide), hkeys "msg" (by decide)]

namespace Report

/-- The keys of a report. -/
def keys : List String := ["status", "results", "errors"]

/-- One change to a report, to its members or to those of an error, that makes no difference. -/
inductive Rearranged : Written → Written → Prop where
  | members {a b : Written} (h : Written.Rearranged keys a b) : Rearranged a b
  | error {a b : Written} (h : Written.Rearranged ServiceError.keys a b)
      (before after : List (String × Written)) (first last : List Written) :
      Rearranged (.object (before ++ ("errors", .array (first ++ a :: last)) :: after))
        (.object (before ++ ("errors", .array (first ++ b :: last)) :: after))

theorem errors?_rearranged {a b : Written} (h : Written.Rearranged ServiceError.keys a b)
    (first last : List Written) :
    errors? (.array (first ++ a :: last)) = errors? (.array (first ++ b :: last)) := by
  rw [errors?, errors?, List.mapM_append, List.mapM_append, List.mapM_cons, List.mapM_cons,
    ServiceError.read?_rearranged h]

theorem ofWritten?_rearranged {a b : Written} (h : Rearranged a b) :
    ofWritten? a = ofWritten? b := by
  cases h with
  | members h =>
      obtain ⟨members, members', rfl, rfl, hkeys⟩ := h.uniqueMember?_eq
      rw [ofWritten?, ofWritten?, hkeys "status" (by decide), hkeys "results" (by decide),
        hkeys "errors" (by decide)]
  | error h before after first last =>
      -- the place of the errors among the members does not matter
      have hfront : ∀ tree key, Written.uniqueMember? (before ++ ("errors", tree) :: after) key =
          Written.uniqueMember? (("errors", tree) :: (before ++ after)) key :=
        fun tree key => Written.uniqueMember?_perm List.perm_middle key
      have hother : ∀ tree key, "errors" ≠ key →
          Written.uniqueMember? (before ++ ("errors", tree) :: after) key =
            Written.uniqueMember? (before ++ after) key :=
        fun tree key hkey => (hfront tree key).trans (Written.uniqueMember?_insert hkey _ _)
      simp only [ofWritten?, hother _ "status" (by decide), hother _ "results" (by decide),
        hfront _ "errors", Written.uniqueMember?_cons_self]
      cases (before ++ after).filter fun member => member.1 == "errors" with
      | nil =>
          simp only [ofParts?, Written.orDefault, Option.bind_eq_bind, Option.bind_some,
            errors?_rearranged h]
      | cons _ _ => rfl

/-- **Any changes to the members keep the report.** -/
theorem Stated.rearranged {a b : Written} {report : Report} (h : Stated a report)
    (hchanges : Relation.ReflTransGen Rearranged a b) : Stated b report := by
  have hsame : ofWritten? a = ofWritten? b := by
    induction hchanges with
    | refl => rfl
    | tail _ hchange ih => exact ih.trans (ofWritten?_rearranged hchange)
  rwa [← ofWritten?_eq_some_iff, ← hsame, ofWritten?_eq_some_iff]

end Report

end BucketQuery
