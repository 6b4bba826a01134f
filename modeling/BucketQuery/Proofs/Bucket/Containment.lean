import BucketQuery.Proofs.Bucket.Selection
import BucketQuery.Proofs.Text.Lowercase

set_option autoImplicit false

/-! # Containment

A containment filter looks for the lower case of its text in the lower case of the text that is
found (`mem_ids_contains_iff`). A text that occurs as it is written has its lower case in its place
there, which need not be its lower case on its own: a capital sigma at one of its ends may take the
other form. Every other occurrence is found (`ids_contains_occurrence`), and one with such a sigma
can be missed (`contains_misses_sigma`).
-/

namespace BucketQuery

/-- The lower case of a text is made up of the lower cases of its pieces, in their places. -/
theorem toList_lowercase_append {whole : String} {before part after : List Char}
    (h : whole.toList = before ++ part ++ after) :
    (lowercase whole).toList =
      lowerBetween [] before (part ++ after) ++ lowerBetween before.reverse part after ++
        lowerBetween (part.reverse ++ before.reverse) after [] := by
  rw [lowercase, String.toList_ofList, lowerFrom_eq_lowerBetween, h, List.append_assoc,
    lowerBetween_append, lowerBetween_append, List.append_nil, List.append_nil, List.append_nil,
    List.append_assoc]

theorem toList_lowercase (part : String) : (lowercase part).toList = lowerFrom [] part.toList :=
  String.toList_ofList

/-- The lower case of a text occurs where the text does, unless it is reshaped there. -/
theorem lowercase_infix_of_not_reshaped {whole part : String} {before after : List Char}
    (h : whole.toList = before ++ part.toList ++ after)
    (hshape : ¬ Reshaped before.reverse part.toList after) :
    (lowercase part).toList <:+: (lowercase whole).toList := by
  have hplace := (lowerBetween_eq_lowerFrom_iff _ _ _).mpr hshape
  rw [toList_lowercase_append h, hplace, toList_lowercase]
  exact ⟨_, _, rfl⟩

namespace Bucket

variable {bucket : Bucket} {id path whole : String} {document : Json}

/-- A containment filter selects a document when the lower case of the text that is found has the
lower case of the wanted text in it. -/
theorem mem_ids_contains_iff (hvisible : (id, document) ∈ bucket.visible)
    (hwhole : document.lookup? path = some (.string whole)) (part : String) :
    id ∈ bucket.ids [(path ++ "_contains", .string part)] ↔
      (lowercase part).toList <:+: (lowercase whole).toList := by
  have hids : bucket.ids [(path ++ "_contains", .string part)] =
      bucket.selecting path .contains (.string part) :=
    bucket.ids_append_suffix path .contains nofun _
  rw [hids, selecting, mem_having_iff bucket hvisible, hwhole]
  constructor
  · rintro ⟨_, _, ⟨⟩, ⟨⟩, hinfix⟩
    exact hinfix
  · intro hinfix
    exact ⟨whole, part, rfl, rfl, hinfix⟩

/-- **What a containment filter finds.** Take a document that is not a gateway's own, with a text at
a path. A containment filter selects it exactly when the lower case of the wanted text occurs in the
lower case of the text there. Where the wanted text occurs as it is written, its own lower case
stands in its place unless it is reshaped there, so every occurrence is found that is not reshaped:
those without a capital sigma, and those with no cased character next to them. -/
theorem ids_contains_occurrence (hvisible : (id, document) ∈ bucket.visible)
    (hwhole : document.lookup? path = some (.string whole)) (part : String) :
    (id ∈ bucket.ids [(path ++ "_contains", .string part)] ↔
      (lowercase part).toList <:+: (lowercase whole).toList) ∧
    (∀ before after : List Char, whole.toList = before ++ part.toList ++ after →
      (lowercase whole).toList =
        lowerBetween [] before (part.toList ++ after) ++
          lowerBetween before.reverse part.toList after ++
          lowerBetween (part.toList.reverse ++ before.reverse) after [] ∧
      (lowerBetween before.reverse part.toList after = (lowercase part).toList ↔
        ¬ Reshaped before.reverse part.toList after) ∧
      (¬ Reshaped before.reverse part.toList after →
        id ∈ bucket.ids [(path ++ "_contains", .string part)]) ∧
      (startsCased before.reverse = false → startsCased after = false →
        id ∈ bucket.ids [(path ++ "_contains", .string part)])) ∧
    (part.toList <:+: whole.toList → capitalSigma ∉ part.toList →
      id ∈ bucket.ids [(path ++ "_contains", .string part)]) := by
  have hselected := mem_ids_contains_iff hvisible hwhole part
  -- where the text stands with its own lower case, that is found
  have hfound {before after : List Char} (h : whole.toList = before ++ part.toList ++ after)
      (hshape : ¬ Reshaped before.reverse part.toList after) :
      id ∈ bucket.ids [(path ++ "_contains", .string part)] :=
    hselected.mpr (lowercase_infix_of_not_reshaped h hshape)
  refine ⟨hselected, ?_, ?_⟩
  · intro before after h
    refine ⟨toList_lowercase_append h, ?_, hfound h, ?_⟩
    · rw [toList_lowercase]
      exact lowerBetween_eq_lowerFrom_iff _ _ _
    · intro hbefore hafter
      exact hfound h (not_reshaped_of_not_cased hbefore hafter _)
  · rintro ⟨before, after, h⟩ hsigma
    exact hfound h.symm (not_reshaped_of_not_mem hsigma _ _)

end Bucket

/-! ## A name with sigmas -/

/-- The document of a voyager. -/
def voyager : Json := .object [("name", .string "ΟΔΥΣΣΕΥΣ ΙΘΑΚΗΣΙΟΣ")]

/-- A bucket with one document. -/
def harbor : Bucket := .ofList "harbor" [("a", voyager)]

theorem voyager_mem_visible : ("a", voyager) ∈ harbor.visible := by
  rw [Bucket.mem_visible_iff]
  exact ⟨List.mem_singleton_self _, by decide +kernel⟩

/-- A whole word of the name is found, and so is a piece of it without a sigma. -/
theorem ids_contains_occurrence_harbor :
    ("a", voyager) ∈ harbor.visible ∧
    voyager.lookup? "name" = some (.string "ΟΔΥΣΣΕΥΣ ΙΘΑΚΗΣΙΟΣ") ∧
    "a" ∈ harbor.ids [("name_contains", .string "ΟΔΥΣΣΕΥΣ")] ∧
    "a" ∈ harbor.ids [("name_contains", .string "ΘΑΚΗ")] := by
  have hwhole : voyager.lookup? "name" = some (.string "ΟΔΥΣΣΕΥΣ ΙΘΑΚΗΣΙΟΣ") := rfl
  obtain ⟨_, hword, _⟩ :=
    Bucket.ids_contains_occurrence voyager_mem_visible hwhole "ΟΔΥΣΣΕΥΣ"
  obtain ⟨_, _, hpiece⟩ := Bucket.ids_contains_occurrence voyager_mem_visible hwhole "ΘΑΚΗ"
  obtain ⟨_, _, _, halone⟩ := hword [] " ΙΘΑΚΗΣΙΟΣ".toList rfl
  refine ⟨voyager_mem_visible, hwhole, ?_, ?_⟩
  · exact halone (by decide +kernel) (by decide +kernel)
  · exact hpiece (by decide +kernel) (by decide +kernel)

/-- **A piece that is written in the name is not found**: its last sigma ends a word on its own, which
goes on in the name. -/
theorem contains_misses_sigma :
    ("a", voyager) ∈ harbor.documents ∧ ¬ GatewayId "a" ∧
    voyager.lookup? "name" = some (.string "ΟΔΥΣΣΕΥΣ ΙΘΑΚΗΣΙΟΣ") ∧
    "ΟΔΥΣ".toList <:+: "ΟΔΥΣΣΕΥΣ ΙΘΑΚΗΣΙΟΣ".toList ∧
    "a" ∉ harbor.ids [("name_contains", .string "ΟΔΥΣ")] := by
  have hwhole : voyager.lookup? "name" = some (.string "ΟΔΥΣΣΕΥΣ ΙΘΑΚΗΣΙΟΣ") := rfl
  refine ⟨List.mem_singleton_self _, by decide +kernel, hwhole, by decide +kernel, ?_⟩
  intro hfound
  have hinfix := (Bucket.mem_ids_contains_iff voyager_mem_visible hwhole "ΟΔΥΣ").mp hfound
  exact absurd hinfix (by decide +kernel)

end BucketQuery
