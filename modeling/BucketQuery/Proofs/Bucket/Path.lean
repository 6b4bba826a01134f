import BucketQuery.Bucket.Evaluation
import BucketQuery.Proofs.Json.Members
import BucketQuery.Proofs.Text.Path

set_option autoImplicit false

/-! # What a path addresses

A path is used twice: it is written into a statement, and it is looked up in a document. Names lead
from a document to the value inside of nested objects that they reach (`Reaches`), or they stop at a
value that is no object or lacks the next key (`Stops`). The names that the text of a path shows are
those that its evaluation follows (`Expression.path_addresses`), whatever characters they contain.
-/

namespace BucketQuery

namespace Json

/-! ## Following names -/

/-- **Following names** one by one through nested objects leads from a value to another. -/
inductive Reaches : Json → List String → Json → Prop where
  | here (value : Json) : Reaches value [] value
  | step {members : Members} {name : String} {next value : Json} {names : List String}
      (hmember : members.get? name = some next) (hrest : Reaches next names value) :
      Reaches (.object members) (name :: names) value

/-- A name leads nowhere from a value that is no object or that has no such key. -/
def Lacks (value : Json) (name : String) : Prop :=
  ∀ members, value = .object members → name ∉ members.map Prod.fst

/-- Names stop when one of them leads nowhere from the value that those before it reach. -/
def Stops (document : Json) (names : List String) : Prop :=
  ∃ before name after value, names = before ++ name :: after ∧ document.Reaches before value ∧
    value.Lacks name

theorem member?_eq_some_iff {value next : Json} {name : String} :
    value.member? name = some next ↔
      ∃ members, value = .object members ∧ Members.get? members name = some next := by
  cases value with
  | object members =>
      constructor
      · intro h
        exact ⟨members, rfl, h⟩
      · rintro ⟨_, ⟨⟩, h⟩
        exact h
  | _ => exact iff_of_false nofun (by rintro ⟨_, ⟨⟩, _⟩)

theorem member?_eq_none_iff {value : Json} {name : String} :
    value.member? name = none ↔ value.Lacks name := by
  rw [Option.eq_none_iff_forall_not_mem]
  constructor
  · rintro h members rfl hkey
    obtain ⟨next, hnext⟩ := (Members.mem_keys_iff members name).mp hkey
    exact h next (member?_eq_some_iff.mpr ⟨members, rfl, hnext⟩)
  · rintro h next hnext
    obtain ⟨members, rfl, hmember⟩ := member?_eq_some_iff.mp hnext
    exact h members rfl ((Members.mem_keys_iff members name).mpr ⟨next, hmember⟩)

/-- Following names finds the value that they reach. -/
theorem follow?_eq_some_iff {document value : Json} {names : List String} :
    document.follow? names = some value ↔ document.Reaches names value := by
  induction names generalizing document with
  | nil =>
      constructor
      · rintro ⟨⟩
        exact .here _
      · rintro ⟨⟩
        rfl
  | cons name names ih =>
      rw [follow?, Option.bind_eq_some_iff]
      constructor
      · rintro ⟨next, hnext, hrest⟩
        obtain ⟨members, rfl, hmember⟩ := member?_eq_some_iff.mp hnext
        exact .step hmember (ih.mp hrest)
      · rintro ⟨⟩
        next hmember hrest => exact ⟨_, hmember, ih.mpr hrest⟩

theorem follow?_append (document : Json) (before after : List String) :
    document.follow? (before ++ after) = (document.follow? before).bind (·.follow? after) := by
  induction before generalizing document with
  | nil => rfl
  | cons name before ih =>
      rw [List.cons_append, follow?, follow?, Option.bind_assoc]
      exact Option.bind_congr fun next _ => ih next

/-- Following names finds nothing exactly when they stop. -/
theorem follow?_eq_none_iff {document : Json} {names : List String} :
    document.follow? names = none ↔ document.Stops names := by
  constructor
  · intro h
    induction names generalizing document with
    | nil => cases h
    | cons name names ih =>
        rw [follow?] at h
        cases hnext : document.member? name with
        | none =>
            exact ⟨[], name, names, document, rfl, .here _, member?_eq_none_iff.mp hnext⟩
        | some next =>
            -- the first name leads on, so one of the others stops
            rw [hnext] at h
            obtain ⟨members, rfl, hmember⟩ := member?_eq_some_iff.mp hnext
            obtain ⟨before, last, after, value, rfl, hreaches, hlacks⟩ := ih h
            exact ⟨name :: before, last, after, value, rfl, .step hmember hreaches, hlacks⟩
  · rintro ⟨before, name, after, value, rfl, hreaches, hlacks⟩
    rw [follow?_append, follow?_eq_some_iff.mpr hreaches, Option.bind_some, follow?,
      member?_eq_none_iff.mpr hlacks, Option.bind_none]

theorem lookup?_of_ne_empty {path : String} (h : path ≠ "") (document : Json) :
    document.lookup? path = document.follow? (segments path) := by
  rw [lookup?, if_neg h]

end Json

/-! ## Outcomes of a look-up -/

theorem Outcome.ofOption_eq_value_iff {found : Option Json} {value : Json} :
    ofOption found = .value value ↔ found = some value := by
  cases found with
  | none => exact iff_of_false nofun nofun
  | some other => rw [ofOption, Outcome.value.injEq, Option.some_inj]

theorem Outcome.ofOption_eq_missing_iff {found : Option Json} :
    ofOption found = .missing ↔ found = none := by
  cases found with
  | none => exact iff_of_true rfl rfl
  | some _ => exact iff_of_false nofun nofun

/-! ## Paths -/

namespace Expression

/-- **A path addresses names**: they are what its text shows, and they are what looking it up and
evaluating it follow in every document. -/
structure Addresses (path : String) (names : List String) : Prop where
  shown : Name.readPath? (Expression.path path).text = some names
  found : ∀ document value : Json,
    document.lookup? path = some value ↔ document.Reaches names value
  absent : ∀ document : Json, document.lookup? path = none ↔ document.Stops names
  value : ∀ (scope : Scope) (value : Json),
    (Expression.path path).evaluate scope = .value value ↔ scope.document.Reaches names value
  missing : ∀ scope : Scope,
    (Expression.path path).evaluate scope = .missing ↔ scope.document.Stops names

theorem addresses_segments {path : String} (h : path ≠ "") : Addresses path (segments path) := by
  have hfound : ∀ document value : Json,
      document.lookup? path = some value ↔ document.Reaches (segments path) value := by
    intro document value
    rw [Json.lookup?_of_ne_empty h, Json.follow?_eq_some_iff]
  have habsent : ∀ document : Json,
      document.lookup? path = none ↔ document.Stops (segments path) := by
    intro document
    rw [Json.lookup?_of_ne_empty h, Json.follow?_eq_none_iff]
  exact {
    shown := Name.readPath?_writePath path
    found := hfound
    absent := habsent
    value := fun scope value => Outcome.ofOption_eq_value_iff.trans (hfound scope.document value)
    missing := fun scope => Outcome.ofOption_eq_missing_iff.trans (habsent scope.document) }

/-- **The text of a path and its evaluation address the same property.** The text of every path that
is not empty shows names, and looking the path up follows just these. Names without dots, unless
there is only the empty one, are written and followed one by one as they stand in the path that
joins them. -/
theorem path_addresses :
    (∀ path : String, path ≠ "" → ∃ names, Addresses path names) ∧
    ∀ names : List String, names ≠ [] → names ≠ [""] → (∀ name ∈ names, '.' ∉ name.toList) →
      Addresses (".".intercalate names) names ∧
      (Expression.path (".".intercalate names)).text = ".".intercalate (names.map Name.write) := by
  refine ⟨fun path h => ⟨segments path, addresses_segments h⟩, fun names hne hempty hdots => ?_⟩
  have hsegments : segments (".".intercalate names) = names := segments_intercalate hne hdots
  have hpath : ".".intercalate names ≠ "" := by
    intro h
    -- the empty path has the empty name alone
    rw [h] at hsegments
    exact hempty hsegments.symm
  constructor
  · have haddresses := addresses_segments hpath
    rwa [hsegments] at haddresses
  · rw [text, Name.writePath, hsegments]

/-- A back quote, an empty name and a letter beyond ASCII are written, read and followed. -/
theorem path_addresses_unusual :
    "a`b..größe" ≠ "" ∧ (∀ name ∈ ["a`b", "", "größe"], '.' ∉ name.toList) ∧
    Name.readPath? "`a``b`.``.`größe`" = some ["a`b", "", "größe"] ∧
    (Json.object [("a`b", .object [("", .object [("größe", .ofUInt64 7)])])]).lookup?
      "a`b..größe" = some (.ofUInt64 7) ∧
    (Json.object [("a`b", .object [("größe", .ofUInt64 7)])]).lookup? "a`b..größe" = none := by
  have hpath : "a`b..größe" ≠ "" := by decide
  have hdots : ∀ name ∈ ["a`b", "", "größe"], '.' ∉ name.toList := by decide
  have hjoin : ".".intercalate ["a`b", "", "größe"] = "a`b..größe" := by decide +kernel
  have htext : ".".intercalate (["a`b", "", "größe"].map Name.write) = "`a``b`.``.`größe`" := by
    decide +kernel
  obtain ⟨hjoined, hwritten⟩ := path_addresses.2 _ (by decide) (by decide) hdots
  obtain ⟨names, haddresses⟩ := path_addresses.1 _ hpath
  rw [hjoin] at hjoined hwritten
  -- the names that the text shows are the ones that were joined
  obtain rfl := Option.some.inj (haddresses.shown.symm.trans hjoined.shown)
  have hshown := haddresses.shown
  rw [hwritten, htext] at hshown
  refine ⟨hpath, hdots, hshown, ?_, ?_⟩
  · exact (haddresses.found _ _).mpr (.step rfl (.step rfl (.step rfl (.here _))))
  · refine (haddresses.absent _).mpr ⟨["a`b"], "", ["größe"], _, rfl, .step rfl (.here _), ?_⟩
    rintro _ ⟨⟩
    decide

end Expression

end BucketQuery
