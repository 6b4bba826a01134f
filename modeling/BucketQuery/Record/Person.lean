import BucketQuery.Record.Basic

set_option autoImplicit false

/-! # Persons

A record type with typed fields: an id, a name and an age. Other fields are ignored.
-/

namespace BucketQuery

/-- A person. -/
structure Person where
  id : String
  name : String
  age : Nat
  deriving DecidableEq

namespace Person

/-- The text in a field. -/
def textField (document : Members) (field : String) : Except RecordError String :=
  match document.get? field with
  | none => .error (.fieldAbsent field)
  | some (.string s) => .ok s
  | some _ => .error (.fieldKind field)

/-- The 32-bit word in a field. -/
def wordField (document : Members) (field : String) : Except RecordError Nat :=
  match document.get? field with
  | none => .error (.fieldAbsent field)
  | some (.number n) =>
    match n.below? UInt32.size with
    | some word => .ok word
    | none => .error (.fieldKind field)
  | some _ => .error (.fieldKind field)

/-- Reads a person. -/
def read (document : Members) : Except RecordError Person := do
  let id ← textField document "id"
  let name ← textField document "name"
  let age ← wordField document "age"
  return ⟨id, name, age⟩

/-- The JSON form of a person. -/
def toJson (person : Person) : Json :=
  .object
    [("id", .string person.id), ("name", .string person.name),
      ("age", .ofUInt64 (UInt64.ofNat person.age))]

/-- Persons as record type. -/
def recordType : RecordType Person := ⟨"id", read, toJson⟩

end Person

end BucketQuery
