import BucketQuery.Number.Basic
import BucketQuery.Text.Name

set_option autoImplicit false

/-! # JSON values

Values with the members of an object in the order in which they were inserted. A list of
members is used as a map: `insert` replaces in place or appends, `remove` moves the last member
into the gap, and both keep keys unique (`Members.Unique`).
-/

namespace BucketQuery

/-- A JSON value. -/
inductive Json where
  | null
  | bool (value : Bool)
  | number (value : Number)
  | string (value : String)
  | array (items : List Json)
  | object (members : List (String × Json))

/-- The members of an object, in insertion order. -/
abbrev Members := List (String × Json)

namespace Members

/-- No key stands twice. -/
def Unique (members : Members) : Prop := (members.map Prod.fst).Nodup

/-- The value of a key. -/
def get? (members : Members) (key : String) : Option Json :=
  match members with
  | [] => none
  | (k, v) :: rest => if k = key then some v else get? rest key

/-- Sets the value of a key: in place if the key is there, at the end otherwise. -/
def insert (members : Members) (key : String) (value : Json) : Members :=
  match members with
  | [] => [(key, value)]
  | (k, v) :: rest => if k = key then (k, value) :: rest else (k, v) :: insert rest key value

/-- The members with the keys of a list set in turn. -/
def insertAll (members : Members) : List (String × Json) → Members
  | [] => members
  | (key, value) :: rest => insertAll (members.insert key value) rest

/-- The members that a list of entries makes: a key that comes twice keeps its first place and
takes its last value. -/
def ofEntries (entries : List (String × Json)) : Members := insertAll [] entries

/-- Puts the last of the given members in front of the others. -/
def lastFirst (members : Members) : Members :=
  match members.getLast? with
  | none => []
  | some last => last :: members.dropLast

/-- The members without a key. The last member moves into the gap. -/
def remove (members : Members) (key : String) : Members :=
  match members with
  | [] => []
  | (k, v) :: rest => if k = key then lastFirst rest else (k, v) :: remove rest key

end Members

namespace Json

/-- The number of a natural number below `2^64`. -/
def ofUInt64 (n : UInt64) : Json := .number (.ofUInt64 n)

/-- The text that a value is, if it is one. -/
def string? : Json → Option String
  | .string s => some s
  | _ => none

/-- The members of a value, if it is an object. -/
def members? : Json → Option Members
  | .object members => some members
  | _ => none

/-- The member of a value with this key, if it is an object that has one. -/
def member? (value : Json) (key : String) : Option Json :=
  value.members?.bind (·.get? key)

/-- The value reached by following a list of names through nested objects. -/
def follow? (value : Json) : List String → Option Json
  | [] => some value
  | name :: rest => (value.member? name).bind (·.follow? rest)

/-- The value at a dotted path. The empty path reaches nothing. -/
def lookup? (document : Json) (path : String) : Option Json :=
  if path = "" then none else document.follow? (segments path)

end Json

end BucketQuery
