import BucketQuery.Json.Basic

set_option autoImplicit false

/-! # The order of values

Values of every kind have one order: by kind first (null, false, true, numbers, strings,
arrays, objects), then numbers as doubles, strings by code point, arrays item by item with a
shorter one first, and objects by size and then member by member in the order of their keys.

The members are put in key order at every depth first (`Json.keySorted`); after that the
comparison runs through both values side by side.
-/

namespace BucketQuery

/-- Puts a member into a list in key order. -/
def Members.place (key : String) (value : Json) : Members → Members
  | [] => [(key, value)]
  | (k, v) :: rest =>
    if compare key k = .gt then (k, v) :: place key value rest else (key, value) :: (k, v) :: rest

namespace Json

mutual

/-- The value with the members of every object in the order of their keys. -/
def keySorted : Json → Json
  | .array items => .array (keySortedItems items)
  | .object members => .object (keySortedMembers members)
  | .null => .null
  | .bool b => .bool b
  | .number n => .number n
  | .string s => .string s

/-- Key order inside each item. -/
def keySortedItems : List Json → List Json
  | [] => []
  | item :: rest => keySorted item :: keySortedItems rest

/-- Key order of the members and inside each of them. -/
def keySortedMembers : List (String × Json) → List (String × Json)
  | [] => []
  | (key, value) :: rest => Members.place key (keySorted value) (keySortedMembers rest)

end

/-- The place of a kind of value in the order. -/
def kindRank : Json → Nat
  | .null => 0
  | .bool false => 1
  | .bool true => 2
  | .number _ => 3
  | .string _ => 4
  | .array _ => 5
  | .object _ => 6

mutual

/-- The order of two values whose members are in key order. -/
def compareSorted : Json → Json → Ordering
  | .number a, .number b => compare a.signedUnits b.signedUnits
  | .string a, .string b => compare a b
  | .array a, .array b => compareItems a b
  | .object a, .object b => (compare a.length b.length).then (compareMembers a b)
  | a, b => compare a.kindRank b.kindRank

/-- The order of two lists of items: the first difference decides, then the length. -/
def compareItems : List Json → List Json → Ordering
  | [], [] => .eq
  | [], _ :: _ => .lt
  | _ :: _, [] => .gt
  | a :: restA, b :: restB => (compareSorted a b).then (compareItems restA restB)

/-- The order of two lists of members: key before value, and the first difference decides. -/
def compareMembers : List (String × Json) → List (String × Json) → Ordering
  | [], [] => .eq
  | [], _ :: _ => .lt
  | _ :: _, [] => .gt
  | (k, a) :: restA, (l, b) :: restB =>
    (compare k l).then ((compareSorted a b).then (compareMembers restA restB))

end

/-- The order of two values. -/
def collate (a b : Json) : Ordering := compareSorted a.keySorted b.keySorted

/-- The values in their order; equal ones stay as they were. -/
def sort (items : List Json) : List Json :=
  items.mergeSort fun a b => (collate a b).isLE

end Json

end BucketQuery
