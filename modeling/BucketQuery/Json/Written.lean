import BucketQuery.Json.Basic
import BucketQuery.Json.Token

set_option autoImplicit false

/-! # JSON as written

The second half of reading JSON. A text is first read as a tree of what is written
(`Written`), with repeated keys, parts without a value and any nesting; the grammar is
followed by an automaton on tokens that keeps the containers still open on a stack. Then the
tree is given its value (`Written.value?`), which wants every part to have one and at most 127
containers inside each other, and keeps one member of each key.

A reader that knows which members it wants works on the tree and so never looks at the others.
-/

namespace BucketQuery

/-- A JSON text as a tree. What is well formed and denotes nothing is `valueless`: a number too
large for a double, a string with half a surrogate pair, and an object with such a key. -/
inductive Written where
  | null
  | bool (value : Bool)
  | number (value : Number)
  | string (value : String)
  | valueless
  | array (items : List Written)
  | object (members : List (String × Written))

namespace Written

/-- The members of an object so far, in reverse. There are none after a key without a value. -/
abbrev MembersSoFar := Option (List (String × Written))

/-- The members with one more. -/
def MembersSoFar.add (members : MembersSoFar) (key : Option String) (value : Written) :
    MembersSoFar :=
  match members, key with
  | some members, some key => some ((key, value) :: members)
  | _, _ => none

/-- The object with these members. -/
def MembersSoFar.close : MembersSoFar → Written
  | some members => .object members.reverse
  | none => .valueless

/-- A container still open, with what it holds so far in reverse. -/
inductive Open where
  | array (items : List Written)
  | object (members : MembersSoFar) (key : Option String)

/-- What the automaton waits for, inside the open containers. -/
inductive Expect where
  | value (stack : List Open)
  | firstItem (stack : List Open)
  | firstKey (stack : List Open)
  | key (members : MembersSoFar) (stack : List Open)
  | colon (members : MembersSoFar) (key : Option String) (stack : List Open)
  | after (value : Written) (stack : List Open)

/-- The first token of a value. -/
def begin? (stack : List Open) : Json.Token → Option Expect
  | .null => some (.after .null stack)
  | .bool b => some (.after (.bool b) stack)
  | .number (some n) => some (.after (.number n) stack)
  | .number none => some (.after .valueless stack)
  | .string (some s) => some (.after (.string s) stack)
  | .string none => some (.after .valueless stack)
  | .openArray => some (.firstItem stack)
  | .openObject => some (.firstKey stack)
  | _ => none

/-- One step of the automaton. -/
def step? : Expect → Json.Token → Option Expect
  | .value stack, token => begin? stack token
  | .firstItem stack, .closeArray => some (.after (.array []) stack)
  | .firstItem stack, token => begin? (.array [] :: stack) token
  | .firstKey stack, .closeObject => some (.after (.object []) stack)
  | .firstKey stack, .string key => some (.colon (some []) key stack)
  | .key members stack, .string key => some (.colon members key stack)
  | .colon members key stack, .colon => some (.value (.object members key :: stack))
  | .after value (.array items :: stack), .comma => some (.value (.array (value :: items) :: stack))
  | .after value (.array items :: stack), .closeArray =>
    some (.after (.array (value :: items).reverse) stack)
  | .after value (.object members key :: stack), .comma =>
    some (.key (members.add key value) stack)
  | .after value (.object members key :: stack), .closeObject =>
    some (.after (members.add key value).close stack)
  | _, _ => none

/-- The tree that the tokens build from here on. -/
def build? : Expect → List Json.Token → Option Written
  | .after value [], [] => some value
  | _, [] => none
  | expect, token :: rest =>
    match step? expect token with
    | some next => build? next rest
    | none => none

/-- The tree of a text. -/
def read? (text : String) : Option Written :=
  (Json.tokens? text).bind (build? (.value []))

/-- How many containers may stand inside each other. -/
def maxDepth : Nat := 127

mutual

/-- The value of a tree in which at most `depth` containers stand inside each other. -/
def valueWithin? (depth : Nat) : Written → Option Json
  | .null => some .null
  | .bool b => some (.bool b)
  | .number n => some (.number n)
  | .string s => some (.string s)
  | .valueless => none
  | .array items => if depth = 0 then none else (itemsWithin? (depth - 1) items).map .array
  | .object members =>
    if depth = 0 then none
    else (membersWithin? (depth - 1) members).map fun entries => .object (Members.ofEntries entries)

/-- The values of the items of an array. -/
def itemsWithin? (depth : Nat) : List Written → Option (List Json)
  | [] => some []
  | item :: rest => do
    let value ← valueWithin? depth item
    let values ← itemsWithin? depth rest
    some (value :: values)

/-- The values of the members of an object, repeated keys still repeated. -/
def membersWithin? (depth : Nat) : List (String × Written) → Option (List (String × Json))
  | [] => some []
  | (key, item) :: rest => do
    let value ← valueWithin? depth item
    let values ← membersWithin? depth rest
    some ((key, value) :: values)

end

/-- The value of a tree. -/
def value? (written : Written) : Option Json := written.valueWithin? maxDepth

end Written

/-- The value of a JSON text. -/
def Json.read? (text : String) : Option Json := (Written.read? text).bind (·.value?)

/-- The members of a JSON text that is an object. -/
def Members.read? (text : String) : Option Members := (Json.read? text).bind (·.members?)

end BucketQuery
