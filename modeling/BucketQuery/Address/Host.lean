import BucketQuery.Address.HostName
import BucketQuery.Text.Encoding
import BucketQuery.Text.Name

set_option autoImplicit false

/-! # Hosts

The host of a web address: a name, an address of four bytes, or an address of eight pieces
between brackets. Percent escapes are undone first. A name that ends in a number has to be an
address of four bytes.

An address of four bytes is written as one to four numbers with dots between them, and perhaps a
dot at the end; the last number fills all bytes that are left. A number with a leading `0x` is
hexadecimal, and one with a leading zero octal.

An address of eight pieces is written as hexadecimal numbers of up to four digits with colons
between them. Two colons side by side stand, once, for all pieces that are missing, which has
to be at least one. The last two pieces can be written as four decimal bytes with dots.
-/

namespace BucketQuery

/-! ## Four bytes -/

namespace Ipv4

/-- The number that digits denote in a base, if they all are digits of the base. -/
def inBase? (base : Nat) (digits : List Char) : Option Nat :=
  digits.foldlM
    (fun n c => (hexDigitValue? c).bind fun d => if d < base then some (base * n + d) else none) 0

/-- The number that a label denotes. A bare `0x` is zero. -/
def number? : List Char → Option Nat
  | [] => none
  | '0' :: 'x' :: digits => inBase? 16 digits
  | '0' :: d :: digits => inBase? 8 (d :: digits)
  | digits => inBase? 10 digits

/-- The labels of a name, without the empty one after a dot at its end. -/
def labels (name : List Char) : List (List Char) :=
  let labels := splitOnChar '.' name
  if labels.getLast? = some [] then labels.dropLast else labels

/-- Whether the last label of a name is a number or at least looks like one. -/
def endsInNumber (name : List Char) : Bool :=
  match (labels name).getLast? with
  | some [] => false
  | some last => last.all Char.isDigit || (number? last).isSome
  | none => false

/-- The address with the numbers of a name: all but the last are bytes, and the last one has
room in the bytes that are left. -/
def ofNumbers? (numbers : List Nat) : Option UInt32 :=
  match numbers.getLast? with
  | none => none
  | some last =>
    let bytes := numbers.dropLast
    let room := 1 <<< (8 * (4 - bytes.length))
    if bytes.length ≤ 3 ∧ (bytes.all (· ≤ 255)) ∧ last < room then
      some (UInt32.ofNat (bytes.foldl (fun n byte => 256 * n + byte) 0 * room + last))
    else none

/-- The address that a name ending in a number denotes. -/
def read? (name : List Char) : Option UInt32 := ((labels name).mapM number?).bind ofNumbers?

end Ipv4

/-! ## Eight pieces -/

namespace Ipv6

/-- The piece that up to four hexadecimal digits denote. -/
def piece? (digits : List Char) : Option Nat :=
  if digits.isEmpty ∨ 4 < digits.length then none
  else digits.foldlM (fun n c => (hexDigitValue? c).map (16 * n + ·)) 0

/-- The byte that decimal digits denote, which do not start with a needless zero. -/
def byte? (digits : List Char) : Option Nat :=
  match digits with
  | ['0'] => some 0
  | '0' :: _ => none
  | _ =>
    if digits.isEmpty ∨ !digits.all Char.isDigit ∨ 255 < ofDigits digits then none
    else some (ofDigits digits)

/-- The two pieces that four bytes with dots between them denote. -/
def bytePieces? (text : List Char) : Option (List Nat) := do
  match ← (splitOnChar '.' text).mapM byte? with
  | [a, b, c, d] => some [256 * a + b, 256 * c + d]
  | _ => none

/-- The pieces of the last of some texts between colons, which may be bytes. -/
def lastPieces? (text : List Char) : Option (List Nat) :=
  if text.contains '.' then bytePieces? text else (piece? text).map fun piece => [piece]

/-- The pieces of texts between colons. Only the last one may be bytes, and only where the
address ends. -/
def pieces? (ends : Bool) : List (List Char) → Option (List Nat)
  | [] => some []
  | [last] => if ends then lastPieces? last else (piece? last).map fun piece => [piece]
  | text :: rest => do some ((← piece? text) :: (← pieces? ends rest))

/-- The pieces on one side of the missing ones. -/
def side? (ends : Bool) (text : List Char) : Option (List Nat) :=
  if text.isEmpty then some [] else pieces? ends (splitOnChar ':' text)

/-- What stands before and after the first two colons side by side, if they are there. -/
def splitAtGap : List Char → Option (List Char × List Char)
  | ':' :: ':' :: rest => some ([], rest)
  | c :: rest => (splitAtGap rest).map fun (before, after) => (c :: before, after)
  | [] => none

/-- The eight pieces that a text denotes. -/
def read? (text : List Char) : Option (List Nat) :=
  match splitAtGap text with
  | none => do
    let pieces ← pieces? true (splitOnChar ':' text)
    if pieces.length = 8 then some pieces else none
  | some (before, after) => do
    let first ← side? false before
    let last ← side? true after
    if first.length + last.length < 8 then
      some (first ++ List.replicate (8 - first.length - last.length) 0 ++ last)
    else none

end Ipv6

/-! ## All hosts -/

/-- A host. -/
inductive Host where
  | name (spelling : List Char)
  | ipv4 (address : UInt32)
  | ipv6 (pieces : List Nat)
  deriving DecidableEq

namespace Host

/-- Reads a name or an address of four bytes. -/
def ofName? (text : List Char) : Option Host := do
  let spelling ← HostName.read? (← Percent.unescape? text)
  if Ipv4.endsInNumber spelling then (Ipv4.read? spelling).map .ipv4 else some (.name spelling)

/-- Reads a host. -/
def read? (text : List Char) : Option Host :=
  match text with
  | '[' :: inner =>
    if inner.getLast? = some ']' then (Ipv6.read? inner.dropLast).map .ipv6 else none
  | _ => ofName? text

end Host

end BucketQuery
