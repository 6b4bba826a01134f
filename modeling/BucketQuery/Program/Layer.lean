import BucketQuery.Json.Written
import BucketQuery.Operation.Error
import BucketQuery.Service.Reply

set_option autoImplicit false

/-! # Layers of settings

A layer sets some of the settings and leaves the others to the layers below it. Layers are put
over each other key by key (`Layer.over`), so a layer that sets a part of the query service
hides nothing else of it.

A layer can be written as a file: a JSON object, all members optional and null as good as
absent. The query service may be an object or an array of its four values. Unknown members of
the file are reported, those of the query service are passed over unread.
-/

namespace BucketQuery

/-- What a layer says about the query service. The timeout is in seconds. -/
structure ServiceLayer where
  endpoint : Option String := none
  username : Option String := none
  password : Option String := none
  timeout : Option UInt64 := none
  deriving DecidableEq

/-- What a layer says. -/
structure Layer where
  bucket : Option String := none
  gateway : Option Bool := none
  defaultIdField : Option Bool := none
  service : ServiceLayer := {}
  data : Option String := none
  deriving DecidableEq

/-- What two layers say about the query service, the first one over the second. -/
def ServiceLayer.over (upper lower : ServiceLayer) : ServiceLayer :=
  { endpoint := upper.endpoint.or lower.endpoint
    username := upper.username.or lower.username
    password := upper.password.or lower.password
    timeout := upper.timeout.or lower.timeout }

/-- What two layers say, the first one over the second. -/
def Layer.over (upper lower : Layer) : Layer :=
  { bucket := upper.bucket.or lower.bucket
    gateway := upper.gateway.or lower.gateway
    defaultIdField := upper.defaultIdField.or lower.defaultIdField
    service := upper.service.over lower.service
    data := upper.data.or lower.data }

namespace Written

/-- A truth value. -/
def bool? : Written → Option Bool
  | .bool b => some b
  | _ => none

/-- A word. -/
def uint64? : Written → Option UInt64
  | .number n => (n.below? UInt64.size).map UInt64.ofNat
  | _ => none

/-- The value of a member that may be absent or null. -/
def optional? {α : Type} (read : Written → Option α) (value : Option Written) :
    Option (Option α) :=
  orDefault (nullable read) none value

/-- The value of an optional member of an object. -/
def optionalMember? {α : Type} (read : Written → Option α) (members : List (String × Written))
    (key : String) : Option (Option α) :=
  (uniqueMember? members key).bind (optional? read)

end Written

namespace ServiceLayer

open Written

/-- Reads what a layer says about the query service. -/
def read? : Written → Option ServiceLayer
  | .object members => do
    let endpoint ← optionalMember? text? members "endpoint"
    let username ← optionalMember? text? members "username"
    let password ← optionalMember? text? members "password"
    let timeout ← optionalMember? uint64? members "timeout_secs"
    some ⟨endpoint, username, password, timeout⟩
  | .array [endpoint, username, password, timeout] => do
    let endpoint ← nullable text? endpoint
    let username ← nullable text? username
    let password ← nullable text? password
    let timeout ← nullable uint64? timeout
    some ⟨endpoint, username, password, timeout⟩
  | _ => none

end ServiceLayer

/-- A layer in a file, with the unknown members of the file in their order. -/
structure LayerFile where
  layer : Layer
  unknown : List String
  deriving DecidableEq

namespace LayerFile

open Written

/-- The members of a file that are known. -/
def known : List String := ["bucket", "with_sync_gateway", "use_default_id_fields", "query", "data"]

/-- The keys of the unknown members, each of which must have a value. -/
def unknown? (members : List (String × Written)) : Option (List String) :=
  (membersWithin? (maxDepth - 1) (members.filter fun member => !known.contains member.1)).map
    fun entries => (Members.ofEntries entries).map Prod.fst

/-- Reads a layer from the tree of a file. -/
def ofWritten? : Written → Option LayerFile
  | .object members => do
    let bucket ← optionalMember? text? members "bucket"
    let gateway ← optionalMember? bool? members "with_sync_gateway"
    let defaultIdField ← optionalMember? bool? members "use_default_id_fields"
    let service ← optionalMember? ServiceLayer.read? members "query"
    let data ← optionalMember? text? members "data"
    let unknown ← unknown? members
    some ⟨⟨bucket, gateway, defaultIdField, service.getD {}, data⟩, unknown⟩
  | _ => none

/-- Reads a layer from the content of a file. -/
def read? (content : String) : Option LayerFile := (Written.read? content).bind ofWritten?

end LayerFile

end BucketQuery
