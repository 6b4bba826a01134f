import BucketQuery.Filter.Key
import BucketQuery.Query.Expression

set_option autoImplicit false

/-! # The predicate of a filter map

Each key of a filter map becomes a fragment; the predicate is the conjunction of the fragments
in the order of the map, and of one fragment more that hides the documents which a gateway
keeps for itself. The value of a filter is bound to a placeholder named like its key.
-/

namespace BucketQuery

/-- A filter map: the values to compare with, by filter key. -/
abbrev Filters := Members

/-- The pattern of the ids of a gateway's own documents. -/
def gatewayPattern : String := "_sync:%"

namespace FilterKey

/-- The fragment of one filter. -/
def fragment (filter : FilterKey) : Expression :=
  let path := Expression.path filter.path
  let value := Expression.parameter filter.key
  match filter.operator with
  | .equals => .compare path .equal value
  | .notEquals => .compare path .notEqual value
  | .atLeast => .compare path .atLeast value
  | .atMost => .compare path .atMost value
  | .isIn => .compare path .isIn value
  | .contains => .contains (.lower path) (.lower value)
  | .isNull => .check path .isNull
  | .isNotNull => .check path .isNotNull
  | .isMissing => .check path .isMissing
  | .isNullOrMissing => .or (.check path .isNull) (.check path .isMissing)

end FilterKey

namespace Filters

/-- The fragment that hides the gateway's own documents. -/
def exclusion (bucket : String) : Expression :=
  .compare (.documentId bucket) .notLike (.literal gatewayPattern)

/-- The predicate of a filter map on a bucket. -/
def predicate (bucket : String) : Filters → Expression
  | [] => exclusion bucket
  | (key, _) :: rest => .and (FilterKey.read key).fragment (predicate bucket rest)

end Filters

end BucketQuery
