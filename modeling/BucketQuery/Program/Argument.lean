import BucketQuery.Program.Command
import BucketQuery.Program.Settings

set_option autoImplicit false

/-! # Arguments

The arguments of the command line by name, letter and variable, and what their values have to
be. `Given.put` reads one value; all arguments but the sort entry can be given only once.
-/

namespace BucketQuery

/-- An argument that takes a value. -/
inductive Argument where
  | config
  | bucket
  | gateway
  | defaultIdField
  | endpoint
  | username
  | password
  | timeout
  | data
  | filters
  | page
  | offset
  | size
  | sort
  | field
  deriving DecidableEq

namespace Argument

/-- The arguments that can stand before and after the command, in the order in which their
variables are read. -/
def everywhere : List Argument :=
  [.config, .bucket, .gateway, .defaultIdField, .endpoint, .username, .password, .timeout, .data]

/-- The name after two dashes. -/
def name : Argument → String
  | .config => "config"
  | .bucket => "bucket"
  | .gateway => "with-sync-gateway"
  | .defaultIdField => "use-default-id-fields"
  | .endpoint => "endpoint"
  | .username => "username"
  | .password => "password"
  | .timeout => "timeout-secs"
  | .data => "data"
  | .filters => "filters"
  | .page => "page"
  | .offset => "offset"
  | .size => "size"
  | .sort => "sort"
  | .field => "field"

/-- The letter after one dash. -/
def letter? : Argument → Option Char
  | .config => some 'c'
  | .bucket => some 'b'
  | .endpoint => some 'e'
  | .username => some 'u'
  | .filters => some 'f'
  | .page => some 'p'
  | .size => some 's'
  | .sort => some 'o'
  | _ => none

/-- The environment variable that stands in for an argument. -/
def variableName : Argument → Option String
  | .config => some "COUCHQUERY_CONFIG"
  | .bucket => some "COUCHQUERY_BUCKET"
  | .gateway => some "COUCHQUERY_WITH_SYNC_GATEWAY"
  | .defaultIdField => some "COUCHQUERY_USE_DEFAULT_ID_FIELDS"
  | .endpoint => some "COUCHQUERY_QUERY_ENDPOINT"
  | .username => some "COUCHQUERY_QUERY_USERNAME"
  | .password => some "COUCHQUERY_QUERY_PASSWORD"
  | .timeout => some "COUCHQUERY_QUERY_TIMEOUT_SECS"
  | .data => some "COUCHQUERY_DATA"
  | _ => none

end Argument

/-- What is wrong with a command line. -/
inductive Misuse where
  | unknownArgument (word : String)
  | unknownCommand (word : String)
  | commandAbsent
  | nothingGiven
  | valueAbsent (argument : Argument)
  | valueNotAllowed (argument : Argument) (value : String)
  | valueMalformed (argument : Argument) (value : String)
  | invalidSort (error : InvalidOrder)
  | valueUnexpected (word : String)
  | repeated (argument : Argument)
  | pageWithOffset
  | argumentAbsent (argument : Argument)
  deriving DecidableEq

/-- What is wrong, in words. -/
def Misuse.message : Misuse → String
  | .unknownArgument word => "unexpected argument '" ++ word ++ "'"
  | .unknownCommand word => "unknown command '" ++ word ++ "'"
  | .commandAbsent | .nothingGiven => "a command is required"
  | .valueAbsent argument => "--" ++ argument.name ++ " needs a value"
  | .valueNotAllowed argument value => "--" ++ argument.name ++ " cannot be '" ++ value ++ "'"
  | .valueMalformed argument value =>
    "invalid value '" ++ value ++ "' for --" ++ argument.name
  | .invalidSort error => error.message
  | .valueUnexpected word => "unexpected value for '" ++ word ++ "'"
  | .repeated argument => "--" ++ argument.name ++ " is given more than once"
  | .pageWithOffset => "--offset cannot be used with --page"
  | .argumentAbsent argument => "--" ++ argument.name ++ " is required"

namespace ArgumentValue

/-- A truth value. -/
def bool? (value : String) : Option Bool :=
  if value = "true" then some true else if value = "false" then some false else none

/-- The number below `bound` that a list of digits denotes. -/
def below? (bound : Nat) (digits : List Char) : Option Nat :=
  if !digits.isEmpty && digits.all Char.isDigit && ofDigits digits < bound then
    some (ofDigits digits)
  else none

/-- A 64-bit word, which may have a plus sign. -/
def uint64? (value : String) : Option UInt64 :=
  let digits := match value.toList with
    | '+' :: digits => digits
    | digits => digits
  (below? UInt64.size digits).map UInt64.ofNat

/-- A 32-bit word, which may have a sign; after a minus sign there can only be zero. -/
def uint32? (value : String) : Option UInt32 :=
  match value.toList with
  | '-' :: digits => (below? 1 digits).map UInt32.ofNat
  | '+' :: digits => (below? UInt32.size digits).map UInt32.ofNat
  | digits => (below? UInt32.size digits).map UInt32.ofNat

end ArgumentValue

/-- The values given so far. -/
structure Given where
  overrides : Overrides := {}
  filters : Option Filters := none
  page : Option UInt32 := none
  offset : Option UInt64 := none
  size : Option UInt32 := none
  sort : List Order := []
  field : Option String := none

namespace Given

/-- Whether an argument that can be given only once has been given. -/
def has (given : Given) : Argument → Bool
  | .config => given.overrides.file.isSome
  | .bucket => given.overrides.layer.bucket.isSome
  | .gateway => given.overrides.layer.gateway.isSome
  | .defaultIdField => given.overrides.layer.defaultIdField.isSome
  | .endpoint => given.overrides.layer.service.endpoint.isSome
  | .username => given.overrides.layer.service.username.isSome
  | .password => given.overrides.layer.service.password.isSome
  | .timeout => given.overrides.layer.service.timeout.isSome
  | .data => given.overrides.layer.data.isSome
  | .filters => given.filters.isSome
  | .page => given.page.isSome
  | .offset => given.offset.isSome
  | .size => given.size.isSome
  | .sort => false
  | .field => given.field.isSome

/-- Reads the value of an argument, whether or not there is one already. -/
def set (given : Given) (argument : Argument) (value : String) : Except Misuse Given :=
  let malformed : Misuse := .valueMalformed argument value
  match argument with
  | .config =>
    if value = "" then .error (.valueAbsent argument)
    else .ok { given with overrides.file := some value }
  | .bucket => .ok { given with overrides.layer.bucket := some value }
  | .gateway =>
    match ArgumentValue.bool? value with
    | some b => .ok { given with overrides.layer.gateway := some b }
    | none => .error (.valueNotAllowed argument value)
  | .defaultIdField =>
    match ArgumentValue.bool? value with
    | some b => .ok { given with overrides.layer.defaultIdField := some b }
    | none => .error (.valueNotAllowed argument value)
  | .endpoint => .ok { given with overrides.layer.service.endpoint := some value }
  | .username => .ok { given with overrides.layer.service.username := some value }
  | .password => .ok { given with overrides.layer.service.password := some value }
  | .timeout =>
    match ArgumentValue.uint64? value with
    | some n => .ok { given with overrides.layer.service.timeout := some n }
    | none => .error malformed
  | .data =>
    if value = "" then .error (.valueAbsent argument)
    else .ok { given with overrides.layer.data := some value }
  | .filters =>
    match Members.read? value with
    | some filters => .ok { given with filters := some filters }
    | none => .error malformed
  | .page =>
    match ArgumentValue.uint32? value with
    | some n => .ok { given with page := some n }
    | none => .error malformed
  | .offset =>
    match ArgumentValue.uint64? value with
    | some n => .ok { given with offset := some n }
    | none => .error malformed
  | .size =>
    match ArgumentValue.uint32? value with
    | some n => .ok { given with size := some n }
    | none => .error malformed
  | .sort =>
    match Order.read value with
    | .ok order => .ok { given with sort := given.sort ++ [order] }
    | .error e => .error (.invalidSort e)
  | .field => .ok { given with field := some value }

/-- Reads the value of an argument. -/
def put (given : Given) (argument : Argument) (value : String) : Except Misuse Given :=
  if given.has argument then .error (.repeated argument) else given.set argument value

/-- The values given, with those of variables for the listed arguments that are missing. -/
def withVariables (lookup : String → Option String) (given : Given) :
    List Argument → Except Misuse Given
  | [] => .ok given
  | argument :: rest =>
    match given.has argument, argument.variableName.bind lookup with
    | false, some value => do
      let given ← given.set argument value
      given.withVariables lookup rest
    | _, _ => given.withVariables lookup rest

/-- The page that is asked for. -/
def window (given : Given) : Window :=
  { page := given.page.getD 0
    offset := given.offset
    size := given.size.getD 20
    sort := given.sort }

/-- Whether nothing is given that overrides settings. -/
def overridesNothing (given : Given) : Bool :=
  Argument.everywhere.all fun argument => !given.has argument

end Given

end BucketQuery
