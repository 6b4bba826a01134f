import BucketQuery.Address.Basic
import BucketQuery.Query.Statement
import BucketQuery.Text.Encoding

set_option autoImplicit false

/-! # Requests

A query goes to the service as a JSON object: the text of the statement, and after it each
bound value under its name with a dollar sign. A dollar sign in front keeps every name apart
from `statement`. Credentials in the address of the service win over those given beside it.

The endpoint of a service is the start of a web address. Slashes at its end do not count, and the
path of the service is put after it.
-/

namespace BucketQuery

/-! ## Endpoints -/

namespace Endpoint

/-- The path of the query service. -/
def servicePath : String := "/query/service"

/-- An endpoint without the slashes at its end. -/
def withoutSlashes (endpoint : String) : String :=
  String.ofList (dropEnd (· == '/') endpoint.toList)

/-- Where the requests to a service go, unless its endpoint makes no web address. -/
def address? (endpoint : String) : Option WebAddress :=
  WebAddress.read? (withoutSlashes endpoint ++ servicePath)

end Endpoint

/-! ## Requests to a service -/

/-- A query service and the credentials for it. -/
structure Service where
  endpoint : String
  username : Option String
  password : Option String
  deriving DecidableEq

/-- A request to a query service, which is always a POST. -/
structure Request where
  address : WebAddress
  authorization : Option String
  body : String
  deriving DecidableEq

namespace Request

/-- The method of every request. -/
def method : String := "POST"

/-- The type of every body. -/
def contentType : String := "application/json"

/-- The members of the body. -/
def bodyMembers (query : Query) : Members :=
  Members.insertAll [("statement", .string query.statement.text)]
    (query.parameters.map fun (key, value) => ("$" ++ key, value))

/-- The authorization for credentials. No password is an empty one. -/
def authorizationText (credentials : Credentials) : String :=
  "Basic " ++ Base64.ofText (credentials.username ++ ":" ++ credentials.password.getD "")

end Request

namespace Service

/-- The credentials given beside the endpoint, if there is a user. -/
def credentials (service : Service) : Option Credentials :=
  service.username.map fun username => ⟨username, service.password⟩

/-- The request for a query, unless the endpoint makes no web address. -/
def request? (service : Service) (query : Query) : Option Request :=
  (Endpoint.address? service.endpoint).map fun address =>
    ⟨address, (address.credentials <|> service.credentials).map Request.authorizationText,
      (Json.object (Request.bodyMembers query)).compact⟩

end Service

end BucketQuery
