import TeamSync.Http.Header
import TeamSync.Instant
import TeamSync.Url.Parse

/-!
HTTP requests and answers.
-/

namespace TeamSync.Http

/-- A request as it is sent. -/
structure Request where
  method : String
  url : String
  headers : Headers
  body : Option String
  deriving DecidableEq, Repr

/-- An answer as it comes, and when it does. -/
structure Response where
  status : Nat
  headers : Headers
  body : List UInt8
  arrival : Arrival
  deriving DecidableEq, Repr

/-- The media type of JSON bodies. -/
def mediaTypeJson : String := "application/json"

/-- The media type of form bodies. -/
def mediaTypeForm : String := "application/x-www-form-urlencoded"

/-- Whether a status reports success. -/
def isSuccess (status : Nat) : Bool := 200 ≤ status && status ≤ 299

/-- The text of a header value; a value that is no text reads as empty. -/
def readable (value : String) : String := if isReadable value then value else ""

namespace Request

/-- The value of a header as a record of the request shows it, the name in any case. -/
def header? (r : Request) (name : String) : Option String :=
  (r.headers.find? fun h => h.1.toLower == name.toLower).map fun h => readable h.2

/-- The path of the URL; a text that is no URL stands for itself. -/
def path (r : Request) : String :=
  match Url.parse r.url with
  | .ok u => u.path
  | .error _ => r.url

end Request

end TeamSync.Http
