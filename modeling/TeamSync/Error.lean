import TeamSync.Operation
import TeamSync.RateLimit

/-!
Errors as causes.

An error has a root, which says what went wrong, and the labels of what it passed through, outermost
first. Everything a caller asks of an error but its message is decided by the root.
-/

namespace TeamSync

/-- Why no connector can be made of a configuration. -/
inductive ConfigurationError where
  | missingAppKey
  | missingAppSecret
  | missingCredential
  | invalid (message : String)
  deriving DecidableEq, Repr

/-- Why there is no access token, or none that can be sent. -/
inductive AuthenticationError where
  | emptyRefreshToken
  | exchangeRefused (status : Nat)
  | invalidTokenResponse (message : String)
  | tokenSource (message : String)
  | invalidHeaderValue
  deriving DecidableEq, Repr

/-- What is wrong with what the host passes. -/
inductive ArgumentError where
  | wrongPrincipalKind (expected actual : String)
  | wrongResourceKind (expected actual : String)
  | missingField (field : String)
  | unknownEntitlement (slug kind : String)
  | invalid (message : String)
  deriving DecidableEq, Repr

/-- Why there is no answer. -/
inductive NetworkError where
  | connectionFailed (message : String)
  | timeout
  | invalidRequest (message : String)
  | http (message : String)
  deriving DecidableEq, Repr

/-- What is wrong with a body. -/
inductive ResponseError where
  | deserialization (message : String)
  | serialization (message : String)
  | unexpected (message : String)
  deriving DecidableEq, Repr

/-- Why a listing cannot be carried on. -/
inductive PaginationError where
  | emptyCursor (listing : String)
  | missingCursor (listing : String)
  /-- Every page announces another and the answers never run out. -/
  | endless (listing : String)
  deriving DecidableEq, Repr

/-- Why no account was made. -/
inductive ProvisioningError where
  | notCompleted (tag : String)
  | emptyCompletion
  deriving DecidableEq, Repr

/-- An answer of the service that reports an error. -/
structure ApiError where
  status : Nat
  tag : Option String
  summary : Option String
  rateLimit : RateLimit
  deriving DecidableEq, Repr

/-- Why an operation fails: a cause, under the labels of what it passed through. -/
inductive Error where
  | configuration (cause : ConfigurationError)
  | authentication (cause : AuthenticationError)
  | argument (cause : ArgumentError)
  | network (cause : NetworkError)
  | response (cause : ResponseError)
  | pagination (cause : PaginationError)
  | api (cause : ApiError)
  | provisioning (cause : ProvisioningError)
  /-- An error on its way, under one more label. -/
  | within (label : Label) (inner : Error)
  deriving DecidableEq, Repr

/-- What kind of failure a caller is told about. -/
inductive ErrorClass where
  | invalidArgument
  | unauthenticated
  | notFound
  | resourceExhausted
  | unavailable
  | internal
  | failedPrecondition
  deriving DecidableEq, Repr

/-! ### Messages -/

def ConfigurationError.message : ConfigurationError → String
  | .missingAppKey => "App key is missing"
  | .missingAppSecret => "App secret is required when a refresh token is configured"
  | .missingCredential =>
    "No credential configured: provide a refresh token or a token source"
  | .invalid m => "Invalid configuration: " ++ m

def AuthenticationError.message : AuthenticationError → String
  | .emptyRefreshToken => "Refresh token is empty"
  | .exchangeRefused status => "Token exchange failed with status " ++ toString status
  | .invalidTokenResponse m => "Token response could not be decoded: " ++ m
  | .tokenSource m => "Token source failed: " ++ m
  | .invalidHeaderValue => "Access token is not a valid header value"

def ArgumentError.message : ArgumentError → String
  | .wrongPrincipalKind expected actual => "Principal must be a " ++ expected ++ ", got " ++ actual
  | .wrongResourceKind expected actual =>
    "Invalid resource type: expected " ++ expected ++ ", got " ++ actual
  | .missingField field => "Missing required field: " ++ field
  | .unknownEntitlement slug kind => "Unknown entitlement '" ++ slug ++ "' for " ++ kind
  | .invalid m => m

def NetworkError.message : NetworkError → String
  | .connectionFailed m => "Connection failed: " ++ m
  | .timeout => "Request timed out"
  | .invalidRequest m => "Invalid request: " ++ m
  | .http m => "HTTP error: " ++ m

def ResponseError.message : ResponseError → String
  | .deserialization m => "Deserialization error: " ++ m
  | .serialization m => "Serialization error: " ++ m
  | .unexpected m => "Unexpected response: " ++ m

def PaginationError.message : PaginationError → String
  | .emptyCursor listing => listing ++ " continue called with an empty cursor"
  | .missingCursor listing => listing ++ " page reported has_more without a cursor"
  | .endless listing => listing ++ " listing never ends"

def ProvisioningError.message : ProvisioningError → String
  | .notCompleted tag => "Member was not created: completion tag '" ++ tag ++ "'"
  | .emptyCompletion => "Add-member response carried no completion record"

namespace ApiError

/-- What is said of an answer that gives neither a summary nor a tag. -/
def unknownMessage : String := "unknown dropbox error"

/-- The summary, else the tag. -/
def text (e : ApiError) : String := (e.summary <|> e.tag).getD unknownMessage

/-- The status and the text, and the tag if the text is not it. -/
def message (e : ApiError) : String :=
  "HTTP " ++ toString e.status ++ ": " ++ e.text ++
    match e.tag, e.summary with
    | some tag, some _ => " (tag: " ++ tag ++ ")"
    | _, _ => ""

def isConflictOrNotFound (e : ApiError) : Bool := e.status = 409 || e.status = 404

def errorClass (e : ApiError) : ErrorClass :=
  if e.status = 400 then .invalidArgument
  else if e.status = 401 then .unauthenticated
  else if e.status = 403 then .failedPrecondition
  else if e.status = 404 then .notFound
  else if e.status = 409 then .failedPrecondition
  else if e.status = 429 then .resourceExhausted
  else if 500 ≤ e.status ∧ e.status ≤ 599 then .unavailable
  else .internal

end ApiError

namespace Error

/-- The words before the message of a root. -/
def heading : Error → String
  | .configuration _ => "Configuration error: "
  | .authentication _ => "Authentication error: "
  | .argument _ => "Invalid argument: "
  | .network _ => "Network error: "
  | .response _ => "Response error: "
  | .pagination _ => "Pagination error: "
  | .api _ => "API error: "
  | .provisioning _ => "Provisioning error: "
  | .within _ inner => inner.heading

/-- The message of the cause at the root. -/
def detail : Error → String
  | .configuration c => c.message
  | .authentication c => c.message
  | .argument c => c.message
  | .network c => c.message
  | .response c => c.message
  | .pagination c => c.message
  | .api c => c.message
  | .provisioning c => c.message
  | .within _ inner => inner.detail

/-- The labels in front, then the root in words. -/
def message : Error → String
  | .within label inner => label.name ++ ": " ++ inner.message
  | e => e.heading ++ e.detail

def root : Error → Error
  | .within _ inner => inner.root
  | e => e

/-- The labels of what an error passed through, outermost first. -/
def operations : Error → List Label
  | .within label inner => label :: inner.operations
  | _ => []

/-- The messages of what is inside an error, from the outside in. -/
def sources : Error → List String
  | .within _ inner => inner.message :: inner.sources
  | e => [e.detail]

def code : Error → String
  | .configuration _ => "DROPBOX_CONFIG"
  | .authentication _ => "DROPBOX_AUTH"
  | .argument _ => "DROPBOX_INVALID_ARGUMENT"
  | .network _ => "DROPBOX_NETWORK"
  | .response _ => "DROPBOX_RESPONSE"
  | .pagination _ => "DROPBOX_PAGINATION"
  | .api _ => "DROPBOX_API"
  | .provisioning _ => "DROPBOX_PROVISIONING"
  | .within _ inner => inner.code

def errorClass : Error → ErrorClass
  | .configuration _ => .failedPrecondition
  | .authentication _ => .unauthenticated
  | .argument _ => .invalidArgument
  | .network _ => .unavailable
  | .response _ | .pagination _ | .provisioning _ => .internal
  | .api c => c.errorClass
  | .within _ inner => inner.errorClass

/-- The answer of the service at the root, if that is what went wrong. -/
def api? (e : Error) : Option ApiError :=
  match e.root with
  | .api c => some c
  | _ => none

def serviceTag? (e : Error) : Option String := e.api?.bind (·.tag)
def httpStatus? (e : Error) : Option Nat := e.api?.map (·.status)
def rateLimit? (e : Error) : Option RateLimit := e.api?.map (·.rateLimit)

/-- Puts an error under some labels, the last one outermost. -/
def under (e : Error) (labels : List Label) : Error := labels.foldl (fun e l => .within l e) e

/-- Names the operations an error passes through, the last one outermost. -/
def wrap (e : Error) (ops : List Operation) : Error := e.under (ops.map Operation.label)

end Error

end TeamSync
