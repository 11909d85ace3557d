import TeamSync.Envelope
import TeamSync.Session

/-!
Calls to the team service.

A call needs a body and a token that can be sent, sends exactly one request, and reads the rate
limit from every answer. A failure names the operation that was called.
-/

namespace TeamSync

/-- Where the tokens of calls come from: one that is held, or the source of the session. -/
inductive TokenProvider where
  | held (c : Credential)
  | external
  deriving DecidableEq, Repr

/-- The client's clock stands at `now`, but for answers that arrive at an instant of their own. -/
structure Client where
  endpoints : Endpoints
  tokens : TokenProvider
  now : Instant
  deriving DecidableEq, Repr

/-- The value an answer carries, with the rate limit reported beside it. -/
structure Answered (α : Type) where
  value : α
  rateLimit : RateLimit
  deriving DecidableEq, Repr

/-- What stands before the token in the authorization header. -/
def bearer (token : String) : String := "Bearer " ++ token

namespace Client

def token (c : Client) : Step String :=
  match c.tokens with
  | .held credential => pure credential.token
  | .external => Step.askSource

/-- The request of an operation, if the token can be sent. -/
def request (c : Client) (op : Operation) (token : String) (body : Json.Value) :
    Except Error Http.Request :=
  if Http.isHeaderValue (bearer token) then
    .ok ⟨op.method, c.endpoints.url op,
      [("authorization", bearer token), ("accept", Http.mediaTypeJson),
        ("content-type", Http.mediaTypeJson)],
      some body.toText⟩
  else .error (.authentication .invalidHeaderValue)

/-- The answer to a call, whatever its body. -/
def execute (c : Client) (op : Operation) (body : Option Json.Value) :
    Step (Http.Response × RateLimit) :=
  match body with
  | none => Step.fail (.argument (.invalid (op.name ++ " requires a request body")))
  | some body => do
    let token ← c.token
    let request ← Step.ofExcept (c.request op token body)
    Step.log .debug "Sending request" [("path", .text op.path)]
    let r ← Step.send request
    let limit := RateLimit.ofResponse r.status r.headers (r.arrival.instant c.now)
    if Http.isSuccess r.status then pure (r, limit)
    else do
      Step.log .warn "Request failed"
        [("status", .count r.status), ("path", .text op.path), ("body", .text (Log.excerpt r.body))]
      Step.fail (.api (.ofEnvelope r.status (Envelope.parse? r.body) limit))

/-- Decodes the body of an answer. -/
def decodeBody {α : Type} (d : Json.Decoder α) (status : Nat) (body : List UInt8) : Step α :=
  match d.decode body with
  | .ok a => pure a
  | .error f => do
    Step.log .warn "Failed to decode response"
      [("status", .count status), ("body", .text (Log.excerpt body)), ("error", .text f.message)]
    Step.fail (.response (.deserialization f.message))

/-- Calls an operation and decodes its answer. -/
def call {α : Type} (c : Client) (d : Json.Decoder α) (op : Operation) (body : Option Json.Value) :
    Step (Answered α) :=
  Step.within op do
    let (r, limit) ← c.execute op body
    let a ← decodeBody d r.status r.body
    pure ⟨a, limit⟩

/-- Calls an operation whose answer has no body worth reading. -/
def callDiscard (c : Client) (op : Operation) (body : Option Json.Value) : Step RateLimit :=
  Step.within op do
    let (_, limit) ← c.execute op body
    pure limit

end Client

end TeamSync
