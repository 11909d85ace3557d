import TeamSync.Config
import TeamSync.Json.Record
import TeamSync.Text.Form

/-!
The exchange of a refresh token for an access token.
-/

namespace TeamSync

open Json

/-- What is exchanged, and where. -/
structure RefreshGrant where
  tokenUrl : String
  appKey : String
  appSecret : String
  refreshToken : String
  deriving DecidableEq, Repr

/-- The answer to an exchange. -/
structure TokenAnswer where
  token : String
  expiresIn : Option Int
  deriving DecidableEq, Repr

def TokenAnswer.record : Record TokenAnswer :=
  ⟨"struct TokenResponse", ⟨"", none⟩,
    [.required "access_token" Decoder.string fun t a => { a with token := t },
      .defaulted "expires_in" Decoder.int64.nullable fun n a => { a with expiresIn := n }]⟩

namespace RefreshGrant

def body (g : RefreshGrant) : String :=
  Form.encode [("grant_type", "refresh_token"), ("refresh_token", g.refreshToken),
    ("client_id", g.appKey), ("client_secret", g.appSecret)]

def request (g : RefreshGrant) : Http.Request :=
  ⟨"POST", g.tokenUrl,
    [("content-type", Http.mediaTypeForm), ("accept", Http.mediaTypeJson)], some g.body⟩

def invalidAnswer {α : Type} (message : String) : Except Error α :=
  .error (.authentication (.invalidTokenResponse message))

/-- When a token expires that lives for some seconds from now. -/
def expiry (now : Instant) (seconds : Int) : Except Error Instant :=
  match if 0 ≤ seconds then now.add? seconds else none with
  | some t => .ok t
  | none => invalidAnswer ("expires_in out of range: " ++ toString seconds)

/-- The credential in the body of an accepted exchange. -/
def credentialOf (now : Instant) (body : List UInt8) : Except Error Credential := do
  let a ← match TokenAnswer.record.decoder.decode body with
    | .ok a => .ok a
    | .error f => invalidAnswer f.message
  if a.token = "" then invalidAnswer "empty access_token"
  else
    let expiresAt ← match a.expiresIn with
      | some n => (expiry now n).map some
      | none => .ok none
    return ⟨a.token, expiresAt⟩

/-- Exchanges a refresh token. Only the status 200 accepts it. -/
def exchange (g : RefreshGrant) (now : Instant) : Step Credential :=
  if g.refreshToken = "" then Step.fail (.authentication .emptyRefreshToken)
  else do
    let r ← Step.send g.request
    if r.status ≠ 200 then
      Step.log .warn "Token exchange rejected"
        [("status", .count r.status), ("body", .text (Log.excerpt r.body))]
      Step.fail (.authentication (.exchangeRefused r.status))
    else
      let c ← Step.ofExcept (credentialOf (r.arrival.instant now) r.body)
      Step.log .debug "Access token obtained" [("token", .text (Log.redact c.token))]
        [("expires_at", c.expiresAt)]
      pure c

end RefreshGrant

end TeamSync
