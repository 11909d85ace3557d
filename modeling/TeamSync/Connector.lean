import TeamSync.Action
import TeamSync.Exchange
import TeamSync.Sync.Groups
import TeamSync.Sync.Roles
import TeamSync.Sync.Users

/-!
The connector: what a host gets for a configuration.

Making one settles where its tokens come from. A refresh token is exchanged once, there and then;
without one every call asks the given source.
-/

namespace TeamSync

open Json

/-- A team that is ready to be synced. -/
structure Connector where
  directory : Directory

namespace Connector

/-- A connector over a client that is there already. Nothing is checked. -/
def ofClient (client : Client) (c : Config) : Connector := ⟨.ofConfig client c⟩

/-- The exchange a configuration asks for. -/
def grantOf (c : Config) (e : Endpoints) : Except Error RefreshGrant :=
  match c.appSecret, c.refreshToken with
  | some secret, some token => .ok ⟨e.tokenUrl, c.appKey, secret, token⟩
  | _, _ => .error (.configuration .missingAppSecret)

/-- Where the tokens of a configuration come from. -/
def tokens (c : Config) (e : Endpoints) (source : Option TokenSource) (now : Instant) :
    Step TokenProvider :=
  if c.usesRefreshToken then do
    let g ← Step.ofExcept (grantOf c e)
    Step.log .info "Using refresh-token credentials" []
    let credential ← g.exchange now
    pure (.held credential)
  else match source with
    | some source => do
      Step.log .info "Using external token source" []
      Step.useSource source
      pure .external
    | none => Step.fail (.configuration .missingCredential)

/-- Makes a connector. -/
def connect (c : Config) (source : Option TokenSource) (now : Instant) : Step Connector := do
  Step.ofExcept c.validate
  let e := Endpoints.ofBase c.baseUrl
  let tokens ← tokens c e source now
  pure (ofClient ⟨e, tokens, now⟩ c)

def describe : String := "DropboxConnector \x7b .. \x7d"

/-! ### What a host can do -/

def syncer (c : Connector) : ResourceKind → Syncer
  | .user => Users.syncer c.directory
  | .group => Groups.syncer c.directory
  | .role => Roles.syncer c.directory

/-- All syncers, in the order in which a host goes through them. -/
def syncers (c : Connector) : List Syncer := [.user, .role, .group].map c.syncer

/-- The credentials were checked when the connector was made. -/
def validate (_ : Connector) : Step Annotations := pure []

/-- Runs an action by name. -/
def invoke (c : Connector) (name : String) (args : Members) : Step (Value × Annotations) :=
  match Action.ofName? name with
  | some a => a.run c.directory args
  | none => Step.fail (.argument (.invalid ("unknown action '" ++ name ++ "'")))

/-! ### Descriptions for a host -/

/-- What a host asks for to make an account. -/
def accountForm : Value :=
  .array [.object [("name", .string "email"), ("display_name", .string "Email"),
    ("description", .string
      "Email address for the user account. Dropbox will send an invitation to this address."),
    ("placeholder", .string "john@doe.com"), ("required", .bool true), ("order", .ofNat 0)]]

def metadata : Value :=
  .object [("display_name", .string "Dropbox Business Connector"),
    ("description", .string <| "The Dropbox Business connector syncs users, groups, and roles " ++
      "with account provisioning and deprovisioning support."),
    ("account_creation_schema", accountForm)]

def actionSchemas : Value := .array (Action.all.map Action.schema)

end Connector

end TeamSync
