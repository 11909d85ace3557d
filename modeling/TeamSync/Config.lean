import TeamSync.Mutation
import TeamSync.Text.Numeral
import TeamSync.Url.Parse

/-!
The configuration of a connector and how it is built.

A page limit is brought into its range and a base URL is parsed when they are set; that the
credentials fit together is checked at the end.
-/

namespace TeamSync

/-- How many entries of a listing a page may hold. -/
structure PageLimit where
  size : Nat
  positive : 1 ≤ size := by decide
  atMost : size ≤ 1000 := by decide
  deriving DecidableEq, Repr

/-- The limit nearest to a number. -/
def PageLimit.clamp (n : Nat) : PageLimit := ⟨max 1 (min n 1000), by omega, by omega⟩

/-- What a connector is made from. A secret that is empty counts as none. -/
structure Config where
  appKey : String
  appSecret : Option String
  refreshToken : Option String
  baseUrl : String
  timeoutSeconds : UInt64
  pageLimit : PageLimit
  allowed : AllowList

namespace Config

def defaultBaseUrl : String := "https://api.dropboxapi.com"

/-- What is not configured otherwise. -/
def standard : Config :=
  ⟨"", none, none, defaultBaseUrl, 30, ⟨100, by decide, by decide⟩, .standard⟩

/-- The base URL in its one written form, without slashes at its end. -/
def setBaseUrl (c : Config) (url : String) : Except Error Config :=
  match Url.parse url with
  | .ok u => .ok { c with baseUrl := Text.dropTrailingSlashes u.toText }
  | .error e => .error (.configuration (.invalid ("Invalid URL: " ++ e.message)))

def setPageLimit (c : Config) (n : Nat) : Config := { c with pageLimit := .clamp n }

def setAllowed (c : Config) (kind : MutationKind) (tags : List String) : Config :=
  { c with allowed := c.allowed.set kind tags }

/-- Whether a secret is there and not empty. -/
def isPresent (secret : Option String) : Bool := secret.any (· ≠ "")

def usesRefreshToken (c : Config) : Bool := isPresent c.refreshToken

/-- A key is needed, and a secret beside a refresh token. -/
def validate (c : Config) : Except Error Unit :=
  if Text.blank c.appKey then .error (.configuration .missingAppKey)
  else if c.usesRefreshToken && !isPresent c.appSecret then
    .error (.configuration .missingAppSecret)
  else .ok ()

/-- The configuration, if it is valid. -/
def build (c : Config) : Except Error Config := do
  c.validate
  return c

/-! ### Settings from the environment -/

/-- The settings an environment may hold, as text. -/
structure Environment where
  appKey : Option String
  appSecret : Option String
  refreshToken : Option String
  baseUrl : Option String
  timeout : Option String
  pageLimit : Option String
  deriving DecidableEq, Repr

/-- The configuration of an environment. A timeout or page limit that is no number is ignored. -/
def ofEnvironment (e : Environment) : Except Error Config := do
  let c := { standard with
    appKey := e.appKey.getD standard.appKey
    appSecret := e.appSecret
    refreshToken := e.refreshToken }
  let c ← match e.baseUrl with
    | some url => c.setBaseUrl url
    | none => .ok c
  let c := match e.timeout.bind Numeral.uint64? with
    | some n => { c with timeoutSeconds := n }
    | none => c
  let c := match e.pageLimit.bind Numeral.uint32? with
    | some n => c.setPageLimit n.toNat
    | none => c
  c.build

/-! ### Description -/

def describeBool (b : Bool) : String := if b then "true" else "false"

/-- A number of seconds in words. -/
def describeSeconds (n : UInt64) : String := if n = 0 then "0ns" else toString n.toNat ++ "s"

/-- A description that does not show secrets or allowed tags. -/
def describe (c : Config) : String :=
  "DropboxConfig \x7b app_key: " ++ Text.quote c.appKey ++
    ", app_secret: " ++ describeBool c.appSecret.isSome ++
    ", refresh_token: " ++ describeBool c.refreshToken.isSome ++
    ", base_url: " ++ Text.quote c.baseUrl ++
    ", timeout: " ++ describeSeconds c.timeoutSeconds ++
    ", page_limit: " ++ toString c.pageLimit.size ++
    ", idempotency: IdempotencyTags \x7b tags: \x7b\x7d \x7d \x7d"

end Config

end TeamSync
