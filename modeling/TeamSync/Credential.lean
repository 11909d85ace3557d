import TeamSync.Error
import TeamSync.Log.Excerpt

/-!
Access tokens and where they come from.
-/

namespace TeamSync

/-- An access token and the end of its life, if that is known. -/
structure Credential where
  token : String
  expiresAt : Option Instant
  deriving DecidableEq, Repr

namespace Credential

def isExpired (c : Credential) (now : Instant) : Bool :=
  match c.expiresAt with
  | some t => !now.before t
  | none => false

/-- A description that does not show the token. -/
def describe (c : Credential) : String :=
  "Credential \x7b access_token: \"" ++ Log.redactedMark ++ "\", expires_at: " ++
    (match c.expiresAt with | some t => "Some(" ++ t.text ++ ")" | none => "None") ++ " \x7d"

end Credential

/-- A source of access tokens, asked before every call: what it answers next, and what it answers
after that. Its last answer repeats. -/
structure TokenSource where
  current : Except Error String
  later : List (Except Error String)

namespace TokenSource

/-- A source that always has the same token. -/
def static (token : String) : TokenSource := ⟨.ok token, []⟩

/-- A description that does not show the tokens. -/
def describeStatic : String := "StaticTokenSource(" ++ Log.redactedMark ++ ")"

def advance (s : TokenSource) : TokenSource :=
  match s.later with
  | a :: as => ⟨a, as⟩
  | [] => s

end TokenSource

end TeamSync
