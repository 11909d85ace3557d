import TeamSync.Connector

/-!
Connecting for real, up to the point where a request would leave: a URL that no web request can go
to is refused before that.
-/

namespace TeamSync.Web

/-- Whether the credentials in a URL can be read, and so are taken out of it. -/
def hasCredentials (userinfo : String) : Bool :=
  let cs := userinfo.toList
  let user := cs.takeWhile fun c => c ≠ ':' ∧ c ≠ '@'
  let password := ((cs.dropWhile (· ≠ ':')).drop 1).dropLast
  match Utf8.toString? (Url.percentDecode user) with
  | none => false
  | some user =>
    user ≠ "" || (cs.elem ':' && (Utf8.toString? (Url.percentDecode password)).isSome)

/-- The URL without the credentials in it. -/
def withoutCredentials (u : Url) : Url :=
  if u.host.isSome ∧ hasCredentials u.userinfo then { u with userinfo := "" } else u

/-- The characters that a host may hold but the target of a request may not. -/
def untargetable : List Char := "\"\x60\x7b\x7d".toList

/-- The longest target of a request, in bytes. -/
def longestTarget : Nat := 65534

/-- Whether a web request can go to a URL. -/
def isTarget (u : Url) : Bool :=
  (u.scheme == "http" || u.scheme == "https") &&
    (u.host.getD "").toList.all (!untargetable.elem ·) && u.toText.utf8ByteSize ≤ longestTarget

/-- What is wrong with a URL that a request is to be sent to. -/
def refusal? (url : String) : Option NetworkError :=
  match Url.parse url with
  | .error _ => some (.invalidRequest "builder error")
  | .ok u =>
    let u := withoutCredentials u
    if isTarget u then none
    else some (.invalidRequest ("builder error for url (" ++ u.toText ++ ")"))

/-- The URL of the first request of a configuration: the exchange, or a listing of the groups. -/
def firstUrl (c : Config) : String :=
  let e := Endpoints.ofBase c.baseUrl
  if c.usesRefreshToken then e.tokenUrl else e.url .listGroups

/-- A session in which the first request is refused if its URL cannot be used. -/
def session (c : Config) : Session :=
  .start { Transport.empty with standing := (refusal? (firstUrl c)).map .failure }

/-- Connects, and lists the groups if asked to. -/
def connect (c : Config) (source : Option TokenSource) (list : Bool) (now : Instant) :
    Except Error Connector :=
  let step : Step Connector := do
    let k ← Connector.connect c source now
    if list then
      let _ ← (k.syncer .group).list none .start
      pure k
    else pure k
  (step (session c)).1

end TeamSync.Web
