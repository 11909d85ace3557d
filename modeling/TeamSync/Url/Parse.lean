import TeamSync.Url.Host

/-!
Parsing absolute URLs into their parts, as the URL standard does, and writing them again.

Spaces and controls around the text and tabs and line ends inside it do not count. The schemes the
standard calls special have a domain host and a path, and write a backslash as a slash.
-/

namespace TeamSync

/-- A URL in parts, each as it is written. A path that begins with a slash is hierarchical. -/
structure Url where
  scheme : String
  userinfo : String
  host : Option String
  port : Option Nat
  path : String
  query : Option String
  fragment : Option String
  deriving DecidableEq, Repr

namespace Url

/-- The URL as text. A path that begins with two slashes is kept apart from an authority. -/
def toText (u : Url) : String :=
  let authority := match u.host with
    | some h => "//" ++ u.userinfo ++ h ++ match u.port with
      | some p => ":" ++ toString p
      | none => ""
    | none => if u.path.toList.take 2 = ['/', '/'] then "/." else ""
  u.scheme ++ ":" ++ authority ++ u.path ++
    (match u.query with | some q => "?" ++ q | none => "") ++
    (match u.fragment with | some f => "#" ++ f | none => "")

/-- How a URL is read depends on its scheme in three ways. -/
inductive SchemeKind where
  | file
  | special
  | other
  deriving DecidableEq, Repr

def schemeKind (scheme : List Char) : SchemeKind :=
  let s := String.ofList scheme
  if s = "file" then .file
  else if s ∈ ["http", "https", "ws", "wss", "ftp"] then .special
  else .other

def SchemeKind.isSpecial (k : SchemeKind) : Bool := k ≠ .other

/-- The port a scheme has unless another is given. -/
def defaultPort (scheme : List Char) : Option Nat :=
  let s := String.ofList scheme
  if s = "http" ∨ s = "ws" then some 80
  else if s = "https" ∨ s = "wss" then some 443
  else if s = "ftp" then some 21
  else none

/-- The text without the spaces and controls around it. -/
def trimOuter (cs : List Char) : List Char :=
  let outer (c : Char) : Bool := c.toNat ≤ 0x20
  ((cs.dropWhile outer).reverse.dropWhile outer).reverse

/-- Whether a character inside a text does not count. -/
def isIgnored (c : Char) : Bool := c = '\t' || c = '\n' || c = '\r'

/-- The characters that count. -/
def counting (cs : List Char) : List Char := cs.filter (!isIgnored ·)

/-- The first character that counts, and what follows it. -/
def next? (cs : List Char) : Option (Char × List Char) :=
  match cs.dropWhile isIgnored with
  | c :: r => some (c, r)
  | [] => none

def isSchemeChar (c : Char) : Bool := c.isAlphanum || c = '+' || c = '-' || c = '.'

/-- The scheme in lower case and what follows its colon. -/
def scheme? (cs : List Char) : Option (List Char × List Char) :=
  match cs with
  | c :: _ =>
    if c.isAlpha then
      match cs.dropWhile isSchemeChar with
      | ':' :: rest => some ((cs.takeWhile isSchemeChar).map Char.toLower, rest)
      | _ => none
    else none
  | [] => none

/-- Whether a character separates the segments of a path. -/
def isSlash (k : SchemeKind) (c : Char) : Bool := c = '/' || (k.isSpecial && c = '\\')

/-- Whether a character ends the authority. -/
def endsAuthority (k : SchemeKind) (c : Char) : Bool := isSlash k c || c = '?' || c = '#'

/-! ### Authority -/

/-- Cuts a text at its last `@`. -/
def cutLastAt (cs : List Char) : Option (List Char × List Char) :=
  match (cs.reverse.dropWhile (· ≠ '@')) with
  | '@' :: r => some (r.reverse, (cs.reverse.takeWhile (· ≠ '@')).reverse)
  | _ => none

/-- User name and password as written before the host. An empty password has no colon. -/
def userinfoText (cs : List Char) : List Char :=
  let name := encode userinfoSet (cs.takeWhile (· ≠ ':'))
  match cs.dropWhile (· ≠ ':') with
  | ':' :: c :: password => name ++ ':' :: encode userinfoSet (c :: password) ++ ['@']
  | _ => if name.isEmpty then [] else name ++ ['@']

/-- The characters of a host: up to a colon outside brackets. -/
def hostLength : Bool → List Char → Nat
  | _, [] => 0
  | inside, c :: cs =>
    if c = ':' ∧ ¬inside then 0
    else hostLength (if c = '[' then true else if c = ']' then false else inside) cs + 1

/-- Reads a port; the default one of the scheme is not kept. -/
def parsePort (scheme : List Char) (cs : List Char) : Except ParseError (Option Nat) :=
  if cs.isEmpty then .ok none
  else match Numeral.digits? cs with
    | some n =>
      if n < 65536 then .ok (if defaultPort scheme = some n then none else some n)
      else .error .port
    | none => .error .port

/-- What an authority holds. -/
structure Authority where
  userinfo : List Char
  host : List Char
  port : Option Nat

/-- Reads an authority. Past the host only a port may follow, which a backslash ends under any
scheme; what is left from there on belongs to the path. -/
def parseAuthority (k : SchemeKind) (scheme : List Char) (cs : List Char) (followed : Bool) :
    Except ParseError (Authority × List Char) := do
  let (userinfo, rest) ← match cutLastAt cs with
    | none => .ok ([], cs)
    | some ([], rest) => if rest.isEmpty ∧ followed then .error .emptyHost else .ok ([], rest)
    | some (user, rest) => .ok (userinfoText user, rest)
  let n := hostLength false rest
  let text := rest.take n
  let after := rest.drop n
  let host ← if k = .special then
      if text.isEmpty then .error .emptyHost else parseDomainHost text
    else parseOpaqueHost text
  if host.isEmpty ∧ (¬after.isEmpty ∨ ¬userinfo.isEmpty) then .error .emptyHost
  else
    let port ← parsePort scheme ((after.drop 1).takeWhile (· ≠ '\\'))
    return (⟨userinfo, host, port⟩, (after.drop 1).dropWhile (· ≠ '\\'))

/-! ### Path -/

/-- The spellings of a dot in a segment. -/
def undot : List Char → List Char
  | '%' :: '2' :: 'e' :: cs | '%' :: '2' :: 'E' :: cs => '.' :: undot cs
  | c :: cs => c :: undot cs
  | [] => []

def isSingleDot (seg : List Char) : Bool := undot seg = ['.']
def isDoubleDot (seg : List Char) : Bool := undot seg = ['.', '.']

/-- A letter and a colon, or a bar in its place. -/
def isDriveLetter : List Char → Bool
  | [a, b] => a.isAlpha && (b = ':' || b = '|')
  | _ => false

/-- Whether a segment is a drive letter, or has one before its first backslash. -/
def beginsWithDrive (seg : List Char) : Bool := isDriveLetter (seg.takeWhile (· ≠ '\\'))

/-- A path as far as it has been read: its segments in reverse order, and whether it begins with a
drive letter, which takes the place of a host. -/
structure Path where
  segments : List (List Char)
  onDrive : Bool

namespace Path

def empty : Path := ⟨[], false⟩

/-- Goes up from the last segment. There is no way up from a drive. -/
def up (p : Path) : Path :=
  match p.segments with
  | s :: ss => if beginsWithDrive s then p else { p with segments := ss }
  | [] => p

def add (p : Path) (seg : List Char) : Path := { p with segments := seg :: p.segments }

/-- Ends the path with a slash, if nothing follows. -/
def ending (last : Bool) (p : Path) : Path := if last then p.add [] else p

/-- Adds a segment, resolving dots. -/
def push (k : SchemeKind) (p : Path) (seg : List Char) (last : Bool) : Path :=
  if isDoubleDot seg then p.up.ending last
  else if isSingleDot seg then p.ending last
  else if k = .file ∧ p.segments.isEmpty ∧ isDriveLetter seg then
    ⟨[seg.take 1 ++ [':']], true⟩
  else p.add seg

/-- A drive letter that something ignored keeps apart from the rest of its segment. -/
def driveApart? (seg : List Char) : Option (List Char × List Char) :=
  match next? seg with
  | some (a, r) =>
    match next? r with
    | some (':', c :: r) =>
      let rest := counting (c :: r)
      if a.isAlpha ∧ isIgnored c ∧ rest ≠ [] then some ([a, ':'], rest) else none
    | _ => none
  | none => none

/-- Adds a segment as it stands in the text. In a file path a drive letter kept apart from the rest
is a segment of its own, and the rest is taken as it is. -/
def read (k : SchemeKind) (p : Path) (seg : List Char) (last : Bool) : Path :=
  match if k = .file ∧ p.segments.isEmpty then driveApart? seg else none with
  | some (drive, rest) => (p.add drive).add (encode pathSet rest)
  | none => p.push k (encode pathSet (counting seg)) last

/-- Adds segments up to the last one. -/
def readAll (k : SchemeKind) (p : Path) : List (List Char) → Path
  | [] => p
  | [seg] => p.read k seg true
  | seg :: ss => (p.read k seg false).readAll k ss

/-- The segments of a file path without the empty ones at its front. -/
def dropEmptyFront : List (List Char) → List (List Char)
  | [] :: s :: ss => dropEmptyFront (s :: ss)
  | ss => ss

/-- The path of a text that follows a slash. -/
def ofText (k : SchemeKind) (cs : List Char) : Path :=
  empty.readAll k (Text.splitAt (isSlash k) cs)

def text (k : SchemeKind) (p : Path) : List Char :=
  let segs := p.segments.reverse
  (if k = .file then dropEmptyFront segs else segs).flatMap ('/' :: ·)

end Path

/-- Leaves out the slash at the front of a path. -/
def dropSlash (k : SchemeKind) (cs : List Char) : List Char :=
  match next? cs with
  | some (c, r) => if isSlash k c then r else cs
  | none => cs

/-! ### Whole URLs -/

/-- Query and fragment of what follows the path. -/
def queryAndFragment (k : SchemeKind) (cs : List Char) : Option (List Char) × Option (List Char) :=
  let set := if k.isSpecial then specialQuerySet else querySet
  let fragment (cs : List Char) := match cs with
    | '#' :: f => some (encode fragmentSet f)
    | _ => none
  match cs with
  | '?' :: cs => (some (encode set (cs.takeWhile (· ≠ '#'))), fragment (cs.dropWhile (· ≠ '#')))
  | cs => (none, fragment cs)

def isPathChar (c : Char) : Bool := c ≠ '?' && c ≠ '#'

/-- A URL from its scheme, authority, path and the text after the path. -/
def assemble (k : SchemeKind) (scheme : List Char) (authority : Option Authority)
    (path rest : List Char) : Url :=
  let (query, fragment) := queryAndFragment k rest
  { scheme := String.ofList scheme
    userinfo := String.ofList (authority.elim [] (·.userinfo))
    host := authority.map fun a => String.ofList a.host
    port := authority.bind (·.port)
    path := String.ofList path
    query := query.map String.ofList
    fragment := fragment.map String.ofList }

/-- The URL after a scheme and two slashes. -/
def parseWithAuthority (k : SchemeKind) (scheme cs : List Char) : Except ParseError Url := do
  let behind := cs.dropWhile (!endsAuthority k ·)
  let (authority, left) ←
    parseAuthority k scheme (cs.takeWhile (!endsAuthority k ·)) (!behind.isEmpty)
  let rest := left ++ behind
  let body := rest.takeWhile isPathChar
  let path := if body.isEmpty ∧ k = .other then [] else (Path.ofText k (dropSlash k body)).text k
  return assemble k scheme (some authority) path (rest.dropWhile isPathChar)

/-- A URL without a host whose path is hierarchical or opaque. -/
def parseWithoutAuthority (scheme cs : List Char) : Url :=
  let body := cs.takeWhile isPathChar
  let path := match body with
    | '/' :: r => (Path.ofText .other r).text .other
    | body => encode controlSet body
  assemble .other scheme none path (cs.dropWhile isPathChar)

/-- The host of a file URL and what follows it. A drive letter is no host, and the local host is
written as none. -/
def fileHost (cs : List Char) : Except ParseError (List Char × List Char) :=
  let h := counting (cs.takeWhile (!endsAuthority .file ·))
  if h.isEmpty ∨ isDriveLetter h then .ok ([], cs)
  else do
    let host ← parseDomainHost h
    let rest := cs.dropWhile (!endsAuthority .file ·)
    if host = "localhost".toList then return ([], rest) else return (host, rest)

/-- The text after two slashes, if it begins with them. -/
def afterSlashes? (k : SchemeKind) (cs : List Char) : Option (List Char) :=
  match next? cs with
  | some (a, r) =>
    match next? r with
    | some (b, r) => if isSlash k a ∧ isSlash k b then some r else none
    | none => none
  | none => none

/-- The host and the path of a file URL. A path that begins with a drive letter has no host. The
slash behind a host that is not there belongs to the path. -/
def fileParts (cs : List Char) : Except ParseError (List Char × Path) :=
  match afterSlashes? .file cs with
  | none => .ok ([], .ofText .file (dropSlash .file (cs.takeWhile isPathChar)))
  | some r => do
    let (host, rest) ← fileHost r
    let body := rest.takeWhile isPathChar
    if host.isEmpty then return ([], .ofText .file body)
    else
      let path := Path.ofText .file (dropSlash .file body)
      return (if path.onDrive then [] else host, path)

/-- A file URL. Its text may still hold characters that do not count. -/
def parseFile (scheme cs : List Char) : Except ParseError Url := do
  let (host, path) ← fileParts cs
  let rest := cs.dropWhile isPathChar
  return assemble .file scheme (some ⟨[], host, none⟩) (path.text .file) (counting rest)

/-- Parses an absolute URL. -/
def parse (s : String) : Except ParseError Url :=
  let cs := trimOuter s.toList
  match scheme? (counting cs) with
  | none => .error .relativeWithoutBase
  | some (scheme, rest) =>
    match schemeKind scheme with
    | .file => parseFile scheme ((cs.dropWhile (· ≠ ':')).drop 1)
    | .special => parseWithAuthority .special scheme (rest.dropWhile (isSlash .special))
    | .other =>
      match rest with
      | '/' :: '/' :: r => parseWithAuthority .other scheme r
      | r => .ok (parseWithoutAuthority scheme r)

end Url

end TeamSync
