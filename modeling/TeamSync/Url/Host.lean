import TeamSync.Text.Numeral
import TeamSync.Text.Split
import TeamSync.Url.Domain

/-!
Hosts of URLs: domain names, IPv4 addresses in any of their spellings and IPv6 addresses in
brackets, each brought to its one written form.
-/

namespace TeamSync.Url

/-- Why a text is no URL. -/
inductive ParseError where
  | relativeWithoutBase
  | emptyHost
  | domainName
  | domainCharacter
  | port
  | ipv4
  | ipv6
  deriving DecidableEq, Repr

def ParseError.message : ParseError → String
  | .relativeWithoutBase => "relative URL without a base"
  | .emptyHost => "empty host"
  | .domainName => "invalid international domain name"
  | .domainCharacter => "invalid domain character"
  | .port => "invalid port number"
  | .ipv4 => "invalid IPv4 address"
  | .ipv6 => "invalid IPv6 address"

/-! ### IPv4 -/

/-- Reads digits of a base, none of them too large. -/
def inBase? (base : Nat) (cs : List Char) : Option Nat :=
  cs.foldlM
    (fun n c => (hexValue? c).bind fun d => if d < base then some (n * base + d) else none) 0

/-- A number in decimal, in octal after `0` or in hexadecimal after `0x`. -/
def ipv4Number? : List Char → Option Nat
  | [] => none
  | '0' :: 'x' :: cs | '0' :: 'X' :: cs => inBase? 16 cs
  | '0' :: c :: cs => inBase? 8 (c :: cs)
  | cs => inBase? 10 cs

/-- The parts of a name, an empty last one left out. -/
def nameParts (cs : List Char) : List (List Char) :=
  let parts := Text.splitAt (· = '.') cs
  if 1 < parts.length ∧ parts.getLast? = some [] then parts.dropLast else parts

/-- Whether the last part of a name is a number, which makes the name an address. -/
def endsInNumber (cs : List Char) : Bool :=
  match (nameParts cs).getLast? with
  | some [] | none => false
  | some last => last.all Char.isDigit || (ipv4Number? last).isSome

/-- The address of up to four numbers, the last of which fills the bytes that are left. -/
def ipv4Address? (numbers : List Nat) : Option Nat :=
  match numbers.getLast? with
  | none => none
  | some last =>
    let front := numbers.dropLast
    let size := Nat.pow 256 (4 - front.length)
    if last < size ∧ front.all (· < 256) ∧ numbers.length ≤ 4 then
      some (front.foldl (fun a n => a * 256 + n) 0 * size + last)
    else none

def parseIpv4 (cs : List Char) : Except ParseError (List Char) :=
  match (nameParts cs).mapM ipv4Number? with
  | none => .error .ipv4
  | some numbers =>
    match ipv4Address? numbers with
    | none => .error .ipv4
    | some a =>
      let bytes := [a / 0x1000000, a / 0x10000 % 256, a / 0x100 % 256, a % 256]
      .ok ((bytes.map Numeral.ofNat).intersperse ['.']).flatten

/-! ### IPv6 -/

/-- Reads up to four hexadecimal digits. -/
def piece? (cs : List Char) : Option Nat :=
  if cs ≠ [] ∧ cs.length ≤ 4 then inBase? 16 cs else none

/-- A byte of an embedded IPv4 address: decimal, without leading zeros. -/
def embeddedByte? (cs : List Char) : Option Nat :=
  match cs with
  | ['0'] => some 0
  | '0' :: _ => none
  | cs => if cs ≠ [] ∧ cs.length ≤ 3 then (inBase? 10 cs).filter (· < 256) else none

/-- The two pieces of an embedded IPv4 address. -/
def embedded? (cs : List Char) : Option (List Nat) :=
  match (Text.splitAt (· = '.') cs).mapM embeddedByte? with
  | some [a, b, c, d] => some [a * 256 + b, c * 256 + d]
  | _ => none

/-- Reads pieces between colons; the last may be an IPv4 address. -/
def pieces? : List (List Char) → Option (List Nat)
  | [] => some []
  | [cs] => if cs.elem '.' then embedded? cs else (piece? cs).map ([·])
  | cs :: ss => do
    let p ← piece? cs
    let ps ← pieces? ss
    return p :: ps

/-- The pieces of a side of the compressed part; an empty side has none. -/
def sidePieces? (cs : List Char) : Option (List Nat) :=
  if cs.isEmpty then some [] else pieces? (Text.splitAt (· = ':') cs)

/-- Cuts a text at its first double colon. -/
def cutDoubleColon : List Char → Option (List Char × List Char)
  | ':' :: ':' :: cs => some ([], cs)
  | c :: cs => (cutDoubleColon cs).map fun (a, b) => (c :: a, b)
  | [] => none

/-- The eight pieces of an address. The left side of a compressed part holds no IPv4 address. -/
def ipv6Pieces? (cs : List Char) : Option (List Nat) :=
  match cutDoubleColon cs with
  | none => (pieces? (Text.splitAt (· = ':') cs)).filter (·.length = 8)
  | some (a, b) => do
    if a.elem '.' then none
    else
      let l ← sidePieces? a
      let r ← sidePieces? b
      if l.length + r.length < 8 then
        some (l ++ List.replicate (8 - l.length - r.length) 0 ++ r)
      else none

/-- The length of the run of zeros at the front. -/
def zeroRun (ps : List Nat) : Nat := (ps.takeWhile (· = 0)).length

/-- Where the first longest run of at least two zeros begins, and its length. -/
def longestZeros (ps : List Nat) : Option (Nat × Nat) :=
  let runs := (List.range ps.length).map fun i => (i, zeroRun (ps.drop i))
  runs.foldl (fun best r =>
    if 1 < r.2 ∧ (best.map (·.2)).getD 0 < r.2 then some r else best) none

def piecesText (ps : List Nat) : List Char :=
  ((ps.map (Nat.toDigits 16)).intersperse [':']).flatten

/-- An address with its first longest run of zeros compressed. -/
def ipv6Text (ps : List Nat) : List Char :=
  match longestZeros ps with
  | none => piecesText ps
  | some (i, n) => piecesText (ps.take i) ++ [':', ':'] ++ piecesText (ps.drop (i + n))

def parseIpv6 (cs : List Char) : Except ParseError (List Char) :=
  match ipv6Pieces? cs with
  | some ps => .ok ('[' :: ipv6Text ps ++ [']'])
  | none => .error .ipv6

/-- The text between brackets, if a bracket opens. -/
def bracketed? (cs : List Char) : Option (Option (List Char)) :=
  match cs with
  | '[' :: r => some (if r.getLast? = some ']' then some r.dropLast else none)
  | _ => none

/-- The host of a URL whose scheme has domain names. -/
def parseDomainHost (cs : List Char) : Except ParseError (List Char) :=
  match bracketed? cs with
  | some (some inner) => parseIpv6 inner
  | some none => .error .ipv6
  | none =>
    match Domain.toAscii? (percentDecode cs) with
    | none => .error .domainName
    | some [] => .error .emptyHost
    | some d => if endsInNumber d then parseIpv4 d else .ok d

/-- Characters that no opaque host holds. -/
def isForbiddenHostChar (c : Char) : Bool := "\x00\t\n\r #/:<>?@[\\]^|".toList.elem c

/-- The host of a URL of any other scheme. -/
def parseOpaqueHost (cs : List Char) : Except ParseError (List Char) :=
  match bracketed? cs with
  | some (some inner) => parseIpv6 inner
  | some none => .error .ipv6
  | none =>
    if cs.any isForbiddenHostChar then .error .domainCharacter else .ok (encode controlSet cs)

end TeamSync.Url
