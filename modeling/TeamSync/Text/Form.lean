import TeamSync.Text.Split
import TeamSync.Url.Percent

/-!
Form bodies (`application/x-www-form-urlencoded`): pairs joined by `&`, names and values by `=`,
a space written as `+` and every byte but letters, digits and `*-._` percent-encoded.
-/

namespace TeamSync.Form

/-- Characters that stand for themselves. -/
def isKept (c : Char) : Bool := c.isAlphanum || c = '*' || c = '-' || c = '.' || c = '_'

def encodeChar (c : Char) : List Char :=
  if c = ' ' then ['+']
  else if isKept c then [c]
  else (String.utf8EncodeChar c).flatMap Url.encodeByte

/-- One name or value. -/
def encodeText (s : String) : List Char := s.toList.flatMap encodeChar

def encodePair (p : String × String) : List Char := encodeText p.1 ++ '=' :: encodeText p.2

/-- The body that holds some pairs in order. -/
def encode (ps : List (String × String)) : String :=
  String.ofList ((ps.map encodePair).intersperse ['&']).flatten

/-! ### Reading -/

/-- What a name or value stands for; bytes that are no text are read as U+FFFD. -/
def decodeText (cs : List Char) : String :=
  Utf8.toStringLossy (Url.percentDecode (cs.map fun c => if c = '+' then ' ' else c))

/-- A pair, cut at its first `=`; without one the value is empty. -/
def decodePair (cs : List Char) : String × String :=
  (decodeText (cs.takeWhile (· ≠ '=')), decodeText ((cs.dropWhile (· ≠ '=')).drop 1))

/-- The pairs that a body holds, in order. -/
def decode (body : String) : List (String × String) :=
  ((Text.splitAt (· = '&') body.toList).filter (· ≠ [])).map decodePair

end TeamSync.Form
