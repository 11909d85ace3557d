import TeamSync.Text.Utf8

/-!
Percent-encoding: a byte that may not stand in some part of a URL is written as `%` and two
hexadecimal digits. Bytes past ASCII and controls may stand nowhere.
-/

namespace TeamSync.Url

/-- Which ASCII characters besides the controls a part of a URL encodes. -/
structure EncodeSet where
  chars : List Char

def controlSet : EncodeSet := ⟨[]⟩
def fragmentSet : EncodeSet := ⟨" \"<>`".toList⟩
def pathSet : EncodeSet := ⟨fragmentSet.chars ++ "#?\x7b\x7d".toList⟩
def userinfoSet : EncodeSet := ⟨pathSet.chars ++ "/:;=@[\\]^|".toList⟩
def querySet : EncodeSet := ⟨" \"#<>".toList⟩
def specialQuerySet : EncodeSet := ⟨querySet.chars ++ "'".toList⟩

/-- A digit in upper-case hexadecimal. -/
def hexUpper (n : Nat) : Char := (Nat.digitChar n).toUpper

/-- One encoded byte. -/
def encodeByte (b : UInt8) : List Char := ['%', hexUpper (b.toNat / 16), hexUpper (b.toNat % 16)]

/-- One character in a part of a URL. -/
def encodeChar (set : EncodeSet) (c : Char) : List Char :=
  if c.toNat < 0x20 ∨ 0x7F ≤ c.toNat ∨ c ∈ set.chars then
    (String.utf8EncodeChar c).flatMap encodeByte
  else [c]

def encode (set : EncodeSet) (cs : List Char) : List Char := cs.flatMap (encodeChar set)

/-- The value of a hexadecimal digit of either case. -/
def hexValue? (c : Char) : Option Nat :=
  if c.isDigit then some (c.toNat - 0x30)
  else if 'a' ≤ c ∧ c ≤ 'f' then some (c.toNat - 0x57)
  else if 'A' ≤ c ∧ c ≤ 'F' then some (c.toNat - 0x37)
  else none

/-- The bytes of a text with its encoded bytes decoded; a lone `%` stands for itself. -/
def percentDecode : List Char → List UInt8
  | '%' :: a :: b :: cs =>
    match hexValue? a, hexValue? b with
    | some x, some y => (x * 16 + y).toUInt8 :: percentDecode cs
    | _, _ => 0x25 :: percentDecode (a :: b :: cs)
  | c :: cs => String.utf8EncodeChar c ++ percentDecode cs
  | [] => []

end TeamSync.Url
