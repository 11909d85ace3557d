/-!
Decimal numerals: reading an unsigned or signed machine integer from the whole of a text.

A numeral is a sign that may be missing and one or more ASCII digits; a minus sign is read only
where negative values exist, and a value outside the range is refused.
-/

namespace TeamSync.Numeral

/-- The value of a digit, on top of the digits before it. -/
def addDigit (n : Nat) (c : Char) : Nat := 10 * n + (c.toNat - '0'.toNat)

/-- The value of a text of digits; none if it is empty or holds anything else. -/
def digits? (cs : List Char) : Option Nat :=
  if cs ≠ [] ∧ cs.all Char.isDigit then some (cs.foldl addDigit 0) else none

/-- The digits of a numeral without its plus sign. -/
def dropPlus : List Char → List Char
  | '+' :: cs => cs
  | cs => cs

/-- Reads a numeral below a bound. -/
def below? (bound : Nat) (cs : List Char) : Option Nat :=
  match digits? (dropPlus cs) with
  | some n => if n < bound then some n else none
  | none => none

/-- Reads an unsigned 64-bit integer. -/
def uint64? (s : String) : Option UInt64 := (below? 0x10000000000000000 s.toList).map Nat.toUInt64

/-- Reads an unsigned 32-bit integer. -/
def uint32? (s : String) : Option UInt32 := (below? 0x100000000 s.toList).map Nat.toUInt32

/-- Reads a signed 64-bit integer. -/
def int64? (s : String) : Option Int :=
  match s.toList with
  | '-' :: cs =>
    (digits? cs).bind fun n => if n ≤ 0x8000000000000000 then some (-(n : Int)) else none
  | cs => (below? 0x8000000000000000 cs).map Int.ofNat

/-- The decimal digits of a number, with no leading zero. -/
def ofNat (n : Nat) : List Char := Nat.toDigits 10 n

/-- A number with zeros in front up to a width. -/
def padded (width n : Nat) : List Char :=
  List.replicate (width - (ofNat n).length) '0' ++ ofNat n

end TeamSync.Numeral
