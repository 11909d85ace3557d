/-!
UTF-8 over lists of bytes, as a one-pass scan.

A text is encoded character by character. Reading yields characters and invalid parts: an invalid
part is a longest run of bytes that begins a character and cannot be completed, or one byte that
begins none.
-/

namespace TeamSync.Utf8

/-- The bytes of a text. -/
def encode (cs : List Char) : List UInt8 := cs.flatMap String.utf8EncodeChar

/-- The bytes of a string. -/
def ofString (s : String) : List UInt8 := encode s.toList

/-- What is owed to a character that has begun: `left` more bytes, the next of them between `lo`
and `hi`, the bits so far being `acc`. -/
inductive Pending where
  | idle
  | want (left : Nat) (lo hi : UInt8) (acc : Nat)
  deriving DecidableEq, Repr

/-- What a byte begins: a whole character, an invalid part, or a longer character. -/
def begins (b : UInt8) : List (Option Char) × Pending :=
  if b < 0x80 then ([some (Char.ofNat b.toNat)], .idle)
  else if b < 0xC2 then ([none], .idle)
  else if b < 0xE0 then ([], .want 1 0x80 0xBF (b.toNat - 0xC0))
  else if b < 0xF0 then
    ([], .want 2 (if b = 0xE0 then 0xA0 else 0x80) (if b = 0xED then 0x9F else 0xBF)
      (b.toNat - 0xE0))
  else if b < 0xF5 then
    ([], .want 3 (if b = 0xF0 then 0x90 else 0x80) (if b = 0xF4 then 0x8F else 0xBF)
      (b.toNat - 0xF0))
  else ([none], .idle)

/-- One byte more. A byte that cannot continue a character leaves an invalid part and begins
anew. -/
def step : Pending → UInt8 → List (Option Char) × Pending
  | .idle, b => begins b
  | .want left lo hi acc, b =>
    if lo ≤ b ∧ b ≤ hi then
      let acc := acc * 64 + (b.toNat - 0x80)
      if left ≤ 1 then ([some (Char.ofNat acc)], .idle) else ([], .want (left - 1) 0x80 0xBF acc)
    else
      let (out, p) := begins b
      (none :: out, p)

/-- The parts of a byte string that continues a pending character. -/
def partsFrom : Pending → List UInt8 → List (Option Char)
  | .idle, [] => []
  | .want .., [] => [none]
  | p, b :: bs => (step p b).1 ++ partsFrom (step p b).2 bs

/-- The characters of a byte string, in order, with `none` for each invalid part. -/
def parts (bs : List UInt8) : List (Option Char) := partsFrom .idle bs

/-- The text that a byte string encodes, if it is valid throughout. -/
def decode? (bs : List UInt8) : Option (List Char) := (parts bs).mapM id

/-- The text of a byte string, each invalid part read as U+FFFD. -/
def decodeLossy (bs : List UInt8) : List Char := (parts bs).map (·.getD '\uFFFD')

/-- The string that a byte string encodes, if it is valid throughout. -/
def toString? (bs : List UInt8) : Option String := (decode? bs).map String.ofList

/-- The string of a byte string, each invalid part read as U+FFFD. -/
def toStringLossy (bs : List UInt8) : String := String.ofList (decodeLossy bs)

end TeamSync.Utf8
