import TeamSync.Text.Split

/-!
Tables of code points, written as text.

The rows of a table stand between blanks. A row is a code point or a range of them, in hexadecimal,
and after `=` the values that belong to each of them, joined by dots. After `>` stands the value of
the first code point and the value grows with the code point; after `+` it grows likewise, but every
other code point of the range is left out.
-/

namespace TeamSync.Text

/-- How the values of a row go with its code points. -/
inductive RowRule where
  | fixed
  | growing
  | alternating
  deriving DecidableEq, Repr

/-- A row of a table: a range of code points and the values that belong to them. -/
structure Row where
  first : Nat
  last : Nat
  rule : RowRule
  values : List Nat
  deriving DecidableEq, Repr

namespace Row

/-- The values of a code point, if the row has it. -/
def get? (r : Row) (n : Nat) : Option (List Nat) :=
  if r.first ≤ n ∧ n ≤ r.last then
    match r.rule with
    | .fixed => some r.values
    | .growing => some (r.values.map (· + (n - r.first)))
    | .alternating =>
      if (n - r.first) % 2 = 0 then some (r.values.map (· + (n - r.first))) else none
  else none

/-! ### Reading -/

def isHexDigit (c : Char) : Bool := c.isDigit || ('a' ≤ c && c ≤ 'f')

/-- The value of a number in lower-case hexadecimal. -/
def number (cs : List Char) : Nat :=
  cs.foldl (fun n c => n * 16 + (if c.isDigit then c.toNat - 0x30 else c.toNat - 0x57)) 0

def numbers (cs : List Char) : List Nat := ((splitAt (· = '.') cs).filter (· ≠ [])).map number

/-- A row from its code points and what follows them. -/
def make (first last : Nat) : List Char → Row
  | '>' :: cs => ⟨first, last, .growing, numbers cs⟩
  | '+' :: cs => ⟨first, last, .alternating, numbers cs⟩
  | cs => ⟨first, last, .fixed, numbers (cs.drop 1)⟩

def read (cs : List Char) : Row :=
  let first := number (cs.takeWhile isHexDigit)
  match cs.dropWhile isHexDigit with
  | '-' :: cs => make first (number (cs.takeWhile isHexDigit)) (cs.dropWhile isHexDigit)
  | cs => make first first cs

end Row

abbrev Table := List Row

namespace Table

/-- Reads a table line by line. -/
def ofLines (lines : List String) : Table :=
  lines.flatMap fun l => ((splitAt (· = ' ') l.toList).filter (· ≠ [])).map Row.read

/-- The values of a code point, if it stands in the table. -/
def get? (t : Table) (n : Nat) : Option (List Nat) := t.findSome? (·.get? n)

def contains (t : Table) (n : Nat) : Bool := (t.get? n).isSome

end Table

end TeamSync.Text
