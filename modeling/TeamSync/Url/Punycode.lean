/-!
Punycode: texts beyond ASCII in letters, digits and hyphens.

The ASCII characters come first, with a hyphen behind them. Then each further character is inserted,
in the order of code points; a number in digits of base 36 says how far the next insertion lies,
counted in places of all texts of the length so far. The size of the digits adapts to the numbers.
-/

namespace TeamSync.Url.Punycode

def base : Nat := 36
def leastThreshold : Nat := 1
def mostThreshold : Nat := 26
def skew : Nat := 38
def damp : Nat := 700
def firstBias : Nat := 72
def firstCodePoint : Nat := 0x80

def digit (d : Nat) : Char := if d < 26 then Char.ofNat (0x61 + d) else Char.ofNat (0x30 + (d - 26))

def digitValue? (c : Char) : Option Nat :=
  if 'a' ≤ c ∧ c ≤ 'z' then some (c.toNat - 0x61)
  else if 'A' ≤ c ∧ c ≤ 'Z' then some (c.toNat - 0x41)
  else if c.isDigit then some (c.toNat - 0x30 + 26)
  else none

/-- The threshold of the digit with some weight: a digit below it is the last of its number. -/
def threshold (weight bias : Nat) : Nat :=
  max leastThreshold (min mostThreshold (weight - bias))

/-- The bias for a number of some size; `k` counts up by the base. -/
def biasOf (k delta : Nat) : Nat :=
  if (base - leastThreshold) * mostThreshold / 2 < delta then
    biasOf (k + base) (delta / (base - leastThreshold))
  else k + base * delta / (delta + skew)
termination_by delta
decreasing_by exact Nat.div_lt_self (by omega) (by decide)

/-- The bias after a number, with `length` characters inserted by now. -/
def adapt (delta length : Nat) (first : Bool) : Nat :=
  let delta := if first then delta / damp else delta / 2
  biasOf 0 (delta + delta / length)

/-! ### Writing -/

theorem threshold_pos (weight bias : Nat) : 0 < threshold weight bias := by
  simp only [threshold, leastThreshold]; omega

theorem threshold_lt (weight bias : Nat) : threshold weight bias < base := by
  simp only [threshold, leastThreshold, mostThreshold, base]; omega

/-- The digits of a number, the one of least weight first. -/
def writeNumber (bias weight n : Nat) : List Char :=
  let t := threshold weight bias
  if n < t then [digit n]
  else digit (t + (n - t) % (base - t)) :: writeNumber bias (weight + base) ((n - t) / (base - t))
termination_by n
decreasing_by
  have h := threshold_pos weight bias
  have := Nat.div_le_self (n - threshold weight bias) (base - threshold weight bias)
  omega

/-- What has been written: how far the next insertion lies by now, and how many characters there
are. -/
structure Writer where
  delta : Nat
  bias : Nat
  length : Nat
  first : Bool
  out : List Char

/-- Goes past one place of the text, inserting the character `n` there if it is the one. -/
def Writer.pass (n : Nat) (w : Writer) (c : Char) : Writer :=
  if c.toNat < n then { w with delta := w.delta + 1 }
  else if c.toNat = n then
    ⟨0, adapt w.delta (w.length + 1) w.first, w.length + 1, false,
      w.out ++ writeNumber w.bias base w.delta⟩
  else w

/-- Inserts the characters of a rising list of code points; all below `n` are there already. -/
def writeFrom (cs : List Char) (n : Nat) (w : Writer) : List Nat → Writer
  | [] => w
  | m :: ms =>
    let w := cs.foldl (Writer.pass m) { w with delta := w.delta + (m - n) * (w.length + 1) }
    writeFrom cs (m + 1) { w with delta := w.delta + 1 } ms

/-- Puts a number into a rising list that has each number once. -/
def insertOnce (n : Nat) : List Nat → List Nat
  | [] => [n]
  | m :: ms => if n < m then n :: m :: ms else if n = m then m :: ms else m :: insertOnce n ms

def encode (cs : List Char) : List Char :=
  let basic := cs.filter (·.toNat < firstCodePoint)
  let others := ((cs.map Char.toNat).filter (firstCodePoint ≤ ·)).foldr insertOnce []
  let w := writeFrom cs firstCodePoint ⟨0, firstBias, basic.length, true, []⟩ others
  basic ++ (if basic.isEmpty then [] else ['-']) ++ w.out

/-! ### Reading -/

/-- What has been read: the digits of a number so far, and the text before it. -/
structure Reader where
  place : Nat
  codePoint : Nat
  bias : Nat
  first : Bool
  text : List Char
  delta : Nat
  scale : Nat
  weight : Nat

/-- Inserts the character that a whole number stands for. -/
def Reader.insert? (r : Reader) : Option Reader :=
  let length := r.text.length + 1
  let i := r.place + r.delta
  let n := r.codePoint + i / length
  if n.isValidChar then
    some ⟨i % length + 1, n, adapt r.delta length r.first, false,
      r.text.insertIdx (i % length) (Char.ofNat n), 0, 1, base⟩
  else none

/-- Reads one digit. -/
def Reader.step? (r : Reader) (c : Char) : Option Reader := do
  let d ← digitValue? c
  let t := threshold r.weight r.bias
  let r := { r with delta := r.delta + d * r.scale }
  if d < t then r.insert?
  else some { r with scale := r.scale * (base - t), weight := r.weight + base }

/-- The text before the last hyphen, and the one behind it. A hyphen with nothing before it separates
nothing. -/
def cutLastHyphen (cs : List Char) : List Char × List Char :=
  let back := cs.reverse
  match (back.dropWhile (· ≠ '-')).drop 1 with
  | [] => ([], cs)
  | basic => (basic.reverse, (back.takeWhile (· ≠ '-')).reverse)

def decode? (cs : List Char) : Option (List Char) := do
  let (basic, digits) := cutLastHyphen cs
  guard (basic.all (·.toNat < firstCodePoint))
  let r ← digits.foldlM Reader.step? ⟨0, firstCodePoint, firstBias, true, basic, 0, 1, base⟩
  if r.scale = 1 then some r.text else none

end TeamSync.Url.Punycode
