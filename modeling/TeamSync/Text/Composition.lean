import TeamSync.Text.Composition.Tables

/-!
Canonical composition: a text is taken apart, its combining marks are put in the order of their
classes, and what can be composed is composed.
-/

namespace TeamSync.Text.Composition

/-- The class of a character; all but combining marks have the class zero. -/
def classOf (n : Nat) : Nat := ((classes.get? n).bind (·.head?)).getD 0

/-! ### Taking apart -/

/-! A Korean syllable is numbered by its two or three letters. -/

def firstSyllable : Nat := 0xAC00
def firstLead : Nat := 0x1100
def firstVowel : Nat := 0x1161
def firstTail : Nat := 0x11A7
def vowelCount : Nat := 21
def tailCount : Nat := 28
def leadCount : Nat := 19

/-- The two characters a character is composed of. -/
def partsOf? (n : Nat) : Option (Nat × Nat) :=
  if firstSyllable ≤ n ∧ n < firstSyllable + leadCount * vowelCount * tailCount then
    let i := n - firstSyllable
    if i % tailCount = 0 then
      some (firstLead + i / tailCount / vowelCount, firstVowel + i / tailCount % vowelCount)
    else some (n - i % tailCount, firstTail + i % tailCount)
  else match pairs.get? n with
    | some [a, b] => some (a, b)
    | _ => none

/-- A character taken apart as far as it goes, to some depth. -/
def takeApart : (depth : Nat) → Nat → List Nat
  | 0, n => [n]
  | depth + 1, n =>
    match partsOf? n with
    | some (a, b) => takeApart depth a ++ [b]
    | none => [n]

/-- No character is composed more than four times. -/
def depth : Nat := 4

/-! ### Order of marks -/

/-- Puts a character behind others, which stand in reverse: a mark goes before the marks at the end
that have a higher class. -/
def place (n : Nat) : List Nat → List Nat
  | [] => [n]
  | m :: ms => if 0 < classOf n ∧ classOf n < classOf m then m :: place n ms else n :: m :: ms

def sortMarks (ns : List Nat) : List Nat := (ns.foldl (fun acc n => place n acc) []).reverse

/-! ### Putting together -/

/-- The character that is composed of two others. -/
def compose? (a b : Nat) : Option Nat :=
  if firstLead ≤ a ∧ a < firstLead + leadCount ∧ firstVowel ≤ b ∧ b < firstVowel + vowelCount then
    some (firstSyllable + ((a - firstLead) * vowelCount + (b - firstVowel)) * tailCount)
  else if firstSyllable ≤ a ∧ a < firstSyllable + leadCount * vowelCount * tailCount ∧
      (a - firstSyllable) % tailCount = 0 ∧ firstTail < b ∧ b < firstTail + tailCount then
    some (a + (b - firstTail))
  else (pairs.find? (·.values == [a, b])).map (·.first)

/-- Puts together a character and the marks that follow it. `behind` are the marks that stay, in
reverse; one of them blocks any mark of its own class or a lower one. -/
def putTogether (starter : Nat) (behind : List Nat) : List Nat → List Nat
  | [] => starter :: behind.reverse
  | n :: ns =>
    let blocked := match behind with
      | [] => false
      | b :: _ => decide (classOf n ≤ classOf b)
    match if blocked then none else compose? starter n with
    | some c => putTogether c behind ns
    | none =>
      if classOf n = 0 then starter :: behind.reverse ++ putTogether n [] ns
      else putTogether starter (n :: behind) ns

/-- A text put together; marks before the first other character stay as they are. -/
def assemble : List Nat → List Nat
  | [] => []
  | n :: ns => if classOf n = 0 then putTogether n [] ns else n :: assemble ns

/-- The composed form of a text. -/
def normalize (ns : List Nat) : List Nat := assemble (sortMarks (ns.flatMap (takeApart depth)))

end TeamSync.Text.Composition
