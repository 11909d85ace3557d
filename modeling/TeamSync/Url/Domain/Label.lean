import TeamSync.Text.Composition
import TeamSync.Url.Domain.Classes
import TeamSync.Url.Domain.Mapping
import TeamSync.Url.Punycode

/-!
Labels of international domain names: what a label may hold, and its two forms.
-/

namespace TeamSync.Url.Domain

open Text

/-! ### Characters -/

/-- What a character is replaced with; nothing if no domain holds it. -/
def replace? (n : Nat) : Option (List Nat) :=
  match replaced.get? n with
  | some ms => some ms
  | none => if refused.contains n then none else some [n]

/-- Whether a character stays what it is. -/
def isKept (n : Nat) : Bool := replace? n = some [n]

/-- The class of a virama, which ends a consonant. -/
def viramaClass : Nat := 9

/-! ### Joiners -/

def nonJoiner : Nat := 0x200C
def joiner : Nat := 0x200D

/-- Whether the nearest letter that joining does not look through joins towards the joiner. -/
def joins (side : Table) (ns : List Nat) : Bool :=
  match ns.dropWhile transparent.contains with
  | n :: _ => joiningBoth.contains n || side.contains n
  | [] => false

def followsVirama (before : List Nat) : Bool :=
  match before with
  | n :: _ => Composition.classOf n = viramaClass
  | [] => false

/-- Whether each joiner has a place where it shows. `before` is what stands before, in reverse. -/
def joinersFit (before : List Nat) : List Nat → Bool
  | [] => true
  | n :: ns =>
    (if n = joiner then followsVirama before
      else if n = nonJoiner then
        followsVirama before || (joins joiningLeft before && joins joiningRight ns)
      else true) && joinersFit (n :: before) ns

/-! ### Direction -/

/-- The classes of writing direction that a label's rule tells apart. -/
inductive Direction where
  | left
  | right
  | arabic
  | arabicNumber
  | europeanNumber
  | neutral
  | nonSpacing
  deriving DecidableEq, Repr

def Direction.of (n : Nat) : Direction :=
  if rightToLeft.contains n then .right
  else if arabicLetters.contains n then .arabic
  else if arabicNumbers.contains n then .arabicNumber
  else if europeanNumbers.contains n then .europeanNumber
  else if neutralSigns.contains n then .neutral
  else if nonSpacingMarks.contains n then .nonSpacing
  else .left

/-- Whether a text holds anything that is written from right to left. -/
def hasRightToLeft (ns : List Nat) : Bool :=
  ns.any fun n => [.right, .arabic, .arabicNumber].contains (Direction.of n)

/-- The directions of a text without the marks at its end. -/
def spacing (ds : List Direction) : List Direction :=
  (ds.reverse.dropWhile (· = .nonSpacing)).reverse

/-- A label from right to left: no letter from left to right, numbers of one kind only, and at the
end a letter or a number. -/
def rightFits (ds : List Direction) : Bool :=
  !ds.contains .left && !(ds.contains .europeanNumber && ds.contains .arabicNumber) &&
    match (spacing ds).getLast? with
    | some d => [.right, .arabic, .europeanNumber, .arabicNumber].contains d
    | none => false

/-- A label from left to right: nothing from right to left, and at the end a letter or a number. -/
def leftFits (ds : List Direction) : Bool :=
  !ds.any [.right, .arabic, .arabicNumber].contains &&
    match (spacing ds).getLast? with
    | some d => d = .left || d = .europeanNumber
    | none => false

/-- Whether a label can be read beside labels from right to left. -/
def directionFits (ns : List Nat) : Bool :=
  let ds := ns.map Direction.of
  match ds with
  | [] => true
  | .right :: _ | .arabic :: _ => rightFits ds
  | .left :: _ => leftFits ds
  | _ => false

/-! ### Labels -/

/-- A label: what it says, and how it is written in ASCII. -/
structure Label where
  text : List Nat
  ascii : List Char
  deriving DecidableEq, Repr

namespace Label

def mark : List Char := ['x', 'n', '-', '-']

/-- Whether a label is the ASCII form of an international one. -/
def isMarked (cs : List Char) : Bool := mark.isPrefixOf cs

def isAscii (ns : List Nat) : Bool := ns.all (· < 0x80)

/-- How many characters a label beyond ASCII may have. -/
def mostCharacters : Nat := 1000

/-- How many characters may follow the mark of a label that is read. -/
def mostEncoded : Nat := 2000

/-- Whether a text may be a label, direction apart. -/
def isValid (ns : List Nat) : Bool :=
  ns.all isKept && Composition.normalize ns = ns && !(ns.head?.any marks.contains) &&
    joinersFit [] ns && (isAscii ns || ns.length ≤ mostCharacters)

/-- The label of a marked text, which stands for a text beyond ASCII. -/
def ofMarked? (cs : List Char) : Option Label := do
  let encoded := cs.drop mark.length
  guard (encoded.length ≤ mostEncoded)
  let text ← Punycode.decode? encoded
  let ns := text.map Char.toNat
  if isValid ns ∧ ¬isAscii ns then some ⟨ns, cs⟩ else none

/-- The label of a text. -/
def ofText? (cs : List Char) : Option Label :=
  let ns := cs.map Char.toNat
  if isMarked cs then ofMarked? cs
  else if isValid ns then
    some ⟨ns, if isAscii ns then cs else mark ++ Punycode.encode cs⟩
  else none

end Label

end TeamSync.Url.Domain
