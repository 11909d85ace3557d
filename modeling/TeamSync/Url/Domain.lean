import TeamSync.Text.Utf8
import TeamSync.Url.Domain.Label
import TeamSync.Url.Percent

/-!
Domain names in their ASCII form.

A name beyond ASCII is mapped and composed, its labels are checked, and those beyond ASCII are
written in Punycode behind a mark. A marked label is checked as the label it stands for.
-/

namespace TeamSync.Url.Domain

open Text

/-- Characters that no domain holds. -/
def isForbidden (c : Char) : Bool :=
  c.toNat ≤ 0x20 || c.toNat = 0x7F || "#%/:<>?@[\\]^|".toList.elem c

/-- The parts of a name between its dots. -/
def labelsOf (cs : List Char) : List (List Char) := splitAt (· = '.') cs

/-- Whether a name needs nothing but lower case. -/
def isPlain (cs : List Char) : Bool :=
  cs.all (·.toNat < 0x80) && !(labelsOf (cs.map Char.toLower)).any Label.isMarked

/-- The mapped and composed form of a name. -/
def mapped? (cs : List Char) : Option (List Char) := do
  let ns ← (cs.map Char.toNat).mapM replace?
  return (Composition.normalize ns.flatten).map Char.ofNat

/-- The ASCII form of an international name. -/
def international? (cs : List Char) : Option (List Char) := do
  let labels ← (labelsOf (← mapped? cs)).mapM Label.ofText?
  if labels.any (fun l => hasRightToLeft l.text) ∧ ¬labels.all fun l => directionFits l.text then
    none
  else return ((labels.map (·.ascii)).intersperse ['.']).flatten

/-- The ASCII form of a name. -/
def ascii? (cs : List Char) : Option (List Char) :=
  if isPlain cs then some (cs.map Char.toLower) else international? cs

/-- The ASCII form of a domain given as bytes. -/
def toAscii? (bytes : List UInt8) : Option (List Char) := do
  let d ← ascii? (Utf8.decodeLossy bytes)
  if d.any isForbidden then none else return d

end TeamSync.Url.Domain
