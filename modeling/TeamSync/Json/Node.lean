import TeamSync.Json.Fault

/-!
The structure of a JSON text, which may break off.

A node keeps what was written: the pieces of a string and the digits of a number are not yet
interpreted, and each container says how it ends. Where the text breaks, the tree breaks: nothing
follows a broken node. What a break is called depends on who reads the node, see `Node.skim` for a
reader that keeps nothing.
-/

namespace TeamSync.Json

/-- One piece of a string, as written between its quotes. -/
inductive Piece where
  /-- A byte that stands for itself. -/
  | byte (b : UInt8)
  /-- An escape of one letter, given by the byte it stands for. -/
  | short (b : UInt8)
  /-- An escape of four hexadecimal digits, given by its code unit. -/
  | unit (u : Nat)
  deriving DecidableEq, Repr

/-- How a string breaks off: at the end of the text, at a control character, at a letter that
escapes nothing, at four bytes that are no hexadecimal digits. -/
inductive StringBreak where
  | ending
  | control
  | escape
  | hex
  deriving DecidableEq, Repr

/-- A string as written, up to where it breaks off. -/
structure StringLiteral where
  pieces : List Piece
  broken : Option StringBreak
  deriving DecidableEq, Repr

/-- How a number breaks off: at the end of the text or at a wrong byte. -/
inductive NumberBreak where
  | ending
  | wrong
  deriving DecidableEq, Repr

/-- A number as written. The digits are values below ten; no fraction is the empty one. -/
structure NumberLiteral where
  negative : Bool
  whole : List Nat
  fraction : List Nat
  exponent : Option (Bool × List Nat)
  broken : Option NumberBreak
  deriving DecidableEq, Repr

/-- How an array ends. Its last element is broken in the case `cut`. -/
inductive ArrayEnd where
  | closed
  | cut
  | ending
  | noSeparator
  | trailingComma
  | endingAfterComma
  deriving DecidableEq, Repr

/-- How an object ends. The value of its last member is broken in the case `cut`. -/
inductive ObjectEnd where
  | closed
  | cut
  | ending
  | noSeparator
  | trailingComma
  | endingAfterComma
  | brokenKey (key : StringLiteral)
  | noColon (key : StringLiteral) (ending : Bool)
  deriving DecidableEq, Repr

/-- A value as written. A broken text has a node too, which ends in what breaks it. -/
inductive Node where
  | null
  | bool (b : Bool)
  | number (n : NumberLiteral)
  | string (s : StringLiteral)
  | array (elements : List Node) (stop : ArrayEnd)
  | object (members : List (StringLiteral × Node)) (stop : ObjectEnd)
  /-- An object with something else where the next key should stand. -/
  | stray (members : List (StringLiteral × Node)) (intruder : Node)
  /-- A word that is not completed. -/
  | brokenWord (problem : Malformed)
  /-- No value at all. -/
  | broken (problem : Malformed)

/-- A whole text: one node, and whether anything but blanks follows it. -/
structure Document where
  root : Node
  trailing : Bool

def StringBreak.problem : StringBreak → Malformed
  | .ending => .endInString
  | .control => .controlCharacter
  | .escape | .hex => .invalidEscape

def NumberBreak.problem : NumberBreak → Malformed
  | .ending => .endInValue
  | .wrong => .invalidNumber

/-- What the end of an array is called by a reader that goes through its elements. -/
def ArrayEnd.problem : ArrayEnd → Option Malformed
  | .closed => none
  | .cut | .endingAfterComma => some .endInValue
  | .ending => some .endInArray
  | .noSeparator => some .elementSeparatorExpected
  | .trailingComma => some .trailingComma

/-! ### Skipping -/

namespace Skim

/-- A skipped string has only to be well formed. -/
def string (s : StringLiteral) : Except Malformed Unit :=
  match s.broken with
  | none => .ok ()
  | some b => .error b.problem

def number (n : NumberLiteral) : Except Malformed Unit :=
  if n.broken.isNone then .ok () else .error .invalidNumber

def arrayEnd : ArrayEnd → Except Malformed Unit
  | .closed => .ok ()
  | .cut | .endingAfterComma => .error .endInValue
  | .ending => .error .endInArray
  | .noSeparator => .error .elementSeparatorExpected
  | .trailingComma => .error .valueExpected

def objectEnd : ObjectEnd → Except Malformed Unit
  | .closed => .ok ()
  | .cut => .error .endInValue
  | .ending | .endingAfterComma => .error .endInObject
  | .noSeparator => .error .memberSeparatorExpected
  | .trailingComma => .error .keyExpected
  | .brokenKey key => do string key; .error .endInString
  | .noColon key ending => do
    string key
    .error (if ending then .endInObject else .colonExpected)

end Skim

mutual

/-- Reads past a node of which nothing is kept: numbers may be out of range, strings may hold any
bytes and surrogates, and containers may nest to any depth. -/
def Node.skim : Node → Except Malformed Unit
  | .null | .bool _ => .ok ()
  | .number n => Skim.number n
  | .string s => Skim.string s
  | .array elements stop => do skimElements elements; Skim.arrayEnd stop
  | .object members stop => do skimMembers members; Skim.objectEnd stop
  | .stray members _ => do skimMembers members; .error .keyExpected
  | .brokenWord problem | .broken problem => .error problem

def skimElements : List Node → Except Malformed Unit
  | [] => .ok ()
  | n :: ns => do n.skim; skimElements ns

def skimMembers : List (StringLiteral × Node) → Except Malformed Unit
  | [] => .ok ()
  | (key, n) :: ms => do Skim.string key; n.skim; skimMembers ms

end

end TeamSync.Json
