import TeamSync.Json.Node
import TeamSync.Number.Shortest
import TeamSync.Text.Quoted
import TeamSync.Text.Utf8

/-!
What strings and numbers mean to a reader that keeps them.

Surrogate code units of a string have to come in pairs and its bytes have to be UTF-8. A number
without fraction and exponent is an integer if it fits into 64 bits, signed or unsigned; any other
number is a binary64 number, and minus zero is one too.
-/

namespace TeamSync.Json

/-! ### Strings -/

/-- The bytes of a string, or the first thing wrong with it. -/
def Piece.assemble (broken : Option StringBreak) : List Piece → Except Malformed (List UInt8)
  | [] => match broken with
    | none => .ok []
    | some b => .error b.problem
  | .byte b :: ps => (assemble broken ps).map (b :: ·)
  | .short b :: ps => (assemble broken ps).map (b :: ·)
  | .unit u :: ps =>
    if 0xDC00 ≤ u ∧ u ≤ 0xDFFF then .error .loneSurrogate
    else if 0xD800 ≤ u ∧ u ≤ 0xDBFF then
      match ps with
      | .unit v :: qs =>
        if 0xDC00 ≤ v ∧ v ≤ 0xDFFF then
          let c := Char.ofNat ((u - 0xD800) * 0x400 + (v - 0xDC00) + 0x10000)
          (assemble broken qs).map (String.utf8EncodeChar c ++ ·)
        else .error .loneSurrogate
      | [] => match broken with
        | some .ending => .error .endInString
        | some .hex => .error .invalidEscape
        | _ => .error .surrogateCutShort
      | _ => .error .surrogateCutShort
    else (assemble broken ps).map (String.utf8EncodeChar (Char.ofNat u) ++ ·)

/-- The text of a string. -/
def StringLiteral.read (s : StringLiteral) : Except Malformed String := do
  let bytes ← Piece.assemble s.broken s.pieces
  match Utf8.toString? bytes with
  | some t => .ok t
  | none => .error .invalidUnicode

/-! ### Numbers -/

/-- A number that was read: an integer if it is written as one and fits 64 bits, with or without a
sign, and otherwise a float. -/
inductive Number where
  | int (value : Int) (inRange : -0x8000000000000000 ≤ value ∧ value < 0x10000000000000000)
  | float (value : Binary64)
  deriving DecidableEq

namespace NumberLiteral

/-- Digits are added to a significand as long as it fits into 64 bits; `dropped` counts the rest. -/
def addDigits (significand : Nat) : List Nat → Nat × Nat
  | [] => (significand, 0)
  | d :: ds =>
    if significand * 10 + d < 0x10000000000000000 then addDigits (significand * 10 + d) ds
    else (significand, ds.length + 1)

def digitsValue (ds : List Nat) : Nat := ds.foldl (fun n d => n * 10 + d) 0

/-- The decimal exponent that is written out. -/
def mark (n : NumberLiteral) : Int :=
  match n.exponent with
  | none => 0
  | some (negative, ds) => if negative then -(digitsValue ds : Int) else digitsValue ds

/-- The number as a significand of 64 bits and a decimal exponent. Digits of the fraction past the
significand do not count. -/
def scaled (n : NumberLiteral) : Nat × Int :=
  let (w, droppedWhole) := addDigits 0 n.whole
  let (f, droppedFraction) := addDigits w n.fraction
  (f, (droppedWhole : Int) - (n.fraction.length - droppedFraction) + n.mark)

def toFloat (n : NumberLiteral) : Except Malformed Number :=
  match Magnitude.ofDecimal n.scaled.1 n.scaled.2 with
  | some m => .ok (.float ⟨n.negative, m⟩)
  | none => .error .numberOutOfRange

def read (n : NumberLiteral) : Except Malformed Number :=
  match n.broken with
  | some b => .error b.problem
  | none =>
    if n.fraction.isEmpty && n.exponent.isNone then
      let v := digitsValue n.whole
      if n.negative then
        if h : 0 < v ∧ v ≤ 0x8000000000000000 then .ok (.int (-(v : Int)) (by omega)) else n.toFloat
      else
        if h : v < 0x10000000000000000 then .ok (.int v (by omega)) else n.toFloat
    else n.toFloat

end NumberLiteral

/-- The text of an integer. -/
def intText (i : Int) : List Char :=
  if i < 0 then '-' :: Numeral.ofNat i.natAbs else Numeral.ofNat i.natAbs

def Number.text : Number → List Char
  | .int i _ => intText i
  | .float x => x.text

/-- A number in words. -/
def Number.describe : Number → String
  | .int i _ => "integer `" ++ String.ofList (intText i) ++ "`"
  | .float x => "floating point `" ++ String.ofList x.text ++ "`"

/-- What stands at a place, in words. Strings and numbers have to be readable for that. -/
def Node.describe : Node → Except Malformed String
  | .null => .ok "null"
  | .bool b => .ok ("boolean `" ++ (if b then "true" else "false") ++ "`")
  | .number n => n.read.map Number.describe
  | .string s => s.read.map fun t => "string " ++ Text.quote t
  | .array _ _ => .ok "sequence"
  | .object _ _ | .stray _ _ => .ok "map"
  | .brokenWord problem | .broken problem => .error problem

end TeamSync.Json
