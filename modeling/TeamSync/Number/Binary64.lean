/-!
Finite numbers of the IEEE 754 binary64 format, held exactly.

A magnitude is `coefficient * 2 ^ exponent` with a coefficient below `2 ^ 53`. Every operation is
the exact one followed by rounding to the nearest magnitude, a tie going to the even coefficient;
it has no result beyond the largest finite magnitude.
-/

namespace TeamSync

/-- A finite binary64 number without its sign. -/
structure Magnitude where
  coefficient : Nat
  exponent : Int
  deriving DecidableEq, Repr

/-- A finite binary64 number. -/
structure Binary64 where
  negative : Bool
  magnitude : Magnitude
  deriving DecidableEq, Repr

namespace Magnitude

/-- The quotient rounded to the nearest number, a tie to the even one. -/
def roundDiv (num den : Nat) : Nat :=
  let q := num / den
  let r := num % den
  if 2 * r < den ∨ (2 * r = den ∧ q % 2 = 0) then q else q + 1

/-- The part of a power of two that multiplies, and the part that divides. -/
def powers (e : Int) : Nat × Nat := (Nat.pow 2 e.toNat, Nat.pow 2 (-e).toNat)

/-- The exponent `e` with `2 ^ e ≤ num / den < 2 ^ (e + 1)`. -/
def log2Ratio (num den : Nat) : Int :=
  let e : Int := (num.log2 : Int) - den.log2
  let (up, down) := powers e
  if den * up ≤ num * down then e else e - 1

/-- The magnitude nearest to a quotient. -/
def ofRatio (num den : Nat) : Option Magnitude :=
  if num = 0 then some ⟨0, -1074⟩
  else
    let e := max (log2Ratio num den - 52) (-1074)
    let (up, down) := powers e
    let m := roundDiv (num * down) (den * up)
    let r : Magnitude := if m = 0x20000000000000 then ⟨0x10000000000000, e + 1⟩ else ⟨m, e⟩
    if r.exponent ≤ 971 then some r else none

/-- The magnitude as a quotient. -/
def toRatio (x : Magnitude) : Nat × Nat :=
  let (up, down) := powers x.exponent
  (x.coefficient * up, down)

def mul (x y : Magnitude) : Option Magnitude :=
  ofRatio (x.toRatio.1 * y.toRatio.1) (x.toRatio.2 * y.toRatio.2)

def div (x y : Magnitude) : Option Magnitude :=
  ofRatio (x.toRatio.1 * y.toRatio.2) (x.toRatio.2 * y.toRatio.1)

/-- The magnitude nearest to `10 ^ k`. -/
def powerOfTen (k : Nat) : Option Magnitude := ofRatio (Nat.pow 10 k) 1

/-- Divides by `10 ^ 308` a number of times, or until nothing is left. -/
def shrink : Nat → Magnitude → Option Magnitude
  | 0, x => some x
  | n + 1, x => if x.coefficient = 0 then some x else ((powerOfTen 308).bind x.div).bind (shrink n)

/-- A magnitude times a power of ten, rounded at each factor: a power of ten is itself rounded, and
one below `10 ^ -308` first divides by `10 ^ 308` as often as it has to. -/
def scale (x : Magnitude) (e : Int) : Option Magnitude :=
  if x.coefficient = 0 then some x
  else if 0 ≤ e then
    if e ≤ 308 then (powerOfTen e.toNat).bind x.mul else none
  else
    let k := (-e).toNat
    let n := (k - 1) / 308
    (shrink n x).bind fun y =>
      if y.coefficient = 0 then some y else (powerOfTen (k - 308 * n)).bind y.div

/-- Reads a significand and a decimal exponent. -/
def ofDecimal (significand : Nat) (e : Int) : Option Magnitude :=
  (ofRatio significand 1).bind (scale · e)

end Magnitude

end TeamSync
