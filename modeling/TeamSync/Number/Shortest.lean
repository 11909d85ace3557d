import TeamSync.Number.Binary64
import TeamSync.Text.Numeral

/-!
The shortest decimal text of a binary64 number: the fewest digits that read back as the number, and
of those the nearest to it.
-/

namespace TeamSync.Magnitude

/-- A decimal grid point `digits * 10 ^ exponent`. -/
structure Decimal where
  digits : Nat
  exponent : Int
  deriving DecidableEq, Repr

/-- The factors that bring a grid of step `10 ^ k` and a quarter of the last place of `x` to one
unit. -/
def commonUnit (x : Magnitude) (k : Int) : Nat × Nat :=
  (Nat.pow 10 k.toNat * Nat.pow 2 (2 - x.exponent).toNat,
    Nat.pow 10 (-k).toNat * Nat.pow 2 (x.exponent - 2).toNat)

/-- Where the reals that round to `x` begin, in quarters of its last place. -/
def lowEnd (x : Magnitude) : Nat :=
  if x.coefficient = 0x10000000000000 ∧ -1074 < x.exponent then 4 * x.coefficient - 1
  else 4 * x.coefficient - 2

/-- Whether a grid point reads back as `x`; the ends of the interval count for an even
coefficient. -/
def reads (x : Magnitude) (k : Int) (g : Nat) : Bool :=
  let (a, b) := x.commonUnit k
  let low := x.lowEnd * b
  let high := (4 * x.coefficient + 2) * b
  if x.coefficient % 2 = 0 then low ≤ g * a && g * a ≤ high else low < g * a && g * a < high

/-- The point of the grid of step `10 ^ k` that is nearest to `x` among those that read back. -/
def onGrid (x : Magnitude) (k : Int) : Option Decimal :=
  let (a, b) := x.commonUnit k
  let v := 4 * x.coefficient * b
  let g := v / a
  let below := v - g * a
  let above := (g + 1) * a - v
  match x.reads k g, x.reads k (g + 1) with
  | true, true => some ⟨if below < above ∨ (below = above ∧ g % 2 = 0) then g else g + 1, k⟩
  | true, false => some ⟨g, k⟩
  | false, true => some ⟨g + 1, k⟩
  | false, false => none

/-- The exponent of the first decimal digit of a positive quotient. -/
def log10Ratio (num den : Nat) : Int :=
  if den ≤ num then ((Numeral.ofNat (num / den)).length : Int) - 1
  else -((Numeral.ofNat ((den + num - 1) / num - 1)).length : Int)

/-- The shortest decimal of a positive magnitude: the first grid with a point that reads back. -/
def shortest (x : Magnitude) : Decimal :=
  let e := log10Ratio x.toRatio.1 x.toRatio.2
  ((List.range 17).findSome? fun (n : Nat) => x.onGrid (e - n)).getD ⟨x.coefficient, x.exponent⟩

/-- Digits without the zeros at their end. -/
def significant (cs : List Char) : List Char := (cs.reverse.dropWhile (· == '0')).reverse

/-- The text of digits whose first has a given exponent: positional from `10 ^ -5` up to
`10 ^ 15`, always with a digit on both sides of the point, and scientific beyond. -/
def layout (ds : List Char) (e : Int) : List Char :=
  if -5 ≤ e ∧ e ≤ 15 then
    if 0 ≤ e then
      let whole := e.toNat + 1
      let tail := ds.drop whole
      ds.take whole ++ List.replicate (whole - ds.length) '0' ++
        '.' :: (if tail.isEmpty then ['0'] else tail)
    else ['0', '.'] ++ List.replicate ((-e).toNat - 1) '0' ++ ds
  else
    let mantissa := ds.take 1 ++ (if ds.length ≤ 1 then [] else '.' :: ds.drop 1)
    mantissa ++ ['e', if 0 ≤ e then '+' else '-'] ++ Numeral.ofNat e.natAbs

end TeamSync.Magnitude

namespace TeamSync.Binary64

/-- The shortest decimal text of a number. -/
def text (x : Binary64) : List Char :=
  let body :=
    if x.magnitude.coefficient = 0 then ['0', '.', '0']
    else
      let d := x.magnitude.shortest
      let ds := Numeral.ofNat d.digits
      Magnitude.layout (Magnitude.significant ds) (d.exponent + ds.length - 1)
  if x.negative then '-' :: body else body

end TeamSync.Binary64
