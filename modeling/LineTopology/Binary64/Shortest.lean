import LineTopology.Binary64.Basic
import LineTopology.Text.Digits

namespace LineTopology.Binary64

open Text

/-- The multiple of `10 ^ p` nearest to `x`, as its quotient by that power, if one lies among the
reals that round to `x`; the ends of that interval belong to it when the mantissa is even. -/
def onGrid? (x : Binary64) (p : Int) : Option Nat :=
  let e := x.exponent - 2
  let unit := Nat.pow 2 e.toNat * Nat.pow 10 (-p).toNat
  let grid := Nat.pow 10 p.toNat * Nat.pow 2 (-e).toNat
  let centre := 4 * x.mantissa * unit
  let lowest := x.mantissa = Nat.pow 2 52 && -1074 < x.exponent
  let low := (4 * x.mantissa - if lowest then 1 else 2) * unit
  let high := (4 * x.mantissa + 2) * unit
  let inside (d : Nat) : Bool :=
    if x.mantissa % 2 = 0 then low ≤ d * grid && d * grid ≤ high
    else low < d * grid && d * grid < high
  let d := centre / grid
  let below := centre - d * grid
  let above := (d + 1) * grid - centre
  let nearer := if below < above || (below == above && d % 2 == 0) then d else d + 1
  if inside nearer then some nearer
  else if inside d then some d
  else if inside (d + 1) then some (d + 1)
  else none

def search (x : Binary64) : Nat → Int → Nat × Int
  | 0, p => (x.mantissa, p)
  | steps + 1, p =>
      match onGrid? x p with
      | some d => (d, p)
      | none => search x steps (p - 1)

/-- The fewest decimal digits that read back as `x`, with the power of ten of the last. -/
def shortest (x : Binary64) : Nat × Int :=
  let leadingBit := (Nat.log2 x.mantissa : Int) + x.exponent
  search x 24 (leadingBit * 30103 / 100000 + 2)

/-- Positional from `10 ^ -5` up to below `10 ^ 16`, always with a digit after the point; else with
a signed exponent. -/
def layout (digits : List Char) (p : Int) : List Char :=
  let e := p + digits.length - 1
  if -5 ≤ e ∧ e ≤ 15 then
    if 0 ≤ p then digits ++ List.replicate p.toNat '0' ++ ['.', '0']
    else if 0 ≤ e then digits.take (e.toNat + 1) ++ '.' :: digits.drop (e.toNat + 1)
    else '0' :: '.' :: List.replicate (-e - 1).toNat '0' ++ digits
  else
    digits.take 1 ++ (if digits.length = 1 then [] else '.' :: digits.drop 1) ++
      ['e', if e < 0 then '-' else '+'] ++ decimal e.natAbs

def chars (x : Binary64) : List Char :=
  let (d, p) := shortest x
  let size := if x.isZero then ['0', '.', '0'] else layout (decimal d) p
  if x.negative then '-' :: size else size

end LineTopology.Binary64
