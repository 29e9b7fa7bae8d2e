namespace LineTopology

/-- A finite double: `mantissa * 2 ^ exponent` with the mantissa below `2 ^ 53` and the exponent
at least -1074, the mantissa at least `2 ^ 52` unless the exponent is -1074. -/
structure Binary64 where
  negative : Bool
  mantissa : Nat
  exponent : Int
  deriving DecidableEq

namespace Binary64

def zero : Binary64 := ⟨false, 0, -1074⟩

def isZero (x : Binary64) : Bool := x.mantissa == 0

def negate (x : Binary64) : Binary64 := ⟨!x.negative, x.mantissa, x.exponent⟩

/-- The exponent of the leading binary digit of a positive ratio. -/
def leading (num den : Nat) : Int :=
  let guess : Int := (Nat.log2 num : Int) - Nat.log2 den
  if den * Nat.pow 2 guess.toNat ≤ num * Nat.pow 2 (-guess).toNat then guess else guess - 1

def roundHalfEven (num den : Nat) : Nat :=
  let q := num / den
  let r := num % den
  if den < 2 * r || (2 * r == den && q % 2 == 1) then q + 1 else q

def ofRatio? (num den : Nat) : Option Binary64 :=
  if num = 0 then some zero
  else
    let e := max (leading num den - 52) (-1074)
    let m := roundHalfEven (num * Nat.pow 2 (-e).toNat) (den * Nat.pow 2 e.toNat)
    let x : Binary64 := if m = Nat.pow 2 53 then ⟨false, Nat.pow 2 52, e + 1⟩ else ⟨false, m, e⟩
    if x.exponent ≤ 971 then some x else none

def ofNat? (n : Nat) : Option Binary64 := ofRatio? n 1

def numerator (x : Binary64) : Nat := x.mantissa * Nat.pow 2 x.exponent.toNat

def denominator (x : Binary64) : Nat := Nat.pow 2 (-x.exponent).toNat

def product? (x y : Binary64) : Option Binary64 :=
  ofRatio? (x.numerator * y.numerator) (x.denominator * y.denominator)

def quotient? (x y : Binary64) : Option Binary64 :=
  ofRatio? (x.numerator * y.denominator) (x.denominator * y.numerator)

def tenPower? (k : Nat) : Option Binary64 := ofNat? (Nat.pow 10 k)

/-- Division by `10 ^ k` in steps that each divide by a power of ten in range. -/
def shrink? : Nat → Binary64 → Nat → Option Binary64
  | 0, _, _ => none
  | steps + 1, x, k =>
      if x.isZero then some x
      else if k ≤ 308 then do quotient? x (← tenPower? k)
      else do shrink? steps (← quotient? x (← tenPower? 308)) (k - 308)

/-- The double that a significand and a power of ten stand for: the significand is rounded first,
then one multiplication or the needed divisions are. -/
def ofScientific? (significand : Nat) (exponent : Int) : Option Binary64 := do
  let x ← ofNat? significand
  if exponent < 0 then shrink? (exponent.natAbs + 1) x exponent.natAbs
  else if exponent ≤ 308 then product? x (← tenPower? exponent.toNat)
  else if x.isZero then some x
  else none

end Binary64

end LineTopology
