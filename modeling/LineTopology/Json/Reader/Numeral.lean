import LineTopology.Json.Reader.Cursor

namespace LineTopology.Json

open Text

namespace Numeral

/-- Significands are kept up to this size; the digits that would exceed it are left out. -/
def significandLimit : Nat := Nat.pow 2 64 - 1

def exponentLimit : Nat := Nat.pow 2 31 - 1

def digits (c : Cursor) : List Char := c.rest.takeWhile isDigit

def skipDigits (c : Cursor) : Cursor :=
  ⟨c.rest.dropWhile isDigit, c.used + (digits c).length⟩

def isExponentMark (c : Char) : Bool := c = 'e' || c = 'E'

def startsWith (p : Char → Bool) (c : Cursor) : Bool := c.rest.head?.any p

def signed (negative : Bool) (x : Binary64) : Binary64 := if negative then x.negate else x

/-- A numeral without fraction and exponent: a natural number up to `2 ^ 64 - 1` or a negative one
down to `-2 ^ 63`. A negative zero and what lies below are doubles. -/
def whole (negative : Bool) (n : Nat) : Option Number :=
  if !negative then some (.integer n)
  else if 0 < n ∧ n ≤ Nat.pow 2 63 then some (.integer (-n))
  else (Binary64.ofNat? n).map fun x => .real x.negate

def finish (negative : Bool) (significand : Nat) (exponent : Int) (c : Cursor) :
    Except Fault (Number × Cursor) :=
  match Binary64.ofScientific? significand exponent with
  | some x => .ok (.real (signed negative x), c)
  | none => c.failHere .numberOutOfRange

/-- The part behind the exponent mark. An exponent beyond the limit makes the number zero, or out of
range as soon as its first digit too many is read. -/
def exponent (negative : Bool) (significand : Nat) (start : Int) (c : Cursor) :
    Except Fault (Number × Cursor) :=
  let down := startsWith (· == '-') c
  let c := if startsWith (fun x => x == '+' || x == '-') c then c.next else c
  match c.rest with
  | [] => c.failHere .endOfValue
  | x :: _ =>
      if isDigit x then
        let (e, excess) := absorb exponentLimit 0 (digits c)
        let behind := skipDigits c
        if excess.isEmpty then
          finish negative significand (if down then start - e else start + e) behind
        else if significand ≠ 0 && !down then
          .error ⟨.numberOutOfRange, behind.used - excess.length + 1⟩
        else .ok (.real (signed negative Binary64.zero), behind)
      else .error ⟨.invalidNumber, c.used + 1⟩

def fraction (negative : Bool) (significand : Nat) (start : Int) (c : Cursor) :
    Except Fault (Number × Cursor) :=
  let ds := digits c
  if ds.isEmpty then
    if c.rest.isEmpty then c.fail .endOfValue else c.fail .invalidNumber
  else
    let (n, excess) := absorb significandLimit significand ds
    let e := start - (ds.length - excess.length : Nat)
    let c := skipDigits c
    if startsWith isExponentMark c then exponent negative n e c.next
    else finish negative n e c

def integral (negative : Bool) (ds : List Char) (c : Cursor) : Except Fault (Number × Cursor) :=
  let (n, excess) := absorb significandLimit 0 ds
  if startsWith (· == '.') c then fraction negative n excess.length c.next
  else if startsWith isExponentMark c then exponent negative n excess.length c.next
  else if excess.isEmpty then
    match whole negative n with
    | some x => .ok (x, c)
    | none => c.failHere .numberOutOfRange
  else finish negative n excess.length c

end Numeral

/-- The number at the cursor, which stands behind the sign if there is one. -/
def numeral (negative : Bool) (c : Cursor) : Except Fault (Number × Cursor) :=
  match c.rest with
  | [] => c.failHere .endOfValue
  | x :: r =>
      if x = '0' then
        let c : Cursor := ⟨r, c.used + 1⟩
        if Numeral.startsWith isDigit c then c.fail .invalidNumber
        else Numeral.integral negative [x] c
      else if isDigit x then
        Numeral.integral negative (Numeral.digits c) (Numeral.skipDigits c)
      else .error ⟨.invalidNumber, c.used + 1⟩

namespace Numeral

def skipExponent (c : Cursor) : Except Fault Cursor :=
  let c := if startsWith (fun x => x == '+' || x == '-') c then c.next else c
  match c.rest with
  | [] => c.failHere .invalidNumber
  | x :: _ =>
      if isDigit x then .ok (skipDigits c) else .error ⟨.invalidNumber, c.used + 1⟩

def skipFraction (c : Cursor) : Except Fault Cursor :=
  if (digits c).isEmpty then c.fail .invalidNumber
  else
    let c := skipDigits c
    if startsWith isExponentMark c then skipExponent c.next else .ok c

def skipIntegral (c : Cursor) : Except Fault Cursor :=
  if startsWith (· == '.') c then skipFraction c.next
  else if startsWith isExponentMark c then skipExponent c.next
  else .ok c

end Numeral

def skipNumeral (c : Cursor) : Except Fault Cursor :=
  match c.rest with
  | [] => c.failHere .invalidNumber
  | x :: r =>
      if x = '0' then
        let c : Cursor := ⟨r, c.used + 1⟩
        if Numeral.startsWith isDigit c then c.fail .invalidNumber else Numeral.skipIntegral c
      else if isDigit x then Numeral.skipIntegral (Numeral.skipDigits c)
      else .error ⟨.invalidNumber, c.used + 1⟩

end LineTopology.Json
