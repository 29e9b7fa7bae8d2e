namespace LineTopology.Text

def isDigit (c : Char) : Bool := '0' ≤ c && c ≤ '9'

def digitValue (c : Char) : Nat := c.toNat - '0'.toNat

def decimalValue (ds : List Char) : Nat := ds.foldl (fun n d => 10 * n + digitValue d) 0

def decimalWithin? (limit : Nat) (ds : List Char) : Option Nat :=
  if ds ≠ [] ∧ ds.all isDigit ∧ decimalValue ds ≤ limit then some (decimalValue ds) else none

def decimal (n : Nat) : List Char := Nat.toDigits 10 n

def signedDecimal : Int → List Char
  | .ofNat n => decimal n
  | .negSucc n => '-' :: decimal (n + 1)

def hexValue? (c : Char) : Option Nat :=
  if '0' ≤ c && c ≤ '9' then some (c.toNat - '0'.toNat)
  else if 'a' ≤ c && c ≤ 'f' then some (c.toNat - 'a'.toNat + 10)
  else if 'A' ≤ c && c ≤ 'F' then some (c.toNat - 'A'.toNat + 10)
  else none

/-- The number that the digits add to `n` from the left, as far as it stays within `limit`, and
the digits that were left out because the first of them would exceed it. -/
def absorb (limit : Nat) : Nat → List Char → Nat × List Char
  | n, [] => (n, [])
  | n, d :: ds =>
      if 10 * n + digitValue d ≤ limit then absorb limit (10 * n + digitValue d) ds
      else (n, d :: ds)

end LineTopology.Text
