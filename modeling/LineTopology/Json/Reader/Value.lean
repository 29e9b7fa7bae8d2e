import LineTopology.Json.Reader.Quotation
import LineTopology.Json.Reader.Numeral

namespace LineTopology.Json

open Text

variable {α : Type}

def items (read : Scan α) : Nat → Bool → List α → Cursor → Except Fault (List α × Cursor)
  | 0, _, _, c => c.fail .endOfList
  | steps + 1, first, seen, c => do
      let (more, c) ← moreItems first c
      if more then
        let (x, c) ← read c
        items read steps false (x :: seen) c
      else return (seen.reverse, c)

def members (read : Scan α) :
    Nat → Bool → List (String × α) → Cursor → Except Fault (List (String × α) × Cursor)
  | 0, _, _, c => c.fail .endOfObject
  | steps + 1, first, seen, c => do
      let (more, c) ← moreMembers first c
      if more then
        let (key, c) ← quotation c
        let c ← colon c
        let (x, c) ← read c
        members read steps false (Dictionary.insert key x seen) c
      else return (seen, c)

def listBody (read : Scan α) (steps : Nat) (c : Cursor) : Except Fault (List α × Cursor) := do
  let (xs, c) ← items read steps true [] c
  return (xs, ← leaveList c)

/-- An object whose opening brace has been consumed; of two members with one key the later
counts. -/
def objectBody (read : Scan α) (steps : Nat) (c : Cursor) :
    Except Fault (List (String × α) × Cursor) := do
  let (ms, c) ← members read steps true [] c
  return (ms, ← leaveObject c)

/-- A value of any kind. Values inside it are read by `inner`, which is absent where no further
bracket may be opened. -/
def valueAt (steps : Nat) (inner : Option (Scan Json)) (c : Cursor) :
    Except Fault (Json × Cursor) :=
  let c := c.skipSpace
  match c.rest with
  | [] => c.fail .endOfValue
  | 'n' :: r => (word ['u', 'l', 'l'] ⟨r, c.used + 1⟩).map fun c => (.null, c)
  | 't' :: r => (word ['r', 'u', 'e'] ⟨r, c.used + 1⟩).map fun c => (.boolean true, c)
  | 'f' :: r => (word ['a', 'l', 's', 'e'] ⟨r, c.used + 1⟩).map fun c => (.boolean false, c)
  | '"' :: r => (quotation ⟨r, c.used + 1⟩).map fun (s, c) => (.string s, c)
  | '-' :: r => (numeral true ⟨r, c.used + 1⟩).map fun (n, c) => (.number n, c)
  | '[' :: r =>
      match inner with
      | none => c.fail .tooDeep
      | some read => (listBody read steps ⟨r, c.used + 1⟩).map fun (xs, c) => (.array xs, c)
  | '\x7b' :: r =>
      match inner with
      | none => c.fail .tooDeep
      | some read => (objectBody read steps ⟨r, c.used + 1⟩).map fun (ms, c) => (.object ms, c)
  | x :: _ =>
      if isDigit x then (numeral false c).map fun (n, c) => (.number n, c)
      else c.fail .expectedValue

def value (steps : Nat) : (room : Nat) → Scan Json
  | 0 => valueAt steps none
  | room + 1 => valueAt steps (some (value steps room))

end LineTopology.Json
