import LineTopology.Json.Reader.Quotation
import LineTopology.Json.Reader.Numeral

namespace LineTopology.Json

open Text

inductive Bracket
  | list
  | object
  deriving DecidableEq

namespace Bracket

def closing : Bracket → Char
  | .list => ']'
  | .object => '\x7d'

def unclosed : Bracket → Cause
  | .list => .endOfList
  | .object => .endOfObject

def expectedComma : Bracket → Cause
  | .list => .expectedListComma
  | .object => .expectedObjectComma

end Bracket

/-- Passes over what stands in front of a value inside brackets: nothing in a list, a key and its
colon in an object. -/
def skipKey : Bracket → Cursor → Except Fault Cursor
  | .list, c => .ok c
  | .object, c =>
      let c := c.skipSpace
      match c.rest with
      | [] => c.fail .endOfObject
      | '"' :: r => do colon (← skipQuotation ⟨r, c.used + 1⟩)
      | _ :: _ => c.fail .keyNotString

def skipScalar (c : Cursor) : Except Fault Cursor :=
  match c.rest with
  | 'n' :: r => word ['u', 'l', 'l'] ⟨r, c.used + 1⟩
  | 't' :: r => word ['r', 'u', 'e'] ⟨r, c.used + 1⟩
  | 'f' :: r => word ['a', 'l', 's', 'e'] ⟨r, c.used + 1⟩
  | '"' :: r => skipQuotation ⟨r, c.used + 1⟩
  | '-' :: r => skipNumeral ⟨r, c.used + 1⟩
  | x :: _ => if isDigit x then skipNumeral c else c.fail .expectedValue
  | [] => c.fail .endOfValue

/-- What is still to come of a value that is passed over: the brackets to close, the innermost
first, and whether another value is due inside them. -/
structure Unread where
  due : Bool
  enclosing : List Bracket

namespace Unread

def opened (bracket : Bracket) (enclosing : List Bracket) (c : Cursor) :
    Except Fault (Unread × Cursor) :=
  let c := c.skipSpace
  match c.rest with
  | [] => c.fail bracket.unclosed
  | x :: r =>
      if x = bracket.closing then .ok (⟨false, enclosing⟩, ⟨r, c.used + 1⟩)
      else (skipKey bracket c).map fun c => (⟨true, bracket :: enclosing⟩, c)

def value (enclosing : List Bracket) (c : Cursor) : Except Fault (Unread × Cursor) :=
  let c := c.skipSpace
  match c.rest with
  | '[' :: r => opened .list enclosing ⟨r, c.used + 1⟩
  | '\x7b' :: r => opened .object enclosing ⟨r, c.used + 1⟩
  | _ => (skipScalar c).map fun c => (⟨false, enclosing⟩, c)

def follow (bracket : Bracket) (enclosing : List Bracket) (c : Cursor) :
    Except Fault (Unread × Cursor) :=
  let c := c.skipSpace
  match c.rest with
  | [] => c.fail bracket.unclosed
  | x :: r =>
      if x = ',' then
        (skipKey bracket ⟨r, c.used + 1⟩).map fun c => (⟨true, bracket :: enclosing⟩, c)
      else if x = bracket.closing then .ok (⟨false, enclosing⟩, ⟨r, c.used + 1⟩)
      else c.fail bracket.expectedComma

def skip : Nat → Unread → Cursor → Except Fault Cursor
  | _, ⟨false, []⟩, c => .ok c
  | 0, _, c => c.fail .endOfValue
  | steps + 1, ⟨true, enclosing⟩, c => do
      let (unread, c) ← value enclosing c
      skip steps unread c
  | steps + 1, ⟨false, bracket :: enclosing⟩, c => do
      let (unread, c) ← follow bracket enclosing c
      skip steps unread c

end Unread

/-- Passes over a value that nobody asks for. No bracket in it counts against the limit of
nesting. -/
def skipValue (steps : Nat) (c : Cursor) : Except Fault Cursor := Unread.skip steps ⟨true, []⟩ c

end LineTopology.Json
