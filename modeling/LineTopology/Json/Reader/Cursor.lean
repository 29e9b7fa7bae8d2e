import LineTopology.Json.Misreading

namespace LineTopology.Json

/-- What is left of a text, and the number of bytes in front of it. -/
structure Cursor where
  rest : List Char
  used : Nat

abbrev Scan (α : Type) := Cursor → Except Fault (α × Cursor)

namespace Cursor

def start (text : String) : Cursor := ⟨text.toList, 0⟩

def isSpace (c : Char) : Bool := c = ' ' || c = '\n' || c = '\t' || c = '\r'

def skipSpace (c : Cursor) : Cursor :=
  ⟨c.rest.dropWhile isSpace, c.used + (c.rest.takeWhile isSpace).length⟩

def next (c : Cursor) : Cursor :=
  match c.rest with
  | [] => c
  | x :: r => ⟨r, c.used + x.utf8Size⟩

/-- A fault reported behind what has been consumed. -/
def failHere {α : Type} (c : Cursor) (cause : Cause) : Except Fault α := .error ⟨cause, c.used⟩

/-- A fault reported behind the byte that is looked at, or at the end of the text. -/
def fail {α : Type} (c : Cursor) (cause : Cause) : Except Fault α :=
  .error ⟨cause, if c.rest.isEmpty then c.used else c.used + 1⟩

end Cursor

def word : List Char → Cursor → Except Fault Cursor
  | [], c => .ok c
  | l :: ls, c =>
      match c.rest with
      | [] => c.failHere .endOfValue
      | x :: r => if x = l then word ls ⟨r, c.used + 1⟩ else .error ⟨.expectedWord, c.used + 1⟩

def colon (c : Cursor) : Except Fault Cursor :=
  let c := c.skipSpace
  match c.rest with
  | [] => c.fail .endOfObject
  | ':' :: r => .ok ⟨r, c.used + 1⟩
  | _ :: _ => c.fail .expectedColon

/-- Whether another item follows in a list; the cursor then stands at the item, else at what closes
the list. -/
def moreItems (first : Bool) (c : Cursor) : Except Fault (Bool × Cursor) :=
  let c := c.skipSpace
  match c.rest with
  | [] => c.fail .endOfList
  | ']' :: _ => .ok (false, c)
  | x :: r =>
      if first then .ok (true, c)
      else if x = ',' then
        let c := (Cursor.mk r (c.used + 1)).skipSpace
        match c.rest with
        | [] => c.fail .endOfValue
        | ']' :: _ => c.fail .trailingComma
        | _ :: _ => .ok (true, c)
      else c.fail .expectedListComma

def moreMembers (first : Bool) (c : Cursor) : Except Fault (Bool × Cursor) :=
  let c := c.skipSpace
  match c.rest with
  | [] => c.fail .endOfObject
  | '\x7d' :: _ => .ok (false, c)
  | x :: r =>
      if first then
        if x = '"' then .ok (true, ⟨r, c.used + 1⟩) else c.fail .keyNotString
      else if x = ',' then
        let c := (Cursor.mk r (c.used + 1)).skipSpace
        match c.rest with
        | [] => c.fail .endOfValue
        | '"' :: r => .ok (true, ⟨r, c.used + 1⟩)
        | '\x7d' :: _ => c.fail .trailingComma
        | _ :: _ => c.fail .keyNotString
      else c.fail .expectedObjectComma

def leaveList (c : Cursor) : Except Fault Cursor :=
  let c := c.skipSpace
  match c.rest with
  | [] => c.fail .endOfList
  | ']' :: r => .ok ⟨r, c.used + 1⟩
  | ',' :: r =>
      let c := (Cursor.mk r (c.used + 1)).skipSpace
      match c.rest with
      | ']' :: _ => c.fail .trailingComma
      | _ => c.fail .trailingCharacters
  | _ :: _ => c.fail .trailingCharacters

def leaveObject (c : Cursor) : Except Fault Cursor :=
  let c := c.skipSpace
  match c.rest with
  | [] => c.fail .endOfObject
  | '\x7d' :: r => .ok ⟨r, c.used + 1⟩
  | ',' :: _ => c.fail .trailingComma
  | _ :: _ => c.fail .trailingCharacters

end LineTopology.Json
