import LineTopology.Json.Reader.Value
import LineTopology.Json.Reader.Skip

namespace LineTopology.Json

open Text

structure Limits where
  steps : Nat
  room : Nat

/-- Reads a value of a known shape while the text is scanned; the first problem met, of syntax or of
shape, ends the reading. -/
abbrev Reader (α : Type) := Limits → Scan α

/-- The fault of a value that is not of the expected shape. A scalar is consumed first, and a fault
inside it counts before its shape. -/
def misshapen (expected : String) (c : Cursor) : Fault :=
  let wrong (found : Found) : Except Fault Cursor → Fault
    | .ok c => ⟨.wrongType found expected, c.used⟩
    | .error fault => fault
  match c.rest with
  | 'n' :: r => wrong .null (word ['u', 'l', 'l'] ⟨r, c.used + 1⟩)
  | 't' :: r => wrong (.boolean true) (word ['r', 'u', 'e'] ⟨r, c.used + 1⟩)
  | 'f' :: r => wrong (.boolean false) (word ['a', 'l', 's', 'e'] ⟨r, c.used + 1⟩)
  | '[' :: _ => ⟨.wrongType .sequence expected, c.used⟩
  | '\x7b' :: _ => ⟨.wrongType .map expected, c.used⟩
  | '"' :: r =>
      match quotation ⟨r, c.used + 1⟩ with
      | .ok (s, c) => ⟨.wrongType (.string s) expected, c.used⟩
      | .error fault => fault
  | '-' :: r => numeralFault (numeral true ⟨r, c.used + 1⟩)
  | x :: _ => if isDigit x then numeralFault (numeral false c) else ⟨.expectedValue, c.used + 1⟩
  | [] => ⟨.endOfValue, c.used⟩
where
  numeralFault : Except Fault (Number × Cursor) → Fault
    | .ok (n, c) => ⟨.wrongType (.number n) expected, c.used⟩
    | .error fault => fault

namespace Reader

variable {α σ : Type}

def map (f : α → σ) (read : Reader α) : Reader σ := fun limits c =>
  (read limits c).map fun (x, c) => (f x, c)

def any : Reader Json := fun limits c => value limits.steps limits.room c

def name : Reader (Option String) := any.map Json.name?

def boolean : Reader Bool := fun _ c =>
  let c := c.skipSpace
  match c.rest with
  | 't' :: r => (word ['r', 'u', 'e'] ⟨r, c.used + 1⟩).map fun c => (true, c)
  | 'f' :: r => (word ['a', 'l', 's', 'e'] ⟨r, c.used + 1⟩).map fun c => (false, c)
  | _ => .error (misshapen "a boolean" c)

def unit : Reader Unit := fun _ c =>
  let c := c.skipSpace
  match c.rest with
  | 'n' :: r => (word ['u', 'l', 'l'] ⟨r, c.used + 1⟩).map fun c => ((), c)
  | _ => .error (misshapen "unit" c)

def optional (read : Reader α) : Reader (Option α) := fun limits c =>
  let c := c.skipSpace
  match c.rest with
  | 'n' :: r => (word ['u', 'l', 'l'] ⟨r, c.used + 1⟩).map fun c => (none, c)
  | _ => (read.map some) limits c

def enter (limits : Limits) (c : Cursor) (body : Limits → Scan α) : Except Fault (α × Cursor) :=
  match limits.room with
  | 0 => c.fail .tooDeep
  | room + 1 => body ⟨limits.steps, room⟩ c.next

def list (read : Reader α) : Reader (List α) := fun limits c =>
  let c := c.skipSpace
  match c.rest with
  | '[' :: _ => enter limits c fun limits c => listBody (read limits) limits.steps c
  | _ => .error (misshapen "a sequence" c)

def dictionary (read : Reader α) : Reader (List (String × α)) := fun limits c =>
  let c := c.skipSpace
  match c.rest with
  | '\x7b' :: _ => enter limits c fun limits c => objectBody (read limits) limits.steps c
  | _ => .error (misshapen "a map" c)

def pickName (known : List String) (pick : String → Option α) (c : Cursor) :
    Except Fault (α × Cursor) := do
  let (name, c) ← quotation c
  match pick name with
  | some x => return (x, c)
  | none => c.failHere (.unknownName name known)

/-- One of several names: a string, or an object with the name as its only key and `null` as the
value. -/
def oneOf (known : List String) (pick : String → Option α) : Reader α := fun limits c =>
  let c := c.skipSpace
  match c.rest with
  | [] => c.fail .endOfValue
  | '"' :: _ => pickName known pick c.next
  | '\x7b' :: _ => enter limits c fun limits c => do
      let c := c.skipSpace
      match c.rest with
      | [] => c.fail .endOfObject
      | '"' :: _ => do
          let (x, c) ← pickName known pick c.next
          let c ← colon c
          let (_, c) ← unit limits c
          let c := c.skipSpace
          match c.rest with
          | [] => c.failHere .endOfObject
          | '\x7d' :: _ => return (x, c.next)
          | _ :: _ => c.failHere .expectedValue
      | '\x7d' :: _ => c.fail .expectedValue
      | _ :: _ => c.fail .keyNotString
  | _ :: _ => c.fail .expectedValue

/-- A field of a record: its keys, the first of which is its name, and a reader of what its value
does to the record. -/
structure Field (σ : Type) where
  name : String
  aliases : List String
  read : Reader (σ → σ)

def field (name : String) (aliases : List String) (read : Reader α) (set : α → σ → σ) : Field σ :=
  ⟨name, aliases, read.map set⟩

def Field.answers (f : Field σ) (key : String) : Bool := f.name == key || f.aliases.contains key

/-- The fault of a second value for a field. It is reported only where the record could be left. -/
def repeated (name : String) (c : Cursor) : Fault :=
  match leaveObject c with
  | .ok c => ⟨.duplicateField name, c.used⟩
  | .error _ => ⟨.duplicateField name, c.skipSpace.used⟩

def fieldsByKey (fields : List (Field σ)) (limits : Limits) :
    Nat → Bool → List String → σ → Cursor → Except Fault (σ × Cursor)
  | 0, _, _, _, c => c.fail .endOfObject
  | steps + 1, first, seen, x, c => do
      let (more, c) ← moreMembers first c
      if more then
        let (key, c) ← quotation c
        match fields.find? (·.answers key) with
        | none =>
            let c ← colon c
            let c ← skipValue limits.steps c
            fieldsByKey fields limits steps false seen x c
        | some f =>
            if seen.contains f.name then .error (repeated f.name c)
            else
              let c ← colon c
              let (set, c) ← f.read limits c
              fieldsByKey fields limits steps false (f.name :: seen) (set x) c
      else return (x, c)

def fieldsByOrder (limits : Limits) : List (Field σ) → Bool → σ → Cursor → Except Fault (σ × Cursor)
  | [], _, x, c => .ok (x, c)
  | f :: fs, first, x, c => do
      let (more, c) ← moreItems first c
      if more then
        let (set, c) ← f.read limits c
        fieldsByOrder limits fs false (set x) c
      else return (x, c)

/-- A record, written as an object or as a list of its fields; the fields that are not written keep
their values in `blank`. -/
def record (title : String) (fields : List (Field σ)) (blank : σ) : Reader σ := fun limits c =>
  let c := c.skipSpace
  match c.rest with
  | '\x7b' :: _ => enter limits c fun limits c => do
      let (x, c) ← fieldsByKey fields limits limits.steps true [] blank c
      return (x, ← leaveObject c)
  | '[' :: _ => enter limits c fun limits c => do
      let (x, c) ← fieldsByOrder limits fields true blank c
      return (x, ← leaveList c)
  | _ => .error (misshapen ("struct " ++ title) c)

def nestingLimit : Nat := 127

def run (read : Reader α) (text : String) : Except Misreading α :=
  let document : Except Fault α := do
    let (x, c) ← read ⟨text.length + 1, nestingLimit⟩ (Cursor.start text)
    let c := c.skipSpace
    if c.rest.isEmpty then return x else c.fail .trailingCharacters
  document.mapError (·.within text)

end Reader

end LineTopology.Json
