import LineTopology.Binary64.Shortest
import LineTopology.Dictionary
import LineTopology.Text.Quoted

namespace LineTopology

open Text

inductive Number
  | integer (value : Int)
  | real (value : Binary64)
  deriving DecidableEq

/-- A tree as a text holds it. What is read from a text has the members of each object in ascending
order of their keys; what is written may have any order. -/
inductive Json
  | null
  | boolean (value : Bool)
  | number (value : Number)
  | string (value : String)
  | array (items : List Json)
  | object (members : List (String × Json))
  deriving Inhabited

def Number.chars : Number → List Char
  | .integer i => signedDecimal i
  | .real x => x.chars

def Number.text (n : Number) : String := String.ofList n.chars

def Number.isZero : Number → Bool
  | .integer i => i == 0
  | .real x => x.isZero

namespace Json

def ofNat (n : Nat) : Json := .number (.integer n)

def ofString? : Option String → Json
  | none => .null
  | some s => .string s

/-- A string, or a number as the string it is written as; nothing else is a name. -/
def name? : Json → Option String
  | .string s => some s
  | .number n => some n.text
  | _ => none

end Json

inductive Found
  | null
  | boolean (value : Bool)
  | number (value : Number)
  | string (value : String)
  | sequence
  | map
  deriving DecidableEq

namespace Found

def text : Found → String
  | .null => "null"
  | .boolean b => "boolean `" ++ toString b ++ "`"
  | .number (.integer i) => "integer `" ++ String.ofList (signedDecimal i) ++ "`"
  | .number (.real x) => "floating point `" ++ String.ofList x.chars ++ "`"
  | .string s => "string " ++ quoted s
  | .sequence => "sequence"
  | .map => "map"

def against (found : Found) (expected : String) : String :=
  "invalid type: " ++ found.text ++ ", expected " ++ expected

end Found

def Json.found : Json → Found
  | .null => .null
  | .boolean b => .boolean b
  | .number n => .number n
  | .string s => .string s
  | .array _ => .sequence
  | .object _ => .map

end LineTopology
