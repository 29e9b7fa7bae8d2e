import LineTopology.Text.Digits

namespace LineTopology

open Text

inductive Side
  | source
  | target
  deriving DecidableEq

def Side.name : Side → String
  | .source => "source"
  | .target => "target"

/-- The ports on one side of a node: numbered names, which are never listed because their count is
taken from a document, or a list of names. -/
inductive Ports
  | indexed (stem : String) (count : Nat)
  | named (names : List String)
  deriving DecidableEq

namespace Ports

def size : Ports → Nat
  | .indexed _ count => count
  | .named names => names.length

def isEmpty (ports : Ports) : Bool := ports.size == 0

def limit : Nat := Nat.pow 2 64 - 1

/-- The number written by digits as the canvas writes them: without a sign or a leading zero. -/
def index? (digits : List Char) : Option Nat :=
  if digits.head? = some '0' ∧ digits.length ≠ 1 then none else decimalWithin? limit digits

def behind? : List Char → List Char → Option (List Char)
  | [], '-' :: rest => some rest
  | s :: stem, c :: rest => if s = c then behind? stem rest else none
  | _, _ => none

def portNumber? (stem handle : String) : Option Nat :=
  (behind? stem.toList handle.toList).bind index?

def contains (ports : Ports) (handle : String) : Bool :=
  match ports with
  | .indexed stem count => (portNumber? stem handle).any (· < count)
  | .named names => names.contains handle

end Ports

structure Layout where
  inputs : Ports
  outputs : Ports
  deriving DecidableEq

namespace Layout

def single (input output : Option String) : Layout := ⟨.named input.toList, .named output.toList⟩

def indexed (inputs outputs : Nat) : Layout := ⟨.indexed "in" inputs, .indexed "out" outputs⟩

def side (layout : Layout) : Side → Ports
  | .source => layout.outputs
  | .target => layout.inputs

/-- Whether a handle names a port. An absent handle stands for the only port of its side. -/
def hasHandle (layout : Layout) (side : Side) (handle : Option String) : Bool :=
  match handle with
  | some h => (layout.side side).contains h
  | none => (layout.side side).size == 1

end Layout

end LineTopology
