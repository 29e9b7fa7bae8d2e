import LineTopology.Json.Printer
import LineTopology.Names
import LineTopology.Node.Basic

namespace LineTopology

open Text

inductive ParameterFault
  | portCount (value : Json)
  | wrongType (found : Found) (expected : String)
  | surplusItems (length : Nat)

def ParameterFault.text : ParameterFault → String
  | .portCount (.string s) => "invalid port count '" ++ s ++ "'"
  | .portCount value => "invalid port count " ++ value.compact
  | .wrongType found expected => found.against expected
  | .surplusItems length =>
      "invalid length " ++ String.ofList (decimal length) ++ ", expected fewer elements in array"

namespace Parameters

/-- The keys under which a component may declare its element, the most preferred first. -/
def elementKeys : List String :=
  ["elemento", "element", "element_id", "elemento_id", "elementId", "selectedElement",
    "assignedElement", "elementoSeleccionado"]

def element? (params : List (String × Json)) : Option String :=
  let declared := elementKeys.filterMap fun key => Dictionary.find? key params
  ((declared.filterMap Json.name?).map trim).find? (· ≠ "")

/-- A flag is off for `null`, `false`, zero and the empty string. -/
def flag : Json → Bool
  | .null => false
  | .boolean b => b
  | .number n => !n.isZero
  | .string s => s ≠ ""
  | .array _ | .object _ => true

/-- The number written by ASCII digits behind at most one plus sign. -/
def writtenCount? (cs : List Char) : Option Nat :=
  decimalWithin? Ports.limit (if cs.head? = some '+' then cs.tail else cs)

def portCount : Json → Except ParameterFault Nat
  | .null => .ok 1
  | .number (.integer (.ofNat n)) =>
      if n ≤ Ports.limit then .ok n else .error (.portCount (.ofNat n))
  | .string s =>
      let cs := (trim s).toList
      if cs.isEmpty then .ok 1
      else
        match writtenCount? cs with
        | some n => .ok n
        | none => .error (.portCount (.string s))
  | value => .error (.portCount value)

def portCountAt (key : String) (params : List (String × Json)) : Except ParameterFault Nat :=
  match Dictionary.find? key params with
  | none => .ok 1
  | some value => portCount value

def recipeElement? : Json → Except ParameterFault (Option String)
  | .object members => .ok ((Dictionary.find? "elemento" members).bind Json.name?)
  | .array [] => .ok none
  | .array [value] => .ok value.name?
  | .array items => .error (.surplusItems items.length)
  | value => .error (.wrongType value.found "struct RecipeItem")

def recipe : Option Json → Except ParameterFault (List String)
  | none | some .null => .ok []
  | some (.array items) => (items.mapM recipeElement?).map fun names => names.filterMap id
  | some value => .error (.wrongType value.found "a sequence")

def handleElement : String × Json → Except ParameterFault (String × Option String)
  | (handle, .null) => .ok (handle, none)
  | (handle, .string element) => .ok (handle, some element)
  | (_, value) => .error (.wrongType value.found "a string")

def explicitHandles : Option Json → Except ParameterFault (List (String × String))
  | none | some .null => .ok []
  | some (.object members) =>
      ((Dictionary.ofList members).mapM handleElement).map fun entries =>
        entries.filterMap fun entry => entry.2.map fun element => (entry.1, element)
  | some value => .error (.wrongType value.found "a map")

/-- The ports of a side are the elements of its recipe, then the other handles that are mapped
explicitly, which count on both sides. -/
def transformer (recipeInputs recipeOutputs : List String) (explicit : List (String × String)) :
    Transformer :=
  let inputs := distinct (recipeInputs.filter (· ≠ ""))
  let outputs := distinct (recipeOutputs.filter (· ≠ ""))
  let handles := Dictionary.ofList ((inputs ++ outputs).map (fun name => (name, name)) ++ explicit)
  ⟨handles, appendNew inputs (Dictionary.keys explicit),
    appendNew outputs (Dictionary.keys explicit)⟩

/-- Parameters are looked at in ascending order of their keys, and the first fault is reported. -/
def station (kind : Kind) (params : List (String × Json)) : Except ParameterFault Station :=
  let element := element? params
  match kind with
  | .generator =>
      .ok (.generator element ((Dictionary.find? "onDemand" params).any flag))
  | .queue => do
      let inputs ← portCountAt "entradas" params
      let outputs ← portCountAt "salidas" params
      return .queue element inputs outputs
  | .transporter => .ok (.transporter element)
  | .transformer => do
      let recipeInputs ← recipe (Dictionary.find? "entradasDef" params)
      let explicit ← explicitHandles (Dictionary.find? "handles" params)
      let recipeOutputs ← recipe (Dictionary.find? "salidasDef" params)
      return .transformer (transformer recipeInputs recipeOutputs explicit)
  | .output => do return .output element (← portCountAt "entradas" params)
  | .selector => do
      let inputs ← portCountAt "entradas" params
      let outputs ← portCountAt "salidas" params
      return .selector element inputs outputs

end Parameters

end LineTopology
