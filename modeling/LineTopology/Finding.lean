import LineTopology.Json.Misreading
import LineTopology.Refusal
import LineTopology.Wiring

namespace LineTopology

inductive Document
  | topology
  | node
  | request
  | policy

def Document.name : Document → String
  | .topology => "process definition"
  | .node => "node"
  | .request => "connection"
  | .policy => "validation options"

def Document.failure (document : Document) (m : Json.Misreading) : String :=
  "Failed to parse " ++ document.name ++ " JSON: " ++ m.text

inductive Finding
  | unreadable (document : Document) (misreading : Json.Misreading)
  | malformedNode (record : NodeRecord) (fault : NodeFault)
  | duplicateNode (node : Node)
  | noElement (node : Node)
  | unknownElement (node : Node) (element : String)
  | looseEnd (loose : LooseEnd)
  | noPort (position : Nat) (side : Side) (handle : Option String) (node : Node)
  | refusedEdge (wire : Wire) (source : Node) (refusal : Refusal)

namespace Finding

def code : Finding → String
  | .unreadable .. => "P001"
  | .malformedNode .. => "G000"
  | .noElement _ => "G001"
  | .unknownElement .. => "G002"
  | .looseEnd _ => "G003"
  | .duplicateNode _ => "G004"
  | .noPort .. => "G005"
  | .refusedEdge .. => "G006"

def stage : Finding → String
  | .unreadable .. => "Parse"
  | _ => "Definition"

def concern : Finding → Concern
  | .unreadable .. => .parse
  | .malformedNode .. => .malformed
  | .duplicateNode _ => .duplicateNode
  | .noElement _ => .missingAssignment
  | .unknownElement .. => .unknownReference
  | .looseEnd _ => .danglingEdge
  | .noPort .. => .portOutOfRange
  | .refusedEdge .. => .invalidConnection

def node? : Finding → Option Node
  | .duplicateNode node | .noElement node | .unknownElement node _ | .noPort _ _ _ node
  | .refusedEdge _ node _ => some node
  | .unreadable .. | .malformedNode .. | .looseEnd _ => none

def nodeId? : Finding → Option String
  | .malformedNode _ fault => fault.id?
  | finding => finding.node?.map (·.id)

/-- The kind of the component, as it is written in a record that describes none. -/
def nodeType? : Finding → Option String
  | .malformedNode record _ => record.kind
  | finding => finding.node?.map (·.kind.name)

def edgeName (position : Nat) : String :=
  "Edge[" ++ String.ofList (Text.decimal position) ++ "]"

def described (node : Node) : String :=
  "Node " ++ node.id ++ " (type=" ++ node.kind.name ++ ")"

def message : Finding → String
  | .unreadable document m => document.failure m
  | .malformedNode _ fault => fault.text
  | .duplicateNode node => "Node " ++ node.id ++ " is declared more than once"
  | .noElement node =>
      described node ++ " has no element assigned (expected params.elemento)"
  | .unknownElement node element =>
      described node ++ " references element(s) not in the catalog: " ++ element
  | .looseEnd ⟨position, side, some id⟩ =>
      edgeName position ++ " " ++ side.name ++ " invalid: " ++ id
  | .looseEnd ⟨position, side, none⟩ => edgeName position ++ " has no " ++ side.name
  | .noPort position side (some handle) node =>
      edgeName position ++ " " ++ side.name ++ " handle \"" ++ handle ++
        "\" is not a port of node " ++ node.id
  | .noPort position side none node =>
      edgeName position ++ " needs a " ++ side.name ++ " handle: node " ++ node.id ++
        " has several ports on that side"
  | .refusedEdge wire _ refusal =>
      edgeName wire.position ++ " " ++ wire.source ++ " -> " ++ wire.target ++ ": " ++
        refusal.reason

def missing? : Finding → Option (List String)
  | .unknownElement _ element => some [element]
  | _ => none

def labelled (stage code message : String) : String :=
  "[" ++ stage ++ ":" ++ code ++ "] " ++ message

def display (finding : Finding) : String :=
  let text := labelled finding.stage finding.code finding.message
  match finding.nodeId? with
  | some id => text ++ " (node '" ++ id ++ "')"
  | none => text

end Finding

def Refusal.display (refusal : Refusal) : String :=
  Finding.labelled "Connection" refusal.code refusal.reason

end LineTopology
