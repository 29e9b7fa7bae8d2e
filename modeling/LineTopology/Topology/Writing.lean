import LineTopology.Json.Printer
import LineTopology.Policy
import LineTopology.Topology

namespace LineTopology

def Json.member? (key : String) (value : Option String) : List (String × Json) :=
  value.toList.map fun s => (key, .string s)

def AttributeType.name : AttributeType → String
  | .string => "string"
  | .number => "number"
  | .boolean => "bool"
  | .unknown => "unknown"

def NodeRecord.toJson (r : NodeRecord) : Json :=
  .object (Json.member? "id" r.id ++ Json.member? "type" r.kind ++ [("params", r.params)])

def EdgeRecord.toJson (r : EdgeRecord) : Json :=
  .object (Json.member? "id" r.id ++
    [("from", .ofString? r.source), ("to", .ofString? r.target),
      ("sourceHandle", .ofString? r.sourceHandle), ("targetHandle", .ofString? r.targetHandle)])

def ElementRecord.toJson (r : ElementRecord) : Json :=
  let params : Json :=
    match r.params with
    | none => .null
    | some attributes =>
        .object (attributes.map fun entry => (entry.1, .string entry.2.name))
  .object (Json.member? "id" r.id ++ [("type", .ofString? r.type), ("params", params)])

def Topology.toJson (p : Topology) : Json :=
  .object
    [("nodes", .array (p.nodes.map NodeRecord.toJson)),
      ("edges", .array (p.edges.map EdgeRecord.toJson)),
      ("elements", .array (p.elements.map ElementRecord.toJson))]

def EdgeRequest.toJson (r : EdgeRequest) : Json :=
  .object
    [("source", .ofString? r.source), ("target", .ofString? r.target),
      ("sourceHandle", .ofString? r.sourceHandle), ("targetHandle", .ofString? r.targetHandle)]

def Policy.toJson (p : Policy) : Json :=
  .object
    [("exemptKinds", .array (p.exemptKinds.map fun kind => .string kind.name)),
      ("checkPorts", .boolean p.checkPorts), ("recheckConnections", .boolean p.recheckConnections)]

end LineTopology
