import LineTopology.Json.Reader.Shape
import LineTopology.Policy
import LineTopology.Topology

namespace LineTopology

open Json.Reader (field)

def AttributeType.ofName : String → AttributeType
  | "string" => .string
  | "number" => .number
  | "bool" | "boolean" => .boolean
  | _ => .unknown

def AttributeType.reader : Json.Reader AttributeType := .oneOf [] fun name => some (ofName name)

def Kind.reader : Json.Reader Kind := .oneOf names ofName?

/-- The editor writes `data` for the parameters of a node. -/
def NodeRecord.reader : Json.Reader NodeRecord :=
  .record "NodeRecord"
    [field "id" [] .name fun x r => { r with id := x },
      field "type" [] .name fun x r => { r with kind := x },
      field "params" ["data"] .any fun x r => { r with params := x }]
    blank

/-- The editor writes `source` and `target` for the ends of an edge. -/
def EdgeRecord.reader : Json.Reader EdgeRecord :=
  .record "EdgeRecord"
    [field "id" [] .name fun x r => { r with id := x },
      field "from" ["source"] .name fun x r => { r with source := x },
      field "to" ["target"] .name fun x r => { r with target := x },
      field "sourceHandle" [] .name fun x r => { r with sourceHandle := x },
      field "targetHandle" [] .name fun x r => { r with targetHandle := x }]
    blank

def ElementRecord.reader : Json.Reader ElementRecord :=
  .record "ElementRecord"
    [field "id" [] .name fun x r => { r with id := x },
      field "type" [] .name fun x r => { r with type := x },
      field "params" [] (.optional (.dictionary AttributeType.reader))
        fun x r => { r with params := x }]
    blank

def Topology.reader : Json.Reader Topology :=
  .record "ProcessDefinition"
    [field "nodes" [] (.list NodeRecord.reader) fun x p => { p with nodes := x },
      field "edges" [] (.list EdgeRecord.reader) fun x p => { p with edges := x },
      field "elements" [] (.list ElementRecord.reader) fun x p => { p with elements := x }]
    blank

def EdgeRequest.reader : Json.Reader EdgeRequest :=
  .record "ConnectionRequest"
    [field "source" [] .name fun x r => { r with source := x },
      field "target" [] .name fun x r => { r with target := x },
      field "sourceHandle" [] .name fun x r => { r with sourceHandle := x },
      field "targetHandle" [] .name fun x r => { r with targetHandle := x }]
    blank

def Policy.reader : Json.Reader Policy :=
  .record "ValidateOptions"
    [field "exemptKinds" ["allowedWithoutElement"] (.list Kind.reader)
        fun x p => { p with exemptKinds := ordered x },
      field "checkPorts" [] .boolean fun x p => { p with checkPorts := x },
      field "recheckConnections" [] .boolean fun x p => { p with recheckConnections := x }]
    standard

end LineTopology
