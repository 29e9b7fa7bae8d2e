import LineTopology.Node.Parameters
import LineTopology.Topology

namespace LineTopology

inductive NodeFault
  | noId
  | noKind (id : String)
  | unknownKind (id name : String)
  | paramsNotObject (id : String) (kind : Kind)
  | badParams (id : String) (kind : Kind) (fault : ParameterFault)

namespace NodeFault

def id? : NodeFault → Option String
  | .noId => none
  | .noKind id | .unknownKind id _ | .paramsNotObject id _ | .badParams id _ _ => some id

def text : NodeFault → String
  | .noId => "Node has no id"
  | .noKind id => "Node " ++ id ++ " has no type"
  | .unknownKind id name => "Node " ++ id ++ ": " ++ Kind.unknownText name
  | .paramsNotObject id kind =>
      "Node " ++ id ++ " (type=" ++ kind.name ++ ") parameters must be an object"
  | .badParams id kind fault =>
      "Node " ++ id ++ " (type=" ++ kind.name ++ ") has invalid parameters: " ++ fault.text

end NodeFault

namespace NodeRecord

/-- The parameters as an object; `null` stands for an empty one. -/
def members? (record : NodeRecord) : Option (List (String × Json)) :=
  match record.params with
  | .object members => some members
  | .null => some []
  | _ => none

def lower (record : NodeRecord) : Except NodeFault Node :=
  match record.id, record.kind with
  | none, _ => .error .noId
  | some id, none => .error (.noKind id)
  | some id, some name =>
      match Kind.parse? name with
      | none => .error (.unknownKind id name)
      | some kind =>
          match record.members? with
          | none => .error (.paramsNotObject id kind)
          | some params =>
              match Parameters.station kind params with
              | .error fault => .error (.badParams id kind fault)
              | .ok station => .ok ⟨id, station⟩

end NodeRecord

end LineTopology
