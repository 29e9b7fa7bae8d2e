import LineTopology.Catalog
import LineTopology.Finding
import LineTopology.Graph
import LineTopology.Link
import LineTopology.Policy
import LineTopology.Topology.Writing

namespace LineTopology

structure Report where
  findings : List Finding

namespace Report

def isValid (report : Report) : Bool := report.findings.isEmpty

def about (report : Report) (concern : Concern) : List Finding :=
  report.findings.filter (·.concern == concern)

end Report

inductive Fate
  | kept (node : Node)
  | malformed (record : NodeRecord) (fault : NodeFault)
  | duplicate (node : Node)

namespace Fate

def ofRecords (seen : List String) : List NodeRecord → List Fate
  | [] => []
  | record :: records =>
      match record.lower with
      | .error fault => .malformed record fault :: ofRecords seen records
      | .ok node =>
          if seen.contains node.id then .duplicate node :: ofRecords seen records
          else .kept node :: ofRecords (node.id :: seen) records

def kept? : Fate → Option Node
  | .kept node => some node
  | _ => none

def finding? : Fate → Option Finding
  | .kept _ => none
  | .malformed record fault => some (.malformedNode record fault)
  | .duplicate node => some (.duplicateNode node)

end Fate

namespace Topology

def fates (topology : Topology) : List Fate := Fate.ofRecords [] topology.nodes

/-- The components of a topology: of the records with one id, the first that describes one. -/
def components (topology : Topology) : List Node := topology.fates.filterMap Fate.kept?

def catalog (topology : Topology) : Catalog := .ofRecords topology.elements

def typed (topology : Topology) (policy : Policy) : List Node :=
  topology.components.filter fun node => !policy.isExempt node.kind

def nodeFindings (topology : Topology) : List Finding := topology.fates.filterMap Fate.finding?

def elementMissing (node : Node) : Option Finding :=
  if node.element?.isNone then some (.noElement node) else none

def elementUnknown (catalog : Catalog) (node : Node) : Option Finding :=
  node.element?.bind fun element =>
    if catalog.contains element then none else some (.unknownElement node element)

def unassigned (topology : Topology) (policy : Policy) : List Finding :=
  (topology.typed policy).filterMap elementMissing

def uncatalogued (topology : Topology) (policy : Policy) : List Finding :=
  (topology.typed policy).filterMap (elementUnknown topology.catalog)

def dangling (topology : Topology) : List Finding := topology.graph.looseEnds.map .looseEnd

def component? (components : List Node) (id : String) : Option Node :=
  components.find? (·.id == id)

def handleFinding (components : List Node) (position : Nat) (side : Side)
    (handle : Option String) (id : String) : Option Finding :=
  (component? components id).bind fun node =>
    if node.layout.hasHandle side handle then none
    else some (.noPort position side handle node)

def handleFindings (components : List Node) (wire : Wire) : List Finding :=
  (handleFinding components wire.position .source wire.sourceHandle wire.source).toList ++
    (handleFinding components wire.position .target wire.targetHandle wire.target).toList

def portFindings (topology : Topology) : List Finding :=
  topology.graph.wires.flatMap (handleFindings topology.components)

def wireFinding (components : List Node) (wire : Wire) : Option Finding :=
  (component? components wire.source).bind fun source =>
    (component? components wire.target).bind fun target =>
      match Link.check ⟨source.station, target.station, wire.sourceHandle, wire.targetHandle⟩ with
      | .ok () => none
      | .error refusal => some (.refusedEdge wire source refusal)

def connectionFindings (topology : Topology) : List Finding :=
  topology.graph.wires.filterMap (wireFinding topology.components)

/-- The findings of every check, each of which runs whatever the others find. -/
def report (topology : Topology) (policy : Policy) : Report :=
  ⟨topology.nodeFindings ++ topology.unassigned policy ++ topology.uncatalogued policy ++
    topology.dangling ++
    (if policy.checkPorts then topology.portFindings else []) ++
    (if policy.recheckConnections then topology.connectionFindings else [])⟩

end Topology

def Finding.toJson (finding : Finding) : Json :=
  .object
    ([("code", .string finding.code), ("kind", .string finding.concern.name)] ++
      Json.member? "nodeId" finding.nodeId? ++ Json.member? "type" finding.nodeType? ++
      [("message", .string finding.message)] ++
      finding.missing?.toList.map fun names => ("missing", .array (names.map .string)))

def Report.toJson (report : Report) : Json :=
  .object
    [("valid", .boolean report.isValid), ("errors", .array (report.findings.map Finding.toJson))]

end LineTopology
