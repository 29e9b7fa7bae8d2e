import LineTopology.Proofs.GraphIndex

namespace LineTopology.Proofs.EdgeLists

open LineTopology.Topology Passes Positions GraphIndex

def withEdges (topology : Topology) (edges : List EdgeRecord) : Topology := { topology with edges }

def raiseWire (k : Nat) (wire : Wire) : Wire := { wire with position := k + wire.position }

def raiseEnd (k : Nat) (loose : LooseEnd) : LooseEnd :=
  { loose with position := k + loose.position }

/-- What is found about an edge, said of the one that stands k places behind it. -/
def raise (k : Nat) : Finding → Finding
  | .looseEnd loose => .looseEnd (raiseEnd k loose)
  | .noPort position side handle node => .noPort (k + position) side handle node
  | .refusedEdge wire source refusal => .refusedEdge (raiseWire k wire) source refusal
  | finding => finding

def recordCodes : List String := ["G000", "G001", "G002", "G004"]

def edgeCodes : List String := ["G003", "G005", "G006"]

section Messages

variable {k : Nat} {finding : Finding}

structure Raised (k : Nat) (finding other : Finding) : Prop where
  code : other.code = finding.code
  stage : other.stage = finding.stage
  concern : other.concern = finding.concern
  nodeId : other.nodeId? = finding.nodeId?
  nodeType : other.nodeType? = finding.nodeType?
  missing : other.missing? = finding.missing?
  message : ∃ position text, finding.message = Finding.edgeName position ++ text ∧
    other.message = Finding.edgeName (k + position) ++ text

theorem looseEnd_message (side : Side) (id : Option String) :
    ∃ text, ∀ position,
      (Finding.looseEnd ⟨position, side, id⟩).message = Finding.edgeName position ++ text := by
  cases id with
  | none => exact ⟨" has no " ++ side.name, fun _ => String.append_assoc ..⟩
  | some id =>
      refine ⟨" " ++ side.name ++ " invalid: " ++ id, fun position => ?_⟩
      simp only [Finding.message, String.append_assoc]

theorem noPort_message (side : Side) (handle : Option String) (node : Node) :
    ∃ text, ∀ position,
      (Finding.noPort position side handle node).message = Finding.edgeName position ++ text := by
  cases handle with
  | none =>
      refine ⟨" needs a " ++ side.name ++ " handle: node " ++ node.id ++
        " has several ports on that side", fun position => ?_⟩
      simp only [Finding.message, String.append_assoc]
  | some handle =>
      refine ⟨" " ++ side.name ++ " handle \"" ++ handle ++ "\" is not a port of node " ++ node.id,
        fun position => ?_⟩
      simp only [Finding.message, String.append_assoc]

theorem refusedEdge_message (wire : Wire) (source : Node) (refusal : Refusal) :
    ∃ text, ∀ position,
      (Finding.refusedEdge { wire with position } source refusal).message =
        Finding.edgeName position ++ text := by
  refine ⟨" " ++ wire.source ++ " -> " ++ wire.target ++ ": " ++ refusal.reason,
    fun position => ?_⟩
  simp only [Finding.message, String.append_assoc]

theorem raise_raised (k : Nat) (h : finding.code ∈ edgeCodes) :
    Raised k finding (raise k finding) := by
  cases finding with
  | looseEnd loose =>
      obtain ⟨text, htext⟩ := looseEnd_message loose.side loose.id
      exact ⟨rfl, rfl, rfl, rfl, rfl, rfl, loose.position, text, htext _, htext _⟩
  | noPort position side handle node =>
      obtain ⟨text, htext⟩ := noPort_message side handle node
      exact ⟨rfl, rfl, rfl, rfl, rfl, rfl, position, text, htext _, htext _⟩
  | refusedEdge wire source refusal =>
      obtain ⟨text, htext⟩ := refusedEdge_message wire source refusal
      exact ⟨rfl, rfl, rfl, rfl, rfl, rfl, wire.position, text, htext _, htext _⟩
  | unreadable | malformedNode | duplicateNode | noElement | unknownElement =>
      simp [Finding.code, edgeCodes] at h

end Messages

section OneEdge

variable {k : Nat} (ids : List String) (components : List Node)

theorem wire?_raise (edge : EdgeRecord) (position : Nat) :
    (wire? ids (edge, k + position)).toList =
      (wire? ids (edge, position)).toList.map (raiseWire k) := by
  obtain ⟨id, source, target, sourceHandle, targetHandle⟩ := edge
  cases source with
  | none => rfl
  | some source =>
      cases target with
      | none => rfl
      | some target =>
          simp only [wire?]
          split <;> rfl

theorem looseEndsOf_raise (edge : EdgeRecord) (position : Nat) :
    looseEndsOf ids (edge, k + position) = (looseEndsOf ids (edge, position)).map (raiseEnd k) := by
  have hend (side : Side) (id : Option String) :
      looseEnd ids (k + position) side id = (looseEnd ids position side id).map (raiseEnd k) := by
    rw [looseEnd, looseEnd]
    split <;> rfl
  rw [looseEndsOf, looseEndsOf, hend, hend, List.map_append]

theorem handleFindings_raise (wire : Wire) :
    handleFindings components (raiseWire k wire) =
      (handleFindings components wire).map (raise k) := by
  have hend (side : Side) (handle : Option String) (id : String) :
      (handleFinding components (k + wire.position) side handle id).toList =
        (handleFinding components wire.position side handle id).toList.map (raise k) := by
    rw [handleFinding, handleFinding]
    cases component? components id with
    | none => rfl
    | some node =>
        rw [Option.bind_some, Option.bind_some]
        split <;> rfl
  rw [handleFindings, handleFindings, List.map_append, ← hend, ← hend]
  rfl

theorem wireFinding_raise (wire : Wire) :
    wireFinding components (raiseWire k wire) = (wireFinding components wire).map (raise k) := by
  rw [wireFinding, wireFinding]
  cases hs : component? components wire.source with
  | none => simp [raiseWire, hs]
  | some source =>
      cases ht : component? components wire.target with
      | none => simp [raiseWire, hs, ht]
      | some target =>
          simp only [raiseWire, hs, ht, Option.bind_some]
          split <;> rfl

end OneEdge

section Edges

variable (topology : Topology) (first second : List EdgeRecord)

theorem wires_append :
    (withEdges topology (first ++ second)).wires =
      (withEdges topology first).wires ++
        (withEdges topology second).wires.map (raiseWire first.length) := by
  simp only [wires, List.filterMap_eq_flatMap_toList]
  apply flatMap_zipIdx_append
  exact wire?_raise topology.ids

theorem looseEnds_append :
    (withEdges topology (first ++ second)).looseEnds =
      (withEdges topology first).looseEnds ++
        (withEdges topology second).looseEnds.map (raiseEnd first.length) := by
  apply flatMap_zipIdx_append
  exact looseEndsOf_raise topology.ids

theorem dangling_append :
    (withEdges topology (first ++ second)).dangling =
      (withEdges topology first).dangling ++
        (withEdges topology second).dangling.map (raise first.length) := by
  rw [dangling_eq, looseEnds_append, List.map_append, List.map_map, dangling_eq, dangling_eq,
    List.map_map]
  rfl

theorem portFindings_append :
    (withEdges topology (first ++ second)).portFindings =
      (withEdges topology first).portFindings ++
        (withEdges topology second).portFindings.map (raise first.length) := by
  rw [portFindings_eq, wires_append, List.flatMap_append, List.flatMap_map, portFindings_eq,
    portFindings_eq, List.map_flatMap]
  congr 2
  funext wire
  exact handleFindings_raise topology.components wire

theorem connectionFindings_append :
    (withEdges topology (first ++ second)).connectionFindings =
      (withEdges topology first).connectionFindings ++
        (withEdges topology second).connectionFindings.map (raise first.length) := by
  rw [connectionFindings_eq, wires_append, List.filterMap_append, List.filterMap_map,
    connectionFindings_eq, connectionFindings_eq, List.map_filterMap]
  congr 2
  funext wire
  exact wireFinding_raise topology.components wire

end Edges

section Blocks

variable (topology : Topology) (policy : Policy)

theorem found_records :
    found topology policy recordCodes =
      topology.nodeFindings ++ topology.unassigned policy ++ topology.uncatalogued policy := by
  have hnodes : (topology.nodeFindings.filter fun f => recordCodes.contains f.code) =
      topology.nodeFindings := by
    refine List.filter_eq_self.mpr fun f hf => ?_
    rcases nodeFindings_code hf with h | h
    · rw [h]
      rfl
    · rw [h]
      rfl
  rw [found_eq, hnodes]
  simp [recordCodes]

theorem findings_eq_blocks :
    (topology.report policy).findings =
      found topology policy recordCodes ++ found topology policy ["G003"] ++
        found topology policy ["G005"] ++ found topology policy ["G006"] := by
  rw [found_records, found_code, found_code, found_code, dangling_of_report, ports_of_report,
    connections_of_report, report]

end Blocks

structure CheckedApart (topology : Topology) (policy : Policy) (first second : List EdgeRecord) :
    Prop where
  blocks : ((withEdges topology (first ++ second)).report policy).findings =
    found (withEdges topology (first ++ second)) policy recordCodes ++
      found (withEdges topology (first ++ second)) policy ["G003"] ++
      found (withEdges topology (first ++ second)) policy ["G005"] ++
      found (withEdges topology (first ++ second)) policy ["G006"]
  records : found (withEdges topology (first ++ second)) policy recordCodes =
    found (withEdges topology []) policy recordCodes
  edges : ∀ code ∈ edgeCodes, found (withEdges topology (first ++ second)) policy [code] =
    found (withEdges topology first) policy [code] ++
      (found (withEdges topology second) policy [code]).map (raise first.length)
  raised : ∀ code ∈ edgeCodes, ∀ finding ∈ found (withEdges topology second) policy [code],
    Raised first.length finding (raise first.length finding)
  wires : (withEdges topology (first ++ second)).graph.wires =
    (withEdges topology first).graph.wires ++
      (withEdges topology second).graph.wires.map (raiseWire first.length)
  looseEnds : (withEdges topology (first ++ second)).graph.looseEnds =
    (withEdges topology first).graph.looseEnds ++
      (withEdges topology second).graph.looseEnds.map (raiseEnd first.length)

/-- No edge has a say in what is found about another, and the findings about the edges behind others
are those about the edges alone, with their numbers raised. -/
theorem edges_checked_apart (topology : Topology) (policy : Policy)
    (first second : List EdgeRecord) : CheckedApart topology policy first second := by
  constructor
  case blocks => exact findings_eq_blocks _ policy
  case records =>
    rw [found_records, found_records]
    rfl
  case edges =>
    intro code hcode
    simp only [edgeCodes, List.mem_cons, List.not_mem_nil, or_false] at hcode
    rw [found_code, found_code, found_code]
    rcases hcode with rfl | rfl | rfl
    · rw [dangling_of_report, dangling_of_report, dangling_of_report, dangling_append]
    · rw [ports_of_report, ports_of_report, ports_of_report, portFindings_append]
      split <;> rfl
    · rw [connections_of_report, connections_of_report, connections_of_report,
        connectionFindings_append]
      split <;> rfl
  case raised =>
    intro code hcode finding hfinding
    rw [found_code] at hfinding
    have hc : finding.code = code := beq_iff_eq.mp (List.mem_filter.mp hfinding).2
    exact raise_raised _ (hc ▸ hcode)
  case wires =>
    rw [graph_wires, graph_wires, graph_wires]
    exact wires_append topology first second
  case looseEnds =>
    simp only [graph_eq]
    exact looseEnds_append topology first second

end LineTopology.Proofs.EdgeLists
