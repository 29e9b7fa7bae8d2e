import LineTopology.Proofs.Components
import LineTopology.Proofs.GraphIndex

namespace LineTopology.Proofs.PortFindings

open LineTopology.Topology Components GraphIndex Passes Positions Wires

def handleAt (edge : EdgeRecord) : Side → Option String
  | .source => edge.sourceHandle
  | .target => edge.targetHandle

/-- At one end of an edge between two records the handle is no port of the component that is the
first to be described with the id there. Nothing is asked of the component at the other end. -/
structure Misses (topology : Topology) (position : Nat) (side : Side) (edge : EdgeRecord)
    (node : Node) : Prop where
  edge_at : topology.edges[position]? = some edge
  source_known : ∃ a ∈ topology.ids, edge.source = some a
  target_known : ∃ b ∈ topology.ids, edge.target = some b
  described : ∃ id, endAt edge side = some id ∧ first? topology.nodes id = some node
  refused : node.layout.hasHandle side (handleAt edge side) = false

def Precedes : Finding → Finding → Prop
  | .noPort i s _ _, .noPort j t _ _ => i < j ∨ i = j ∧ s = .source ∧ t = .target
  | _, _ => False

section Wire

variable {components : List Node} {position : Nat} {side : Side} {handle : Option String}
  {id : String} {finding : Finding} {wire : Wire}

def wireEnd (wire : Wire) : Side → String
  | .source => wire.source
  | .target => wire.target

def wireHandle (wire : Wire) : Side → Option String
  | .source => wire.sourceHandle
  | .target => wire.targetHandle

theorem handleFinding_eq_some_iff :
    handleFinding components position side handle id = some finding ↔
      ∃ node, component? components id = some node ∧ node.layout.hasHandle side handle = false ∧
        finding = .noPort position side handle node := by
  rw [handleFinding, Option.bind_eq_some_iff]
  refine exists_congr fun node => and_congr_right fun _ => ?_
  cases node.layout.hasHandle side handle with
  | true => simp
  | false => simp [eq_comm]

theorem mem_handleFindings_iff :
    finding ∈ handleFindings components wire ↔
      ∃ side, handleFinding components wire.position side (wireHandle wire side)
        (wireEnd wire side) = some finding := by
  rw [handleFindings, List.mem_append, Option.mem_toList, Option.mem_toList]
  constructor
  · rintro (h | h)
    · exact ⟨.source, h⟩
    · exact ⟨.target, h⟩
  · rintro ⟨side, h⟩
    cases side with
    | source => exact .inl h
    | target => exact .inr h

theorem handleFindings_ordered (components : List Node) (wire : Wire) :
    (handleFindings components wire).Pairwise Precedes := by
  have hone (finding : Option Finding) : finding.toList.Pairwise Precedes := by
    cases finding with
    | none => exact .nil
    | some finding => exact List.pairwise_singleton _ _
  refine List.pairwise_append.mpr ⟨hone _, hone _, fun a ha b hb => ?_⟩
  obtain ⟨_, _, _, rfl⟩ := handleFinding_eq_some_iff.mp (Option.mem_toList.mp ha)
  obtain ⟨_, _, _, rfl⟩ := handleFinding_eq_some_iff.mp (Option.mem_toList.mp hb)
  exact .inr ⟨rfl, rfl, rfl⟩

end Wire

section Pass

variable {topology : Topology} {finding : Finding}

theorem follows_end {ids : List String} {wire : Wire} {edge : EdgeRecord}
    (h : Follows ids wire edge) (side : Side) :
    endAt edge side = some (wireEnd wire side) ∧ handleAt edge side = wireHandle wire side := by
  cases side with
  | source => exact ⟨h.source, h.sourceHandle⟩
  | target => exact ⟨h.target, h.targetHandle⟩

theorem mem_portFindings_iff :
    finding ∈ topology.portFindings ↔
      ∃ position side edge node, Misses topology position side edge node ∧
        finding = .noPort position side (handleAt edge side) node := by
  rw [portFindings_eq, List.mem_flatMap]
  constructor
  · rintro ⟨wire, hw, hf⟩
    obtain ⟨edge, hedge, hfollows⟩ := mem_wires_iff.mp hw
    obtain ⟨side, hf⟩ := mem_handleFindings_iff.mp hf
    obtain ⟨node, hnode, hrefused, rfl⟩ := handleFinding_eq_some_iff.mp hf
    obtain ⟨hend, hhandle⟩ := follows_end hfollows side
    rw [component?_components] at hnode
    rw [← hhandle] at hrefused ⊢
    exact ⟨wire.position, side, edge, node,
      ⟨hedge, ⟨_, hfollows.source_mem, hfollows.source⟩, ⟨_, hfollows.target_mem, hfollows.target⟩,
        ⟨_, hend, hnode⟩, hrefused⟩, rfl⟩
  · rintro ⟨position, side, edge, node, h, rfl⟩
    obtain ⟨a, ha, hs⟩ := h.source_known
    obtain ⟨b, hb, ht⟩ := h.target_known
    have hfollows : Follows topology.ids ⟨position, a, b, edge.sourceHandle, edge.targetHandle⟩ edge :=
      ⟨hs, ht, rfl, rfl, ha, hb⟩
    refine ⟨_, mem_wires_iff.mpr ⟨edge, h.edge_at, hfollows⟩, mem_handleFindings_iff.mpr ⟨side, ?_⟩⟩
    obtain ⟨hend, hhandle⟩ := follows_end hfollows side
    obtain ⟨id, hid, hnode⟩ := h.described
    have hsame : wireEnd ⟨position, a, b, edge.sourceHandle, edge.targetHandle⟩ side = id :=
      Option.some_inj.mp (hend.symm.trans hid)
    rw [← hhandle, hsame]
    refine handleFinding_eq_some_iff.mpr ⟨node, ?_, h.refused, rfl⟩
    rw [component?_components]
    exact hnode

theorem portFindings_ordered (topology : Topology) :
    topology.portFindings.Pairwise Precedes := by
  rw [portFindings_eq]
  refine List.pairwise_flatMap.mpr ⟨fun wire _ => handleFindings_ordered _ wire, ?_⟩
  refine (wires_ascending topology).imp fun hab a ha b hb => ?_
  obtain ⟨_, ha⟩ := mem_handleFindings_iff.mp ha
  obtain ⟨_, hb⟩ := mem_handleFindings_iff.mp hb
  obtain ⟨_, _, _, rfl⟩ := handleFinding_eq_some_iff.mp ha
  obtain ⟨_, _, _, rfl⟩ := handleFinding_eq_some_iff.mp hb
  exact .inl hab

theorem noPort_attached {position : Nat} {side : Side} {edge : EdgeRecord} {node : Node}
    (h : Misses topology position side edge node) :
    (Finding.noPort position side (handleAt edge side) node).nodeId? = endAt edge side ∧
      (Finding.noPort position side (handleAt edge side) node).nodeType? =
        some node.kind.name := by
  obtain ⟨id, hid, hnode⟩ := h.described
  refine ⟨?_, rfl⟩
  rw [hid, ← first?_id hnode]
  rfl

end Pass

/-- The findings about ports are one for each end of an edge whose handle is no port of its
component, in the order of the edges and the source of an edge before its target. An end is judged by
its own component, whatever stands at the other end, and the finding is attached to that
component. -/
theorem port_findings_exact (topology : Topology) (policy : Policy)
    (hp : policy.checkPorts = true) :
    (∀ finding, finding ∈ (topology.report policy).findings.filter (·.code == "G005") ↔
        ∃ position side edge node, Misses topology position side edge node ∧
          finding = .noPort position side (handleAt edge side) node) ∧
      ((topology.report policy).findings.filter (·.code == "G005")).Pairwise Precedes ∧
      ∀ position side edge node, Misses topology position side edge node →
        (Finding.noPort position side (handleAt edge side) node).nodeId? = endAt edge side ∧
          (Finding.noPort position side (handleAt edge side) node).nodeType? =
            some node.kind.name := by
  rw [ports_of_report, if_pos hp]
  exact ⟨fun _ => mem_portFindings_iff, portFindings_ordered topology,
    fun _ _ _ _ => noPort_attached⟩

def shelf : Node := ⟨"shelf", .queue (some "nut") 2 1⟩

def shelfRecord (ways : Nat) : NodeRecord :=
  ⟨some "shelf", some "queue", .object [("elemento", .string "nut"), ("entradas", .ofNat ways)]⟩

def hall : Topology :=
  { nodes := [⟨some "ramp", some "conveyor", .null⟩, shelfRecord 2, shelfRecord 9]
    edges :=
      [⟨none, some "ramp", some "shelf", some "out-5", some "in-1"⟩,
        ⟨none, some "ramp", some "shelf", some "out-5", some "in-2"⟩]
    elements := [⟨none, some "nut", none⟩] }

theorem shelf_handle_found :
    Misses hall 1 .target ⟨none, some "ramp", some "shelf", some "out-5", some "in-2"⟩ shelf ∧
      Finding.noPort 1 .target (some "in-2") shelf ∈
        (hall.report Policy.standard.withPortChecks).findings.filter (·.code == "G005") ∧
      (Finding.noPort 1 .target (some "in-2") shelf).nodeId? = some "shelf" ∧
      (Finding.noPort 1 .target (some "in-2") shelf).nodeType? = some "queue" := by
  have hshelf : first? hall.nodes "shelf" = some shelf := by rfl
  have hmisses : Misses hall 1 .target
      ⟨none, some "ramp", some "shelf", some "out-5", some "in-2"⟩ shelf :=
    { edge_at := rfl
      source_known := ⟨"ramp", by simp [ids, hall], rfl⟩
      target_known := ⟨"shelf", by simp [ids, hall, shelfRecord], rfl⟩
      described := ⟨"shelf", rfl, hshelf⟩
      refused := by rfl }
  obtain ⟨hfindings, _, hattached⟩ := port_findings_exact hall Policy.standard.withPortChecks rfl
  exact ⟨hmisses, (hfindings _).mpr ⟨_, _, _, _, hmisses, rfl⟩, hattached _ _ _ _ hmisses⟩

end LineTopology.Proofs.PortFindings
