import LineTopology.Graph
import LineTopology.Proofs.Distinct
import LineTopology.Proofs.Passes
import LineTopology.Proofs.Wires

namespace LineTopology.Proofs.GraphIndex

open LineTopology.Topology LineTopology.Graph Distinct Passes Positions Wires

section Nodes

variable {graph : Graph} {id : String} {names more : List String}

structure Indexed (graph : Graph) : Prop where
  nodup : graph.nodes.Nodup
  index : ∀ id node, graph.index? id = some node ↔ graph.nodes[node]? = some id

theorem empty_indexed : Indexed .empty := ⟨List.nodup_nil, by simp [Graph.empty, index?]⟩

theorem index?_eq_none_iff (h : Indexed graph) : graph.index? id = none ↔ id ∉ graph.nodes := by
  rw [Option.eq_none_iff_forall_ne_some, List.mem_iff_getElem?, not_exists]
  exact forall_congr' fun node => not_congr (h.index id node)

theorem addNode_of_mem (h : Indexed graph) (hid : id ∈ graph.nodes) : graph.addNode id = graph := by
  cases hindex : graph.index? id with
  | none => exact absurd hid ((index?_eq_none_iff h).mp hindex)
  | some node => rw [addNode, hindex]

theorem addNode_of_not_mem (h : Indexed graph) (hid : id ∉ graph.nodes) :
    graph.addNode id =
      { graph with
        nodes := graph.nodes ++ [id]
        indices := (id, graph.nodes.length) :: graph.indices } := by
  rw [addNode, (index?_eq_none_iff h).mpr hid]

theorem getElem?_concat_iff {α : Type} {xs : List α} {x y : α} {i : Nat} :
    (xs ++ [x])[i]? = some y ↔ xs[i]? = some y ∨ i = xs.length ∧ y = x := by
  rw [List.getElem?_append]
  split
  next hlt =>
    have hne : i ≠ xs.length := Nat.ne_of_lt hlt
    simp [hne]
  next hle =>
    rw [List.getElem?_eq_none_iff.mpr (Nat.le_of_not_lt hle), List.getElem?_singleton]
    split
    next hi =>
      have hlast : i = xs.length := by omega
      simp [hlast, eq_comm]
    next hi =>
      have hne : i ≠ xs.length := by omega
      simp [hne]

theorem addNode_indexed (h : Indexed graph) (id : String) : Indexed (graph.addNode id) := by
  by_cases hid : id ∈ graph.nodes
  · rw [addNode_of_mem h hid]
    exact h
  · rw [addNode_of_not_mem h hid]
    refine ⟨List.nodup_append.mpr ⟨h.nodup, List.pairwise_singleton _ id, ?_⟩, fun other node => ?_⟩
    · intro a ha b hb hab
      rw [List.mem_singleton.mp hb] at hab
      exact hid (hab ▸ ha)
    · have hlookup := h.index other node
      rw [index?] at hlookup ⊢
      rw [List.lookup_cons, getElem?_concat_iff]
      by_cases ho : other = id
      · -- No earlier node has the id, so that its index is the one behind them all.
        subst ho
        have hnone : graph.nodes[node]? ≠ some other := fun hs => hid (List.mem_of_getElem? hs)
        simp [hnone, eq_comm]
      · rw [beq_false_of_ne ho]
        simp [ho, hlookup]

theorem addNode_nodes (h : Indexed graph) (id : String) :
    (graph.addNode id).nodes = appendNew graph.nodes [id] := by
  by_cases hid : id ∈ graph.nodes
  · rw [addNode_of_mem h hid]
    simp [appendNew, hid]
  · rw [addNode_of_not_mem h hid]
    simp [appendNew, hid]

theorem addNodes_indexed (h : Indexed graph) (ids : List String) :
    Indexed (ids.foldl addNode graph) := by
  induction ids generalizing graph with
  | nil => exact h
  | cons id ids ih => exact ih (addNode_indexed h id)

theorem addNodes_nodes (h : Indexed graph) (ids : List String) :
    (ids.foldl addNode graph).nodes = appendNew graph.nodes ids := by
  induction ids generalizing graph with
  | nil => rfl
  | cons id ids ih =>
      rw [List.foldl_cons, ih (addNode_indexed h id), addNode_nodes h]
      rfl

end Nodes

section Edges

variable {graph : Graph} {ids : List String} {entry : EdgeRecord × Nat}
  {entries : List (EdgeRecord × Nat)}

structure Names (graph : Graph) (ids : List String) : Prop where
  indexed : Indexed graph
  mem_nodes : ∀ id, id ∈ graph.nodes ↔ id ∈ ids

theorem attach_eq (h : Names graph ids) (position : Nat) (side : Side) (id : Option String) :
    graph.attach position side id =
      (id.bind graph.index?,
        { graph with looseEnds := graph.looseEnds ++ looseEnd ids position side id }) := by
  have hloose : looseEnd ids position side id =
      if (id.bind graph.index?).isSome then [] else [⟨position, side, id⟩] := by
    cases id with
    | none => rfl
    | some id =>
        have hnone : graph.index? id = none ↔ id ∉ graph.nodes := index?_eq_none_iff h.indexed
        rw [h.mem_nodes] at hnone
        by_cases hid : id ∈ ids
        · have hsome : graph.index? id ≠ none := fun he => hnone.mp he hid
          simp [looseEnd, hid, Option.isSome_iff_ne_none, hsome]
        · simp [looseEnd, hid, hnone.mpr hid]
  rw [attach, hloose]
  cases id.bind graph.index? with
  | none => rfl
  | some node => simp

def arc? (graph : Graph) (entry : EdgeRecord × Nat) : Option Arc :=
  (entry.1.source.bind graph.index?).bind fun source =>
    (entry.1.target.bind graph.index?).map fun target =>
      ⟨entry.2, source, target, entry.1.sourceHandle, entry.1.targetHandle⟩

theorem addEdge_eq (h : Names graph ids) :
    graph.addEdge entry =
      { graph with
        arcs := graph.arcs ++ (arc? graph entry).toList
        looseEnds := graph.looseEnds ++ looseEndsOf ids entry } := by
  have hbehind (loose : List LooseEnd) : Names { graph with looseEnds := loose } ids :=
    ⟨⟨h.indexed.nodup, h.indexed.index⟩, h.mem_nodes⟩
  have hindex (loose : List LooseEnd) :
      Graph.index? { graph with looseEnds := loose } = graph.index? := rfl
  rw [addEdge, attach_eq h]
  simp only [attach_eq (hbehind _), hindex, arc?, looseEndsOf, List.append_assoc]
  cases entry.1.source.bind graph.index? with
  | none => simp
  | some source =>
      cases entry.1.target.bind graph.index? with
      | none => simp
      | some target => simp

/-- Edges are stored one behind the other, and so are the loose ends, whatever they are mixed
with. -/
theorem addEdges_eq (h : Names graph ids) (entries : List (EdgeRecord × Nat)) :
    entries.foldl addEdge graph =
      { graph with
        arcs := graph.arcs ++ entries.filterMap (arc? graph)
        looseEnds := graph.looseEnds ++ entries.flatMap (looseEndsOf ids) } := by
  induction entries generalizing graph with
  | nil => simp
  | cons entry entries ih =>
      have hnames : Names (graph.addEdge entry) ids := by
        rw [addEdge_eq h]
        exact ⟨⟨h.indexed.nodup, h.indexed.index⟩, h.mem_nodes⟩
      have harc : arc? (graph.addEdge entry) = arc? graph := by
        rw [addEdge_eq h]
        rfl
      rw [List.foldl_cons, ih hnames, harc, addEdge_eq h, List.filterMap_cons, List.flatMap_cons]
      cases arc? graph entry <;> simp

theorem wire?_arc? (h : Names graph ids) :
    (arc? graph entry).bind graph.wire? = Topology.wire? ids entry := by
  obtain ⟨⟨id, source, target, sourceHandle, targetHandle⟩, position⟩ := entry
  have hend (given : Option String) :
      (∃ node, given.bind graph.index? = some node ∧ graph.nodes[node]? = given ∧
        ∃ id ∈ ids, given = some id) ∨
      given.bind graph.index? = none ∧ ∀ id, given = some id → id ∉ ids := by
    cases given with
    | none => exact .inr ⟨rfl, by simp⟩
    | some id =>
        rw [Option.bind_some]
        cases hindex : graph.index? id with
        | none =>
            have hnot := (index?_eq_none_iff h.indexed).mp hindex
            rw [h.mem_nodes] at hnot
            exact .inr ⟨rfl, by simpa using hnot⟩
        | some node =>
            have hnode := (h.indexed.index id node).mp hindex
            exact .inl ⟨node, rfl, hnode,
              id, (h.mem_nodes id).mp (List.mem_of_getElem? hnode), rfl⟩
  rcases hend source with ⟨s, hs, hsource, a, ha, rfl⟩ | ⟨hs, hsource⟩
  · rcases hend target with ⟨t, ht, htarget, b, hb, rfl⟩ | ⟨ht, htarget⟩
    · simp [arc?, hs, ht, Graph.wire?, hsource, htarget, Topology.wire?, ha, hb]
    · cases target with
      | none => simp [arc?, Topology.wire?]
      | some b => simp [arc?, ht, Topology.wire?, htarget b rfl]
  · cases source with
    | none => simp [arc?, Topology.wire?]
    | some a =>
        cases target with
        | none => simp [arc?, Topology.wire?]
        | some b => simp [arc?, hs, Topology.wire?, hsource a rfl]

end Edges

section Positions

variable {topology : Topology} {ids : List String} {loose : LooseEnd}

theorem wires_ascending (topology : Topology) :
    topology.wires.Pairwise fun a b => a.position < b.position := by
  refine (zipIdx_ascending topology.edges).filterMap _ fun a b hab wire hw other ho => ?_
  rw [(wire?_eq_some_iff.mp hw).1, (wire?_eq_some_iff.mp ho).1]
  exact hab

def endAt (edge : EdgeRecord) : Side → Option String
  | .source => edge.source
  | .target => edge.target

def Before (a b : LooseEnd) : Prop :=
  a.position < b.position ∨ a.position = b.position ∧ a.side = .source ∧ b.side = .target

theorem mem_looseEnd_iff {position : Nat} {side : Side} {id : Option String} :
    loose ∈ looseEnd ids position side id ↔
      loose = ⟨position, side, id⟩ ∧ ∀ a, id = some a → a ∉ ids := by
  cases id with
  | none => simp [looseEnd]
  | some a =>
      by_cases ha : a ∈ ids
      · simp [looseEnd, ha]
      · simp [looseEnd, ha]

theorem mem_looseEndsOf_iff {entry : EdgeRecord × Nat} :
    loose ∈ looseEndsOf ids entry ↔
      loose.position = entry.2 ∧ loose.id = endAt entry.1 loose.side ∧
        ∀ a, loose.id = some a → a ∉ ids := by
  rw [looseEndsOf, List.mem_append, mem_looseEnd_iff, mem_looseEnd_iff]
  obtain ⟨position, side, id⟩ := loose
  cases side with
  | source => simp [endAt]; grind
  | target => simp [endAt]; grind

theorem mem_looseEnds_iff :
    loose ∈ topology.looseEnds ↔
      ∃ edge, topology.edges[loose.position]? = some edge ∧
        loose.id = endAt edge loose.side ∧ ∀ a, loose.id = some a → a ∉ topology.ids := by
  simp only [Topology.looseEnds, List.mem_flatMap, Prod.exists, mem_looseEndsOf_iff,
    List.mem_zipIdx_iff_getElem?]
  constructor
  · rintro ⟨edge, position, he, rfl, hend⟩
    exact ⟨edge, he, hend⟩
  · rintro ⟨edge, he, hend⟩
    exact ⟨edge, loose.position, he, rfl, hend⟩

theorem looseEndsOf_ordered (ids : List String) (entry : EdgeRecord × Nat) :
    (looseEndsOf ids entry).Pairwise Before := by
  have hone (side : Side) (id : Option String) :
      (looseEnd ids entry.2 side id).Pairwise Before := by
    rw [looseEnd]
    split
    next => exact .nil
    next => exact List.pairwise_singleton _ _
  refine List.pairwise_append.mpr ⟨hone _ _, hone _ _, fun a ha b hb => ?_⟩
  obtain ⟨rfl, _⟩ := mem_looseEnd_iff.mp ha
  obtain ⟨rfl, _⟩ := mem_looseEnd_iff.mp hb
  exact .inr ⟨rfl, rfl, rfl⟩

theorem looseEnds_ordered (topology : Topology) : topology.looseEnds.Pairwise Before := by
  refine List.pairwise_flatMap.mpr ⟨fun entry _ => looseEndsOf_ordered _ entry, ?_⟩
  refine (zipIdx_ascending topology.edges).imp fun hab a ha b hb => ?_
  rw [Before, (mem_looseEndsOf_iff.mp ha).1, (mem_looseEndsOf_iff.mp hb).1]
  exact .inl hab

theorem wired_iff_not_loose {position : Nat} (h : position < topology.edges.length) :
    (∃ wire ∈ topology.wires, wire.position = position) ↔
      ¬ ∃ loose ∈ topology.looseEnds, loose.position = position := by
  have hedge := List.getElem?_eq_getElem h
  constructor
  · rintro ⟨wire, hw, rfl⟩ ⟨loose, hl, hposition⟩
    obtain ⟨edge, he, hf⟩ := mem_wires_iff.mp hw
    obtain ⟨other, ho, hid, hout⟩ := mem_looseEnds_iff.mp hl
    rw [hposition, he, Option.some_inj] at ho
    subst ho
    rw [hid] at hout
    cases hside : loose.side with
    | source => exact hout _ (by rw [hside]; exact hf.source) hf.source_mem
    | target => exact hout _ (by rw [hside]; exact hf.target) hf.target_mem
  · intro hnone
    have hin (side : Side) : ∃ a ∈ topology.ids, endAt topology.edges[position] side = some a := by
      by_contra hout
      refine hnone ⟨⟨position, side, endAt topology.edges[position] side⟩, ?_, rfl⟩
      exact mem_looseEnds_iff.mpr ⟨_, hedge, rfl, fun a ha hmem => hout ⟨a, hmem, ha⟩⟩
    obtain ⟨a, ha, hs⟩ := hin .source
    obtain ⟨b, hb, ht⟩ := hin .target
    exact ⟨⟨position, a, b, _, _⟩,
      mem_wires_iff.mpr ⟨_, hedge, hs, ht, rfl, rfl, ha, hb⟩, rfl⟩

end Positions

section Whole

variable (ids : List String) (topology : Topology)

theorem names_ids : Names (.ofIds ids) ids := by
  refine ⟨addNodes_indexed empty_indexed ids, fun id => ?_⟩
  rw [Graph.ofIds, addNodes_nodes empty_indexed, mem_appendNew]
  simp [Graph.empty]

theorem ofIds_nodes : (Graph.ofIds ids).nodes = distinct ids := addNodes_nodes empty_indexed ids

theorem addNodes_edges (graph : Graph) :
    (ids.foldl addNode graph).arcs = graph.arcs ∧
      (ids.foldl addNode graph).looseEnds = graph.looseEnds := by
  induction ids generalizing graph with
  | nil => exact ⟨rfl, rfl⟩
  | cons id ids ih =>
      rw [List.foldl_cons, (ih _).1, (ih _).2, addNode]
      split
      next => exact ⟨rfl, rfl⟩
      next => exact ⟨rfl, rfl⟩

theorem graph_eq :
    topology.graph =
      { Graph.ofIds topology.ids with
        arcs := topology.edges.zipIdx.filterMap (arc? (.ofIds topology.ids))
        looseEnds := topology.looseEnds } := by
  obtain ⟨harcs, hloose⟩ := addNodes_edges topology.ids .empty
  rw [Topology.graph, addEdges_eq (names_ids topology.ids), Topology.looseEnds, Graph.ofIds, harcs,
    hloose]
  rfl

theorem graph_wires : topology.graph.wires = topology.wires := by
  have hwire : topology.graph.wire? = (Graph.ofIds topology.ids).wire? := by rw [graph_eq]; rfl
  have hwires : topology.graph.arcs.filterMap topology.graph.wire? = topology.wires := by
    rw [hwire, graph_eq, List.filterMap_filterMap, Topology.wires]
    exact List.filterMap_congr fun entry _ => wire?_arc? (names_ids topology.ids)
  rw [Graph.wires, hwires]
  refine List.mergeSort_of_pairwise ((wires_ascending topology).imp fun hlt => ?_)
  exact decide_eq_true (Nat.le_of_lt hlt)

theorem graph_indexed : Indexed topology.graph := by
  rw [graph_eq]
  exact ⟨(names_ids topology.ids).indexed.nodup, (names_ids topology.ids).indexed.index⟩

end Whole

section Checks

-- The report reads the edges off the graph. What is proved of its findings starts from the edges of
-- the topology instead, which take neither an index nor a sort.
variable (topology : Topology)

theorem dangling_eq : topology.dangling = topology.looseEnds.map .looseEnd := by
  rw [dangling, graph_eq]

theorem portFindings_eq :
    topology.portFindings = topology.wires.flatMap (handleFindings topology.components) := by
  rw [portFindings, graph_wires]

theorem connectionFindings_eq :
    topology.connectionFindings = topology.wires.filterMap (wireFinding topology.components) := by
  rw [connectionFindings, graph_wires]

end Checks

structure Represents (graph : Graph) (topology : Topology) : Prop where
  mem_nodes : ∀ id, id ∈ graph.nodes ↔ id ∈ topology.ids
  nodes_ordered : graph.nodes.Pairwise fun a b => topology.ids.idxOf a < topology.ids.idxOf b
  index : ∀ id node, graph.index? id = some node ↔ graph.nodes[node]? = some id
  mem_wires : ∀ wire, wire ∈ graph.wires ↔
    ∃ edge, topology.edges[wire.position]? = some edge ∧ Follows topology.ids wire edge
  wires_ascending : graph.wires.Pairwise fun a b => a.position < b.position
  mem_looseEnds : ∀ loose, loose ∈ graph.looseEnds ↔
    ∃ edge, topology.edges[loose.position]? = some edge ∧
      loose.id = endAt edge loose.side ∧ ∀ a, loose.id = some a → a ∉ topology.ids
  looseEnds_ordered : graph.looseEnds.Pairwise Before
  wired_iff_not_loose : ∀ position < topology.edges.length,
    (∃ wire ∈ graph.wires, wire.position = position) ↔
      ¬ ∃ loose ∈ graph.looseEnds, loose.position = position

/-- The graph of a topology neither loses nor invents an edge, and the report names exactly the ends
that it could not attach. -/
theorem graph_represents (topology : Topology) :
    Represents topology.graph topology ∧
      ∀ policy, (topology.report policy).findings.filter (·.code == "G003") =
        topology.graph.looseEnds.map .looseEnd := by
  have hnodes : topology.graph.nodes = distinct topology.ids := by
    rw [graph_eq]
    exact ofIds_nodes topology.ids
  have hloose : topology.graph.looseEnds = topology.looseEnds := by rw [graph_eq]
  refine ⟨?_, fun policy => by rw [dangling_of_report, dangling]⟩
  constructor
  case mem_nodes =>
    intro id
    rw [hnodes, ← ofIds_nodes]
    exact (names_ids topology.ids).mem_nodes id
  case nodes_ordered =>
    rw [hnodes]
    exact distinct_ordered topology.ids
  case index => exact (graph_indexed topology).index
  case mem_wires =>
    rw [graph_wires]
    exact fun wire => mem_wires_iff
  case wires_ascending =>
    rw [graph_wires]
    exact wires_ascending topology
  case mem_looseEnds =>
    rw [hloose]
    exact fun loose => mem_looseEnds_iff
  case looseEnds_ordered =>
    rw [hloose]
    exact looseEnds_ordered topology
  case wired_iff_not_loose =>
    rw [graph_wires, hloose]
    exact fun position => wired_iff_not_loose

end LineTopology.Proofs.GraphIndex
