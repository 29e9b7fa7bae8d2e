import LineTopology.Wiring

namespace LineTopology

structure Arc where
  position : Nat
  source : Nat
  target : Nat
  sourceHandle : Option String
  targetHandle : Option String
  deriving DecidableEq

/-- The nodes that the records of a topology name, each once, with an index of them, and the edges
between them; an end of an edge that names none of them is kept apart. -/
structure Graph where
  nodes : List String
  indices : List (String × Nat)
  arcs : List Arc
  looseEnds : List LooseEnd

namespace Graph

def empty : Graph := ⟨[], [], [], []⟩

def index? (graph : Graph) (id : String) : Option Nat := graph.indices.lookup id

def addNode (graph : Graph) (id : String) : Graph :=
  match graph.index? id with
  | some _ => graph
  | none =>
      { graph with
        nodes := graph.nodes ++ [id]
        indices := (id, graph.nodes.length) :: graph.indices }

def ofIds (ids : List String) : Graph := ids.foldl addNode .empty

def attach (graph : Graph) (position : Nat) (side : Side) (id : Option String) :
    Option Nat × Graph :=
  match id.bind graph.index? with
  | some node => (some node, graph)
  | none => (none, { graph with looseEnds := graph.looseEnds ++ [⟨position, side, id⟩] })

def addEdge (graph : Graph) (entry : EdgeRecord × Nat) : Graph :=
  let (source, graph) := graph.attach entry.2 .source entry.1.source
  let (target, graph) := graph.attach entry.2 .target entry.1.target
  match source, target with
  | some source, some target =>
      let arc : Arc := ⟨entry.2, source, target, entry.1.sourceHandle, entry.1.targetHandle⟩
      { graph with arcs := graph.arcs ++ [arc] }
  | _, _ => graph

def wire? (graph : Graph) (arc : Arc) : Option Wire := do
  let source ← graph.nodes[arc.source]?
  let target ← graph.nodes[arc.target]?
  return ⟨arc.position, source, target, arc.sourceHandle, arc.targetHandle⟩

/-- The edges with the ids of their nodes, in ascending order of their positions. -/
def wires (graph : Graph) : List Wire :=
  (graph.arcs.filterMap graph.wire?).mergeSort fun a b => a.position ≤ b.position

end Graph

def Topology.graph (topology : Topology) : Graph :=
  topology.edges.zipIdx.foldl Graph.addEdge (.ofIds topology.ids)

end LineTopology
