import LineTopology.Proofs.Positions
import LineTopology.Wiring

namespace LineTopology.Topology

def wire? (ids : List String) (entry : EdgeRecord × Nat) : Option Wire :=
  match entry.1.source, entry.1.target with
  | some source, some target =>
      if ids.contains source ∧ ids.contains target then
        some ⟨entry.2, source, target, entry.1.sourceHandle, entry.1.targetHandle⟩
      else none
  | _, _ => none

def looseEnd (ids : List String) (position : Nat) (side : Side) (id : Option String) :
    List LooseEnd :=
  if id.any ids.contains then [] else [⟨position, side, id⟩]

def looseEndsOf (ids : List String) (entry : EdgeRecord × Nat) : List LooseEnd :=
  looseEnd ids entry.2 .source entry.1.source ++ looseEnd ids entry.2 .target entry.1.target

/-- The edges with both ends at node records, in the order of the topology. The graph is built edge by
edge instead; `GraphIndex.graph_wires` says that it comes to the same. -/
def wires (topology : Topology) : List Wire :=
  topology.edges.zipIdx.filterMap (wire? topology.ids)

def looseEnds (topology : Topology) : List LooseEnd :=
  topology.edges.zipIdx.flatMap (looseEndsOf topology.ids)

end LineTopology.Topology

namespace LineTopology.Proofs.Wires

open LineTopology.Topology

structure Follows (ids : List String) (wire : Wire) (edge : EdgeRecord) : Prop where
  source : edge.source = some wire.source
  target : edge.target = some wire.target
  sourceHandle : edge.sourceHandle = wire.sourceHandle
  targetHandle : edge.targetHandle = wire.targetHandle
  source_mem : wire.source ∈ ids
  target_mem : wire.target ∈ ids

variable {ids : List String} {edge : EdgeRecord} {position : Nat} {topology : Topology}

theorem wire?_eq_some_iff {wire : Wire} :
    wire? ids (edge, position) = some wire ↔ wire.position = position ∧ Follows ids wire edge := by
  constructor
  · intro h
    rw [wire?] at h
    split at h
    next source target hs ht =>
      split at h
      next hc =>
        cases h
        exact ⟨rfl, hs, ht, rfl, rfl, List.contains_iff_mem.mp hc.1, List.contains_iff_mem.mp hc.2⟩
      next => cases h
    next => cases h
  · rintro ⟨rfl, hs, ht, hsh, hth, hsm, htm⟩
    simp [wire?, hs, ht, hsh, hth, hsm, htm]

theorem mem_wires_iff {wire : Wire} :
    wire ∈ topology.wires ↔
      ∃ edge, topology.edges[wire.position]? = some edge ∧ Follows topology.ids wire edge := by
  simp only [wires, List.mem_filterMap, Prod.exists, wire?_eq_some_iff,
    List.mem_zipIdx_iff_getElem?]
  constructor
  · rintro ⟨edge, position, he, rfl, hf⟩
    exact ⟨edge, he, hf⟩
  · rintro ⟨edge, he, hf⟩
    exact ⟨edge, wire.position, he, rfl, hf⟩

theorem forall_wires_iff {p : String → String → Option String → Option String → Prop} :
    (∀ wire ∈ topology.wires, p wire.source wire.target wire.sourceHandle wire.targetHandle) ↔
      ∀ edge ∈ topology.edges, ∀ a ∈ topology.ids, ∀ b ∈ topology.ids,
        edge.source = some a → edge.target = some b → p a b edge.sourceHandle edge.targetHandle := by
  constructor
  · intro h edge he a ha b hb hs ht
    obtain ⟨position, hp⟩ := List.mem_iff_getElem?.mp he
    exact h ⟨position, a, b, edge.sourceHandle, edge.targetHandle⟩
      (mem_wires_iff.mpr ⟨edge, hp, hs, ht, rfl, rfl, ha, hb⟩)
  · intro h wire hw
    obtain ⟨edge, he, hf⟩ := mem_wires_iff.mp hw
    rw [← hf.sourceHandle, ← hf.targetHandle]
    exact h edge (List.mem_of_getElem? he) _ hf.source_mem _ hf.target_mem hf.source hf.target

theorem looseEnd_eq_nil_iff {side : Side} {id : Option String} :
    looseEnd ids position side id = [] ↔ ∃ a ∈ ids, id = some a := by
  cases id with
  | none => simp [looseEnd]
  | some a => simp [looseEnd]

theorem looseEnds_eq_nil_iff :
    topology.looseEnds = [] ↔
      ∀ edge ∈ topology.edges,
        (∃ a ∈ topology.ids, edge.source = some a) ∧ ∃ b ∈ topology.ids, edge.target = some b := by
  simp only [looseEnds, List.flatMap_eq_nil_iff, looseEndsOf, List.append_eq_nil_iff,
    looseEnd_eq_nil_iff]
  constructor
  · intro h edge he
    obtain ⟨position, hp⟩ := List.mem_iff_getElem?.mp he
    exact h (edge, position) (List.mem_zipIdx_iff_getElem?.mpr hp)
  · rintro h ⟨edge, position⟩ he
    exact h edge (List.fst_mem_of_mem_zipIdx he)

end LineTopology.Proofs.Wires
