import LineTopology.Proofs.Components
import LineTopology.Proofs.GraphIndex

namespace LineTopology.Proofs.Admission

open LineTopology.Topology Lowering Components GraphIndex Wires

structure Joins (topology : Topology) (edge : EdgeRecord) (source target : Node) : Prop where
  source_id : edge.source = some source.id
  target_id : edge.target = some target.id
  source_described : Describes topology source.id source
  target_described : Describes topology target.id target

def Catalogued (topology : Topology) (element : String) : Prop :=
  ∃ entry ∈ topology.elements, entry.type = some element

def linkOf (edge : EdgeRecord) (source target : Node) : Link :=
  ⟨source.station, target.station, edge.sourceHandle, edge.targetHandle⟩

/-- What it means, record by record, that a topology passes under a policy. -/
structure Admissible (topology : Topology) (policy : Policy) : Prop where
  described : ∀ record ∈ topology.nodes, ∃ node, record.lower = .ok node
  distinct : topology.ids.Nodup
  assigned : ∀ record ∈ topology.nodes, ∀ node, record.lower = .ok node →
    node.kind ≠ .transformer → node.kind ∉ policy.exemptKinds →
      ∃ element, node.element? = some element ∧ Catalogued topology element
  joined : ∀ edge ∈ topology.edges,
    (∃ a ∈ topology.ids, edge.source = some a) ∧ ∃ b ∈ topology.ids, edge.target = some b
  ported : policy.checkPorts = true → ∀ edge ∈ topology.edges, ∀ source target,
    Joins topology edge source target →
      source.layout.hasHandle .source edge.sourceHandle = true ∧
        target.layout.hasHandle .target edge.targetHandle = true
  linked : policy.recheckConnections = true → ∀ edge ∈ topology.edges, ∀ source target,
    Joins topology edge source target → Link.check (linkOf edge source target) = .ok ()

section Ends

variable {topology : Topology} {edge : EdgeRecord} {source target : Node} {id : String}

theorem joins_source (hj : Joins topology edge source target) (hs : edge.source = some id) :
    Describes topology id source := by
  obtain rfl : source.id = id := Option.some_inj.mp (hj.source_id.symm.trans hs)
  exact hj.source_described

theorem joins_target (hj : Joins topology edge source target) (ht : edge.target = some id) :
    Describes topology id target := by
  obtain rfl : target.id = id := Option.some_inj.mp (hj.target_id.symm.trans ht)
  exact hj.target_described

end Ends

section Elements

variable {topology : Topology} {policy : Policy} {node : Node}

theorem mem_typed_iff :
    node ∈ topology.typed policy ↔
      node ∈ topology.components ∧ node.kind ≠ .transformer ∧ node.kind ∉ policy.exemptKinds := by
  simp [typed, Policy.isExempt]

theorem catalog_contains_iff {element : String} :
    topology.catalog.contains element = true ↔ Catalogued topology element := by
  simp [catalog, Catalog.contains, Catalog.ofRecords, Catalogued]

theorem mem_uncatalogued_iff {finding : Finding} :
    finding ∈ topology.uncatalogued policy ↔
      ∃ node ∈ topology.typed policy, ∃ element, node.element? = some element ∧
        ¬ Catalogued topology element ∧ finding = .unknownElement node element := by
  simp only [uncatalogued, List.mem_filterMap, elementUnknown, Option.bind_eq_some_iff,
    Option.ite_none_left_eq_some, catalog_contains_iff, Option.some_inj, eq_comm (a := finding)]

theorem unassigned_eq_nil_iff :
    topology.unassigned policy = [] ↔
      ∀ node ∈ topology.typed policy, ∃ element, node.element? = some element := by
  simp [unassigned, List.filterMap_eq_nil_iff, elementMissing, Option.ne_none_iff_exists']

theorem uncatalogued_eq_nil_iff :
    topology.uncatalogued policy = [] ↔
      ∀ node ∈ topology.typed policy, ∀ element, node.element? = some element →
        Catalogued topology element := by
  simp only [uncatalogued, List.filterMap_eq_nil_iff, elementUnknown, Option.bind_eq_none_iff,
    ite_eq_left_iff, reduceCtorEq, imp_false, not_not, catalog_contains_iff]

/-- The two passes over the elements leave nothing out between them. -/
theorem elementFindings_eq_nil_iff :
    topology.unassigned policy = [] ∧ topology.uncatalogued policy = [] ↔
      ∀ node ∈ topology.typed policy,
        ∃ element, node.element? = some element ∧ Catalogued topology element := by
  rw [unassigned_eq_nil_iff, uncatalogued_eq_nil_iff]
  constructor
  · rintro ⟨ha, hc⟩ node hn
    obtain ⟨element, he⟩ := ha node hn
    exact ⟨element, he, hc node hn element he⟩
  · intro h
    refine ⟨fun node hn => ?_, fun node hn element he => ?_⟩
    · obtain ⟨element, he, _⟩ := h node hn
      exact ⟨element, he⟩
    · obtain ⟨other, ho, hc⟩ := h node hn
      rw [he, Option.some_inj] at ho
      exact ho ▸ hc

end Elements

section Wires

variable {components : List Node} {topology : Topology}

theorem handleFinding_eq_none_iff {position : Nat} {side : Side} {handle : Option String}
    {id : String} :
    handleFinding components position side handle id = none ↔
      ∀ node, component? components id = some node → node.layout.hasHandle side handle = true := by
  simp [handleFinding, Option.bind_eq_none_iff]

theorem handleFindings_eq_nil_iff {wire : Wire} :
    handleFindings components wire = [] ↔
      (∀ node, component? components wire.source = some node →
        node.layout.hasHandle .source wire.sourceHandle = true) ∧
        ∀ node, component? components wire.target = some node →
          node.layout.hasHandle .target wire.targetHandle = true := by
  simp only [handleFindings, List.append_eq_nil_iff, Option.toList_eq_nil_iff,
    handleFinding_eq_none_iff]

theorem wireFinding_eq_none_iff {wire : Wire} :
    wireFinding components wire = none ↔
      ∀ source, component? components wire.source = some source →
        ∀ target, component? components wire.target = some target →
          Link.check ⟨source.station, target.station, wire.sourceHandle, wire.targetHandle⟩ =
            .ok () := by
  simp only [wireFinding, Option.bind_eq_none_iff]
  refine forall₄_congr fun source _ target _ => ?_
  split <;> simp_all

theorem forall_wires_iff_joins {p : Node → Node → Option String → Option String → Prop} :
    (∀ wire ∈ topology.wires, ∀ source, Describes topology wire.source source →
      ∀ target, Describes topology wire.target target →
        p source target wire.sourceHandle wire.targetHandle) ↔
      ∀ edge ∈ topology.edges, ∀ source target, Joins topology edge source target →
        p source target edge.sourceHandle edge.targetHandle := by
  rw [forall_wires_iff (p := fun a b sourceHandle targetHandle =>
    ∀ source, Describes topology a source → ∀ target, Describes topology b target →
      p source target sourceHandle targetHandle)]
  constructor
  · intro h edge he source target hj
    exact h edge he _ hj.source_described.id_mem _ hj.target_described.id_mem hj.source_id
      hj.target_id source hj.source_described target hj.target_described
  · intro h edge he a _ b _ ha hb source hs target ht
    obtain rfl := hs.id_eq
    obtain rfl := ht.id_eq
    exact h edge he source target ⟨ha, hb, hs, ht⟩

theorem connectionFindings_eq_nil_iff (hd : topology.ids.Nodup) :
    topology.connectionFindings = [] ↔
      ∀ edge ∈ topology.edges, ∀ source target, Joins topology edge source target →
        Link.check (linkOf edge source target) = .ok () := by
  simp only [connectionFindings_eq, List.filterMap_eq_nil_iff, wireFinding_eq_none_iff,
    component?_eq_some_iff_describes hd]
  exact forall_wires_iff_joins (p := fun source target sourceHandle targetHandle =>
    Link.check ⟨source.station, target.station, sourceHandle, targetHandle⟩ = .ok ())

theorem portFindings_eq_nil_iff (hd : topology.ids.Nodup)
    (hl : ∀ record ∈ topology.nodes, ∃ node, record.lower = .ok node) :
    topology.portFindings = [] ↔
      ∀ edge ∈ topology.edges, ∀ source target, Joins topology edge source target →
        source.layout.hasHandle .source edge.sourceHandle = true ∧
          target.layout.hasHandle .target edge.targetHandle = true := by
  rw [← forall_wires_iff_joins (p := fun source target sourceHandle targetHandle =>
    source.layout.hasHandle .source sourceHandle = true ∧
      target.layout.hasHandle .target targetHandle = true)]
  simp only [portFindings_eq, List.flatMap_eq_nil_iff, handleFindings_eq_nil_iff,
    component?_eq_some_iff_describes hd]
  refine forall₂_congr fun wire hw => ⟨fun h source hs target ht => ?_, fun h => ?_⟩
  · exact ⟨h.1 source hs, h.2 target ht⟩
  · obtain ⟨edge, _, hf⟩ := mem_wires_iff.mp hw
    obtain ⟨source, hs⟩ := exists_describes hl hf.source_mem
    obtain ⟨target, ht⟩ := exists_describes hl hf.target_mem
    exact ⟨fun node hn => (h node hn target ht).1, fun node hn => (h source hs node hn).2⟩

theorem dangling_eq_nil_iff :
    topology.dangling = [] ↔
      ∀ edge ∈ topology.edges,
        (∃ a ∈ topology.ids, edge.source = some a) ∧ ∃ b ∈ topology.ids, edge.target = some b := by
  rw [dangling_eq, List.map_eq_nil_iff, looseEnds_eq_nil_iff]

end Wires

section Report

variable (topology : Topology) (policy : Policy)

theorem isValid_iff_findings :
    (topology.report policy).isValid = true ↔
      topology.nodeFindings = [] ∧
        (topology.unassigned policy = [] ∧ topology.uncatalogued policy = []) ∧
        topology.dangling = [] ∧
        (policy.checkPorts = true → topology.portFindings = []) ∧
        (policy.recheckConnections = true → topology.connectionFindings = []) := by
  simp only [Report.isValid, report, List.isEmpty_iff, List.append_eq_nil_iff, ite_eq_right_iff]
  grind

variable {topology policy}

theorem admissible_of_isValid (h : (topology.report policy).isValid = true) :
    Admissible topology policy := by
  rw [isValid_iff_findings, nodeFindings_eq_nil_iff, elementFindings_eq_nil_iff,
    dangling_eq_nil_iff] at h
  obtain ⟨⟨hl, hd⟩, he, hj, hp, hc⟩ := h
  refine ⟨hl, hd, fun record hr node hn hk hx => ?_, hj, fun hcheck => ?_, fun hcheck => ?_⟩
  · refine he node (mem_typed_iff.mpr ⟨?_, hk, hx⟩)
    exact (mem_components_iff_describes hd).mpr ⟨record, hr, lower_id hn, hn⟩
  · exact (portFindings_eq_nil_iff hd hl).mp (hp hcheck)
  · exact (connectionFindings_eq_nil_iff hd).mp (hc hcheck)

theorem exists_joins (h : Admissible topology policy) {edge : EdgeRecord}
    (he : edge ∈ topology.edges) : ∃ source target, Joins topology edge source target := by
  obtain ⟨⟨a, ha, hs⟩, b, hb, ht⟩ := h.joined edge he
  obtain ⟨source, hsource⟩ := exists_describes h.described ha
  obtain ⟨target, htarget⟩ := exists_describes h.described hb
  obtain rfl := hsource.id_eq
  obtain rfl := htarget.id_eq
  exact ⟨source, target, hs, ht, hsource, htarget⟩

theorem isValid_of_admissible (h : Admissible topology policy) :
    (topology.report policy).isValid = true := by
  obtain ⟨hl, hd, ha, hj, hp, hc⟩ := h
  rw [isValid_iff_findings, nodeFindings_eq_nil_iff, elementFindings_eq_nil_iff,
    dangling_eq_nil_iff]
  refine ⟨⟨hl, hd⟩, fun node hn => ?_, hj, fun hcheck => ?_, fun hcheck => ?_⟩
  · obtain ⟨hm, hk, hx⟩ := mem_typed_iff.mp hn
    obtain ⟨record, hr, _, hlower⟩ := (mem_components_iff_describes hd).mp hm
    exact ha record hr node hlower hk hx
  · exact (portFindings_eq_nil_iff hd hl).mpr (hp hcheck)
  · exact (connectionFindings_eq_nil_iff hd).mpr (hc hcheck)

/-- Every pass skips only what another pass reports. -/
theorem isValid_iff_admissible (topology : Topology) (policy : Policy) :
    (topology.report policy).isValid = true ↔ Admissible topology policy :=
  ⟨admissible_of_isValid, isValid_of_admissible⟩

end Report

end LineTopology.Proofs.Admission
