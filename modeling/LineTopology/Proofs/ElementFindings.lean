import LineTopology.Proofs.Admission
import LineTopology.Proofs.DeclaredElement
import LineTopology.Proofs.RecordFates

namespace LineTopology.Proofs.ElementFindings

open LineTopology.Topology Lowering Admission Passes Positions RecordFates DeclaredElement

/-- The record at the position is kept, and the component that it describes is of a kind that has
to declare an element. -/
structure Owes (topology : Topology) (policy : Policy) (position : Nat) (record : NodeRecord)
    (node : Node) : Prop where
  record_at : topology.nodes[position]? = some record
  described : record.lower = .ok node
  first : ¬ Taken (topology.nodes.take position) node.id
  plain : node.kind ≠ .transformer
  held : node.kind ∉ policy.exemptKinds

def Missing (topology : Topology) (policy : Policy) (position : Nat) (finding : Finding) : Prop :=
  ∃ record node params, Owes topology policy position record node ∧
    record.members? = some params ∧ Undeclared params ∧ finding = .noElement node

def Unknown (topology : Topology) (policy : Policy) (position : Nat) (finding : Finding) : Prop :=
  ∃ record node params element, Owes topology policy position record node ∧
    record.members? = some params ∧ Declares params element ∧ ¬ Catalogued topology element ∧
      finding = .unknownElement node element

variable {topology : Topology} {policy : Policy} {position : Nat} {record : NodeRecord}
  {node : Node} {finding : Finding}

section Debts

theorem Owes.kept (h : Owes topology policy position record node) :
    BefallsAt topology position (.kept node) :=
  ⟨record, h.record_at, .kept node h.described h.first⟩

theorem Owes.element?_eq (h : Owes topology policy position record node) :
    ∃ params, record.members? = some params ∧ node.element? = Parameters.element? params := by
  obtain ⟨_, _, params, _, _, _, hparams, hstation⟩ := lower_ok_iff.mp h.described
  exact ⟨params, hparams, station_element hstation h.plain⟩

theorem Owes.undeclared_iff (h : Owes topology policy position record node) :
    node.element? = none ↔ ∃ params, record.members? = some params ∧ Undeclared params := by
  obtain ⟨params, hparams, helement⟩ := h.element?_eq
  simp only [helement, hparams, element?_eq_none_iff, Option.some_inj, exists_eq_left']

theorem Owes.declares_iff (h : Owes topology policy position record node) {element : String} :
    node.element? = some element ↔
      ∃ params, record.members? = some params ∧ Declares params element := by
  obtain ⟨params, hparams, helement⟩ := h.element?_eq
  simp only [helement, hparams, element?_eq_some_iff, Option.some_inj, exists_eq_left']

theorem typed_inOrder (topology : Topology) (policy : Policy) :
    InOrder (fun position node => ∃ record, Owes topology policy position record node)
      (topology.typed policy) := by
  apply ((components_inOrder topology).filter _).congr
  intro position node
  simp only [Policy.isExempt, Bool.not_eq_true', Bool.or_eq_false_iff, beq_eq_false_iff_ne,
    ← Bool.not_eq_true (List.contains _ _), List.contains_iff_mem]
  constructor
  · rintro ⟨⟨record, hrecord, hfate⟩, hplain, hheld⟩
    cases hfate with
    | kept _ hl ht => exact ⟨record, hrecord, hl, ht, hplain, hheld⟩
  · rintro ⟨record, h⟩
    exact ⟨h.kept, h.plain, h.held⟩

theorem elementMissing_eq_some_iff :
    elementMissing node = some finding ↔ node.element? = none ∧ finding = .noElement node := by
  rw [elementMissing, Option.ite_none_right_eq_some, Option.isNone_iff_eq_none, Option.some_inj,
    eq_comm (a := finding)]

theorem elementUnknown_eq_some_iff :
    elementUnknown topology.catalog node = some finding ↔
      ∃ element, node.element? = some element ∧ ¬ Catalogued topology element ∧
        finding = .unknownElement node element := by
  simp only [elementUnknown, Option.bind_eq_some_iff, Option.ite_none_left_eq_some,
    catalog_contains_iff, Option.some_inj, eq_comm (a := finding)]

theorem missing_inOrder (topology : Topology) (policy : Policy) :
    InOrder (Missing topology policy)
      ((topology.report policy).findings.filter (·.code == "G001")) := by
  rw [unassigned_of_report, unassigned]
  apply ((typed_inOrder topology policy).filterMap _).congr
  intro position finding
  constructor
  · rintro ⟨node, ⟨record, h⟩, hf⟩
    obtain ⟨hnone, rfl⟩ := elementMissing_eq_some_iff.mp hf
    obtain ⟨params, hparams, hundeclared⟩ := h.undeclared_iff.mp hnone
    exact ⟨record, node, params, h, hparams, hundeclared, rfl⟩
  · rintro ⟨record, node, params, h, hparams, hundeclared, rfl⟩
    have hnone := h.undeclared_iff.mpr ⟨params, hparams, hundeclared⟩
    exact ⟨node, ⟨record, h⟩, elementMissing_eq_some_iff.mpr ⟨hnone, rfl⟩⟩

theorem unknown_inOrder (topology : Topology) (policy : Policy) :
    InOrder (Unknown topology policy)
      ((topology.report policy).findings.filter (·.code == "G002")) := by
  rw [uncatalogued_of_report, uncatalogued]
  apply ((typed_inOrder topology policy).filterMap _).congr
  intro position finding
  constructor
  · rintro ⟨node, ⟨record, h⟩, hf⟩
    obtain ⟨element, hsome, hc, rfl⟩ := elementUnknown_eq_some_iff.mp hf
    obtain ⟨params, hparams, hdeclares⟩ := h.declares_iff.mp hsome
    exact ⟨record, node, params, element, h, hparams, hdeclares, hc, rfl⟩
  · rintro ⟨record, node, params, element, h, hparams, hdeclares, hc, rfl⟩
    have hsome := h.declares_iff.mpr ⟨params, hparams, hdeclares⟩
    exact ⟨node, ⟨record, h⟩, elementUnknown_eq_some_iff.mpr ⟨element, hsome, hc, rfl⟩⟩

end Debts

section Apart

variable {other : Finding} {i j : Nat}

theorem missing_unknown_apart (hm : Missing topology policy i finding)
    (hu : Unknown topology policy j other) : finding.nodeId? ≠ other.nodeId? := by
  obtain ⟨record, node, params, h, hparams, hundeclared, rfl⟩ := hm
  obtain ⟨_, second, given, element, ho, hgiven, hdeclares, _, rfl⟩ := hu
  intro hid
  have hid : node.id = second.id := Option.some_inj.mp hid
  rcases Nat.lt_trichotomy i j with hlt | rfl | hgt
  · exact kept_apart hlt h.kept ho.kept hid
  · obtain rfl := Option.some_inj.mp (h.record_at.symm.trans ho.record_at)
    obtain rfl := Option.some_inj.mp (hparams.symm.trans hgiven)
    rw [← element?_eq_none_iff] at hundeclared
    rw [← element?_eq_some_iff, hundeclared] at hdeclares
    cases hdeclares
  · exact kept_apart hgt ho.kept h.kept hid.symm

theorem attached (hf : Missing topology policy i finding ∨ Unknown topology policy i finding) :
    ∃ node, BefallsAt topology i (.kept node) ∧ finding.node? = some node := by
  rcases hf with ⟨_, node, _, h, _, _, rfl⟩ | ⟨_, node, _, _, h, _, _, _, rfl⟩
  · exact ⟨node, h.kept, rfl⟩
  · exact ⟨node, h.kept, rfl⟩

theorem not_found_of_dropped {fate : Fate} (hfate : BefallsAt topology i fate)
    (hdropped : fate.kept? = none) :
    ¬ (Missing topology policy i finding ∨ Unknown topology policy i finding) := by
  intro hf
  obtain ⟨node, hkept, _⟩ := attached hf
  rw [befallsAt_unique hfate hkept] at hdropped
  cases hdropped

end Apart

/-- What the report says about the elements of the components: all that is to be said, in the order
of the records, of no component twice, of none but the kept ones, and whatever the edges are. -/
structure Tells (topology : Topology) (policy : Policy) : Prop where
  missing : InOrder (Missing topology policy)
    ((topology.report policy).findings.filter (·.code == "G001"))
  unknown : InOrder (Unknown topology policy)
    ((topology.report policy).findings.filter (·.code == "G002"))
  named : ∀ position finding, Unknown topology policy position finding →
    ∃ node element, finding.node? = some node ∧ node.element? = some element ∧
      finding.missing? = some [element]
  apart : ∀ i j finding other, Missing topology policy i finding →
    Unknown topology policy j other → finding.nodeId? ≠ other.nodeId?
  kept : ∀ position finding,
    Missing topology policy position finding ∨ Unknown topology policy position finding →
      ∃ node, BefallsAt topology position (.kept node) ∧ finding.node? = some node
  dropped : ∀ position fate, BefallsAt topology position fate → fate.kept? = none →
    ∀ finding, ¬ (Missing topology policy position finding ∨
      Unknown topology policy position finding)
  edgeless : ∀ edges code, code = "G001" ∨ code = "G002" →
    ((⟨topology.nodes, edges, topology.elements⟩ : Topology).report policy).findings.filter
        (·.code == code) =
      (topology.report policy).findings.filter (·.code == code)

/-- Of the kept components that have to declare an element, those that declare none are found
without one, and those that declare one that is not catalogued are found with an unknown one. -/
theorem element_findings_exact (topology : Topology) (policy : Policy) : Tells topology policy := by
  constructor
  case missing => exact missing_inOrder topology policy
  case unknown => exact unknown_inOrder topology policy
  case named =>
    rintro position finding ⟨record, node, params, element, h, hparams, hdeclares, _, rfl⟩
    exact ⟨node, element, rfl, h.declares_iff.mpr ⟨params, hparams, hdeclares⟩, rfl⟩
  case apart =>
    intro i j finding other
    exact missing_unknown_apart
  case kept =>
    intro position finding
    exact attached
  case dropped =>
    intro position fate hfate hdropped finding
    exact not_found_of_dropped hfate hdropped
  case edgeless =>
    rintro edges code (rfl | rfl)
    · rw [unassigned_of_report, unassigned_of_report]
      rfl
    · rw [uncatalogued_of_report, uncatalogued_of_report]
      rfl

end LineTopology.Proofs.ElementFindings
