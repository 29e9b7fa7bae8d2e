import LineTopology.Proofs.Passes

namespace LineTopology.Proofs.PolicyLaws

open LineTopology.Topology Passes

variable {topology : Topology} {policy : Policy} {kind other : Kind} {node : Node}
  {finding : Finding}

theorem kind_mem_all (kind : Kind) : kind ∈ Kind.all := by
  cases kind <;> decide

theorem name_inj : kind.name = other.name ↔ kind = other := by
  constructor
  · cases kind <;> cases other <;> decide
  · exact congrArg Kind.name

theorem name_beq : (other.name == kind.name) = (other == kind) := by
  rw [Bool.eq_iff_iff, beq_iff_eq, beq_iff_eq, name_inj]

theorem mem_ordered_iff {kinds : List Kind} : kind ∈ Policy.ordered kinds ↔ kind ∈ kinds := by
  simp [Policy.ordered, kind_mem_all]

theorem isExempt_exempt :
    (policy.exempt kind).isExempt other = (policy.isExempt other || other == kind) := by
  rw [Bool.eq_iff_iff]
  simp only [Policy.isExempt, Policy.exempt, Bool.or_eq_true, beq_iff_eq, List.contains_iff_mem,
    mem_ordered_iff, List.mem_cons]
  rw [or_assoc, or_comm (a := other = kind)]

def isAboutElementOf (kind : Kind) (finding : Finding) : Bool :=
  (finding.code == "G001" || finding.code == "G002") && finding.nodeType? == some kind.name

section Exemptions

theorem typed_exempt :
    topology.typed (policy.exempt kind) = (topology.typed policy).filter (·.kind != kind) := by
  rw [typed, typed, List.filter_filter]
  refine List.filter_congr fun node _ => ?_
  rw [isExempt_exempt]
  cases policy.isExempt node.kind <;> cases h : node.kind == kind <;> simp_all

theorem elementMissing_about (h : elementMissing node = some finding) :
    isAboutElementOf kind finding = (node.kind == kind) := by
  rw [elementMissing] at h
  split at h
  next =>
    cases h
    simp [isAboutElementOf, Finding.code, Finding.nodeType?, Finding.node?, name_beq]
  next => cases h

theorem elementUnknown_about {catalog : Catalog} (h : elementUnknown catalog node = some finding) :
    isAboutElementOf kind finding = (node.kind == kind) := by
  obtain ⟨element, _, he⟩ := Option.bind_eq_some_iff.mp h
  split at he
  next => cases he
  next =>
    cases he
    simp [isAboutElementOf, Finding.code, Finding.nodeType?, Finding.node?, name_beq]

theorem filterMap_filter_kind {check : Node → Option Finding}
    (h : ∀ node finding, check node = some finding →
      isAboutElementOf kind finding = (node.kind == kind)) (nodes : List Node) :
    (nodes.filter (·.kind != kind)).filterMap check =
      (nodes.filterMap check).filter (!isAboutElementOf kind ·) := by
  induction nodes with
  | nil => rfl
  | cons node nodes ih =>
      rw [List.filter_cons, List.filterMap_cons]
      cases hcheck : check node with
      | none =>
          split
          next => rw [List.filterMap_cons_none hcheck, ih]
          next => exact ih
      | some finding =>
          have habout := h node finding hcheck
          by_cases hkind : node.kind = kind
          · simp [hkind, habout, ih]
          · simp [hkind, habout, hcheck, ih]

theorem findings_exempt (topology : Topology) (policy : Policy) (kind : Kind) :
    (topology.report (policy.exempt kind)).findings =
      (topology.report policy).findings.filter (!isAboutElementOf kind ·) := by
  have hunassigned : topology.unassigned (policy.exempt kind) =
      (topology.unassigned policy).filter (!isAboutElementOf kind ·) := by
    rw [unassigned, typed_exempt]
    exact filterMap_filter_kind (fun _ _ => elementMissing_about) _
  have huncatalogued : topology.uncatalogued (policy.exempt kind) =
      (topology.uncatalogued policy).filter (!isAboutElementOf kind ·) := by
    rw [uncatalogued, typed_exempt]
    exact filterMap_filter_kind (fun _ _ => elementUnknown_about) _
  have hother (f : Finding) (hmissing : f.code ≠ "G001") (hunknown : f.code ≠ "G002") :
      (!isAboutElementOf kind f) = true := by
    simp [isAboutElementOf, hmissing, hunknown]
  rw [filter_elementFindings hother, ← hunassigned, ← huncatalogued]
  rfl

theorem typed_exempt_transformer :
    topology.typed (policy.exempt .transformer) = topology.typed policy := by
  rw [typed_exempt, List.filter_eq_self]
  intro node hn
  obtain ⟨_, hexempt⟩ := List.mem_filter.mp hn
  simp [Policy.isExempt] at hexempt
  simpa using hexempt.1

end Exemptions

section Blocks

theorem plain_code {kinds : List Kind}
    (h : finding ∈ (topology.report ⟨kinds, false, false⟩).findings) :
    finding.code ≠ "G005" ∧ finding.code ≠ "G006" := by
  have hmem : finding ∈ topology.nodeFindings ++ topology.unassigned ⟨kinds, false, false⟩ ++
      topology.uncatalogued ⟨kinds, false, false⟩ ++ topology.dangling := by
    simpa [report] using h
  rcases List.mem_append.mp hmem with hmem | hf
  · rcases List.mem_append.mp hmem with hmem | hf
    · rcases List.mem_append.mp hmem with hf | hf
      · rcases nodeFindings_code hf with h | h <;> rw [h] <;> decide
      · rw [unassigned_code hf]
        decide
    · rw [uncatalogued_code hf]
      decide
  · rw [dangling_code hf]
    decide

theorem findings_eq_append (topology : Topology) (kinds : List Kind) (ports connections : Bool) :
    (topology.report ⟨kinds, ports, connections⟩).findings =
      (topology.report ⟨kinds, false, false⟩).findings ++
        (if ports then topology.portFindings else []) ++
        (if connections then topology.connectionFindings else []) := by
  have htyped : topology.typed ⟨kinds, ports, connections⟩ =
      topology.typed ⟨kinds, false, false⟩ := rfl
  simp [report, unassigned, uncatalogued, htyped]

end Blocks

/-- What one option adds to a policy shows in its own findings only, and the same findings whatever
the other options are. -/
theorem options_act_apart (topology : Topology) :
    (∀ policy kind, (topology.report (policy.exempt kind)).findings =
      (topology.report policy).findings.filter (!isAboutElementOf kind ·)) ∧
    (∀ policy, (topology.report (policy.exempt .transformer)).findings =
      (topology.report policy).findings) ∧
    ∃ portBlock connectionBlock : List Finding,
      (∀ f ∈ portBlock, f.code = "G005") ∧ (∀ f ∈ connectionBlock, f.code = "G006") ∧
      ∀ kinds, (∀ f ∈ (topology.report ⟨kinds, false, false⟩).findings,
          f.code ≠ "G005" ∧ f.code ≠ "G006") ∧
        ∀ ports connections, (topology.report ⟨kinds, ports, connections⟩).findings =
          (topology.report ⟨kinds, false, false⟩).findings ++
            (if ports then portBlock else []) ++
            (if connections then connectionBlock else []) := by
  refine ⟨findings_exempt topology, fun policy => ?_, topology.portFindings,
    topology.connectionFindings, fun f => portFindings_code, fun f => connectionFindings_code,
    fun kinds => ⟨fun f => plain_code, findings_eq_append topology kinds⟩⟩
  have htyped : topology.typed (policy.exempt .transformer) = topology.typed policy :=
    typed_exempt_transformer
  simp only [report, unassigned, uncatalogued, htyped]
  rfl

end LineTopology.Proofs.PolicyLaws
