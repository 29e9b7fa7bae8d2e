import LineTopology.Report

namespace LineTopology.Proofs.Passes

open LineTopology.Topology

variable {topology : Topology} {policy : Policy} {finding : Finding} {code : String}

section Codes

theorem nodeFindings_code (h : finding ∈ topology.nodeFindings) :
    finding.code = "G000" ∨ finding.code = "G004" := by
  obtain ⟨fate, _, hf⟩ := List.mem_filterMap.mp h
  cases fate with
  | kept node => cases hf
  | malformed record fault => cases hf; exact .inl rfl
  | duplicate node => cases hf; exact .inr rfl

theorem unassigned_code (h : finding ∈ topology.unassigned policy) : finding.code = "G001" := by
  obtain ⟨node, _, hf⟩ := List.mem_filterMap.mp h
  rw [elementMissing] at hf
  split at hf
  next => cases hf; rfl
  next => cases hf

theorem uncatalogued_code (h : finding ∈ topology.uncatalogued policy) : finding.code = "G002" := by
  obtain ⟨node, _, hf⟩ := List.mem_filterMap.mp h
  obtain ⟨element, _, he⟩ := Option.bind_eq_some_iff.mp hf
  split at he
  next => cases he
  next => cases he; rfl

theorem dangling_code (h : finding ∈ topology.dangling) : finding.code = "G003" := by
  obtain ⟨loose, _, rfl⟩ := List.mem_map.mp h
  rfl

theorem handleFinding_code {components : List Node} {position : Nat} {side : Side}
    {handle : Option String} {id : String}
    (h : handleFinding components position side handle id = some finding) :
    finding.code = "G005" := by
  obtain ⟨node, _, hf⟩ := Option.bind_eq_some_iff.mp h
  split at hf
  next => cases hf
  next => cases hf; rfl

theorem portFindings_code (h : finding ∈ topology.portFindings) : finding.code = "G005" := by
  obtain ⟨wire, _, hf⟩ := List.mem_flatMap.mp h
  rcases List.mem_append.mp hf with hs | ht
  · exact handleFinding_code (Option.mem_toList.mp hs)
  · exact handleFinding_code (Option.mem_toList.mp ht)

theorem wireFinding_code {components : List Node} {wire : Wire}
    (h : wireFinding components wire = some finding) : finding.code = "G006" := by
  obtain ⟨source, _, hs⟩ := Option.bind_eq_some_iff.mp h
  obtain ⟨target, _, ht⟩ := Option.bind_eq_some_iff.mp hs
  split at ht
  next => cases ht
  next => cases ht; rfl

theorem connectionFindings_code (h : finding ∈ topology.connectionFindings) :
    finding.code = "G006" := by
  obtain ⟨wire, _, hf⟩ := List.mem_filterMap.mp h
  exact wireFinding_code hf

end Codes

theorem filter_code_eq_nil {findings : List Finding} (h : ∀ f ∈ findings, f.code ≠ code) :
    findings.filter (·.code == code) = [] :=
  List.filter_eq_nil_iff.mpr fun f hf hc => h f hf (beq_iff_eq.mp hc)

theorem filter_codes_of_forall {findings : List Finding} {own : String}
    (h : ∀ f ∈ findings, f.code = own) (codes : List String) :
    (findings.filter fun f => codes.contains f.code) = if own ∈ codes then findings else [] := by
  split
  next hin =>
    refine List.filter_eq_self.mpr fun f hf => ?_
    rw [h f hf]
    exact List.contains_iff_mem.mpr hin
  next hout =>
    refine List.filter_eq_nil_iff.mpr fun f hf hc => hout ?_
    rw [← h f hf]
    exact List.contains_iff_mem.mp hc

theorem filter_elementFindings {p : Finding → Bool}
    (hp : ∀ f : Finding, f.code ≠ "G001" → f.code ≠ "G002" → p f = true) :
    (topology.report policy).findings.filter p =
      topology.nodeFindings ++ (topology.unassigned policy).filter p ++
        (topology.uncatalogued policy).filter p ++ topology.dangling ++
        (if policy.checkPorts then topology.portFindings else []) ++
        (if policy.recheckConnections then topology.connectionFindings else []) := by
  have hall {findings : List Finding}
      (h : ∀ f ∈ findings, f.code ≠ "G001" ∧ f.code ≠ "G002") : findings.filter p = findings :=
    List.filter_eq_self.mpr fun f hf => hp f (h f hf).1 (h f hf).2
  have hnode : topology.nodeFindings.filter p = topology.nodeFindings := by
    refine hall fun f hf => ?_
    rcases nodeFindings_code hf with h | h <;> rw [h] <;> decide
  have hdangling : topology.dangling.filter p = topology.dangling :=
    hall fun f hf => by rw [dangling_code hf]; decide
  have hports : topology.portFindings.filter p = topology.portFindings :=
    hall fun f hf => by rw [portFindings_code hf]; decide
  have hconnections : topology.connectionFindings.filter p = topology.connectionFindings :=
    hall fun f hf => by rw [connectionFindings_code hf]; decide
  simp only [report, List.filter_append, apply_ite (List.filter p), List.filter_nil, hnode,
    hdangling, hports, hconnections]

def found (topology : Topology) (policy : Policy) (codes : List String) : List Finding :=
  (topology.report policy).findings.filter fun finding => codes.contains finding.code

theorem found_code (topology : Topology) (policy : Policy) (code : String) :
    found topology policy [code] = (topology.report policy).findings.filter (·.code == code) := by
  simp only [found, List.contains_cons, List.contains_nil, Bool.or_false]

/-- Apart from the two codes of the pass over the records, every code has its own pass. -/
theorem found_eq (topology : Topology) (policy : Policy) (codes : List String) :
    found topology policy codes =
      (topology.nodeFindings.filter fun finding => codes.contains finding.code) ++
        (if "G001" ∈ codes then topology.unassigned policy else []) ++
        (if "G002" ∈ codes then topology.uncatalogued policy else []) ++
        (if "G003" ∈ codes then topology.dangling else []) ++
        (if policy.checkPorts then if "G005" ∈ codes then topology.portFindings else [] else []) ++
        (if policy.recheckConnections then
          if "G006" ∈ codes then topology.connectionFindings else [] else []) := by
  simp only [found, report, List.filter_append, apply_ite (List.filter _), List.filter_nil,
    filter_codes_of_forall (fun _ => unassigned_code),
    filter_codes_of_forall (fun _ => uncatalogued_code),
    filter_codes_of_forall (fun _ => dangling_code),
    filter_codes_of_forall (fun _ => portFindings_code),
    filter_codes_of_forall (fun _ => connectionFindings_code)]

theorem findings_by_code (topology : Topology) (policy : Policy) (code : String) :
    (topology.report policy).findings.filter (·.code == code) =
      topology.nodeFindings.filter (·.code == code) ++
        (if "G001" = code then topology.unassigned policy else []) ++
        (if "G002" = code then topology.uncatalogued policy else []) ++
        (if "G003" = code then topology.dangling else []) ++
        (if policy.checkPorts then if "G005" = code then topology.portFindings else [] else []) ++
        (if policy.recheckConnections then
          if "G006" = code then topology.connectionFindings else [] else []) := by
  rw [← found_code, found_eq]
  simp only [List.contains_cons, List.contains_nil, Bool.or_false, List.mem_singleton]

theorem findings_of_code (hnode : code ≠ "G000" ∧ code ≠ "G004") :
    (topology.report policy).findings.filter (·.code == code) =
      (if "G001" = code then topology.unassigned policy else []) ++
        (if "G002" = code then topology.uncatalogued policy else []) ++
        (if "G003" = code then topology.dangling else []) ++
        (if policy.checkPorts then if "G005" = code then topology.portFindings else [] else []) ++
        (if policy.recheckConnections then
          if "G006" = code then topology.connectionFindings else [] else []) := by
  have hrecords : topology.nodeFindings.filter (·.code == code) = [] := by
    refine filter_code_eq_nil fun f hf hc => ?_
    rcases nodeFindings_code hf with h | h
    · exact hnode.1 (hc.symm.trans h)
    · exact hnode.2 (hc.symm.trans h)
  rw [findings_by_code, hrecords, List.nil_append]

theorem records_of_report (topology : Topology) (policy : Policy)
    (h : code = "G000" ∨ code = "G004") :
    (topology.report policy).findings.filter (·.code == code) =
      topology.nodeFindings.filter (·.code == code) := by
  rw [findings_by_code]
  rcases h with rfl | rfl
  · simp
  · simp

theorem unassigned_of_report (topology : Topology) (policy : Policy) :
    (topology.report policy).findings.filter (·.code == "G001") = topology.unassigned policy := by
  rw [findings_of_code (by decide)]
  simp

theorem uncatalogued_of_report (topology : Topology) (policy : Policy) :
    (topology.report policy).findings.filter (·.code == "G002") = topology.uncatalogued policy := by
  rw [findings_of_code (by decide)]
  simp

theorem dangling_of_report (policy : Policy) :
    (topology.report policy).findings.filter (·.code == "G003") = topology.dangling := by
  rw [findings_of_code (by decide)]
  simp

theorem ports_of_report (topology : Topology) (policy : Policy) :
    (topology.report policy).findings.filter (·.code == "G005") =
      if policy.checkPorts then topology.portFindings else [] := by
  rw [findings_of_code (by decide)]
  simp

theorem connections_of_report (topology : Topology) (policy : Policy) :
    (topology.report policy).findings.filter (·.code == "G006") =
      if policy.recheckConnections then topology.connectionFindings else [] := by
  rw [findings_of_code (by decide)]
  simp

theorem refusals_of_report (h : policy.recheckConnections = true) :
    (topology.report policy).findings.filter (·.code == "G006") = topology.connectionFindings := by
  rw [connections_of_report, if_pos h]

end LineTopology.Proofs.Passes
