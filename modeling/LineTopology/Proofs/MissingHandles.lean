import LineTopology.Proofs.LoweringFaults
import LineTopology.Proofs.PortFindings
import LineTopology.Proofs.Recipes

namespace LineTopology.Proofs.MissingHandles

open LineTopology.Topology Dictionary Text Answers Entries Lowering Decimals Components GraphIndex
  Passes PortFindings ParameterReadings LoweringFaults Recipes

def AsksForHandle (finding : Finding) : Prop :=
  finding.code = "G005" ∧ ∃ position side id, finding.message =
    Finding.edgeName position ++ " needs a " ++ Side.name side ++ " handle: node " ++ id ++
      " has several ports on that side"

def countKey : Side → String
  | .source => "salidas"
  | .target => "entradas"

/-- No port is counted under the key, which is not the same as no count. -/
def CountsNone (params : List (String × Json)) (key : String) : Prop :=
  ∃ value, find? key params = some value ∧ Counts value 0

/-- The parameters leave a component of the kind no port on the side: the kind has none there, they
count none, or they name none. -/
def Portless (params : List (String × Json)) : Kind → Side → Prop
  | .generator, .target | .output, .source => True
  | .generator, .source | .transporter, _ => False
  | .queue, side | .selector, side => CountsNone params (countKey side)
  | .output, .target => CountsNone params (countKey .target)
  | .transformer, side => listed params side = [] ∧ ∀ handle, mapped? params handle = none

section Messages

variable {i j position : Nat} {s t : String} {side : Side} {handle : Option String} {node : Node}

theorem edgeName_append_inj (h : Finding.edgeName i ++ s = Finding.edgeName j ++ t) : s = t := by
  have hchars (k : Nat) (r : String) :
      ((Finding.edgeName k ++ r).toList.drop 5).dropWhile isDigit = ']' :: r.toList := by
    have hsplit : (Finding.edgeName k ++ r).toList.drop 5 = decimal k ++ ']' :: r.toList := by
      simp [Finding.edgeName]
    rw [hsplit]
    exact dropWhile_decimal fun c hc => Option.some_inj.mp hc ▸ rfl
  have hrest := congrArg (fun text => (text.toList.drop 5).dropWhile isDigit) h
  rw [hchars, hchars, List.cons.injEq] at hrest
  exact String.toList_inj.mp hrest.2

theorem noPort_asks_iff :
    AsksForHandle (.noPort position side handle node) ↔ handle = none := by
  constructor
  · rintro ⟨-, i, other, id, h⟩
    cases handle with
    | none => rfl
    | some name =>
        simp only [Finding.message, String.append_assoc] at h
        have hrest := String.toList_inj.mpr (edgeName_append_inj h)
        cases side <;> simp [Side.name] at hrest
  · rintro rfl
    exact ⟨rfl, position, side, node.id, rfl⟩

end Messages

section Sides

variable {record : NodeRecord} {node : Node} {t : Transformer} {params : List (String × Json)}
  {key : String} {side : Side} {n : Nat}

theorem portCountAt_zero_iff (h : Parameters.portCountAt key params = .ok n) :
    n = 0 ↔ CountsNone params key := by
  rw [Parameters.portCountAt] at h
  rw [CountsNone]
  cases hvalue : find? key params with
  | none =>
      rw [hvalue] at h
      cases h
      simp
  | some value =>
      rw [hvalue] at h
      simp only [Option.some_inj, exists_eq_left', ← portCount_ok_iff]
      constructor
      · rintro rfl
        exact h
      · intro hzero
        exact Except.ok.inj (h.symm.trans hzero)

theorem ports_eq_nil_iff (hl : record.lower = .ok node) (ht : node.station = .transformer t)
    (hp : record.members? = some params) :
    t.ports side = [] ↔ listed params side = [] ∧ ∀ handle, mapped? params handle = none := by
  obtain ⟨_, _, _, rfl, hlisted, _, hmapped⟩ := lower_transformer hl ht hp
  simp only [List.eq_nil_iff_forall_not_mem, mem_ports_transformer, hlisted, ← hmapped,
    ← find?_eq_none_iff, not_or, forall_and]

theorem station_size_iff {kind : Kind} {station : Station}
    (h : Parameters.station kind params = .ok station) (hk : kind ≠ .transformer) (side : Side) :
    (station.layout.side side).size = 0 ↔ Portless params kind side := by
  cases kind with
  | generator =>
      cases h
      cases side with
      | source => exact ⟨fun hsize => (nomatch hsize), False.elim⟩
      | target => exact ⟨fun _ => trivial, fun _ => rfl⟩
  | transporter =>
      cases h
      cases side <;> exact ⟨fun hsize => (nomatch hsize), False.elim⟩
  | queue | selector =>
      simp only [Parameters.station, bind_ok_iff, pure, Except.pure, Except.ok.injEq] at h
      obtain ⟨inputs, hinputs, outputs, houtputs, rfl⟩ := h
      cases side with
      | source => exact portCountAt_zero_iff houtputs
      | target => exact portCountAt_zero_iff hinputs
  | output =>
      simp only [Parameters.station, bind_ok_iff, pure, Except.pure, Except.ok.injEq] at h
      obtain ⟨inputs, hinputs, rfl⟩ := h
      cases side with
      | source => exact ⟨fun _ => trivial, fun _ => rfl⟩
      | target => exact portCountAt_zero_iff hinputs
  | transformer => exact absurd rfl hk

theorem size_eq_zero_iff (hl : record.lower = .ok node) (hp : record.members? = some params)
    (side : Side) : (node.layout.side side).size = 0 ↔ Portless params node.kind side := by
  by_cases hk : node.kind = .transformer
  · obtain ⟨t, ht⟩ := LinkFaults.exists_transformer hk
    have hports : (node.layout.side side).size = (t.ports side).length := by
      rw [Node.layout, ht, HandleMap.transformer_side]
      rfl
    rw [hports, List.length_eq_zero_iff, ports_eq_nil_iff hl ht hp, hk, Portless]
  · obtain ⟨_, kind, given, _, _, _, hgiven, hstation⟩ := lower_ok_iff.mp hl
    obtain rfl := Option.some_inj.mp (hp.symm.trans hgiven)
    have hkind : node.kind = kind := station_kind hstation
    rw [hkind] at hk ⊢
    exact station_size_iff hstation hk side

end Sides

section Report

variable {topology : Topology} {policy : Policy} {finding : Finding} {position : Nat} {side : Side}
  {edge : EdgeRecord} {node : Node}

theorem asked_iff (hp : policy.checkPorts = true) :
    (finding ∈ (topology.report policy).findings ∧ AsksForHandle finding) ↔
      ∃ position side edge node, Misses topology position side edge node ∧
        handleAt edge side = none ∧ finding = .noPort position side none node := by
  have hports : (topology.report policy).findings.filter (·.code == "G005") =
      topology.portFindings := by
    rw [ports_of_report, if_pos hp]
  have hmem : finding ∈ topology.portFindings ↔
      finding ∈ (topology.report policy).findings ∧ finding.code = "G005" := by
    rw [← hports, List.mem_filter, beq_iff_eq]
  constructor
  · rintro ⟨hf, hasks⟩
    obtain ⟨position, side, edge, node, hmisses, rfl⟩ :=
      mem_portFindings_iff.mp (hmem.mpr ⟨hf, hasks.1⟩)
    have hnone := noPort_asks_iff.mp hasks
    exact ⟨position, side, edge, node, hmisses, hnone, by rw [hnone]⟩
  · rintro ⟨position, side, edge, node, hmisses, hnone, rfl⟩
    have hf := mem_portFindings_iff.mpr ⟨position, side, edge, node, hmisses, by rw [hnone]⟩
    exact ⟨(hmem.mp hf).1, noPort_asks_iff.mpr rfl⟩

/-- An absent handle is refused where a side has no port and where it has several. -/
theorem size_ne_one (h : Misses topology position side edge node)
    (hnone : handleAt edge side = none) : (node.layout.side side).size ≠ 1 := by
  have hrefused := h.refused
  rw [hnone] at hrefused
  exact ne_of_beq_false hrefused

theorem exists_description (h : Misses topology position side edge node) :
    ∃ record ∈ topology.nodes, ∃ params, record.lower = .ok node ∧
      record.members? = some params := by
  obtain ⟨id, _, hfirst⟩ := h.described
  obtain ⟨record, hrecord, hl⟩ := mem_described_iff.mp (List.mem_of_find?_eq_some hfirst)
  obtain ⟨_, _, params, _, _, _, hparams, _⟩ := lower_ok_iff.mp hl
  exact ⟨record, hrecord, params, hl, hparams⟩

end Report

/-- A handle is asked for at each end of an edge where it is absent and the component has other than
one port there. The reason that it has several is right unless it has none. -/
theorem missing_handles_explained (topology : Topology) (policy : Policy)
    (hp : policy.checkPorts = true) :
    (∀ finding, (finding ∈ (topology.report policy).findings ∧ AsksForHandle finding) ↔
        ∃ position side edge node, Misses topology position side edge node ∧
          handleAt edge side = none ∧ finding = .noPort position side none node) ∧
      ∀ position side edge node, Misses topology position side edge node →
        handleAt edge side = none →
          ∃ record ∈ topology.nodes, ∃ params, record.lower = .ok node ∧ Gives record params ∧
            ((node.layout.side side).size = 0 ↔ Portless params node.kind side) ∧
            (2 ≤ (node.layout.side side).size ↔ ¬ Portless params node.kind side) := by
  refine ⟨fun finding => asked_iff hp, fun position side edge node hmisses hnone => ?_⟩
  obtain ⟨record, hrecord, params, hl, hparams⟩ := exists_description hmisses
  have hzero := size_eq_zero_iff hl hparams side
  have hone := size_ne_one hmisses hnone
  refine ⟨record, hrecord, params, hl, members?_eq_some_iff.mp hparams, hzero, ?_⟩
  rw [← hzero]
  omega

def binRecord (ways : Nat) : NodeRecord :=
  ⟨some "bin", some "queue", .object [("elemento", .string "nut"), ("salidas", .ofNat ways)]⟩

def bin (ways : Nat) : Node := ⟨"bin", .queue (some "nut") 1 ways⟩

def bare : EdgeRecord := ⟨none, some "bin", some "belt", none, none⟩

def hall (ways : Nat) : Topology :=
  { nodes :=
      [binRecord ways, ⟨some "belt", some "transporter", .object [("elemento", .string "nut")]⟩]
    edges := [bare]
    elements := [⟨none, some "nut", none⟩] }

theorem two_ways_asked_for :
    Misses (hall 2) 0 .source bare (bin 2) ∧ handleAt bare .source = none ∧
      (Finding.noPort 0 .source none (bin 2) ∈
        ((hall 2).report Policy.standard.withPortChecks).findings ∧
          AsksForHandle (.noPort 0 .source none (bin 2))) ∧
      ∃ record ∈ (hall 2).nodes, ∃ params, record.lower = .ok (bin 2) ∧ Gives record params ∧
        ¬ Portless params .queue .source := by
  have hbin : first? (hall 2).nodes "bin" = some (bin 2) := by rfl
  have hmisses : Misses (hall 2) 0 .source bare (bin 2) :=
    { edge_at := rfl
      source_known := ⟨"bin", by simp [ids, hall, binRecord], rfl⟩
      target_known := ⟨"belt", by simp [ids, hall, binRecord], rfl⟩
      described := ⟨"bin", rfl, hbin⟩
      refused := by rfl }
  obtain ⟨hasked, hreason⟩ := missing_handles_explained (hall 2) Policy.standard.withPortChecks rfl
  obtain ⟨record, hrecord, params, hl, hgives, _, hseveral⟩ := hreason _ _ _ _ hmisses rfl
  exact ⟨hmisses, rfl, (hasked _).mpr ⟨_, _, _, _, hmisses, rfl, rfl⟩, record, hrecord, params, hl,
    hgives, hseveral.mp (Nat.le_refl 2)⟩

/-- The reason is given for a bin without any way out, too. -/
theorem no_way_said_to_be_several :
    ((hall 0).report Policy.standard.withPortChecks).findings = [.noPort 0 .source none (bin 0)] ∧
      (Finding.noPort 0 .source none (bin 0)).message =
        "Edge[0] needs a source handle: node bin has several ports on that side" ∧
      ((bin 0).layout.side .source).size = 0 := by
  have hfindings : ((hall 0).report Policy.standard.withPortChecks).findings =
      [.noPort 0 .source none (bin 0)] := by
    rw [report, dangling_eq, portFindings_eq]
    rfl
  have hmessage : (Finding.noPort 0 .source none (bin 0)).message =
      "Edge[0] needs a source handle: node bin has several ports on that side" := by decide
  exact ⟨hfindings, hmessage, rfl⟩

end LineTopology.Proofs.MissingHandles
