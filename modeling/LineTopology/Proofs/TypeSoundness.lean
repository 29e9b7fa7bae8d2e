import LineTopology.Proofs.Admission
import LineTopology.Proofs.HandleMap
import LineTopology.Proofs.LinkVerdict

namespace LineTopology.Proofs.TypeSoundness

open PartnerTables LinkFaults LinkRules LinkVerdict HandleMap Components GraphIndex Admission

/-- The element goes through the end of an edge: it is the one of the component, or a transformer
maps the handle to it; a transformer with one port on the side needs no handle. -/
def Carries (node : Node) (side : Side) (handle : Option String) (element : String) : Prop :=
  match node.station with
  | .transformer t =>
      (handle = none ∧ (node.layout.side side).size = 1) ∨
        ∃ h, handle = some h ∧ (node.layout.side side).contains h = true ∧
          t.element? side (some h) = some element
  | _ => node.element? = some element

variable {topology : Topology} {policy : Policy} {node : Node} {side : Side}
  {handle : Option String} {element : String}

theorem carries_of_ne_transformer (hn : node.kind ≠ .transformer)
    (he : node.element? = some element) : Carries node side handle element := by
  obtain ⟨id, station⟩ := node
  cases station with
  | transformer t => exact absurd rfl hn
  | generator | queue | transporter | output | selector => exact he

theorem carries_of_hasHandle {t : Transformer} (ht : node.station = .transformer t)
    (hc : Covered t) (hp : node.layout.hasHandle side handle = true)
    (ha : Unmapped node.station side handle ∨ node.station.carried? side handle = some element) :
    Carries node side handle element := by
  obtain ⟨id, station⟩ := node
  subst ht
  cases handle with
  | none => exact .inl ⟨rfl, by simpa [Layout.hasHandle] using hp⟩
  | some h =>
      have hmapped := element_isSome_of_contains hc hp
      exact .inr ⟨h, rfl, hp, ha.resolve_left (not_unmapped_of_isSome hmapped)⟩

theorem carries_of_agreement (hd : Describes topology node.id node)
    (hp : node.layout.hasHandle side handle = true)
    (ha : Unmapped node.station side handle ∨ node.station.carried? side handle = some element) :
    Carries node side handle element := by
  by_cases hk : node.kind = .transformer
  · obtain ⟨t, ht⟩ := exists_transformer hk
    obtain ⟨record, _, _, hl⟩ := hd
    exact carries_of_hasHandle ht (lower_covered hl ht) hp ha
  · have he := ha.resolve_left (not_unmapped hk)
    rw [carried_of_ne_transformer hk] at he
    exact carries_of_ne_transformer hk he

theorem not_feeds_transformers {source target : Node}
    (h : source.kind = .transformer ∧ target.kind = .transformer) :
    ¬ source.endpoint.mayFeed target.kind = true := by
  have hm : source.endpoint.mayFeed target.kind = false := not_mayFeed_same (h.1.trans h.2.symm)
  rw [hm]
  exact Bool.false_ne_true

theorem declares_element (h : Admissible topology policy) (hx : policy.exemptKinds = [])
    (hd : Describes topology node.id node) (hk : node.kind ≠ .transformer) :
    ∃ element, node.element? = some element ∧ Catalogued topology element := by
  obtain ⟨record, hr, _, hl⟩ := hd
  exact h.assigned record hr node hl hk (by simp [hx])

theorem target_agrees {link : Link} (hc : Compatible link) (hk : link.source.kind ≠ .transformer)
    (he : link.source.element? = some element) :
    Unmapped link.target .target link.targetHandle ∨ link.targetElement? = some element := by
  rcases hc with (hu | hu | hm) | ⟨_, hnone, _⟩
  · exact absurd hu (not_unmapped hk)
  · exact .inl hu
  · rw [← hm, ← he]
    exact .inr (carried_of_ne_transformer hk)
  · rw [hnone] at he
    cases he

theorem source_agrees {link : Link} (hc : Compatible link) (hk : link.target.kind ≠ .transformer)
    (he : link.target.element? = some element) (ho : ¬ LeftOpen link) :
    Unmapped link.source .source link.sourceHandle ∨ link.sourceElement? = some element := by
  rcases hc with (hu | hu | hm) | hopen
  · exact .inl hu
  · exact absurd hu (not_unmapped hk)
  · rw [hm, ← he]
    exact .inr (carried_of_ne_transformer hk)
  · exact absurd hopen ho

/-- Two transformers never face each other, so that one end declares the element of the edge. -/
theorem edge_agrees (h : Admissible topology policy) (hx : policy.exemptKinds = [])
    {edge : EdgeRecord} {source target : Node} (hj : Joins topology edge source target)
    (hf : Feeds (linkOf edge source target)) (hc : Compatible (linkOf edge source target)) :
    ∃ element, Catalogued topology element ∧
      (Unmapped source.station .source edge.sourceHandle ∨
        source.station.carried? .source edge.sourceHandle = some element) ∧
      (Unmapped target.station .target edge.targetHandle ∨
        target.station.carried? .target edge.targetHandle = some element) := by
  by_cases hs : source.kind = .transformer
  · have ht : target.kind ≠ .transformer := fun ht => not_feeds_transformers ⟨hs, ht⟩ hf
    obtain ⟨element, he, hcat⟩ := declares_element h hx hj.target_described ht
    have ho : ¬ LeftOpen (linkOf edge source target) :=
      not_leftOpen_of_source hs (by decide)
    exact ⟨element, hcat, source_agrees hc ht he ho, .inr ((carried_of_ne_transformer ht).trans he)⟩
  · obtain ⟨element, he, hcat⟩ := declares_element h hx hj.source_described hs
    exact ⟨element, hcat, .inr ((carried_of_ne_transformer hs).trans he), target_agrees hc hs he⟩

/-- Under the strictest policy every edge carries one element of the catalog from end to end. -/
theorem edges_carry_one_element (topology : Topology) (policy : Policy)
    (hx : policy.exemptKinds = []) (hp : policy.checkPorts = true)
    (hr : policy.recheckConnections = true) (hv : (topology.report policy).isValid = true) :
    ∀ edge ∈ topology.edges, ∃ source target,
      Joins topology edge source target ∧
        topology.ids.count source.id = 1 ∧ topology.ids.count target.id = 1 ∧
        source.endpoint.mayFeed target.kind = true ∧
        (source.kind ≠ .transformer ∨ target.kind ≠ .transformer) ∧
        ∃ element, Catalogued topology element ∧
          Carries source .source edge.sourceHandle element ∧
          Carries target .target edge.targetHandle element := by
  intro edge he
  have h := admissible_of_isValid hv
  obtain ⟨source, target, hj⟩ := exists_joins h he
  obtain ⟨hf, hc⟩ := (check_exact _).accepts.mp (h.linked hr edge he source target hj)
  obtain ⟨hps, hpt⟩ := h.ported hp edge he source target hj
  obtain ⟨element, hcat, hs, ht⟩ := edge_agrees h hx hj hf hc
  refine ⟨source, target, hj, ?_, ?_, hf, ?_, element, hcat, ?_, ?_⟩
  · exact List.count_eq_one_of_mem h.distinct hj.source_described.id_mem
  · exact List.count_eq_one_of_mem h.distinct hj.target_described.id_mem
  · by_contra hn
    push Not at hn
    exact not_feeds_transformers hn hf
  · exact carries_of_agreement hj.source_described hps hs
  · exact carries_of_agreement hj.target_described hpt ht

def bakery : Topology :=
  { nodes :=
      [⟨some "mill", some "generator",
          .object [("elemento", .string "flour"), ("onDemand", .boolean true)]⟩,
        ⟨some "oven", some "transformer",
          .object [("entradasDef", .array [.object [("elemento", .string "flour")]]),
            ("salidasDef", .array [.object [("elemento", .string "bread")]])]⟩,
        ⟨some "shelf", some "queue", .object [("elemento", .string "bread")]⟩]
    edges :=
      [⟨none, some "mill", some "oven", some "out", some "flour"⟩,
        ⟨none, some "oven", some "shelf", some "bread", none⟩]
    elements := [⟨none, some "flour", none⟩, ⟨none, some "bread", none⟩] }

theorem bakery_edges_carry_one_element :
    (bakery.report ⟨[], true, true⟩).isValid = true ∧
      ∀ edge ∈ bakery.edges, ∃ source target, Joins bakery edge source target ∧
        ∃ element, Catalogued bakery element ∧
          Carries source .source edge.sourceHandle element ∧
          Carries target .target edge.targetHandle element := by
  have hv : (bakery.report ⟨[], true, true⟩).isValid = true := by
    rw [Topology.report, portFindings_eq, connectionFindings_eq]
    decide +kernel
  refine ⟨hv, fun edge he => ?_⟩
  obtain ⟨source, target, hj, _, _, _, _, hc⟩ :=
    edges_carry_one_element bakery ⟨[], true, true⟩ rfl rfl rfl hv edge he
  exact ⟨source, target, hj, hc⟩

end LineTopology.Proofs.TypeSoundness
