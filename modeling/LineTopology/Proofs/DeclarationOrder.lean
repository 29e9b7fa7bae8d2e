import LineTopology.Proofs.Admission
import LineTopology.Proofs.Passes

namespace LineTopology.Proofs.DeclarationOrder

open LineTopology.Topology Lowering Components GraphIndex Wires Admission Passes

section Elements

variable {catalog more : Catalog} {node : Node}

def isSupplied (catalog : Catalog) (finding : Finding) : Bool :=
  finding.code == "G002" && finding.missing?.any (·.all catalog.contains)

theorem isSupplied_unknownElement {element : String} :
    isSupplied catalog (.unknownElement node element) = catalog.contains element := by
  simp [isSupplied, Finding.code, Finding.missing?]

theorem elementUnknown_congr (h : catalog.contains = more.contains) :
    elementUnknown catalog = elementUnknown more := by
  funext node
  rw [elementUnknown, elementUnknown, h]

theorem elementUnknown_larger
    (h : ∀ name, catalog.contains name = true → more.contains name = true) :
    elementUnknown more node = (elementUnknown catalog node).filter (!isSupplied more ·) := by
  rw [elementUnknown, elementUnknown]
  cases node.element? with
  | none => rfl
  | some element =>
      rw [Option.bind_some, Option.bind_some]
      by_cases hc : catalog.contains element = true
      · rw [if_pos hc, if_pos (h element hc), Option.filter_none]
      · rw [if_neg hc, Option.filter_some, isSupplied_unknownElement]
        cases more.contains element <;> rfl

end Elements

section Catalogs

variable (topology : Topology) (policy : Policy) (elements : List ElementRecord)

def withElements : Topology := { topology with elements := elements }

variable {topology elements}

theorem report_withElements
    (h : ∀ name, Catalogued (withElements topology elements) name ↔ Catalogued topology name) :
    (withElements topology elements).report policy = topology.report policy := by
  have hcontains : (withElements topology elements).catalog.contains =
      topology.catalog.contains := by
    funext name
    rw [Bool.eq_iff_iff, catalog_contains_iff, catalog_contains_iff, h]
  have huncatalogued : (withElements topology elements).uncatalogued policy =
      topology.uncatalogued policy := by
    rw [uncatalogued, uncatalogued, elementUnknown_congr hcontains]
    rfl
  rw [report, huncatalogued]
  rfl

theorem findings_withElements
    (h : ∀ name, Catalogued topology name → Catalogued (withElements topology elements) name) :
    ((withElements topology elements).report policy).findings =
      (topology.report policy).findings.filter
        (!isSupplied (withElements topology elements).catalog ·) := by
  have huncatalogued : (withElements topology elements).uncatalogued policy =
      (topology.uncatalogued policy).filter
        (!isSupplied (withElements topology elements).catalog ·) := by
    rw [uncatalogued, uncatalogued, List.filter_filterMap]
    refine List.filterMap_congr fun node _ => elementUnknown_larger fun name hname => ?_
    rw [catalog_contains_iff] at hname ⊢
    exact h name hname
  have hunassigned : (topology.unassigned policy).filter
      (!isSupplied (withElements topology elements).catalog ·) = topology.unassigned policy :=
    List.filter_eq_self.mpr fun f hf => by simp [isSupplied, unassigned_code hf]
  have hother (f : Finding) (_ : f.code ≠ "G001") (hunknown : f.code ≠ "G002") :
      (!isSupplied (withElements topology elements).catalog f) = true := by
    simp [isSupplied, hunknown]
  rw [filter_elementFindings hother, hunassigned, ← huncatalogued]
  rfl

end Catalogs

section Ends

variable {ids others : List String} {components rest : List Node}

theorem contains_congr (h : ∀ id, id ∈ ids ↔ id ∈ others) : ids.contains = others.contains := by
  funext id
  rw [Bool.eq_iff_iff, List.contains_iff_mem, List.contains_iff_mem, h]

theorem wire?_congr (h : ∀ id, id ∈ ids ↔ id ∈ others) : wire? ids = wire? others := by
  funext entry
  simp only [wire?, congrFun (contains_congr h)]

theorem looseEndsOf_congr (h : ∀ id, id ∈ ids ↔ id ∈ others) :
    looseEndsOf ids = looseEndsOf others := by
  funext entry
  simp only [looseEndsOf, looseEnd, contains_congr h]

theorem handleFindings_congr (h : component? components = component? rest) :
    handleFindings components = handleFindings rest := by
  funext wire
  simp only [handleFindings, handleFinding, h]

theorem wireFinding_congr (h : component? components = component? rest) :
    wireFinding components = wireFinding rest := by
  funext wire
  simp only [wireFinding, h]

end Ends

section Fates

variable {records : List NodeRecord} {topology : Topology}

def soleFate (record : NodeRecord) : Fate :=
  match record.lower with
  | .ok node => .kept node
  | .error fault => .malformed record fault

theorem ofRecords_distinct {seen : List String} (hd : (records.filterMap (·.id)).Nodup)
    (hs : ∀ id ∈ records.filterMap (·.id), id ∉ seen) :
    Fate.ofRecords seen records = records.map soleFate := by
  induction records generalizing seen with
  | nil => rfl
  | cons record records ih =>
      rw [List.map_cons, soleFate]
      cases hl : record.lower with
      | error fault =>
          have hsub := (List.sublist_cons_self record records).filterMap (·.id)
          rw [ofRecords_error hl, ih (hd.sublist hsub) fun id hid => hs id (hsub.subset hid)]
      | ok node =>
          rw [List.filterMap_cons_some (lower_id hl)] at hd hs
          -- No record behind this one carries its id, so marking the id as seen changes nothing.
          obtain ⟨hnew, hd⟩ := List.nodup_cons.mp hd
          rw [ofRecords_new hl (hs _ List.mem_cons_self), ih hd fun id hid => ?_]
          rintro (_ | ⟨_, hseen⟩)
          · exact hnew hid
          · exact hs id (List.mem_cons_of_mem _ hid) hseen

theorem fates_distinct (hd : topology.ids.Nodup) : topology.fates = topology.nodes.map soleFate :=
  ofRecords_distinct hd fun _ _ => List.not_mem_nil

end Fates

theorem filter_nodePasses (topology : Topology) (policy : Policy) {codes : List String}
    (hc : codes ⊆ ["G003", "G005", "G006"]) :
    topology.nodeFindings.filter (codes.contains ·.code) = [] ∧
      (topology.unassigned policy).filter (codes.contains ·.code) = [] ∧
      (topology.uncatalogued policy).filter (codes.contains ·.code) = [] := by
  have hnone {findings : List Finding}
      (h : ∀ f ∈ findings, f.code ∉ ["G003", "G005", "G006"]) :
      findings.filter (codes.contains ·.code) = [] :=
    List.filter_eq_nil_iff.mpr fun f hf hcode => h f hf (hc (List.contains_iff_mem.mp hcode))
  refine ⟨hnone fun f hf => ?_, hnone fun f hf => ?_, hnone fun f hf => ?_⟩
  · rcases nodeFindings_code hf with h | h <;> rw [h] <;> decide
  · rw [unassigned_code hf]
    decide
  · rw [uncatalogued_code hf]
    decide

section Records

def withNodes (topology : Topology) (records : List NodeRecord) : Topology :=
  { topology with nodes := records }

variable {topology : Topology} {records : List NodeRecord} (hp : records.Perm topology.nodes)
include hp

theorem ids_perm : (withNodes topology records).ids.Perm topology.ids := hp.filterMap _

theorem dangling_withNodes : (withNodes topology records).dangling = topology.dangling := by
  rw [dangling_eq, dangling_eq, looseEnds, looseEnds,
    looseEndsOf_congr fun _ => (ids_perm hp).mem_iff]
  rfl

theorem wires_withNodes : (withNodes topology records).wires = topology.wires := by
  rw [wires, wires, wire?_congr fun _ => (ids_perm hp).mem_iff]
  rfl

theorem describes_withNodes {id : String} {node : Node} :
    Describes (withNodes topology records) id node ↔ Describes topology id node :=
  exists_congr fun _ => and_congr_left' hp.mem_iff

variable (hd : topology.ids.Nodup)
include hd

theorem component?_withNodes :
    component? (withNodes topology records).components = component? topology.components := by
  funext id
  ext node
  rw [component?_eq_some_iff_describes hd, component?_eq_some_iff_describes
    ((ids_perm hp).nodup_iff.mpr hd), describes_withNodes hp]

theorem portFindings_withNodes :
    (withNodes topology records).portFindings = topology.portFindings := by
  rw [portFindings_eq, portFindings_eq, wires_withNodes hp,
    handleFindings_congr (component?_withNodes hp hd)]

theorem connectionFindings_withNodes :
    (withNodes topology records).connectionFindings = topology.connectionFindings := by
  rw [connectionFindings_eq, connectionFindings_eq, wires_withNodes hp,
    wireFinding_congr (component?_withNodes hp hd)]

theorem fates_perm : (withNodes topology records).fates.Perm topology.fates := by
  rw [fates_distinct hd, fates_distinct ((ids_perm hp).nodup_iff.mpr hd)]
  exact hp.map soleFate

theorem typed_perm (policy : Policy) :
    ((withNodes topology records).typed policy).Perm (topology.typed policy) :=
  ((fates_perm hp hd).filterMap _).filter _

theorem findings_perm (policy : Policy) :
    ((withNodes topology records).report policy).findings.Perm
      (topology.report policy).findings := by
  have hnode : (withNodes topology records).nodeFindings.Perm topology.nodeFindings :=
    (fates_perm hp hd).filterMap _
  have hunassigned : ((withNodes topology records).unassigned policy).Perm
      (topology.unassigned policy) := (typed_perm hp hd policy).filterMap _
  have huncatalogued : ((withNodes topology records).uncatalogued policy).Perm
      (topology.uncatalogued policy) := (typed_perm hp hd policy).filterMap _
  rw [report, report, dangling_withNodes hp, portFindings_withNodes hp hd,
    connectionFindings_withNodes hp hd]
  exact (((hnode.append hunassigned).append huncatalogued).append_right _).append_right _
    |>.append_right _

theorem edge_findings_withNodes {codes : List String} (hc : codes ⊆ ["G003", "G005", "G006"])
    (policy : Policy) :
    ((withNodes topology records).report policy).findings.filter (codes.contains ·.code) =
      (topology.report policy).findings.filter (codes.contains ·.code) := by
  obtain ⟨hnode, hunassigned, huncatalogued⟩ := filter_nodePasses topology policy hc
  obtain ⟨hnode', hunassigned', huncatalogued'⟩ :=
    filter_nodePasses (withNodes topology records) policy hc
  rw [report, report, dangling_withNodes hp, portFindings_withNodes hp hd,
    connectionFindings_withNodes hp hd]
  simp only [List.filter_append, hnode, hunassigned, huncatalogued, hnode', hunassigned',
    huncatalogued']

end Records

/-- Elements are told apart by their names alone, so that neither the order nor the packaging of
their declarations matters, and every further name only settles the references to it. The order of
the node records, as long as no id is repeated, shows in the order of what is found about nodes, and
nowhere in what is found about edges. -/
theorem declarations_in_any_order (topology : Topology) :
    (∀ elements,
        (∀ name, Catalogued (withElements topology elements) name ↔ Catalogued topology name) →
          ∀ policy, (withElements topology elements).report policy = topology.report policy) ∧
      (∀ elements,
        (∀ name, Catalogued topology name → Catalogued (withElements topology elements) name) →
          ∀ policy, ((withElements topology elements).report policy).findings =
            (topology.report policy).findings.filter
              (!isSupplied (withElements topology elements).catalog ·)) ∧
      (topology.ids.Nodup → ∀ records, records.Perm topology.nodes → ∀ policy codes,
        (((withNodes topology records).report policy).findings.filter (codes.contains ·.code)).Perm
            ((topology.report policy).findings.filter (codes.contains ·.code)) ∧
          (codes ⊆ ["G003", "G005", "G006"] →
            ((withNodes topology records).report policy).findings.filter (codes.contains ·.code) =
              (topology.report policy).findings.filter (codes.contains ·.code))) := by
  refine ⟨fun elements h policy => report_withElements policy h,
    fun elements h policy => findings_withElements policy h,
    fun hd records hp policy codes => ⟨?_, ?_⟩⟩
  · exact (findings_perm hp hd policy).filter _
  · exact fun hc => edge_findings_withNodes hp hd hc policy

def yard : Topology :=
  { nodes :=
      [⟨some "belt", some "transporter", .object [("elemento", .string "bolt")]⟩,
        ⟨some "store", some "queue", .object [("elemento", .string "nut")]⟩]
    edges := [⟨none, some "belt", some "store", none, none⟩, ⟨none, some "store", none, none, none⟩]
    elements := [⟨none, some "nut", none⟩] }

theorem yard_in_any_order :
    yard.ids.Nodup ∧ yard.nodes.reverse.Perm yard.nodes ∧
      ((withNodes yard yard.nodes.reverse).report ⟨[], true, true⟩).findings.filter
          (["G003", "G006"].contains ·.code) =
        (yard.report ⟨[], true, true⟩).findings.filter (["G003", "G006"].contains ·.code) ∧
      (yard.report .standard).findings.map (·.code) = ["G002", "G003"] ∧
      ((withElements yard [⟨none, some "bolt", none⟩, ⟨none, some "nut", none⟩]).report
        .standard).findings.map (·.code) = ["G003"] := by
  have hd : yard.ids.Nodup := by decide
  have hp := List.reverse_perm yard.nodes
  obtain ⟨_, hlarger, horder⟩ := declarations_in_any_order yard
  refine ⟨hd, hp, (horder hd _ hp ⟨[], true, true⟩ ["G003", "G006"]).2 (by decide),
    by decide +kernel, ?_⟩
  rw [hlarger [⟨none, some "bolt", none⟩, ⟨none, some "nut", none⟩] ?_ .standard]
  · decide +kernel
  · rintro name ⟨entry, he, hname⟩
    obtain rfl := List.mem_singleton.mp he
    exact ⟨_, List.mem_cons_of_mem _ List.mem_cons_self, hname⟩

end LineTopology.Proofs.DeclarationOrder
