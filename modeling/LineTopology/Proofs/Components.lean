import LineTopology.Proofs.Lowering
import LineTopology.Report
import Mathlib.Data.List.Nodup

namespace LineTopology.Proofs.Components

open LineTopology.Topology Lowering

def Describes (topology : Topology) (id : String) (node : Node) : Prop :=
  ∃ record ∈ topology.nodes, record.id = some id ∧ record.lower = .ok node

def described (records : List NodeRecord) : List Node :=
  records.filterMap fun record => record.lower.toOption

/-- The component that the first of the records to describe one with the id describes. -/
def first? (records : List NodeRecord) (id : String) : Option Node :=
  (described records).find? (·.id == id)

variable {record : NodeRecord} {records : List NodeRecord} {node : Node} {fault : NodeFault}

theorem mem_described_iff :
    node ∈ described records ↔ ∃ record ∈ records, record.lower = .ok node := by
  simp only [described, List.mem_filterMap]
  constructor
  · rintro ⟨record, hr, h⟩
    refine ⟨record, hr, ?_⟩
    cases hl : record.lower with
    | error fault => rw [hl] at h; cases h
    | ok other => rw [hl] at h; cases h; rfl
  · rintro ⟨record, hr, h⟩
    exact ⟨record, hr, by rw [h]; rfl⟩

theorem describes_iff {topology : Topology} {id : String} :
    Describes topology id node ↔ node ∈ described topology.nodes ∧ node.id = id := by
  rw [mem_described_iff]
  constructor
  · rintro ⟨record, hr, hid, hl⟩
    rw [lower_id hl, Option.some_inj] at hid
    exact ⟨⟨record, hr, hl⟩, hid⟩
  · rintro ⟨⟨record, hr, hl⟩, rfl⟩
    exact ⟨record, hr, lower_id hl, hl⟩

theorem Describes.id_eq {topology : Topology} {id : String} (h : Describes topology id node) :
    node.id = id :=
  (describes_iff.mp h).2

theorem Describes.id_mem {topology : Topology} {id : String} (h : Describes topology id node) :
    id ∈ topology.ids := by
  obtain ⟨record, hr, hid, _⟩ := h
  exact List.mem_filterMap.mpr ⟨record, hr, hid⟩

theorem exists_describes {topology : Topology} {id : String}
    (h : ∀ record ∈ topology.nodes, ∃ node, record.lower = .ok node) (hid : id ∈ topology.ids) :
    ∃ node, Describes topology id node := by
  obtain ⟨record, hr, hi⟩ := List.mem_filterMap.mp hid
  obtain ⟨node, hl⟩ := h record hr
  exact ⟨node, record, hr, hi, hl⟩

theorem described_error (h : record.lower = .error fault) :
    described (record :: records) = described records :=
  List.filterMap_cons_none (by rw [h]; rfl)

theorem described_ok (h : record.lower = .ok node) :
    described (record :: records) = node :: described records :=
  List.filterMap_cons_some (by rw [h]; rfl)

theorem described_ids_sublist (records : List NodeRecord) :
    ((described records).map (·.id)).Sublist (records.filterMap (·.id)) := by
  induction records with
  | nil => exact .slnil
  | cons record records ih =>
      cases hl : record.lower with
      | error fault =>
          rw [described_error hl]
          exact ih.trans ((List.sublist_cons_self _ _).filterMap _)
      | ok node =>
          rw [described_ok hl, List.map_cons, List.filterMap_cons_some (lower_id hl)]
          exact ih.cons_cons _

theorem find?_of_nodup {α : Type} {l : List α} {key : α → String} {id : String} {a : α}
    (h : (l.map key).Nodup) : l.find? (key · == id) = some a ↔ a ∈ l ∧ key a = id := by
  constructor
  · intro ha
    exact ⟨List.mem_of_find?_eq_some ha, by simpa using List.find?_some ha⟩
  · rintro ⟨ha, rfl⟩
    have hsome : (l.find? (key · == key a)).isSome = true :=
      List.find?_isSome.mpr ⟨a, ha, beq_self_eq_true _⟩
    obtain ⟨b, hb⟩ := Option.isSome_iff_exists.mp hsome
    have hkey : key b = key a := by simpa using List.find?_some hb
    rwa [List.inj_on_of_nodup_map h (List.mem_of_find?_eq_some hb) ha hkey] at hb

theorem first?_error (h : record.lower = .error fault) (id : String) :
    first? (record :: records) id = first? records id := by
  rw [first?, described_error h, first?]

theorem first?_ok (h : record.lower = .ok node) (id : String) :
    first? (record :: records) id = if node.id = id then some node else first? records id := by
  rw [first?, described_ok h, List.find?_cons, first?]
  by_cases hid : node.id = id
  · simp [hid]
  · rw [if_neg hid, beq_false_of_ne hid]

section Fates

variable {seen : List String}

theorem ofRecords_error (h : record.lower = .error fault) :
    Fate.ofRecords seen (record :: records) =
      .malformed record fault :: Fate.ofRecords seen records := by
  rw [Fate.ofRecords, h]

theorem ofRecords_seen (h : record.lower = .ok node) (hs : node.id ∈ seen) :
    Fate.ofRecords seen (record :: records) = .duplicate node :: Fate.ofRecords seen records := by
  rw [Fate.ofRecords, h]
  exact if_pos (List.contains_iff_mem.mpr hs)

theorem ofRecords_new (h : record.lower = .ok node) (hs : node.id ∉ seen) :
    Fate.ofRecords seen (record :: records) =
      .kept node :: Fate.ofRecords (node.id :: seen) records := by
  rw [Fate.ofRecords, h]
  exact if_neg fun hc => hs (List.contains_iff_mem.mp hc)

/-- A component is kept if its id was not seen before and no earlier record describes one of that
id. -/
theorem mem_kept_iff (seen : List String) (records : List NodeRecord) :
    node ∈ (Fate.ofRecords seen records).filterMap Fate.kept? ↔
      node.id ∉ seen ∧ first? records node.id = some node := by
  induction records generalizing seen with
  | nil => simp [Fate.ofRecords, first?, described]
  | cons record records ih =>
      cases hl : record.lower with
      | error fault =>
          rw [ofRecords_error hl, List.filterMap_cons_none rfl, ih, first?_error hl]
      | ok other =>
          rw [first?_ok hl]
          by_cases hs : other.id ∈ seen
          · rw [ofRecords_seen hl hs, List.filterMap_cons_none rfl, ih]
            grind
          · have hk : Fate.kept? (.kept other) = some other := rfl
            rw [ofRecords_new hl hs, List.filterMap_cons_some hk, List.mem_cons, ih]
            grind

theorem nodeFindings_ofRecords_eq_nil (seen : List String) (records : List NodeRecord) :
    (Fate.ofRecords seen records).filterMap Fate.finding? = [] ↔
      (∀ record ∈ records, ∃ node, record.lower = .ok node) ∧
        (records.filterMap (·.id)).Nodup ∧ ∀ id ∈ records.filterMap (·.id), id ∉ seen := by
  induction records generalizing seen with
  | nil => simp [Fate.ofRecords]
  | cons record records ih =>
      rw [List.forall_mem_cons]
      cases hl : record.lower with
      | error fault => simp [ofRecords_error hl, Fate.finding?]
      | ok node =>
          rw [List.filterMap_cons_some (lower_id hl), List.nodup_cons, List.forall_mem_cons]
          by_cases hs : node.id ∈ seen
          · simp [ofRecords_seen hl hs, Fate.finding?, hs]
          · rw [ofRecords_new hl hs, List.filterMap_cons_none rfl, ih]
            grind

end Fates

section Lookup

variable {topology : Topology} {id : String}

theorem first?_id (h : first? records id = some node) : node.id = id := by
  simpa using List.find?_some h

theorem mem_components_iff :
    node ∈ topology.components ↔ first? topology.nodes node.id = some node := by
  refine (mem_kept_iff [] topology.nodes).trans ?_
  simp

theorem component?_components (topology : Topology) (id : String) :
    component? topology.components id = first? topology.nodes id := by
  have hmem {node : Node} : component? topology.components id = some node →
      first? topology.nodes id = some node := by
    intro h
    have hid : node.id = id := by simpa using List.find?_some h
    rw [← hid]
    exact mem_components_iff.mp (List.mem_of_find?_eq_some h)
  cases hf : first? topology.nodes id with
  | none =>
      cases hc : component? topology.components id with
      | none => rfl
      | some node => rw [hmem hc] at hf; exact hf
  | some node =>
      have hnode : node ∈ topology.components := by
        rw [mem_components_iff, first?_id hf]
        exact hf
      have hsome : (component? topology.components id).isSome = true :=
        List.find?_isSome.mpr ⟨node, hnode, beq_iff_eq.mpr (first?_id hf)⟩
      obtain ⟨other, hc⟩ := Option.isSome_iff_exists.mp hsome
      rw [hc, ← hf, hmem hc]

theorem nodeFindings_eq_nil_iff :
    topology.nodeFindings = [] ↔
      (∀ record ∈ topology.nodes, ∃ node, record.lower = .ok node) ∧ topology.ids.Nodup := by
  refine (nodeFindings_ofRecords_eq_nil [] topology.nodes).trans ?_
  simp [ids]

variable (hd : topology.ids.Nodup)
include hd

theorem first?_eq_some_iff_describes :
    first? topology.nodes id = some node ↔ Describes topology id node := by
  rw [describes_iff]
  exact find?_of_nodup (hd.sublist (described_ids_sublist topology.nodes))

theorem component?_eq_some_iff_describes :
    component? topology.components id = some node ↔ Describes topology id node := by
  rw [component?_components, first?_eq_some_iff_describes hd]

theorem mem_components_iff_describes :
    node ∈ topology.components ↔ Describes topology node.id node := by
  rw [mem_components_iff, first?_eq_some_iff_describes hd]

theorem describes_unique {other : Node} (h : Describes topology id node)
    (ho : Describes topology id other) : node = other := by
  rw [← first?_eq_some_iff_describes hd] at h ho
  exact Option.some_inj.mp (h.symm.trans ho)

end Lookup

end LineTopology.Proofs.Components
