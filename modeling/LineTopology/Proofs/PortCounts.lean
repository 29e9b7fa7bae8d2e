import Mathlib.Data.Set.Card
import LineTopology.Proofs.HandleMap
import LineTopology.Proofs.ParameterReadings
import LineTopology.Proofs.PortNames

namespace LineTopology.Proofs.PortCounts

open Answers Lowering HandleMap PortNames ParameterReadings

def accepted (ports : Ports) : Set String := {handle | ports.contains handle = true}

def Countable : Ports → Prop
  | .indexed _ count => count ≤ Ports.limit
  | .named names => names.Nodup

section Sides

variable {ports : Ports}

theorem mem_accepted {handle : String} :
    handle ∈ accepted ports ↔ ports.contains handle = true := Iff.rfl

theorem accepted_size (h : Countable ports) :
    (accepted ports).Finite ∧ (accepted ports).ncard = ports.size := by
  cases ports with
  | indexed stem count =>
      have hnames : accepted (.indexed stem count) = (Finset.range count).image (portName stem) := by
        ext handle
        simp only [mem_accepted, contains_indexed_iff h, Finset.coe_image, Finset.coe_range,
          Set.mem_image, Set.mem_Iio, eq_comm]
      rw [hnames, Set.ncard_coe_finset, Finset.card_image_of_injective _ (portName_injective stem),
        Finset.card_range]
      exact ⟨Finset.finite_toSet _, rfl⟩
  | named names =>
      have hnames : accepted (.named names) = names.toFinset := by
        ext handle
        simp only [mem_accepted, Ports.contains, List.contains_iff_mem, List.coe_toFinset]
        rfl
      rw [hnames, Set.ncard_coe_finset, List.toFinset_card_of_nodup h]
      exact ⟨Finset.finite_toSet _, rfl⟩

theorem size_eq_one_iff (h : Countable ports) :
    ports.size = 1 ↔ ∃! handle, ports.contains handle = true := by
  rw [← (accepted_size h).2, Set.ncard_eq_one]
  simp only [Set.eq_singleton_iff_unique_mem, mem_accepted]
  rfl

theorem not_contains_of_isEmpty (h : Countable ports) (hz : ports.size = 0) (handle : String) :
    ports.contains handle = false := by
  obtain ⟨hfinite, hsize⟩ := accepted_size h
  have hnone : accepted ports = ∅ := (Set.ncard_eq_zero hfinite).mp (hsize.trans hz)
  rw [Bool.eq_false_iff, ne_eq, ← mem_accepted, hnone]
  exact Set.notMem_empty handle

end Sides

section Lowered

variable {kind : Kind} {params : List (String × Json)} {station : Station}
  {record : NodeRecord} {node : Node}

theorem portCount_le {value : Json} {n : Nat} (h : Parameters.portCount value = .ok n) :
    n ≤ Ports.limit := by
  cases portCount_ok_iff.mp h with
  | null | blank _ => decide
  | integer hn | digits _ hn => exact le_limit_iff.mpr hn

theorem portCountAt_le {key : String} {n : Nat} (h : Parameters.portCountAt key params = .ok n) :
    n ≤ Ports.limit := by
  rw [Parameters.portCountAt] at h
  split at h
  next =>
    cases h
    decide
  next => exact portCount_le h

theorem station_countable (h : Parameters.station kind params = .ok station) (side : Side) :
    Countable (station.layout.side side) := by
  cases kind with
  | generator | transporter =>
      cases h
      cases side <;> simp [Station.layout, Layout.single, Layout.side, Countable]
  | queue | selector =>
      simp only [Parameters.station, bind_ok_iff, pure, Except.pure, Except.ok.injEq] at h
      obtain ⟨inputs, hinputs, outputs, houtputs, rfl⟩ := h
      cases side with
      | source => exact portCountAt_le houtputs
      | target => exact portCountAt_le hinputs
  | output =>
      simp only [Parameters.station, bind_ok_iff, pure, Except.pure, Except.ok.injEq] at h
      obtain ⟨inputs, hinputs, rfl⟩ := h
      cases side with
      | source => exact Nat.zero_le _
      | target => exact portCountAt_le hinputs
  | transformer =>
      simp only [Parameters.station, bind_ok_iff, pure, Except.pure, Except.ok.injEq] at h
      obtain ⟨recipeInputs, _, explicit, _, recipeOutputs, _, rfl⟩ := h
      have hwell := transformer_wellMapped recipeInputs recipeOutputs explicit
      cases side with
      | source => exact hwell.outputs_nodup
      | target => exact hwell.inputs_nodup

theorem lower_countable (hl : record.lower = .ok node) (side : Side) :
    Countable (node.layout.side side) := by
  obtain ⟨_, _, _, _, _, _, _, hstation⟩ := lower_ok_iff.mp hl
  exact station_countable hstation side

end Lowered

section Layouts

variable {node : Node}

theorem size_of_sink (h : node.kind.canBeSource = false) : (node.layout.side .source).size = 0 := by
  obtain ⟨id, station⟩ := node
  cases station with
  | output => rfl
  | generator element onDemand => cases onDemand <;> cases h
  | queue | transporter | transformer | selector => cases h

theorem size_of_root (h : node.kind.canBeTarget = false) : (node.layout.side .target).size = 0 := by
  obtain ⟨id, station⟩ := node
  cases station with
  | generator => rfl
  | queue | transporter | transformer | output | selector => cases h

theorem not_hasHandle_of_size {side : Side} (hc : Countable (node.layout.side side))
    (hz : (node.layout.side side).size = 0) (handle : Option String) :
    node.layout.hasHandle side handle = false := by
  cases handle with
  | none => rw [Layout.hasHandle, hz]; rfl
  | some name => exact not_contains_of_isEmpty hc hz name

end Layouts

/-- A side of a component accepts as many handles as it has ports, whatever form the ports take, so
that an absent handle is accepted where one name would do. A sink accepts no handle at its source
side and a root none at its target side. -/
theorem layouts_count_their_ports {record : NodeRecord} {node : Node}
    (hl : record.lower = .ok node) :
    (∀ side,
      {handle | node.layout.hasHandle side (some handle) = true}.Finite ∧
        {handle | node.layout.hasHandle side (some handle) = true}.ncard =
          (node.layout.side side).size ∧
        (node.layout.hasHandle side none = true ↔
          ∃! handle, node.layout.hasHandle side (some handle) = true)) ∧
      (node.kind.canBeSource = false →
        ∀ handle, node.layout.hasHandle .source handle = false) ∧
      (node.kind.canBeTarget = false →
        ∀ handle, node.layout.hasHandle .target handle = false) := by
  refine ⟨fun side => ?_, fun hk => ?_, fun hk => ?_⟩
  · have hcountable := lower_countable hl side
    obtain ⟨hfinite, hsize⟩ := accepted_size hcountable
    refine ⟨hfinite, hsize, ?_⟩
    rw [Layout.hasHandle, beq_iff_eq]
    exact size_eq_one_iff hcountable
  · exact not_hasHandle_of_size (lower_countable hl _) (size_of_sink hk)
  · exact not_hasHandle_of_size (lower_countable hl _) (size_of_root hk)

def siloRecord : NodeRecord :=
  ⟨some "silo", some "queue", .object
    [("entradas", .string " 01 "), ("salidas", .ofNat 18446744073709551615)]⟩

def silo : Node := ⟨"silo", .queue none 1 18446744073709551615⟩

def dockRecord : NodeRecord := ⟨some "dock", some "output", .object [("entradas", .ofNat 2)]⟩

def dock : Node := ⟨"dock", .output none 2⟩

def feederRecord : NodeRecord := ⟨some "feeder", some "generator", .null⟩

def feeder : Node := ⟨"feeder", .generator none false⟩

theorem silo_ports_counted :
    siloRecord.lower = .ok silo ∧
      {handle | silo.layout.hasHandle .source (some handle) = true}.ncard = 18446744073709551615 ∧
      (∃! handle, silo.layout.hasHandle .target (some handle) = true) ∧
      dockRecord.lower = .ok dock ∧ dock.kind.canBeSource = false ∧
      (∀ handle, dock.layout.hasHandle .source handle = false) ∧
      feederRecord.lower = .ok feeder ∧ feeder.kind.canBeTarget = false ∧
      ∀ handle, feeder.layout.hasHandle .target handle = false := by
  have hsilo : siloRecord.lower = .ok silo := rfl
  have hdock : dockRecord.lower = .ok dock := rfl
  have hfeeder : feederRecord.lower = .ok feeder := rfl
  obtain ⟨_, hsize, _⟩ := (layouts_count_their_ports hsilo).1 .source
  obtain ⟨_, _, honly⟩ := (layouts_count_their_ports hsilo).1 .target
  exact ⟨hsilo, hsize, honly.mp rfl, hdock, rfl, (layouts_count_their_ports hdock).2.1 rfl, hfeeder,
    rfl, (layouts_count_their_ports hfeeder).2.2 rfl⟩

end LineTopology.Proofs.PortCounts
