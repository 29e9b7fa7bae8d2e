import LineTopology.Proofs.Distinct
import LineTopology.Proofs.Entries
import LineTopology.Proofs.Lowering

namespace LineTopology.Proofs.HandleMap

open Dictionary Distinct Entries Lowering

def Covered (t : Transformer) : Prop :=
  ∀ handle, (find? handle t.handles).isSome = true ↔ handle ∈ t.inputs ∨ handle ∈ t.outputs

/-- No port is repeated on its side, and no handle is mapped twice. -/
structure WellMapped (t : Transformer) : Prop where
  inputs_nodup : t.inputs.Nodup
  outputs_nodup : t.outputs.Nodup
  handles_ascending : Ascending t.handles
  covered : Covered t

section Explicit

variable {t : Transformer} {recipeInputs recipeOutputs : List String}

/-- One more handle is mapped explicitly, which makes it a port of both sides. -/
def mapHandle (t : Transformer) (entry : String × String) : Transformer :=
  ⟨Dictionary.insert entry.1 entry.2 t.handles, appendNew t.inputs [entry.1],
    appendNew t.outputs [entry.1]⟩

theorem mapHandle_wellMapped (h : WellMapped t) (entry : String × String) :
    WellMapped (mapHandle t entry) := by
  refine ⟨appendNew_nodup h.inputs_nodup _, appendNew_nodup h.outputs_nodup _,
    ascending_insert h.handles_ascending, ?_⟩
  intro handle
  have hcovered := h.covered handle
  rw [find?_isSome_iff] at hcovered ⊢
  simp only [mapHandle, mem_keys_insert, mem_appendNew, List.mem_singleton, hcovered]
  grind

theorem mapHandles_wellMapped (h : WellMapped t) (explicit : List (String × String)) :
    WellMapped (explicit.foldl mapHandle t) := by
  induction explicit generalizing t with
  | nil => exact h
  | cons entry explicit ih => exact ih (mapHandle_wellMapped h entry)

/-- The explicit handles are mapped one by one, behind those of the recipes. -/
theorem transformer_eq_foldl (recipeInputs recipeOutputs : List String)
    (explicit : List (String × String)) :
    Parameters.transformer recipeInputs recipeOutputs explicit =
      explicit.foldl mapHandle (Parameters.transformer recipeInputs recipeOutputs []) := by
  have hfold (t : Transformer) : explicit.foldl mapHandle t =
      ⟨explicit.foldl (fun d entry => Dictionary.insert entry.1 entry.2 d) t.handles,
        appendNew t.inputs (keys explicit), appendNew t.outputs (keys explicit)⟩ := by
    induction explicit generalizing t with
    | nil => rfl
    | cons entry explicit ih =>
        rw [List.foldl_cons, ih]
        rfl
  rw [hfold]
  simp only [Parameters.transformer, ofList, List.foldl_append, List.append_nil]
  rfl

theorem recipes_wellMapped (recipeInputs recipeOutputs : List String) :
    WellMapped (Parameters.transformer recipeInputs recipeOutputs []) := by
  refine ⟨distinct_nodup _, distinct_nodup _, ascending_ofList _, ?_⟩
  intro handle
  rw [find?_isSome_iff]
  simp only [Parameters.transformer, mem_keys_ofList, List.append_nil]
  simp only [keys, List.map_map, Function.comp_def, List.map_id', List.mem_append]
  rfl

theorem transformer_wellMapped (recipeInputs recipeOutputs : List String)
    (explicit : List (String × String)) :
    WellMapped (Parameters.transformer recipeInputs recipeOutputs explicit) := by
  rw [transformer_eq_foldl]
  exact mapHandles_wellMapped (recipes_wellMapped recipeInputs recipeOutputs) explicit

end Explicit

theorem lower_wellMapped {record : NodeRecord} {node : Node} {t : Transformer}
    (h : record.lower = .ok node) (ht : node.station = .transformer t) : WellMapped t := by
  obtain ⟨_, _, _, _, _, _, _, hs⟩ := lower_ok_iff.mp h
  rw [ht] at hs
  obtain ⟨recipeInputs, recipeOutputs, explicit, _, _, _, rfl⟩ := station_transformer hs
  exact transformer_wellMapped recipeInputs recipeOutputs explicit

theorem lower_covered {record : NodeRecord} {node : Node} {t : Transformer}
    (h : record.lower = .ok node) (ht : node.station = .transformer t) : Covered t :=
  (lower_wellMapped h ht).covered

theorem element_isSome_iff {t : Transformer} (ht : Covered t) {side : Side} {handle : String} :
    (t.element? side (some handle)).isSome = true ↔ handle ∈ t.ports side := by
  by_cases hp : handle ∈ t.ports side
  · have hm : handle ∈ t.inputs ∨ handle ∈ t.outputs := by
      cases side with
      | source => exact .inr hp
      | target => exact .inl hp
    simp [Transformer.element?, hp, (ht handle).mpr hm]
  · simp [Transformer.element?, hp]

theorem transformer_side (t : Transformer) (side : Side) :
    (Station.layout (.transformer t)).side side = .named (t.ports side) := by
  cases side <;> rfl

theorem element_isSome_of_contains {t : Transformer} (ht : Covered t) {side : Side}
    {handle : String} (hp : ((Station.transformer t).layout.side side).contains handle = true) :
    (t.element? side (some handle)).isSome = true := by
  rw [transformer_side] at hp
  exact (element_isSome_iff ht).mpr (List.contains_iff_mem.mp hp)

end LineTopology.Proofs.HandleMap
