import LineTopology.Proofs.HandleMap
import LineTopology.Proofs.LinkFaults

namespace LineTopology.Proofs.TransformerPorts

open Dictionary Entries Lowering HandleMap LinkFaults

variable {record : NodeRecord} {node : Node}

/-- Every port of a transformer that a record describes carries an element, and no other handle of
its side does. -/
theorem ports_are_mapped (hl : record.lower = .ok node) (hk : node.kind = .transformer) :
    ∃ t, node.station = .transformer t ∧ t.inputs.Nodup ∧ t.outputs.Nodup ∧
      Ascending t.handles ∧
      (∀ name, name ∈ keys t.handles ↔ name ∈ t.inputs ∨ name ∈ t.outputs) ∧
      ∀ side handle,
        (t.element? side (some handle)).isSome = node.layout.hasHandle side (some handle) := by
  obtain ⟨t, ht⟩ := exists_transformer hk
  have hwell : WellMapped t := lower_wellMapped hl ht
  refine ⟨t, ht, hwell.inputs_nodup, hwell.outputs_nodup, hwell.handles_ascending, ?_, ?_⟩
  · intro name
    rw [← find?_isSome_iff]
    exact hwell.covered name
  · intro side handle
    rw [Bool.eq_iff_iff, element_isSome_iff hwell.covered]
    simp only [Node.layout, ht, Layout.hasHandle, transformer_side, Ports.contains,
      List.contains_iff_mem]

/-- Two recipe items of one name, a recipe name that is mapped to another element, an element name
that no recipe lists, and a handle that is mapped to nothing. -/
def pressRecord : NodeRecord :=
  ⟨some "press", some "transformer", .object
    [("entradasDef", .array [.object [("elemento", .string "bolt")], .array [.string "bolt"]]),
      ("handles", .object
        [("frame", .string "steel"), ("lid", .string "tin"), ("rim", .null)]),
      ("salidasDef", .array [.object [("elemento", .string "frame")]])]⟩

def press : Transformer :=
  ⟨[("bolt", "bolt"), ("frame", "steel"), ("lid", "tin")], ["bolt", "frame", "lid"],
    ["frame", "lid"]⟩

theorem press_ports_are_mapped :
    pressRecord.lower = .ok ⟨"press", .transformer press⟩ ∧
      (∀ name, name ∈ keys press.handles ↔ name ∈ press.inputs ∨ name ∈ press.outputs) ∧
      (press.element? .target (some "bolt")).isSome = true ∧
      (press.element? .source (some "bolt")).isSome = false := by
  have hl : pressRecord.lower = .ok ⟨"press", .transformer press⟩ := rfl
  obtain ⟨t, ht, _, _, _, hkeys, hports⟩ := ports_are_mapped hl rfl
  obtain rfl : press = t := Station.transformer.inj ht
  refine ⟨hl, hkeys, ?_, ?_⟩
  · rw [hports]
    decide
  · rw [hports]
    decide

end LineTopology.Proofs.TransformerPorts
