import LineTopology.Node.Lowering
import LineTopology.Proofs.Answers

namespace LineTopology.Proofs.Lowering

open Answers

variable {record : NodeRecord} {node : Node}

theorem lower_ok_iff :
    record.lower = .ok node ↔
      ∃ name kind params, record.id = some node.id ∧ record.kind = some name ∧
        Kind.parse? name = some kind ∧ record.members? = some params ∧
        Parameters.station kind params = .ok node.station := by
  constructor
  · intro h
    rw [NodeRecord.lower] at h
    split at h
    next => cases h
    next => cases h
    next id name hid hname =>
      split at h
      next => cases h
      next kind hkind =>
        split at h
        next => cases h
        next params hparams =>
          split at h
          next => cases h
          next station hstation =>
            cases h
            exact ⟨name, kind, params, hid, hname, hkind, hparams, hstation⟩
  · rintro ⟨name, kind, params, hid, hname, hkind, hparams, hstation⟩
    simp [NodeRecord.lower, hid, hname, hkind, hparams, hstation]

theorem lower_id (h : record.lower = .ok node) : record.id = some node.id := by
  obtain ⟨_, _, _, hid, _⟩ := lower_ok_iff.mp h
  exact hid

theorem lower_error_id {fault : NodeFault} (h : record.lower = .error fault) :
    fault.id? = record.id := by
  rw [NodeRecord.lower] at h
  split at h
  next hid => cases h; exact hid.symm
  next id hid _ => cases h; exact hid.symm
  next id name hid _ =>
    rw [hid]
    split at h
    next => cases h; rfl
    next =>
      split at h
      next => cases h; rfl
      next =>
        split at h
        next => cases h; rfl
        next => cases h

theorem generator_kind (element : Option String) (onDemand : Bool) :
    (Station.generator element onDemand).kind = .generator := by
  cases onDemand <;> rfl

theorem station_kind {kind : Kind} {params : List (String × Json)} {station : Station}
    (h : Parameters.station kind params = .ok station) : station.kind = kind := by
  cases kind with
  | generator =>
      cases h
      exact generator_kind _ _
  | transporter =>
      cases h
      rfl
  | queue | selector | output | transformer =>
      simp only [Parameters.station, bind_ok_iff, pure, Except.pure, Except.ok.injEq] at h
      grind [Station.kind, Station.endpoint, Endpoint.kind]

theorem station_transformer {kind : Kind} {params : List (String × Json)} {t : Transformer}
    (h : Parameters.station kind params = .ok (.transformer t)) :
    ∃ recipeInputs recipeOutputs explicit,
      Parameters.recipe (Dictionary.find? "entradasDef" params) = .ok recipeInputs ∧
        Parameters.recipe (Dictionary.find? "salidasDef" params) = .ok recipeOutputs ∧
        Parameters.explicitHandles (Dictionary.find? "handles" params) = .ok explicit ∧
        t = Parameters.transformer recipeInputs recipeOutputs explicit := by
  cases kind with
  | transformer =>
      simp only [Parameters.station, bind_ok_iff, pure, Except.pure, Except.ok.injEq,
        Station.transformer.injEq] at h
      obtain ⟨recipeInputs, hinputs, explicit, hexplicit, recipeOutputs, houtputs, rfl⟩ := h
      exact ⟨recipeInputs, recipeOutputs, explicit, hinputs, houtputs, hexplicit, rfl⟩
  | generator | transporter => cases h
  | queue | selector | output =>
      simp only [Parameters.station, bind_ok_iff, pure, Except.pure, Except.ok.injEq,
        reduceCtorEq, and_false, exists_false] at h

theorem station_element {kind : Kind} {params : List (String × Json)} {station : Station}
    (h : Parameters.station kind params = .ok station) (hk : station.kind ≠ .transformer) :
    station.element? = Parameters.element? params := by
  cases kind with
  | generator | transporter => cases h; rfl
  | queue | selector | output =>
      simp only [Parameters.station, bind_ok_iff, pure, Except.pure, Except.ok.injEq] at h
      grind [Station.element?]
  | transformer =>
      simp only [Parameters.station, bind_ok_iff, pure, Except.pure, Except.ok.injEq] at h
      obtain ⟨_, _, _, _, _, _, rfl⟩ := h
      exact absurd rfl hk

end LineTopology.Proofs.Lowering
