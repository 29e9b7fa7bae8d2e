import LineTopology.Proofs.ParameterReadings
import LineTopology.Proofs.PolicyLaws

namespace LineTopology.Proofs.LoweringFaults

open Text Lowering PolicyLaws ParameterReadings

def Called (name : String) (kind : Kind) : Prop :=
  (trim name).toList.map Char.toLower = kind.name.toList

def Labels (record : NodeRecord) (id : String) (kind : Kind) : Prop :=
  record.id = some id ∧ ∃ name, record.kind = some name ∧ Called name kind

def Gives (record : NodeRecord) (params : List (String × Json)) : Prop :=
  record.params = .object params ∨ record.params = .null ∧ params = []

variable {record : NodeRecord} {name id : String} {kind : Kind} {params : List (String × Json)}

section Parts

theorem toLower_name (kind : Kind) : kind.name.toList.map Char.toLower = kind.name.toList := by
  cases kind <;> decide

theorem sameLetters_trim_iff :
    Kind.sameLetters kind.name (trim name) = true ↔ Called name kind := by
  rw [Kind.sameLetters, beq_iff_eq, toLower_name, Called, eq_comm]

theorem Called.unique {other : Kind} (h : Called name kind) (ho : Called name other) :
    kind = other :=
  name_inj.mp (String.toList_inj.mp (h.symm.trans ho))

theorem Called.of_parse? (h : Kind.parse? name = some kind) : Called name kind := by
  rw [Kind.parse?] at h
  have hsame := List.find?_some h
  exact sameLetters_trim_iff.mp hsame

theorem parse?_eq_some_iff : Kind.parse? name = some kind ↔ Called name kind := by
  refine ⟨Called.of_parse?, fun h => ?_⟩
  cases hp : Kind.parse? name with
  | none =>
      rw [Kind.parse?, List.find?_eq_none] at hp
      exact absurd (sameLetters_trim_iff.mpr h) (hp kind (kind_mem_all kind))
  | some other => rw [h.unique (.of_parse? hp)]

theorem parse?_eq_none_iff : Kind.parse? name = none ↔ ∀ kind, ¬ Called name kind := by
  simp only [← parse?_eq_some_iff, Option.eq_none_iff_forall_ne_some]

theorem members?_eq_some_iff : record.members? = some params ↔ Gives record params := by
  rw [NodeRecord.members?, Gives]
  cases record.params <;> simp [eq_comm]

theorem members?_eq_none_iff :
    record.members? = none ↔
      record.params ≠ .null ∧ ∀ members, record.params ≠ .object members := by
  rw [NodeRecord.members?]
  cases record.params <;> simp

end Parts

/-- What becomes of a record: the first of its parts that is missing or cannot be read decides. -/
inductive Judged (record : NodeRecord) : Except NodeFault Node → Prop
  | noId (h : record.id = none) : Judged record (.error .noId)
  | noKind {id : String} (hid : record.id = some id) (h : record.kind = none) :
      Judged record (.error (.noKind id))
  | unknownKind {id name : String} (hid : record.id = some id) (hname : record.kind = some name)
      (h : ∀ kind, ¬ Called name kind) : Judged record (.error (.unknownKind id name))
  | paramsNotObject {id : String} {kind : Kind} (hlabels : Labels record id kind)
      (h : record.params ≠ .null ∧ ∀ members, record.params ≠ .object members) :
      Judged record (.error (.paramsNotObject id kind))
  | badParams {id : String} {kind : Kind} {params : List (String × Json)} {fault : ParameterFault}
      (hlabels : Labels record id kind) (hparams : Gives record params)
      (h : ¬ WellFormed kind params) : Judged record (.error (.badParams id kind fault))
  | described {node : Node} {params : List (String × Json)}
      (hlabels : Labels record node.id node.kind) (hparams : Gives record params)
      (h : WellFormed node.kind params) : Judged record (.ok node)

section Judgements

theorem lower_judged (record : NodeRecord) : Judged record record.lower := by
  rw [NodeRecord.lower]
  split
  next hid => exact .noId hid
  next id hid hname => exact .noKind hid hname
  next id name hid hname =>
    split
    next hkind => exact .unknownKind hid hname (parse?_eq_none_iff.mp hkind)
    next kind hkind =>
      have hlabels : Labels record id kind := ⟨hid, name, hname, parse?_eq_some_iff.mp hkind⟩
      split
      next hparams => exact .paramsNotObject hlabels (members?_eq_none_iff.mp hparams)
      next params hparams =>
        have hgives := members?_eq_some_iff.mp hparams
        split
        next fault hstation =>
          refine .badParams hlabels hgives fun hwell => ?_
          obtain ⟨station, hok⟩ := station_isOk_iff.mpr hwell
          cases hstation.symm.trans hok
        next station hstation =>
          have hkind : station.kind = kind := station_kind hstation
          subst hkind
          exact .described hlabels hgives (station_isOk_iff.mp ⟨station, hstation⟩)

theorem lower_of_noId (h : record.id = none) : record.lower = .error .noId := by
  rw [NodeRecord.lower, h]

theorem lower_of_noKind (hid : record.id = some id) (h : record.kind = none) :
    record.lower = .error (.noKind id) := by
  rw [NodeRecord.lower, hid, h]

theorem lower_of_unknownKind (hid : record.id = some id) (hname : record.kind = some name)
    (h : ∀ kind, ¬ Called name kind) : record.lower = .error (.unknownKind id name) := by
  simp only [NodeRecord.lower, hid, hname, parse?_eq_none_iff.mpr h]

theorem lower_of_paramsNotObject (hlabels : Labels record id kind)
    (h : record.params ≠ .null ∧ ∀ members, record.params ≠ .object members) :
    record.lower = .error (.paramsNotObject id kind) := by
  obtain ⟨hid, name, hname, hcalled⟩ := hlabels
  simp only [NodeRecord.lower, hid, hname, parse?_eq_some_iff.mpr hcalled,
    members?_eq_none_iff.mpr h]

theorem lower_of_badParams (hlabels : Labels record id kind) (hgives : Gives record params)
    (h : ¬ WellFormed kind params) : ∃ fault, record.lower = .error (.badParams id kind fault) := by
  obtain ⟨hid, name, hname, hcalled⟩ := hlabels
  cases hstation : Parameters.station kind params with
  | error fault =>
      refine ⟨fault, ?_⟩
      simp only [NodeRecord.lower, hid, hname, parse?_eq_some_iff.mpr hcalled,
        members?_eq_some_iff.mpr hgives, hstation]
  | ok station => exact absurd (station_isOk_iff.mp ⟨station, hstation⟩) h

theorem lower_of_wellFormed (hlabels : Labels record id kind) (hgives : Gives record params)
    (h : WellFormed kind params) :
    ∃ node, record.lower = .ok node ∧ node.id = id ∧ node.kind = kind := by
  obtain ⟨hid, name, hname, hcalled⟩ := hlabels
  obtain ⟨station, hstation⟩ := station_isOk_iff.mpr h
  have hl : record.lower = .ok ⟨id, station⟩ :=
    lower_ok_iff.mpr ⟨name, kind, params, hid, hname, parse?_eq_some_iff.mpr hcalled,
      members?_eq_some_iff.mpr hgives, hstation⟩
  exact ⟨⟨id, station⟩, hl, rfl, station_kind hstation⟩

end Judgements

structure Decides (record : NodeRecord) : Prop where
  noId : record.lower = .error .noId ↔ record.id = none
  noKind : ∀ id, record.lower = .error (.noKind id) ↔ record.id = some id ∧ record.kind = none
  unknownKind : ∀ id name, record.lower = .error (.unknownKind id name) ↔
    record.id = some id ∧ record.kind = some name ∧ ∀ kind, ¬ Called name kind
  paramsNotObject : ∀ id kind, record.lower = .error (.paramsNotObject id kind) ↔
    Labels record id kind ∧ record.params ≠ .null ∧ ∀ members, record.params ≠ .object members
  badParams : ∀ id kind, (∃ fault, record.lower = .error (.badParams id kind fault)) ↔
    Labels record id kind ∧ ∃ params, Gives record params ∧ ¬ WellFormed kind params
  described : ∀ id kind, (∃ node, record.lower = .ok node ∧ node.id = id ∧ node.kind = kind) ↔
    Labels record id kind ∧ ∃ params, Gives record params ∧ WellFormed kind params

/-- Whether a record describes a component, and if not why not, is decided by the first of these
that does not hold: it has an id, it names a kind, its parameters are an object or nothing, and they
are of the form that the kind asks for. -/
theorem lowering_decided (record : NodeRecord) : Decides record := by
  constructor
  case noId =>
    refine ⟨fun h => ?_, lower_of_noId⟩
    cases h ▸ lower_judged record with
    | noId h => exact h
  case noKind =>
    refine fun id => ⟨fun h => ?_, fun ⟨hid, h⟩ => lower_of_noKind hid h⟩
    cases h ▸ lower_judged record with
    | noKind hid h => exact ⟨hid, h⟩
  case unknownKind =>
    refine fun id name => ⟨fun h => ?_, fun ⟨hid, hname, h⟩ => lower_of_unknownKind hid hname h⟩
    cases h ▸ lower_judged record with
    | unknownKind hid hname h => exact ⟨hid, hname, h⟩
  case paramsNotObject =>
    refine fun id kind => ⟨fun h => ?_, fun ⟨hlabels, h⟩ => lower_of_paramsNotObject hlabels h⟩
    cases h ▸ lower_judged record with
    | paramsNotObject hlabels h => exact ⟨hlabels, h⟩
  case badParams =>
    refine fun id kind => ⟨?_, fun ⟨hlabels, _, hgives, h⟩ => lower_of_badParams hlabels hgives h⟩
    rintro ⟨fault, h⟩
    cases h ▸ lower_judged record with
    | badParams hlabels hgives h => exact ⟨hlabels, _, hgives, h⟩
  case described =>
    refine fun id kind => ⟨?_, fun ⟨hlabels, _, hgives, h⟩ => lower_of_wellFormed hlabels hgives h⟩
    rintro ⟨node, h, rfl, rfl⟩
    cases h ▸ lower_judged record with
    | described hlabels hgives h => exact ⟨hlabels, _, hgives, h⟩

end LineTopology.Proofs.LoweringFaults
