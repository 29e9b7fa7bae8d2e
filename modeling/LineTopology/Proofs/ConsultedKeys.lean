import LineTopology.Proofs.DeclaredElement
import LineTopology.Proofs.LoweringFaults

namespace LineTopology.Proofs.ConsultedKeys

open Dictionary Parameters Lowering DeclaredElement ParameterReadings LoweringFaults

def consulted : Kind → List String
  | .generator => elementKeys ++ ["onDemand"]
  | .queue | .selector => elementKeys ++ ["entradas", "salidas"]
  | .output => elementKeys ++ ["entradas"]
  | .transporter => elementKeys
  | .transformer => ["handles", "entradasDef", "salidasDef"]

def AgreeOn (keys : List String) (params more : List (String × Json)) : Prop :=
  ∀ key ∈ keys, find? key more = find? key params

section Agreement

variable {params more : List (String × Json)} {keys rest : List String} {kind : Kind}

theorem AgreeOn.left (h : AgreeOn (keys ++ rest) params more) : AgreeOn keys params more :=
  fun key hkey => h key (List.mem_append_left rest hkey)

theorem AgreeOn.right (h : AgreeOn (keys ++ rest) params more) : AgreeOn rest params more :=
  fun key hkey => h key (List.mem_append_right keys hkey)

theorem element?_congr (h : AgreeOn elementKeys params more) : element? more = element? params := by
  rw [element?, element?, List.filterMap_congr h]

theorem portCountAt_congr {key : String} (h : find? key more = find? key params) :
    portCountAt key more = portCountAt key params := by
  rw [portCountAt, portCountAt, h]

theorem station_congr (h : AgreeOn (consulted kind) params more) :
    Parameters.station kind more = Parameters.station kind params := by
  cases kind with
  | generator =>
      have honDemand := h.right "onDemand" List.mem_cons_self
      simp only [Parameters.station, element?_congr h.left, honDemand]
  | queue | selector =>
      have hinputs := portCountAt_congr (h.right "entradas" (by simp))
      have houtputs := portCountAt_congr (h.right "salidas" (by simp))
      simp only [Parameters.station, element?_congr h.left, hinputs, houtputs]
  | output =>
      have hinputs := portCountAt_congr (h.right "entradas" (by simp))
      simp only [Parameters.station, element?_congr h.left, hinputs]
  | transporter => simp only [Parameters.station, element?_congr h]
  | transformer =>
      have hhandles := h "handles" (by simp [consulted])
      have hinputs := h "entradasDef" (by simp [consulted])
      have houtputs := h "salidasDef" (by simp [consulted])
      simp only [Parameters.station, hhandles, hinputs, houtputs]

end Agreement

section Need

variable {params : List (String × Json)} {kind : Kind} {key : String}

theorem find?_singleton (key : String) (value : Json) : find? key [(key, value)] = some value := by
  simp [find?]

theorem wellFormed_nil (kind : Kind) : WellFormed kind [] := by
  cases kind <;> simp [WellFormed, Holds, find?]

theorem station_ne_of_malformed (h : ¬ WellFormed kind params) :
    Parameters.station kind params ≠ Parameters.station kind [] := by
  intro heq
  obtain ⟨station, hstation⟩ := station_isOk_iff.mpr (wellFormed_nil kind)
  exact h (station_isOk_iff.mp ⟨station, heq.trans hstation⟩)

theorem declares_singleton (h : key ∈ elementKeys) : Declares [(key, .string "x")] "x" := by
  obtain ⟨earlier, later, hkeys, hnot⟩ := List.eq_append_cons_of_mem h
  refine ⟨earlier, key, later, hkeys, ⟨_, _, find?_singleton key _, rfl, rfl, by decide⟩, ?_⟩
  rintro k hk other ⟨value, _, hvalue, _⟩
  have hne : key ≠ k := fun he => hnot (he ▸ hk)
  simp [find?, hne] at hvalue

theorem station_ne_of_elementKey (hk : kind ≠ .transformer) (h : key ∈ elementKeys) :
    Parameters.station kind [(key, .string "x")] ≠ Parameters.station kind [] := by
  intro heq
  obtain ⟨station, hstation⟩ := station_isOk_iff.mpr (wellFormed_nil kind)
  have hplain : station.kind ≠ .transformer := by
    rwa [station_kind hstation]
  have hsome := station_element (heq.trans hstation) hplain
  rw [station_element hstation hplain, element?_eq_some_iff.mpr (declares_singleton h)] at hsome
  cases hsome

theorem not_isPortCount_true : ¬ IsPortCount (.boolean true) := by
  rintro ⟨_, h⟩
  cases h

/-- No key is looked up in vain: each has a value that makes a difference. -/
theorem consulted_key_matters (h : key ∈ consulted kind) :
    ∃ value, Parameters.station kind [(key, value)] ≠ Parameters.station kind [] := by
  cases kind with
  | transporter => exact ⟨_, station_ne_of_elementKey (by decide) h⟩
  | generator =>
      rcases List.mem_append.mp h with h | h
      · exact ⟨_, station_ne_of_elementKey (by decide) h⟩
      · obtain rfl := List.mem_singleton.mp h
        refine ⟨.boolean true, fun heq => ?_⟩
        simp [Parameters.station, find?, flag] at heq
  | output =>
      rcases List.mem_append.mp h with h | h
      · exact ⟨_, station_ne_of_elementKey (by decide) h⟩
      · obtain rfl := List.mem_singleton.mp h
        refine ⟨.boolean true, station_ne_of_malformed fun hinputs => ?_⟩
        exact not_isPortCount_true (hinputs _ (find?_singleton _ _))
  | queue | selector =>
      rcases List.mem_append.mp h with h | h
      · exact ⟨_, station_ne_of_elementKey (by decide) h⟩
      · refine ⟨.boolean true, station_ne_of_malformed ?_⟩
        rintro ⟨hinputs, houtputs⟩
        simp only [List.mem_cons, List.not_mem_nil, or_false] at h
        rcases h with rfl | rfl
        · exact not_isPortCount_true (hinputs _ (find?_singleton _ _))
        · exact not_isPortCount_true (houtputs _ (find?_singleton _ _))
  | transformer =>
      refine ⟨.boolean true, station_ne_of_malformed ?_⟩
      rintro ⟨hhandles, hinputs, houtputs⟩
      simp only [consulted, List.mem_cons, List.not_mem_nil, or_false] at h
      rcases h with rfl | rfl | rfl
      · cases hhandles _ (find?_singleton _ _)
      · cases hinputs _ (find?_singleton _ _)
      · cases houtputs _ (find?_singleton _ _)

end Need

/-- What a record describes, or the fault that keeps it from describing anything, depends on no
parameter but those that its kind looks up. -/
theorem other_keys_ignored {record other : NodeRecord} {params more : List (String × Json)}
    (hid : other.id = record.id) (hkind : other.kind = record.kind) (hparams : Gives record params)
    (hmore : Gives other more)
    (h : ∀ name kind, record.kind = some name → Called name kind →
      AgreeOn (consulted kind) params more) : other.lower = record.lower := by
  rw [NodeRecord.lower, NodeRecord.lower, hid, hkind]
  cases record.id with
  | none => rfl
  | some id =>
      cases hname : record.kind with
      | none => rfl
      | some name =>
          cases hp : Kind.parse? name with
          | none => simp only [hp]
          | some kind =>
              have hstation := station_congr (h name kind hname (parse?_eq_some_iff.mp hp))
              simp only [hp, members?_eq_some_iff.mpr hparams, members?_eq_some_iff.mpr hmore,
                hstation]

def binParams (rest : List (String × Json)) : List (String × Json) :=
  ("elemento", .string "nut") :: ("entradas", .ofNat 2) :: rest

def simulated : List (String × Json) :=
  [("capacidad", .ofNat 40), ("entrada", .boolean true), ("handles", .string "none")]

def binRecord (rest : List (String × Json)) : NodeRecord :=
  ⟨some "bin", some "Queue", .object (binParams rest)⟩

theorem bin_ignores_simulation :
    AgreeOn (consulted .queue) (binParams []) (binParams simulated) ∧
      (binRecord simulated).lower = (binRecord []).lower := by
  have hagree : AgreeOn (consulted .queue) (binParams []) (binParams simulated) := by
    simp [AgreeOn, consulted, elementKeys, binParams, simulated, find?]
  have hcalled : Called "Queue" .queue := by rfl
  refine ⟨hagree, other_keys_ignored rfl rfl (.inl rfl) (.inl rfl) fun name kind hname hkind => ?_⟩
  obtain rfl := Option.some_inj.mp hname
  obtain rfl := hkind.unique hcalled
  exact hagree

end LineTopology.Proofs.ConsultedKeys
