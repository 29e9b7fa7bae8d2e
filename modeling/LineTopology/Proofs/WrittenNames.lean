import LineTopology.Proofs.Admission
import LineTopology.Proofs.ImplicitPort
import LineTopology.Proofs.Passes
import LineTopology.Proofs.Recipes
import LineTopology.Proofs.Trimming

namespace LineTopology.Proofs.WrittenNames

open LineTopology.Topology Text Link Lowering Components Admission Passes LinkFaults LinkVerdict
  ImplicitPort Recipes Trimming

def Declares (record : NodeRecord) (name : String) : Prop :=
  ∃ params, record.members? = some params ∧
    Dictionary.find? "elemento" params = some (.string name)

def FoundUnknown (report : Report) (node : Node) : Prop :=
  ∃ finding ∈ report.findings, finding.code = "G002" ∧ finding.node? = some node

def binRecord (name : String) : NodeRecord :=
  ⟨some "bin", some "queue", .object [("elemento", .string name)]⟩

def bin (element : String) : Node := ⟨"bin", .queue (some element) 1 1⟩

variable {name : String} {record : NodeRecord} {node : Node}

section Declared

theorem element?_declared {params : List (String × Json)}
    (h : Dictionary.find? "elemento" params = some (.string name)) (hs : isBlank name = false) :
    Parameters.element? params = some (trim name) := by
  have hne : trim name ≠ "" := by
    rw [Ne, trim_eq_empty_iff, hs]
    exact Bool.false_ne_true
  simp [Parameters.element?, Parameters.elementKeys, h, Json.name?, hne]

theorem lower_element (hl : record.lower = .ok node) (hk : node.kind ≠ .transformer)
    (hd : Declares record name) (hs : isBlank name = false) : node.element? = some (trim name) := by
  obtain ⟨_, kind, params, _, _, _, hparams, hstation⟩ := lower_ok_iff.mp hl
  obtain ⟨given, hgiven, hname⟩ := hd
  rw [hparams, Option.some_inj] at hgiven
  subst hgiven
  exact (station_element hstation hk).trans (element?_declared hname hs)

end Declared

section Catalog

variable {topology : Topology} {policy : Policy}

theorem foundUnknown_iff :
    FoundUnknown (topology.report policy) node ↔
      node ∈ topology.typed policy ∧
        ∃ element, node.element? = some element ∧ ¬ Catalogued topology element := by
  have hpass {finding : Finding} : finding ∈ (topology.report policy).findings ∧
      finding.code = "G002" ↔ finding ∈ topology.uncatalogued policy := by
    rw [← uncatalogued_of_report, List.mem_filter, beq_iff_eq]
  constructor
  · rintro ⟨finding, hf, hcode, hnode⟩
    obtain ⟨other, ho, element, he, hc, rfl⟩ := mem_uncatalogued_iff.mp (hpass.mp ⟨hf, hcode⟩)
    cases hnode
    exact ⟨ho, element, he, hc⟩
  · rintro ⟨hn, element, he, hc⟩
    obtain ⟨hf, hcode⟩ := hpass.mpr (mem_uncatalogued_iff.mpr ⟨node, hn, element, he, hc, rfl⟩)
    exact ⟨_, hf, hcode, rfl⟩

/-- The catalog keeps a name as it is written, but a component looks its name up without the blanks
around it: whether the name is found hangs on the trimmed one being an element of its own. -/
theorem lookup_of_written_name (topology : Topology) (policy : Policy) (name : String)
    {record : NodeRecord} {node : Node} (hr : record ∈ topology.nodes)
    (hl : record.lower = .ok node) (hk : node.kind ≠ .transformer)
    (hx : node.kind ∉ policy.exemptKinds) (hd : Declares record name)
    (hs : isBlank name = false) (hc : Catalogued topology name) :
    (FoundUnknown (topology.report policy) node ↔
        node ∈ topology.components ∧ ¬ Catalogued topology (trim name)) ∧
      (topology.ids.Nodup →
        (FoundUnknown (topology.report policy) node ↔ ¬ Catalogued topology (trim name))) ∧
      (Trimmed name → ¬ FoundUnknown (topology.report policy) node) := by
  have hfound : FoundUnknown (topology.report policy) node ↔
      node ∈ topology.components ∧ ¬ Catalogued topology (trim name) := by
    rw [foundUnknown_iff, mem_typed_iff, lower_element hl hk hd hs]
    simp [hk, hx]
  refine ⟨hfound, fun hids => ?_, fun ht hf => ?_⟩
  · have hkept : node ∈ topology.components :=
      (mem_components_iff_describes hids).mpr ⟨record, hr, lower_id hl, hl⟩
    rw [hfound, and_iff_right hkept]
  · rw [hfound, trim_eq_self_iff.mpr ht] at hf
    exact hf.2 hc

end Catalog

def store (name : String) : Topology := ⟨[binRecord name], [], [⟨none, some name, none⟩]⟩

theorem plain_name_is_found :
    (binRecord "nut").lower = .ok (bin "nut") ∧ Declares (binRecord "nut") "nut" ∧
      Catalogued (store "nut") "nut" ∧ Trimmed "nut" ∧
      ¬ FoundUnknown ((store "nut").report .standard) (bin "nut") := by
  have hl : (binRecord "nut").lower = .ok (bin "nut") := rfl
  have hd : Declares (binRecord "nut") "nut" := ⟨_, rfl, rfl⟩
  have hc : Catalogued (store "nut") "nut" := ⟨_, List.mem_cons_self, rfl⟩
  have ht : Trimmed "nut" := by decide
  obtain ⟨_, _, hfound⟩ := lookup_of_written_name (store "nut") .standard "nut"
    List.mem_cons_self hl (by decide) (by decide) hd (by decide) hc
  exact ⟨hl, hd, hc, ht, hfound ht⟩

/-- A name that record and catalog write alike, with a blank at either end, is not found. -/
theorem padded_name_is_not_found :
    (binRecord " nut ").lower = .ok (bin "nut") ∧ Declares (binRecord " nut ") " nut " ∧
      isBlank " nut " = false ∧ Catalogued (store " nut ") " nut " ∧
      ((store " nut ").report .standard).findings = [.unknownElement (bin "nut") "nut"] ∧
      FoundUnknown ((store " nut ").report .standard) (bin "nut") := by
  have hfindings : ((store " nut ").report .standard).findings =
      [.unknownElement (bin "nut") "nut"] := rfl
  refine ⟨rfl, ⟨_, rfl, rfl⟩, by decide, ⟨_, List.mem_cons_self, rfl⟩, hfindings, ?_⟩
  exact ⟨_, by rw [hfindings]; exact List.mem_cons_self, rfl, rfl⟩

section Recipe

variable {link : Link} {plain recipe : NodeRecord} {press : Node}

theorem mapped_verdict (side : Side) (hf : Feeds link)
    (hk : (station link side).kind = .transformer)
    (hc : (station link side).carried? side (handle? link side) = some name)
    (he : (station link (opposite side)).element? = some (trim name)) :
    (check link = .ok () ↔ Trimmed name) ∧
      (Raises (check link) .typeMismatch ↔ ¬ Trimmed name) := by
  have hcompatible : Compatible link ↔ Trimmed name := by
    rw [compatible_mapped_iff hf hk hc, he, Option.some_inj, trim_eq_self_iff]
  obtain ⟨haccepts, hraises⟩ := check_exact link
  constructor
  · rw [haccepts, hcompatible, and_iff_right hf]
  · rw [hraises]
    exact (and_iff_right hf).trans (not_congr hcompatible)

theorem checkLink_eq {source target : Node} (hs : plain.lower = .ok source)
    (ht : recipe.lower = .ok target) (sourceHandle targetHandle : Option String) :
    plain.checkLink recipe sourceHandle targetHandle =
      check (between source target sourceHandle targetHandle) := by
  rw [NodeRecord.checkLink, hs, ht]
  rfl

/-- A recipe keeps a name as it is written, but a component with one element takes its name without
the blanks around it: the handle of the written name meets the component if there are none. -/
theorem recipe_meets_written_name (name : String) (hs : isBlank name = false)
    {plain recipe : NodeRecord} {node press : Node} (hn : plain.lower = .ok node)
    (hp : recipe.lower = .ok press) (hk : press.kind = .transformer) (hd : Declares plain name)
    (hm : Unmentioned recipe name) :
    (node.endpoint ∈ [Endpoint.queue, .selector, .onDemandGenerator] → Lists recipe .target name →
        ∀ handle, (plain.checkLink recipe handle (some name) = .ok () ↔ Trimmed name) ∧
          (Raises (plain.checkLink recipe handle (some name)) .typeMismatch ↔ ¬ Trimmed name)) ∧
      (node.endpoint ∈ [Endpoint.queue, .output] → Lists recipe .source name →
        ∀ handle, (recipe.checkLink plain (some name) handle = .ok () ↔ Trimmed name) ∧
          (Raises (recipe.checkLink plain (some name) handle) .typeMismatch ↔ ¬ Trimmed name)) := by
  have hne : name ≠ "" := by
    rintro rfl
    exact absurd hs (by decide)
  have hpress : press.endpoint = .transformer := by
    obtain ⟨t, ht⟩ := exists_transformer hk
    rw [Node.endpoint, ht]
    rfl
  constructor
  · intro hkind hlist handle
    have hall : ∀ endpoint ∈ [Endpoint.queue, .selector, .onDemandGenerator],
        endpoint.kind ≠ .transformer ∧ endpoint.mayFeed .transformer = true := by decide
    obtain ⟨hplain, hfeeds⟩ := hall _ hkind
    rw [← hk] at hfeeds
    rw [checkLink_eq hn hp]
    exact mapped_verdict .target hfeeds hk (carried_of_lists hp hk hlist hne hm)
      (lower_element hn hplain hd hs)
  · intro hkind hlist handle
    have hall : ∀ endpoint ∈ [Endpoint.queue, .output],
        endpoint.kind ≠ .transformer ∧ Endpoint.transformer.mayFeed endpoint.kind = true := by
      decide
    obtain ⟨hplain, hfeeds⟩ := hall _ hkind
    rw [← hpress] at hfeeds
    rw [checkLink_eq hp hn]
    exact mapped_verdict .source hfeeds hk (carried_of_lists hp hk hlist hne hm)
      (lower_element hn hplain hd hs)

end Recipe

def cutterRecord (name : String) : NodeRecord :=
  ⟨some "cutter", some "transformer", .object
    [("entradasDef", .array [.object [("elemento", .string name)]]),
      ("salidasDef", .array [.array [.string name]])]⟩

def cutter (name : String) : Node := ⟨"cutter", .transformer ⟨[(name, name)], [name], [name]⟩⟩

theorem cutter_lists (side : Side) (name : String) : Lists (cutterRecord name) side name := by
  cases side with
  | source => exact ⟨_, _, _, rfl, rfl, List.mem_cons_self, .list⟩
  | target => exact ⟨_, _, _, rfl, rfl, List.mem_cons_self, .object rfl⟩

theorem cutter_unmentioned (name : String) : Unmentioned (cutterRecord name) name := by
  intro params members hparams hhandles
  cases hparams
  cases hhandles

theorem plain_name_meets :
    (binRecord "nut").lower = .ok (bin "nut") ∧ (cutterRecord "nut").lower = .ok (cutter "nut") ∧
      Declares (binRecord "nut") "nut" ∧ Unmentioned (cutterRecord "nut") "nut" ∧
      (binRecord "nut").checkLink (cutterRecord "nut") none (some "nut") = .ok () ∧
      (cutterRecord "nut").checkLink (binRecord "nut") (some "nut") none = .ok () := by
  have hl : (binRecord "nut").lower = .ok (bin "nut") := rfl
  have hp : (cutterRecord "nut").lower = .ok (cutter "nut") := rfl
  have hd : Declares (binRecord "nut") "nut" := ⟨_, rfl, rfl⟩
  have ht : Trimmed "nut" := by decide
  obtain ⟨hinto, hout⟩ := recipe_meets_written_name "nut" (by decide) hl hp rfl hd
    (cutter_unmentioned "nut")
  refine ⟨hl, hp, hd, cutter_unmentioned "nut", ?_, ?_⟩
  · exact (hinto (by decide) (cutter_lists .target "nut") none).1.mpr ht
  · exact (hout (by decide) (cutter_lists .source "nut") none).1.mpr ht

/-- A queue and a recipe that write the same name, with a blank at either end, do not meet. -/
theorem padded_name_does_not_meet :
    (binRecord " nut ").lower = .ok (bin "nut") ∧
      (cutterRecord " nut ").lower = .ok (cutter " nut ") ∧
      Declares (binRecord " nut ") " nut " ∧ isBlank " nut " = false ∧
      Lists (cutterRecord " nut ") .target " nut " ∧ Unmentioned (cutterRecord " nut ") " nut " ∧
      (binRecord " nut ").checkLink (cutterRecord " nut ") none (some " nut ") =
        .error (.element .queueSends (some "nut") (some " nut ")) :=
  ⟨rfl, rfl, ⟨_, rfl, rfl⟩, by decide, cutter_lists .target _, cutter_unmentioned _, rfl⟩

end LineTopology.Proofs.WrittenNames
