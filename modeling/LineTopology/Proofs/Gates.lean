import LineTopology.CommandLine.Answer
import LineTopology.Proofs.Admission
import LineTopology.Proofs.Decimals
import LineTopology.Proofs.Passes

namespace LineTopology.Proofs.Gates

open LineTopology.Topology Text CommandLine Lowering Components Positions GraphIndex Wires Admission
  Decimals Passes

def FirstDescribes (topology : Topology) (node : Node) : Prop :=
  ∃ record, topology.record? node.id = some record ∧ record.lower = .ok node

structure Spans (topology : Topology) (position : Nat) (edge : EdgeRecord)
    (source target : Node) : Prop where
  edge_at : topology.edges[position]? = some edge
  source_id : edge.source = some source.id
  target_id : edge.target = some target.id
  source_first : FirstDescribes topology source
  target_first : FirstDescribes topology target

/-- A finding of the pass over the connections whose message begins with the name of the edge. -/
def rejects (position : Nat) (finding : Finding) : Bool :=
  finding.code == "G006" &&
    (Finding.edgeName position ++ " ").toList.isPrefixOf finding.message.toList

def Asks (files : Files) (arguments : List String) (topology : Topology) (edge : EdgeRecord)
    (source target : Node) : Prop :=
  ∃ path text,
    request arguments =
        .ok (.connect ⟨path, source.id, target.id, edge.sourceHandle, edge.targetHandle⟩) ∧
      files path = .ok text ∧ Topology.reader.run text = .ok topology

section Lookups

variable {topology : Topology} {node : Node} {record : NodeRecord} {records : List NodeRecord}

/-- The first record with an id describes what the first record to describe one with the id
describes, if it describes anything. -/
theorem first?_of_find? (hf : records.find? (·.id == some node.id) = some record)
    (hl : record.lower = .ok node) : first? records node.id = some node := by
  induction records with
  | nil => cases hf
  | cons head records ih =>
      rw [List.find?_cons] at hf
      split at hf
      next hid =>
        cases hf
        rw [first?_ok hl, if_pos rfl]
      next hid =>
        -- What the head describes has another id, if it describes anything.
        cases hhead : head.lower with
        | error fault =>
            rw [first?_error hhead]
            exact ih hf
        | ok other =>
            have hne : other.id ≠ node.id := by
              intro he
              rw [lower_id hhead, he] at hid
              exact absurd (beq_self_eq_true _) (by rw [hid]; exact Bool.false_ne_true)
            rw [first?_ok hhead, if_neg hne]
            exact ih hf

theorem component?_of_firstDescribes (h : FirstDescribes topology node) :
    component? topology.components node.id = some node := by
  obtain ⟨record, hrecord, hl⟩ := h
  rw [component?_components]
  exact first?_of_find? hrecord hl

theorem findNode_of_firstDescribes (h : FirstDescribes topology node) :
    findNode topology node.id = .ok node := by
  obtain ⟨record, hrecord, hl⟩ := h
  simp [findNode, hrecord, hl, Except.mapError]

theorem id_mem_of_firstDescribes (h : FirstDescribes topology node) : node.id ∈ topology.ids := by
  obtain ⟨record, hrecord, hl⟩ := h
  exact List.mem_filterMap.mpr ⟨record, List.mem_of_find?_eq_some hrecord, lower_id hl⟩

end Lookups

section Positions

variable {wire : Wire} {source : Node} {refusal : Refusal} {position : Nat}

theorem position_eq {m n : Nat} {rest : List Char}
    (h : decimal m ++ [']', ' '] <+: decimal n ++ ']' :: rest) : m = n := by
  obtain ⟨more, hmore⟩ := h
  have hdigits := congrArg (List.takeWhile isDigit) hmore
  rw [List.append_assoc, takeWhile_decimal (by simp; decide),
    takeWhile_decimal (by simp; decide)] at hdigits
  exact decimal_injective hdigits

theorem rejects_refusedEdge_iff :
    rejects position (.refusedEdge wire source refusal) = true ↔ wire.position = position := by
  have hmessage : ∃ rest, (Finding.refusedEdge wire source refusal).message.toList =
      "Edge[".toList ++ (decimal wire.position ++ ']' :: ' ' :: rest) :=
    ⟨_, by
      simp only [Finding.message, Finding.edgeName, String.toList_append, String.toList_ofList,
        List.append_assoc]
      rfl⟩
  have hname : (Finding.edgeName position ++ " ").toList =
      "Edge[".toList ++ (decimal position ++ [']', ' ']) := by
    simp only [Finding.edgeName, String.toList_append, String.toList_ofList, List.append_assoc]
    rfl
  obtain ⟨rest, hrest⟩ := hmessage
  have hcode : (Finding.refusedEdge wire source refusal).code == "G006" := beq_self_eq_true _
  rw [rejects, hcode, Bool.true_and, List.isPrefixOf_iff_prefix, hname, hrest,
    List.prefix_append_right_inj]
  constructor
  · exact fun h => (position_eq h).symm
  · rintro rfl
    exact ⟨rest, by simp⟩

end Positions

section Report

variable {topology : Topology} {policy : Policy} {position : Nat} {edge : EdgeRecord}
  {source target : Node}

def refused (position : Nat) (edge : EdgeRecord) (source target : Node) (refusal : Refusal) :
    Finding :=
  .refusedEdge ⟨position, source.id, target.id, edge.sourceHandle, edge.targetHandle⟩ source refusal

theorem wire?_of_spans (h : Spans topology position edge source target) :
    wire? topology.ids (edge, position) =
      some ⟨position, source.id, target.id, edge.sourceHandle, edge.targetHandle⟩ :=
  wire?_eq_some_iff.mpr ⟨rfl, h.source_id, h.target_id, rfl, rfl,
    id_mem_of_firstDescribes h.source_first, id_mem_of_firstDescribes h.target_first⟩

theorem rejects_wireFinding {components : List Node} {ids : List String} {finding : Finding}
    {j : Nat} (h : (wire? ids (edge, j)).bind (wireFinding components) = some finding) :
    rejects position finding = true ↔ j = position := by
  obtain ⟨wire, hw, hf⟩ := Option.bind_eq_some_iff.mp h
  obtain ⟨first, _, hs⟩ := Option.bind_eq_some_iff.mp hf
  obtain ⟨second, _, ht⟩ := Option.bind_eq_some_iff.mp hs
  split at ht
  next => cases ht
  next =>
    cases ht
    rw [rejects_refusedEdge_iff, (wire?_eq_some_iff.mp hw).1]

/-- Of the edge that spans two components, the report says what the rules say, once. -/
theorem rejections_of_spans (hr : policy.recheckConnections = true)
    (h : Spans topology position edge source target) :
    (topology.report policy).findings.filter (rejects position) =
      match Link.check (linkOf edge source target) with
      | .ok () => []
      | .error refusal => [refused position edge source target refusal] := by
  -- No other pass raises this code, and of this pass only one edge may do so at the position.
  have hfilter : (topology.report policy).findings.filter (rejects position) =
      topology.connectionFindings.filter (rejects position) := by
    rw [← refusals_of_report hr, List.filter_filter]
    refine List.filter_congr fun finding _ => ?_
    rw [rejects]
    grind
  have hconnections : topology.connectionFindings =
      (topology.edges.zipIdx 0).filterMap fun entry =>
        (wire? topology.ids entry).bind (wireFinding topology.components) := by
    rw [connectionFindings_eq, wires, List.filterMap_filterMap]
  rw [hfilter, hconnections, filter_filterMap_zipIdx (i := position)
    fun x j finding hf => by rw [Nat.zero_add]; exact rejects_wireFinding hf]
  rw [h.edge_at, Option.bind_some, Nat.zero_add, wire?_of_spans h, Option.bind_some, wireFinding,
    component?_of_firstDescribes h.source_first, Option.bind_some,
    component?_of_firstDescribes h.target_first, Option.bind_some, linkOf]
  cases Link.check ⟨source.station, target.station, edge.sourceHandle, edge.targetHandle⟩ <;> rfl

end Report

section CommandLine

variable {topology : Topology} {edge : EdgeRecord} {source target : Node} {files : Files}
  {arguments : List String}

theorem display_eq (refusal : Refusal) :
    refusal.display = "[Connection:" ++ refusal.code ++ "] " ++ refusal.reason := by
  have hstage : "[" ++ "Connection" ++ ":" = "[Connection:" := by decide
  rw [Refusal.display, Finding.labelled, hstage]

theorem answer_of_asks (hs : FirstDescribes topology source) (ht : FirstDescribes topology target)
    (ha : Asks files arguments topology edge source target) :
    answer files arguments =
      match Link.check (linkOf edge source target) with
      | .ok () => ⟨0, [source.id ++ " -> " ++ target.id ++ ": accepted"], []⟩
      | .error refusal => ⟨1, ["[Connection:" ++ refusal.code ++ "] " ++ refusal.reason], []⟩ := by
  obtain ⟨path, text, hrequest, hfile, hread⟩ := ha
  have htopology : readTopology files path = .ok topology := by
    simp [readTopology, readFile, hfile, hread, Except.mapError, bind, Except.bind]
  have hconnect : ConnectRequest.answer
      ⟨path, source.id, target.id, edge.sourceHandle, edge.targetHandle⟩ files =
      match Link.check (linkOf edge source target) with
      | .ok () => .ok ⟨0, [source.id ++ " -> " ++ target.id ++ ": accepted"], []⟩
      | .error refusal => .ok ⟨1, [refusal.display], []⟩ := by
    simp only [ConnectRequest.answer, htopology, findNode_of_firstDescribes hs,
      findNode_of_firstDescribes ht, bind, Except.bind, linkOf]
    rfl
  rw [answer, hrequest]
  simp only [Request.answer, hconnect]
  cases Link.check (linkOf edge source target) with
  | ok => rfl
  | error refusal => simp only [display_eq]

end CommandLine

section Agreement

variable (topology : Topology) (policy : Policy)

/-- The two gates judge an edge alike, each by its own way to the components: the report on the
topology, whatever else is wrong with it, rejects the edge once and for the reason that the command
line gives for refusing it, or not at all. -/
theorem gates_agree (hr : policy.recheckConnections = true) {position : Nat} {edge : EdgeRecord}
    {source target : Node} (h : Spans topology position edge source target) :
    findNode topology source.id = .ok source ∧ findNode topology target.id = .ok target ∧
      (∀ refusal, Link.check (linkOf edge source target) = .error refusal →
        (∃ finding, (topology.report policy).findings.filter (rejects position) = [finding] ∧
          finding.nodeId? = some source.id ∧
          finding.message = Finding.edgeName position ++ " " ++ source.id ++ " -> " ++ target.id ++
            ": " ++ refusal.reason) ∧
        ∀ files arguments, Asks files arguments topology edge source target →
          answer files arguments =
            ⟨1, ["[Connection:" ++ refusal.code ++ "] " ++ refusal.reason], []⟩) ∧
      (Link.check (linkOf edge source target) = .ok () →
        (topology.report policy).findings.filter (rejects position) = [] ∧
        ∀ files arguments, Asks files arguments topology edge source target →
          answer files arguments =
            ⟨0, [source.id ++ " -> " ++ target.id ++ ": accepted"], []⟩) := by
  have hreport := rejections_of_spans hr h
  refine ⟨findNode_of_firstDescribes h.source_first, findNode_of_firstDescribes h.target_first,
    fun refusal hcheck => ?_, fun hcheck => ?_⟩
  · rw [hcheck] at hreport
    refine ⟨⟨_, hreport, rfl, rfl⟩, fun files arguments ha => ?_⟩
    rw [answer_of_asks h.source_first h.target_first ha, hcheck]
  · rw [hcheck] at hreport
    refine ⟨hreport, fun files arguments ha => ?_⟩
    rw [answer_of_asks h.source_first h.target_first ha, hcheck]

end Agreement

/-- A belt for bolts runs to a store of nuts; another record repeats the id of the belt, and one
describes nothing. -/
def yard : Topology :=
  { nodes :=
      [⟨some "belt", some "transporter", .object [("elemento", .string "bolt")]⟩,
        ⟨some "belt", some "queue", .null⟩,
        ⟨some "store", some "queue", .object [("elemento", .string "nut")]⟩,
        ⟨none, none, .null⟩]
    edges := [⟨none, none, none, none, none⟩, ⟨none, some "belt", some "store", none, none⟩]
    elements := [] }

def yardText : String :=
  "[[[\"belt\",\"transporter\",\x7b\"elemento\":\"bolt\"\x7d],[\"belt\",\"queue\"]," ++
    "[\"store\",\"queue\",\x7b\"elemento\":\"nut\"\x7d],[]],[[],[null,\"belt\",\"store\"]]]"

def belt : Node := ⟨"belt", .transporter (some "bolt")⟩

def store : Node := ⟨"store", .queue (some "nut") 1 1⟩

def beltToStore : EdgeRecord := ⟨none, some "belt", some "store", none, none⟩

theorem yard_read : Topology.reader.run yardText = .ok yard := by decide +kernel

theorem yard_spans : Spans yard 1 beltToStore belt store where
  edge_at := rfl
  source_id := rfl
  target_id := rfl
  source_first := ⟨_, rfl, rfl⟩
  target_first := ⟨_, rfl, rfl⟩

def yardArguments : List String := ["connect", "yard.json", "belt", "store"]

theorem yard_asks : Asks (fun _ => .ok yardText) yardArguments yard beltToStore belt store :=
  ⟨"yard.json", yardText, rfl, rfl, yard_read⟩

theorem yard_gates_agree :
    Spans yard 1 beltToStore belt store ∧
      Asks (fun _ => .ok yardText) yardArguments yard beltToStore belt store ∧
      (∃ finding, (yard.report ⟨[], false, true⟩).findings.filter (rejects 1) = [finding] ∧
        finding.nodeId? = some "belt" ∧
        finding.message = "Edge[1] belt -> store: The queue only receives elements of type " ++
          "\"nut\", but the source produces \"bolt\".") ∧
      answer (fun _ => .ok yardText) yardArguments =
        ⟨1, ["[Connection:C002] The queue only receives elements of type " ++
          "\"nut\", but the source produces \"bolt\"."], []⟩ := by
  obtain ⟨_, _, hrefused, _⟩ := gates_agree yard ⟨[], false, true⟩ rfl yard_spans
  obtain ⟨⟨finding, hfilter, hid, hmessage⟩, hanswer⟩ :=
    hrefused (.element .queueReceives (some "nut") (some "bolt")) rfl
  refine ⟨yard_spans, yard_asks, ⟨finding, hfilter, hid, hmessage.trans ?_⟩,
    (hanswer _ _ yard_asks).trans ?_⟩
  · decide +kernel
  · rfl

end LineTopology.Proofs.Gates
