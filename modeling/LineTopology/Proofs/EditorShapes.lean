import LineTopology.Proofs.Printing
import LineTopology.Proofs.Records
import LineTopology.Proofs.Rewordings
import LineTopology.Topology.Reading

namespace LineTopology.Proofs.EditorShapes

open Json Json.Reader Grammar Quotations Contents Meanings RecordMeanings Rewordings Printing

variable {α σ : Type}

section Wordings

/-- The editor writes `data` for the parameters of a node. -/
def nodeWordings : List Wording :=
  [⟨["id"], SameName⟩, ⟨["type"], SameName⟩, ⟨["params", "data"], (· = ·)⟩]

def edgeWordings : List Wording :=
  [⟨["id"], SameName⟩, ⟨["from", "source"], SameName⟩, ⟨["to", "target"], SameName⟩,
    ⟨["sourceHandle"], SameName⟩, ⟨["targetHandle"], SameName⟩]

def elementWordings : List Wording :=
  [⟨["id"], SameName⟩, ⟨["type"], SameName⟩, ⟨["params"], (· = ·)⟩]

def topologyWordings : List Wording :=
  [⟨["nodes"], InItem (Reworded nodeWordings)⟩, ⟨["edges"], InItem (Reworded edgeWordings)⟩,
    ⟨["elements"], InItem (Reworded elementWordings)⟩]

def requestWordings : List Wording :=
  [⟨["source"], SameName⟩, ⟨["target"], SameName⟩, ⟨["sourceHandle"], SameName⟩,
    ⟨["targetHandle"], SameName⟩]

end Wordings

section Values

variable {v v' : Form}

theorem nameOf_sameName (room : Nat) (h : SameName v v') : nameOf room v = nameOf room v' := by
  obtain ⟨hnumeral, hrun, hspells⟩ := h
  rename_i cs letters n
  have hnumber := run_numeral hnumeral
  rw [hrun] at hnumber
  obtain ⟨m, hm, he⟩ := Option.map_eq_some_iff.mp hnumber.symm
  cases he
  simp [nameOf, tree?, hm, spelled?_of_spells hspells, Json.name?]

theorem each?_inItem {m : Form → Option α} {alike : Form → Form → Prop}
    (hm : ∀ v v', alike v v' → m v = m v') {front behind : List Form} (h : alike v v')
    (seen : List α) :
    each? m seen (front ++ v :: behind) = each? m seen (front ++ v' :: behind) := by
  induction front generalizing seen with
  | nil => simp only [List.nil_append, each?, hm v v' h]
  | cons w front ih =>
      simp only [List.cons_append, each?]
      exact congrArg _ (funext fun x => ih (x :: seen))

theorem listOf_inItem {m : Meaning α} {alike : Form → Form → Prop}
    (hm : ∀ room v v', alike v v' → m room v = m room v') (room : Nat) (h : InItem alike v v') :
    listOf m room v = listOf m room v' := by
  obtain ⟨h⟩ := h
  cases room with
  | zero => rfl
  | succ room => exact each?_inItem (hm room) h []

end Values

section Fields

def named (name : String) (aliases : List String) (set : Option String → σ → σ) : Worded σ where
  toRole := role name aliases name_means set
  alike := SameName
  same room _ _ h := congrArg (Option.map set) (nameOf_sameName room h)

def plain (name : String) (aliases : List String) {read : Reader α} {m : Meaning α}
    (h : Means read m) (set : α → σ → σ) : Worded σ where
  toRole := role name aliases h set
  alike := (· = ·)
  same _ _ _ h := by rw [h]

def listed (name : String) {roles : List (Worded α)} (hi : Independent roles) (blank : α)
    {read : Reader α} (h : Means read (recordOf (roles.map Worded.toRole) blank))
    (set : List α → σ → σ) : Worded σ where
  toRole := role name [] (list_means h) set
  alike := InItem (Reworded (roles.map Worded.wording))
  same room _ _ h := congrArg (Option.map set)
    (listOf_inItem (m := recordOf (roles.map Worded.toRole) blank)
      (fun room _ _ h => recordOf_reworded hi h room) room h)

theorem apart_of_set {p q : Worded σ} {α β : Type} {m : Meaning α} {m' : Meaning β}
    {set : α → σ → σ} {set' : β → σ → σ} (hp : p.change = fun room v => (m room v).map set)
    (hq : q.change = fun room v => (m' room v).map set')
    (hset : ∀ a b x, set a (set' b x) = set' b (set a x)) : Apart p q := by
  intro room v w f g hf hg x
  rw [hp] at hf
  rw [hq] at hg
  obtain ⟨a, _, rfl⟩ := Option.map_eq_some_iff.mp hf
  obtain ⟨b, _, rfl⟩ := Option.map_eq_some_iff.mp hg
  exact hset a b x

end Fields

section Shapes

def nodeRoles : List (Worded NodeRecord) :=
  [named "id" [] fun x r => { r with id := x }, named "type" [] fun x r => { r with kind := x },
    plain "params" ["data"] any_means fun x r => { r with params := x }]

def edgeRoles : List (Worded EdgeRecord) :=
  [named "id" [] fun x r => { r with id := x },
    named "from" ["source"] fun x r => { r with source := x },
    named "to" ["target"] fun x r => { r with target := x },
    named "sourceHandle" [] fun x r => { r with sourceHandle := x },
    named "targetHandle" [] fun x r => { r with targetHandle := x }]

def elementRoles : List (Worded ElementRecord) :=
  [named "id" [] fun x r => { r with id := x }, named "type" [] fun x r => { r with type := x },
    plain "params" []
      (optional_means (dictionary_means (oneOf_means [] fun name => some (.ofName name))))
      fun x r => { r with params := x }]

def requestRoles : List (Worded EdgeRequest) :=
  [named "source" [] fun x r => { r with source := x },
    named "target" [] fun x r => { r with target := x },
    named "sourceHandle" [] fun x r => { r with sourceHandle := x },
    named "targetHandle" [] fun x r => { r with targetHandle := x }]

theorem node_independent : Independent nodeRoles where
  names := by decide
  apart := by
    simp only [nodeRoles, List.pairwise_cons, List.forall_mem_cons, List.not_mem_nil,
      false_implies, implies_true, and_true, List.Pairwise.nil]
    and_intros <;> exact apart_of_set rfl rfl fun _ _ _ => rfl

theorem edge_independent : Independent edgeRoles where
  names := by decide
  apart := by
    simp only [edgeRoles, List.pairwise_cons, List.forall_mem_cons, List.not_mem_nil,
      false_implies, implies_true, and_true, List.Pairwise.nil]
    and_intros <;> exact apart_of_set rfl rfl fun _ _ _ => rfl

theorem element_independent : Independent elementRoles where
  names := by decide
  apart := by
    simp only [elementRoles, List.pairwise_cons, List.forall_mem_cons, List.not_mem_nil,
      false_implies, implies_true, and_true, List.Pairwise.nil]
    and_intros <;> exact apart_of_set rfl rfl fun _ _ _ => rfl

theorem request_independent : Independent requestRoles where
  names := by decide
  apart := by
    simp only [requestRoles, List.pairwise_cons, List.forall_mem_cons, List.not_mem_nil,
      false_implies, implies_true, and_true, List.Pairwise.nil]
    and_intros <;> exact apart_of_set rfl rfl fun _ _ _ => rfl

theorem node_means :
    Means NodeRecord.reader (recordOf (nodeRoles.map Worded.toRole) .blank) :=
  record_means "NodeRecord" (nodeRoles.map Worded.toRole) .blank

theorem edge_means :
    Means EdgeRecord.reader (recordOf (edgeRoles.map Worded.toRole) .blank) :=
  record_means "EdgeRecord" (edgeRoles.map Worded.toRole) .blank

theorem element_means :
    Means ElementRecord.reader (recordOf (elementRoles.map Worded.toRole) .blank) :=
  record_means "ElementRecord" (elementRoles.map Worded.toRole) .blank

theorem request_means :
    Means EdgeRequest.reader (recordOf (requestRoles.map Worded.toRole) .blank) :=
  record_means "ConnectionRequest" (requestRoles.map Worded.toRole) .blank

def topologyRoles : List (Worded Topology) :=
  [listed "nodes" node_independent .blank node_means fun x p => { p with nodes := x },
    listed "edges" edge_independent .blank edge_means fun x p => { p with edges := x },
    listed "elements" element_independent .blank element_means fun x p => { p with elements := x }]

theorem topology_independent : Independent topologyRoles where
  names := by decide
  apart := by
    simp only [topologyRoles, List.pairwise_cons, List.forall_mem_cons, List.not_mem_nil,
      false_implies, implies_true, and_true, List.Pairwise.nil]
    and_intros <;> exact apart_of_set rfl rfl fun _ _ _ => rfl

theorem topology_means :
    Means Topology.reader (recordOf (topologyRoles.map Worded.toRole) .blank) :=
  record_means "ProcessDefinition" (topologyRoles.map Worded.toRole) .blank

end Shapes

inductive Alike : Except Misreading α → Except Misreading α → Prop
  | ok (x : α) : Alike (.ok x) (.ok x)
  | error (m m' : Misreading) : Alike (.error m) (.error m')

theorem alike_of_toOption {a b : Except Misreading α} (h : a.toOption = b.toOption) :
    Alike a b := by
  cases a with
  | error m =>
      cases b with
      | error m' => exact .error m m'
      | ok y => cases h
  | ok x =>
      cases b with
      | error m' => cases h
      | ok y =>
          cases h
          exact .ok x

theorem run_reworded {roles : List (Worded σ)} {blank : σ} {read : Reader σ} {form form' : Form}
    {text text' : String} (hi : Independent roles)
    (hm : Means read (recordOf (roles.map Worded.toRole) blank))
    (h : Reworded (roles.map Worded.wording) form form') (ht : Holds form text)
    (ht' : Holds form' text') : Alike (read.run text) (read.run text') := by
  refine alike_of_toOption ?_
  rw [run_means hm ht, run_means hm ht']
  exact recordOf_reworded hi h nestingLimit

/-- The shape of the editor and that of the process mean the same, in a topology, in a node and in
a request for an edge. -/
theorem editor_shapes_read_alike {form form' : Form} {text text' : String} (ht : Holds form text)
    (ht' : Holds form' text') :
    (Reworded topologyWordings form form' →
      Alike (Topology.reader.run text) (Topology.reader.run text')) ∧
    (Reworded nodeWordings form form' →
      Alike (NodeRecord.reader.run text) (NodeRecord.reader.run text')) ∧
    (Reworded requestWordings form form' →
      Alike (EdgeRequest.reader.run text) (EdgeRequest.reader.run text')) :=
  ⟨fun h => run_reworded topology_independent topology_means h ht ht',
    fun h => run_reworded node_independent node_means h ht ht',
    fun h => run_reworded request_independent request_means h ht ht'⟩

section Conveyor

def nut : Json := .object [("elemento", .string "nut")]

/-- A node and an edge as the editor writes them. -/
def drawnNode : Json :=
  .object [("id", .number (.integer 7)), ("data", nut), ("selected", .boolean true)]

def drawnEdge : Json := .object [("source", .number (.integer 7)), ("target", .string "press")]

def drawn : Json := .object [("nodes", .array [drawnNode]), ("edges", .array [drawnEdge])]

def plannedNode : Json := .object [("params", nut), ("id", .string "7")]

def plannedEdge : Json := .object [("to", .string "press"), ("from", .string "7")]

def planned : Json := .object [("edges", .array [plannedEdge]), ("nodes", .array [plannedNode])]

def plannedRequest : Json := .object [("target", .string "press"), ("source", .string "7")]

theorem seven_read :
    Reader.any.run (Json.number (.integer 7)).compact = .ok (.number (.integer 7)) := by
  have hrange : WellRead.InRange (.integer 7) := by
    change 7 ≤ Numeral.significandLimit
    decide
  exact Records.run_reads (Records.any_reads (.number hrange) rfl)

theorem seven_sameName : SameName (formOf (.number (.integer 7))) (formOf (.string "7")) :=
  .numeral (n := .integer 7) (integer_numeral 7) seven_read (letters_spell "7")

theorem drawnNode_reworded : Reworded nodeWordings (formOf drawnNode) (formOf plannedNode) := by
  have hid : Reworded nodeWordings (formOf drawnNode)
      (formOf (.object [("id", .string "7"), ("data", nut), ("selected", .boolean true)])) :=
    .value List.mem_cons_self List.mem_cons_self (letters_spell "id") seven_sameName
  have hdata : Reworded nodeWordings
      (formOf (.object [("data", nut), ("id", .string "7"), ("selected", .boolean true)]))
      (formOf (.object [("params", nut), ("id", .string "7"), ("selected", .boolean true)])) :=
    .rename (w := ⟨["params", "data"], (· = ·)⟩) (by simp [nodeWordings]) (by simp) (by simp)
      (letters_spell "data") (letters_spell "params")
  have hselected : Reworded nodeWordings (formOf plannedNode)
      (formOf (.object [("selected", .boolean true), ("params", nut), ("id", .string "7")])) :=
    .other (by simp [nodeWordings]) (letters_spell "selected")
  refine hid.trans (.trans (.reorder (.swap _ _ _)) (hdata.trans (.trans ?_ hselected.symm)))
  exact .reorder ((List.Perm.cons _ (.swap _ _ _)).trans (.swap _ _ _))

theorem drawnEdge_reworded : Reworded edgeWordings (formOf drawnEdge) (formOf plannedEdge) := by
  have hseven : Reworded edgeWordings (formOf drawnEdge)
      (formOf (.object [("source", .string "7"), ("target", .string "press")])) :=
    .value (w := ⟨["from", "source"], SameName⟩) (by simp [edgeWordings]) (by simp)
      (letters_spell "source") seven_sameName
  have hsource : Reworded edgeWordings
      (formOf (.object [("source", .string "7"), ("target", .string "press")]))
      (formOf (.object [("from", .string "7"), ("target", .string "press")])) :=
    .rename (w := ⟨["from", "source"], SameName⟩) (by simp [edgeWordings]) (by simp) (by simp)
      (letters_spell "source") (letters_spell "from")
  have htarget : Reworded edgeWordings
      (formOf (.object [("target", .string "press"), ("from", .string "7")]))
      (formOf plannedEdge) :=
    .rename (w := ⟨["to", "target"], SameName⟩) (by simp [edgeWordings]) (by simp) (by simp)
      (letters_spell "target") (letters_spell "to")
  exact hseven.trans (hsource.trans (.trans (.reorder (.swap _ _ _)) htarget))

theorem drawn_reworded : Reworded topologyWordings (formOf drawn) (formOf planned) := by
  have hnodes : Reworded topologyWordings (formOf drawn)
      (formOf (.object [("nodes", .array [plannedNode]), ("edges", .array [drawnEdge])])) :=
    .value (w := ⟨["nodes"], InItem (Reworded nodeWordings)⟩) (by simp [topologyWordings])
      (by simp) (letters_spell "nodes")
      (@InItem.item _ [] [] _ _ drawnNode_reworded)
  have hedges : Reworded topologyWordings
      (formOf (.object [("edges", .array [drawnEdge]), ("nodes", .array [plannedNode])]))
      (formOf planned) :=
    .value (w := ⟨["edges"], InItem (Reworded edgeWordings)⟩) (by simp [topologyWordings])
      (by simp) (letters_spell "edges")
      (@InItem.item _ [] [] _ _ drawnEdge_reworded)
  exact hnodes.trans (.trans (.reorder (.swap _ _ _)) hedges)

theorem request_reworded :
    Reworded requestWordings (formOf drawnEdge) (formOf plannedRequest) := by
  have hseven : Reworded requestWordings (formOf drawnEdge)
      (formOf (.object [("source", .string "7"), ("target", .string "press")])) :=
    .value List.mem_cons_self List.mem_cons_self (letters_spell "source") seven_sameName
  exact hseven.trans (.reorder (.swap _ _ _))

def conveyorNode : NodeRecord := ⟨some "7", none, nut⟩

def conveyor : Topology :=
  { nodes := [conveyorNode], edges := [⟨none, some "7", some "press", none, none⟩], elements := [] }

def conveyorRequest : EdgeRequest := ⟨some "7", some "press", none, none⟩

/-- The two shapes are not only read alike, they are both read. -/
theorem conveyor_read_alike :
    (Holds (formOf drawn) drawn.indented ∧ Holds (formOf planned) planned.indented ∧
      Reworded topologyWordings (formOf drawn) (formOf planned) ∧
      Alike (Topology.reader.run drawn.indented) (Topology.reader.run planned.indented) ∧
      Topology.reader.run drawn.indented = .ok conveyor ∧
      Topology.reader.run planned.indented = .ok conveyor) ∧
    (Holds (formOf drawnNode) drawnNode.indented ∧ Holds (formOf plannedNode) plannedNode.indented ∧
      Reworded nodeWordings (formOf drawnNode) (formOf plannedNode) ∧
      Alike (NodeRecord.reader.run drawnNode.indented)
        (NodeRecord.reader.run plannedNode.indented) ∧
      NodeRecord.reader.run drawnNode.indented = .ok conveyorNode ∧
      NodeRecord.reader.run plannedNode.indented = .ok conveyorNode) ∧
    Holds (formOf drawnEdge) drawnEdge.indented ∧
      Holds (formOf plannedRequest) plannedRequest.indented ∧
      Reworded requestWordings (formOf drawnEdge) (formOf plannedRequest) ∧
      Alike (EdgeRequest.reader.run drawnEdge.indented)
        (EdgeRequest.reader.run plannedRequest.indented) ∧
      EdgeRequest.reader.run drawnEdge.indented = .ok conveyorRequest ∧
      EdgeRequest.reader.run plannedRequest.indented = .ok conveyorRequest := by
  have hdrawn : Holds (formOf drawn) drawn.indented := indented_holds rfl
  have hplanned : Holds (formOf planned) planned.indented := indented_holds rfl
  have hnode : Holds (formOf drawnNode) drawnNode.indented := indented_holds rfl
  have hnode' : Holds (formOf plannedNode) plannedNode.indented := indented_holds rfl
  have hedge : Holds (formOf drawnEdge) drawnEdge.indented := indented_holds rfl
  have hrequest : Holds (formOf plannedRequest) plannedRequest.indented := indented_holds rfl
  refine ⟨⟨hdrawn, hplanned, drawn_reworded,
      (editor_shapes_read_alike hdrawn hplanned).1 drawn_reworded, ?_, ?_⟩,
    ⟨hnode, hnode', drawnNode_reworded,
      (editor_shapes_read_alike hnode hnode').2.1 drawnNode_reworded, ?_, ?_⟩,
    hedge, hrequest, request_reworded,
    (editor_shapes_read_alike hedge hrequest).2.2 request_reworded, ?_, ?_⟩
  · exact (run_ok_iff topology_means hdrawn).mpr rfl
  · exact (run_ok_iff topology_means hplanned).mpr rfl
  · exact (run_ok_iff node_means hnode).mpr rfl
  · exact (run_ok_iff node_means hnode').mpr rfl
  · exact (run_ok_iff request_means hedge).mpr rfl
  · exact (run_ok_iff request_means hrequest).mpr rfl

end Conveyor

end LineTopology.Proofs.EditorShapes
