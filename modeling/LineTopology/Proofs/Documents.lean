import LineTopology.Proofs.Records
import LineTopology.Topology.Reading

namespace LineTopology.Proofs.Documents

open Json Json.Reader Dictionary WellRead Trees Records

variable {steps room : Nat}

section Invariants

theorem field_keeps_other {α σ : Type} {limits : Limits} {q : σ → Prop} {name : String}
    {aliases : List String} {read : Reader α} {set : α → σ → σ} (h : ∀ a x, q x → q (set a x)) :
    Yields ((field name aliases read set).read limits) fun set => ∀ x, q x → q (set x) :=
  field_keeps (p := fun _ => True) (fun _ _ _ _ => trivial) fun a _ => h a

def Listed (r : ElementRecord) : Prop := ∀ attributes ∈ r.params, Ascending attributes

theorem node_yields (steps room : Nat) :
    Yields (NodeRecord.reader ⟨steps, room + 1⟩) fun r => Fits room r.params := by
  refine record_yields .null (keeps_cons ?_ (keeps_cons ?_ (keeps_cons ?_ keeps_nil)))
  · exact field_keeps_other fun _ _ h => h
  · exact field_keeps_other fun _ _ h => h
  · exact field_keeps (value_fits steps room) fun _ h _ _ => h

theorem element_yields (steps room : Nat) :
    Yields (ElementRecord.reader ⟨steps, room + 2⟩) Listed := by
  have hparams : Yields (Reader.optional (.dictionary AttributeType.reader) ⟨steps, room + 1⟩)
      (∀ attributes ∈ ·, Sorted (fun _ => True) attributes) :=
    optional_yields (dictionary_yields fun _ _ _ _ => trivial)
  have hblank : Listed .blank := by simp [Listed, ElementRecord.blank]
  refine record_yields hblank (keeps_cons ?_ (keeps_cons ?_ (keeps_cons ?_ keeps_nil)))
  · exact field_keeps_other fun _ _ h => h
  · exact field_keeps_other fun _ _ h => h
  · exact field_keeps hparams fun _ h _ _ attributes ha => (h attributes ha).1

theorem topology_yields (steps room : Nat) :
    Yields (Topology.reader ⟨steps, room + 4⟩) fun t =>
      (∀ r ∈ t.nodes, Fits (room + 1) r.params) ∧ ∀ r ∈ t.elements, Listed r := by
  refine record_yields (by simp [Topology.blank])
    (keeps_cons ?_ (keeps_cons ?_ (keeps_cons ?_ keeps_nil)))
  · exact field_keeps (list_yields (node_yields steps (room + 1))) fun _ h _ ht => ⟨h, ht.2⟩
  · exact field_keeps_other fun _ _ ht => ht
  · exact field_keeps (list_yields (element_yields steps room)) fun _ h _ ht => ⟨ht.1, h⟩

theorem ordered_ordered (kinds : List Kind) :
    Policy.ordered (Policy.ordered kinds) = Policy.ordered kinds := by
  refine List.filter_congr fun kind hkind => ?_
  simp [Policy.ordered, hkind]

theorem policy_yields (steps room : Nat) :
    Yields (Policy.reader ⟨steps, room + 1⟩) fun p =>
      Policy.ordered p.exemptKinds = p.exemptKinds := by
  refine record_yields rfl (keeps_cons ?_ (keeps_cons ?_ (keeps_cons ?_ keeps_nil)))
  · exact field_keeps_other fun kinds _ _ => ordered_ordered kinds
  · exact field_keeps_other fun _ _ h => h
  · exact field_keeps_other fun _ _ h => h

end Invariants

section Readings

theorem node_reads {r : NodeRecord} (h : Fits room r.params) (hw : isWhole r.params = true) :
    ReadsBack NodeRecord.reader (room + 1) r.toJson r := by
  refine record_reads ?_
  rw [List.append_assoc]
  exact .name? rfl rfl rfl (.name? rfl rfl rfl (.field rfl rfl (any_reads h hw) (.done _ _)))

theorem edge_reads (r : EdgeRecord) : ReadsBack EdgeRecord.reader (room + 1) r.toJson r := by
  refine record_reads (.name? rfl rfl rfl ?_)
  refine .field rfl rfl (name_reads _) ?_
  refine .field rfl rfl (name_reads _) ?_
  refine .field rfl rfl (name_reads _) ?_
  exact .field rfl rfl (name_reads _) (.done _ _)

theorem attribute_reads (t : AttributeType) :
    ReadsBack AttributeType.reader room (.string t.name) t := by
  refine oneOf_reads ?_
  cases t <;> rfl

theorem attributes_read {attributes : List (String × AttributeType)} (h : Ascending attributes) :
    ReadsBack (.dictionary AttributeType.reader) (room + 1)
      (.object (attributes.map fun entry => (entry.1, .string entry.2.name))) attributes := by
  have hread : ∀ entry ∈ attributes,
      ReadsBack AttributeType.reader room (.string entry.2.name) entry.2 :=
    fun entry _ => attribute_reads entry.2
  exact dictionary_reads (w := fun t : AttributeType => .string t.name) h hread

theorem element_reads {r : ElementRecord} (h : Listed r) :
    ReadsBack ElementRecord.reader (room + 2) r.toJson r := by
  obtain ⟨id, type, params⟩ := r
  refine record_reads (.name? rfl rfl rfl ?_)
  refine .field rfl rfl (name_reads _) ?_
  cases params with
  | none => exact .field rfl rfl optional_none_reads (.done _ _)
  | some attributes =>
      have hbrace : (Json.object (attributes.map fun entry => (entry.1,
          Json.string entry.2.name))).chars.head? ≠ some 'n' := by
        rw [object_chars]
        simp
      exact .field rfl rfl (optional_some_reads (attributes_read (h _ rfl)) hbrace) (.done _ _)

theorem topology_reads {t : Topology} (hn : ∀ r ∈ t.nodes, Fits (room + 1) r.params)
    (hw : ∀ r ∈ t.nodes, isWhole r.params = true) (he : ∀ r ∈ t.elements, Listed r) :
    ReadsBack Topology.reader (room + 4) t.toJson t := by
  refine record_reads ?_
  refine .field rfl rfl (list_reads fun r hr => node_reads (hn r hr) (hw r hr)) ?_
  refine .field rfl rfl (list_reads fun r _ => edge_reads r) ?_
  exact .field rfl rfl (list_reads fun r hr => element_reads (he r hr)) (.done _ _)

theorem request_reads (room : Nat) (r : EdgeRequest) :
    ReadsBack EdgeRequest.reader (room + 1) r.toJson r := by
  refine record_reads ?_
  refine .field rfl rfl (name_reads _) ?_
  refine .field rfl rfl (name_reads _) ?_
  refine .field rfl rfl (name_reads _) ?_
  exact .field rfl rfl (name_reads _) (.done _ _)

theorem kind_reads (kind : Kind) : ReadsBack Kind.reader room (.string kind.name) kind := by
  refine oneOf_reads ?_
  cases kind <;> rfl

theorem policy_reads (room : Nat) {p : Policy} (h : Policy.ordered p.exemptKinds = p.exemptKinds) :
    ReadsBack Policy.reader (room + 2) p.toJson p := by
  have hread : ReadsBack Policy.reader (room + 2) p.toJson
      { p with exemptKinds := Policy.ordered p.exemptKinds } := by
    refine record_reads ?_
    refine .field rfl rfl (list_reads fun kind _ => kind_reads kind) ?_
    refine .field rfl rfl (boolean_reads _) ?_
    exact .field rfl rfl (boolean_reads _) (.done _ _)
  rw [h] at hread
  exact hread

end Readings

/-- Every document that can be read is written so that it can be read again, and is then the same;
of doubles inside the parameters of a node alone this is not promised. -/
theorem written_documents_read_back :
    (∀ text topology, Topology.reader.run text = .ok topology →
      (∀ r ∈ topology.nodes, isWhole r.params = true) →
      Topology.reader.run topology.toJson.compact = .ok topology) ∧
    (∀ text node, NodeRecord.reader.run text = .ok node → isWhole node.params = true →
      NodeRecord.reader.run node.toJson.compact = .ok node) ∧
    (∀ text request, EdgeRequest.reader.run text = .ok request →
      EdgeRequest.reader.run request.toJson.compact = .ok request) ∧
    (∀ text policy, Policy.reader.run text = .ok policy →
      Policy.reader.run policy.toJson.compact = .ok policy) := by
  refine ⟨fun text topology h hw => ?_, fun text node h hw => ?_, fun text request _ => ?_,
    fun text policy h => ?_⟩
  · obtain ⟨hn, he⟩ := run_yields (topology_yields (text.length + 1) 123) h
    exact run_reads (topology_reads hn hw he)
  · have hfits := run_yields (node_yields _ 126) h
    exact run_reads (node_reads hfits hw)
  · exact run_reads (request_reads 126 request)
  · have hordered := run_yields (policy_yields _ 126) h
    exact run_reads (policy_reads 125 hordered)

section Sample

/-- Records written as lists and under the editor's names, and an attribute of an unknown type. -/
def ovenText : String :=
  "[[[\"oven\\n\",null,[true]]],[\x7b\"source\":\"oven\\n\"\x7d]," ++
    "[[null,\"dough\",\x7b\"mass\":\"?\"\x7d]]]"

def oven : Topology where
  nodes := [⟨some "oven\n", none, .array [.boolean true]⟩]
  edges := [⟨none, some "oven\n", none, none, none⟩]
  elements := [⟨none, some "dough", some [("mass", .unknown)]⟩]

theorem oven_read : Topology.reader.run ovenText = .ok oven := by decide +kernel

def bareText : String := "\x7b\"data\":[\"\\u00e9\"]\x7d"

def bare : NodeRecord := ⟨none, none, .array [.string "é"]⟩

theorem bare_read : NodeRecord.reader.run bareText = .ok bare := by decide +kernel

def requestText : String := "[\"oven\",null,\"left\"]"

def request : EdgeRequest := ⟨some "oven", none, some "left", none⟩

theorem request_read : EdgeRequest.reader.run requestText = .ok request := by decide +kernel

def lenientText : String := "\x7b\"allowedWithoutElement\":[\"queue\",\"generator\"]\x7d"

def lenient : Policy := ⟨[.generator, .queue], false, false⟩

theorem lenient_read : Policy.reader.run lenientText = .ok lenient := by decide +kernel

theorem oven_reads_back :
    Topology.reader.run ovenText = .ok oven ∧ (∀ r ∈ oven.nodes, isWhole r.params = true) ∧
      NodeRecord.reader.run bareText = .ok bare ∧ isWhole bare.params = true ∧
      EdgeRequest.reader.run requestText = .ok request ∧
      Policy.reader.run lenientText = .ok lenient ∧
      Topology.reader.run oven.toJson.compact = .ok oven ∧
      NodeRecord.reader.run bare.toJson.compact = .ok bare ∧
      EdgeRequest.reader.run request.toJson.compact = .ok request ∧
      Policy.reader.run lenient.toJson.compact = .ok lenient := by
  obtain ⟨htopology, hnode, hrequest, hpolicy⟩ := written_documents_read_back
  have hwhole : ∀ r ∈ oven.nodes, isWhole r.params = true := by decide
  exact ⟨oven_read, hwhole, bare_read, rfl, request_read, lenient_read,
    htopology _ _ oven_read hwhole, hnode _ _ bare_read rfl, hrequest _ _ request_read,
    hpolicy _ _ lenient_read⟩

end Sample

end LineTopology.Proofs.Documents
