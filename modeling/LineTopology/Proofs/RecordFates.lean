import LineTopology.Proofs.Components
import LineTopology.Proofs.Passes
import LineTopology.Proofs.Positions

namespace LineTopology.Proofs.RecordFates

open LineTopology.Topology Lowering Components Passes Positions

def Taken (records : List NodeRecord) (id : String) : Prop :=
  ∃ record ∈ records, ∃ node, record.lower = .ok node ∧ node.id = id

inductive Befalls (earlier : List NodeRecord) (record : NodeRecord) : Fate → Prop
  | malformed (fault : NodeFault) (hl : record.lower = .error fault) :
      Befalls earlier record (.malformed record fault)
  | duplicate (node : Node) (hl : record.lower = .ok node) (ht : Taken earlier node.id) :
      Befalls earlier record (.duplicate node)
  | kept (node : Node) (hl : record.lower = .ok node) (ht : ¬ Taken earlier node.id) :
      Befalls earlier record (.kept node)

def BefallsAt (topology : Topology) (position : Nat) (fate : Fate) : Prop :=
  ∃ record, topology.nodes[position]? = some record ∧
    Befalls (topology.nodes.take position) record fate

section Pass

variable {earlier records : List NodeRecord} {record : NodeRecord} {fate other : Fate}
  {seen : List String}

theorem befalls_unique (h : Befalls earlier record fate) (ho : Befalls earlier record other) :
    fate = other := by
  cases h with
  | malformed fault hl =>
      cases ho with
      | malformed fault' hl' => rw [hl] at hl'; cases hl'; rfl
      | duplicate node hl' | kept node hl' => rw [hl] at hl'; cases hl'
  | duplicate node hl ht =>
      cases ho with
      | malformed fault hl' => rw [hl] at hl'; cases hl'
      | duplicate node' hl' => rw [hl] at hl'; cases hl'; rfl
      | kept node' hl' ht' => rw [hl] at hl'; cases hl'; exact absurd ht ht'
  | kept node hl ht =>
      cases ho with
      | malformed fault hl' => rw [hl] at hl'; cases hl'
      | duplicate node' hl' ht' => rw [hl] at hl'; cases hl'; exact absurd ht' ht
      | kept node' hl' => rw [hl] at hl'; cases hl'; rfl

/-- The ids that are kept in mind are those of the components that the earlier records describe. -/
def Remembers (earlier : List NodeRecord) (seen : List String) : Prop :=
  ∀ id, id ∈ seen ↔ Taken earlier id

theorem taken_concat {id : String} :
    Taken (earlier ++ [record]) id ↔
      Taken earlier id ∨ ∃ node, record.lower = .ok node ∧ node.id = id := by
  simp only [Taken, List.mem_append, List.mem_singleton]
  grind

/-- Where every record that carries the id describes a component, to carry it is to take it. -/
theorem taken_iff_carried {id : String}
    (h : ∀ record ∈ earlier, record.id = some id → ∃ node, record.lower = .ok node) :
    Taken earlier id ↔ ∃ record ∈ earlier, record.id = some id := by
  constructor
  · rintro ⟨record, hrecord, node, hl, rfl⟩
    exact ⟨record, hrecord, lower_id hl⟩
  · rintro ⟨record, hrecord, hid⟩
    obtain ⟨node, hl⟩ := h record hrecord hid
    have hnode : some node.id = some id := (lower_id hl).symm.trans hid
    exact ⟨record, hrecord, node, hl, Option.some.inj hnode⟩

/-- One record at a time: a record that describes nothing leaves no trace, so that a later one may
take its id. -/
theorem ofRecords_step (h : Remembers earlier seen) (record : NodeRecord)
    (records : List NodeRecord) :
    ∃ fate next, Fate.ofRecords seen (record :: records) = fate :: Fate.ofRecords next records ∧
      Befalls earlier record fate ∧ Remembers (earlier ++ [record]) next := by
  cases hl : record.lower with
  | error fault =>
      refine ⟨_, seen, ofRecords_error hl, .malformed fault hl, ?_⟩
      intro id
      rw [taken_concat, hl, h id]
      simp
  | ok node =>
      by_cases hs : node.id ∈ seen
      · refine ⟨_, seen, ofRecords_seen hl hs, .duplicate node hl ((h _).mp hs), ?_⟩
        intro id
        rw [taken_concat, hl, ← h id]
        grind
      · have hfree : ¬ Taken earlier node.id := fun ht => hs ((h _).mpr ht)
        refine ⟨_, node.id :: seen, ofRecords_new hl hs, .kept node hl hfree, ?_⟩
        intro id
        rw [taken_concat, hl, List.mem_cons, h id]
        grind

theorem ofRecords_run (h : Remembers earlier seen) (position : Nat) :
    (Fate.ofRecords seen records)[position]? = some fate ↔
      ∃ record, records[position]? = some record ∧
        Befalls (earlier ++ records.take position) record fate := by
  induction records generalizing earlier seen position with
  | nil => simp [Fate.ofRecords]
  | cons record records ih =>
      obtain ⟨first, next, heq, hfirst, hnext⟩ := ofRecords_step h record records
      rw [heq]
      cases position with
      | zero =>
          simp only [List.getElem?_cons_zero, List.take_zero, List.append_nil, Option.some_inj]
          constructor
          · rintro rfl
            exact ⟨record, rfl, hfirst⟩
          · rintro ⟨_, rfl, hfate⟩
            exact befalls_unique hfirst hfate
      | succ position =>
          simp only [List.getElem?_cons_succ, List.take_succ_cons]
          rw [ih hnext, List.append_assoc]
          rfl

theorem ofRecords_length (seen : List String) (records : List NodeRecord) :
    (Fate.ofRecords seen records).length = records.length := by
  induction records generalizing seen with
  | nil => rfl
  | cons record records ih =>
      rw [Fate.ofRecords]
      split
      next => simp [ih]
      next => split <;> simp [ih]

end Pass

section Fates

variable {topology : Topology} {position : Nat} {fate : Fate}

theorem fates_at : topology.fates[position]? = some fate ↔ BefallsAt topology position fate := by
  have hstart : Remembers [] [] := by
    intro id
    simp [Taken]
  exact ofRecords_run hstart position

theorem befallsAt_unique {other : Fate} (h : BefallsAt topology position fate)
    (ho : BefallsAt topology position other) : fate = other := by
  rw [← fates_at] at h ho
  exact Option.some_inj.mp (h.symm.trans ho)

theorem inOrder_fates {β : Type} (topology : Topology) (f : Fate → Option β) :
    InOrder (fun position item => ∃ fate, BefallsAt topology position fate ∧ f fate = some item)
      (topology.fates.filterMap f) := by
  apply (inOrder_filterMap f topology.fates).congr
  intro position item
  simp only [fates_at]

theorem exists_unique_fate (h : position < topology.nodes.length) :
    ∃! fate, BefallsAt topology position fate := by
  have hlength : position < topology.fates.length := by
    rw [fates, ofRecords_length]
    exact h
  refine ⟨topology.fates[position], fates_at.mp (List.getElem?_eq_getElem hlength), ?_⟩
  intro fate hfate
  rw [← fates_at, List.getElem?_eq_getElem hlength, Option.some_inj] at hfate
  exact hfate.symm

theorem components_inOrder (topology : Topology) :
    InOrder (fun position node => BefallsAt topology position (.kept node))
      topology.components := by
  apply (inOrder_fates topology Fate.kept?).congr
  intro position node
  constructor
  · rintro ⟨fate, hfate, hkept⟩
    cases fate with
    | kept other => cases hkept; exact hfate
    | malformed | duplicate => cases hkept
  · intro h
    exact ⟨_, h, rfl⟩

theorem malformed_inOrder (topology : Topology) (policy : Policy) :
    InOrder (fun position finding => ∃ record fault,
        BefallsAt topology position (.malformed record fault) ∧
          finding = .malformedNode record fault)
      ((topology.report policy).findings.filter (·.code == "G000")) := by
  rw [records_of_report topology policy (.inl rfl), nodeFindings, List.filter_filterMap]
  apply (inOrder_fates topology _).congr
  intro position finding
  constructor
  · rintro ⟨fate, hfate, hfound⟩
    cases fate with
    | malformed record fault => cases hfound; exact ⟨record, fault, hfate, rfl⟩
    | kept | duplicate => cases hfound
  · rintro ⟨record, fault, hfate, rfl⟩
    exact ⟨_, hfate, rfl⟩

theorem duplicates_inOrder (topology : Topology) (policy : Policy) :
    InOrder (fun position finding => ∃ node,
        BefallsAt topology position (.duplicate node) ∧ finding = .duplicateNode node)
      ((topology.report policy).findings.filter (·.code == "G004")) := by
  rw [records_of_report topology policy (.inr rfl), nodeFindings, List.filter_filterMap]
  apply (inOrder_fates topology _).congr
  intro position finding
  constructor
  · rintro ⟨fate, hfate, hfound⟩
    cases fate with
    | duplicate node => cases hfound; exact ⟨node, hfate, rfl⟩
    | kept | malformed => cases hfound
  · rintro ⟨node, hfate, rfl⟩
    exact ⟨_, hfate, rfl⟩

theorem kept_apart {i j : Nat} {a b : Node} (hij : i < j) (ha : BefallsAt topology i (.kept a))
    (hb : BefallsAt topology j (.kept b)) : a.id ≠ b.id := by
  obtain ⟨record, hrecord, hfirst⟩ := ha
  obtain ⟨_, _, hsecond⟩ := hb
  cases hfirst with
  | kept _ hl _ =>
      cases hsecond with
      | kept _ _ hfree =>
          intro hid
          apply hfree
          refine ⟨record, ?_, a, hl, hid⟩
          exact List.mem_of_getElem? ((List.getElem?_take_of_lt hij).trans hrecord)

theorem components_nodup (topology : Topology) : (topology.components.map (·.id)).Nodup := by
  rw [List.Nodup, List.pairwise_map]
  exact (components_inOrder topology).pairwise fun i j a b => kept_apart

theorem length_split (fates : List Fate) :
    (fates.filterMap Fate.kept?).length +
        ((fates.filterMap Fate.finding?).filter (·.code == "G000")).length +
        ((fates.filterMap Fate.finding?).filter (·.code == "G004")).length = fates.length := by
  induction fates with
  | nil => rfl
  | cons fate fates ih =>
      cases fate with
      | kept node =>
          simp only [List.filterMap_cons, Fate.kept?, Fate.finding?, List.length_cons]
          omega
      | malformed record fault =>
          have hcode : (Finding.malformedNode record fault).code = "G000" := rfl
          simp only [List.filterMap_cons, Fate.kept?, Fate.finding?, List.filter_cons, hcode,
            BEq.rfl, String.reduceBEq, if_true, Bool.false_eq_true, if_false, List.length_cons]
          omega
      | duplicate node =>
          have hcode : (Finding.duplicateNode node).code = "G004" := rfl
          simp only [List.filterMap_cons, Fate.kept?, Fate.finding?, List.filter_cons, hcode,
            BEq.rfl, String.reduceBEq, if_true, Bool.false_eq_true, if_false, List.length_cons]
          omega

end Fates

structure Accounts (topology : Topology) (policy : Policy) : Prop where
  outcome : ∀ position < topology.nodes.length, ∃! fate, BefallsAt topology position fate
  malformed : InOrder (fun position finding => ∃ record fault,
      BefallsAt topology position (.malformed record fault) ∧
        finding = .malformedNode record fault)
    ((topology.report policy).findings.filter (·.code == "G000"))
  labelled : ∀ record fault, record.lower = .error fault →
    (Finding.malformedNode record fault).nodeId? = record.id ∧
      (Finding.malformedNode record fault).nodeType? = record.kind
  duplicate : InOrder (fun position finding => ∃ node,
      BefallsAt topology position (.duplicate node) ∧ finding = .duplicateNode node)
    ((topology.report policy).findings.filter (·.code == "G004"))
  kept : InOrder (fun position node => BefallsAt topology position (.kept node))
    topology.components
  distinct : (topology.components.map (·.id)).Nodup
  complete : topology.components.length +
      ((topology.report policy).findings.filter (·.code == "G000")).length +
      ((topology.report policy).findings.filter (·.code == "G004")).length =
    topology.nodes.length

/-- A record describes nothing, or repeats the id of a component that an earlier record describes,
or is kept. -/
theorem records_accounted_for (topology : Topology) (policy : Policy) :
    Accounts topology policy := by
  constructor
  case outcome =>
    intro position h
    exact exists_unique_fate h
  case malformed => exact malformed_inOrder topology policy
  case labelled =>
    intro record fault h
    exact ⟨lower_error_id h, rfl⟩
  case duplicate => exact duplicates_inOrder topology policy
  case kept => exact components_inOrder topology
  case distinct => exact components_nodup topology
  case complete =>
    rw [records_of_report topology policy (.inl rfl), records_of_report topology policy (.inr rfl)]
    exact (length_split topology.fates).trans (ofRecords_length [] topology.nodes)

/-- A record that describes a component is a repetition if an earlier record describes one of its
id. A record that carries the id and describes nothing does not count, neither here nor where the
component of an id is looked up. -/
theorem repetitions_of_described (topology : Topology) (policy : Policy) :
    InOrder (fun position finding => ∃ record node, topology.nodes[position]? = some record ∧
        record.lower = .ok node ∧ Taken (topology.nodes.take position) node.id ∧
        finding = .duplicateNode node)
      ((topology.report policy).findings.filter (·.code == "G004")) ∧
    (∀ id node, component? topology.components id = some node ↔
      ∃ position record, topology.nodes[position]? = some record ∧ record.lower = .ok node ∧
        node.id = id ∧ ¬ Taken (topology.nodes.take position) id) ∧
    ∀ id position, (∀ record ∈ topology.nodes.take position, record.id = some id →
        ∃ node, record.lower = .ok node) →
      (Taken (topology.nodes.take position) id ↔
        ∃ record ∈ topology.nodes.take position, record.id = some id) := by
  refine ⟨?_, ?_, ?_⟩
  · apply (duplicates_inOrder topology policy).congr
    intro position finding
    constructor
    · rintro ⟨node, ⟨record, hrecord, hfate⟩, rfl⟩
      cases hfate with
      | duplicate _ hl ht => exact ⟨record, node, hrecord, hl, ht, rfl⟩
    · rintro ⟨record, node, hrecord, hl, ht, rfl⟩
      exact ⟨node, ⟨record, hrecord, .duplicate node hl ht⟩, rfl⟩
  · intro id node
    rw [component?, find?_of_nodup (components_nodup topology),
      (components_inOrder topology).mem_iff]
    constructor
    · rintro ⟨⟨position, record, hrecord, hfate⟩, rfl⟩
      cases hfate with
      | kept _ hl ht => exact ⟨position, record, hrecord, hl, rfl, ht⟩
    · rintro ⟨position, record, hrecord, hl, rfl, ht⟩
      exact ⟨⟨position, record, hrecord, .kept node hl ht⟩, rfl⟩
  · intro id position h
    exact taken_iff_carried h

def beltRecord : NodeRecord :=
  ⟨some "belt", some "transporter", .object [("elemento", .string "bolt")]⟩

def belt : Node := ⟨"belt", .transporter (some "bolt")⟩

def belts : Topology := { Topology.blank with nodes := [beltRecord, beltRecord] }

theorem repeated_belt_is_reported :
    belts.nodes.take 1 = [beltRecord] ∧ beltRecord.lower = .ok belt ∧
      .duplicateNode belt ∈ (belts.report .standard).findings := by
  have hl : beltRecord.lower = .ok belt := by rfl
  obtain ⟨hreported, _, hcarried⟩ := repetitions_of_described belts .standard
  have hlower : ∀ record ∈ belts.nodes.take 1, record.id = some belt.id →
      ∃ node, record.lower = .ok node := by
    intro record hrecord _
    rw [List.mem_singleton.mp hrecord]
    exact ⟨belt, hl⟩
  have htaken : Taken (belts.nodes.take 1) belt.id := by
    apply (hcarried belt.id 1 hlower).mpr
    exact ⟨beltRecord, List.mem_singleton_self _, rfl⟩
  have hfound := hreported.mem_iff.mpr ⟨1, beltRecord, belt, rfl, hl, htaken, rfl⟩
  exact ⟨rfl, hl, (List.mem_filter.mp hfound).1⟩

def yard : Topology :=
  { nodes :=
      [⟨some "belt", some "conveyor", .null⟩, beltRecord,
        ⟨some "store", some "queue", .object [("elemento", .string "nut")]⟩]
    edges := [⟨none, some "belt", some "store", none, none⟩]
    elements := [⟨none, some "bolt", none⟩, ⟨none, some "nut", none⟩] }

/-- The second belt is not reported, though an earlier record carries its id, and the edge from the
belt is checked against it. -/
theorem masked_repetition_is_not_reported :
    yard.nodes[1]? = some beltRecord ∧ beltRecord.lower = .ok belt ∧
      ((yard.nodes.take 1).map (·.id)) = [some belt.id] ∧
      (yard.report ⟨[], true, true⟩).findings.map (·.code) = ["G000", "G006"] ∧
      (yard.report ⟨[], true, true⟩).findings.map (·.message) =
        ["Node belt: unknown node type 'conveyor'",
          "Edge[0] belt -> store: The queue only receives elements of type \"nut\", but the " ++
            "source produces \"bolt\"."] := by
  refine ⟨rfl, rfl, rfl, ?_, ?_⟩
  · decide +kernel
  · decide +kernel

end LineTopology.Proofs.RecordFates
