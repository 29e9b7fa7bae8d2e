import LineTopology.Proofs.Admission
import LineTopology.Proofs.LinkVerdict

namespace LineTopology.Proofs.BufferedLoops

open PartnerTables LinkFaults LinkVerdict Components GraphIndex Admission

/-- A walk along the edges of a topology, which may take an edge more than once. -/
inductive Walk (topology : Topology) : String → List EdgeRecord → String → Prop
  | stay (a : String) : Walk topology a [] a
  | step {a b c : String} {edge : EdgeRecord} {edges : List EdgeRecord} :
      edge ∈ topology.edges → edge.source = some a → edge.target = some b →
        Walk topology b edges c → Walk topology a (edge :: edges) c

def visited (a : String) (edges : List EdgeRecord) : List String := a :: edges.filterMap (·.target)

def HasKind (topology : Topology) (id : String) (kind : Kind) : Prop :=
  ∃ node, Describes topology id node ∧ node.kind = kind

/-- How many edges can follow a component while no queue is met. -/
def reach : Kind → Nat
  | .generator => 3
  | .selector => 2
  | .transporter | .transformer => 1
  | .queue | .output => 0

theorem reach_le (kind : Kind) : reach kind ≤ 3 := by
  cases kind <;> decide

theorem reach_lt {source : Endpoint} {target : Kind} (h : source.mayFeed target = true)
    (hs : source.kind ≠ .queue) (ht : target ≠ .queue) : reach target < reach source.kind := by
  revert h hs ht
  cases source <;> cases target <;> decide

section Walks

variable {topology : Topology} {a b c : String} {edge : EdgeRecord} {edges : List EdgeRecord}

theorem visited_cons (h : edge.target = some b) :
    visited a (edge :: edges) = a :: visited b edges := by
  simp [visited, h]

theorem Walk.append {more : List EdgeRecord} (h : Walk topology a edges b)
    (hm : Walk topology b more c) : Walk topology a (edges ++ more) c := by
  induction h with
  | stay => exact hm
  | step he hs ht _ ih => exact .step he hs ht (ih hm)

theorem Walk.left (h : Walk topology a edges b) (hne : edges ≠ []) :
    ∃ edge ∈ topology.edges, edge.source = some a := by
  cases h with
  | stay => exact absurd rfl hne
  | step he hs _ _ => exact ⟨_, he, hs⟩

theorem Walk.entered (h : Walk topology a edges b) (hne : edges ≠ []) :
    ∃ edge ∈ topology.edges, edge.target = some b := by
  induction h with
  | stay => exact absurd rfl hne
  | @step a b c edge edges he hs ht hw ih =>
      by_cases hn : edges = []
      · subst hn
        cases hw
        exact ⟨edge, he, ht⟩
      · exact ih hn

theorem Walk.split (h : Walk topology a edges c) (hb : b ∈ visited a edges) :
    ∃ before after, edges = before ++ after ∧ Walk topology a before b ∧ Walk topology b after c := by
  induction h with
  | stay a =>
      obtain rfl : b = a := by simpa [visited] using hb
      exact ⟨[], [], rfl, .stay b, .stay b⟩
  | @step a d c edge edges he hs ht hw ih =>
      rw [visited_cons ht, List.mem_cons] at hb
      rcases hb with rfl | hb
      · exact ⟨[], edge :: edges, rfl, .stay b, .step he hs ht hw⟩
      · obtain ⟨before, after, rfl, hbefore, hafter⟩ := ih hb
        exact ⟨edge :: before, after, rfl, .step he hs ht hbefore, hafter⟩

theorem Walk.rotate (h : Walk topology a edges a) (hne : edges ≠ []) (hb : b ∈ visited a edges) :
    ∃ turned, turned ≠ [] ∧ Walk topology b turned b := by
  obtain ⟨before, after, rfl, hbefore, hafter⟩ := h.split hb
  refine ⟨after ++ before, ?_, hafter.append hbefore⟩
  intro hn
  obtain ⟨rfl, rfl⟩ := List.append_eq_nil_iff.mp hn
  exact hne rfl

end Walks

section Kinds

variable {topology : Topology} {id : String} {kind : Kind}

theorem hasKind_iff (hd : topology.ids.Nodup) :
    HasKind topology id kind ↔
      (Topology.component? topology.components id).any (·.kind == kind) = true := by
  simp only [HasKind, ← component?_eq_some_iff_describes hd, Option.any_eq_true, beq_iff_eq]

end Kinds

section Admitted

variable {topology : Topology} {policy : Policy} {a b : String} {edge : EdgeRecord}
  {edges : List EdgeRecord}

theorem edge_feeds (h : Admissible topology policy) (hr : policy.recheckConnections = true)
    (he : edge ∈ topology.edges) :
    ∃ source target, Joins topology edge source target ∧
      source.endpoint.mayFeed target.kind = true := by
  obtain ⟨source, target, hj⟩ := exists_joins h he
  exact ⟨source, target, hj, ((check_exact _).accepts.mp (h.linked hr edge he source target hj)).1⟩

theorem not_hasKind_output (h : Admissible topology policy) (hr : policy.recheckConnections = true)
    (he : edge ∈ topology.edges) (hs : edge.source = some a) : ¬ HasKind topology a .output := by
  rintro ⟨node, hd, hk⟩
  obtain ⟨source, target, hj, hf⟩ := edge_feeds h hr he
  obtain rfl := describes_unique h.distinct hd (joins_source hj hs)
  have hm : node.endpoint.mayFeed target.kind = false := not_mayFeed_of_output hk
  rw [hm] at hf
  cases hf

theorem not_hasKind_generator (h : Admissible topology policy)
    (hr : policy.recheckConnections = true) (he : edge ∈ topology.edges)
    (ht : edge.target = some b) : ¬ HasKind topology b .generator := by
  rintro ⟨node, hd, hk⟩
  obtain ⟨source, target, hj, hf⟩ := edge_feeds h hr he
  obtain rfl := describes_unique h.distinct hd (joins_target hj ht)
  rw [hk, not_mayFeed_generator] at hf
  cases hf

theorem step_reach (h : Admissible topology policy) (hr : policy.recheckConnections = true)
    (he : edge ∈ topology.edges) (hs : edge.source = some a) (ht : edge.target = some b)
    (ha : ¬ HasKind topology a .queue) (hb : ¬ HasKind topology b .queue) :
    ∃ source target, Describes topology a source ∧ Describes topology b target ∧
      reach target.kind < reach source.kind := by
  obtain ⟨source, target, hj, hf⟩ := edge_feeds h hr he
  have hsource := joins_source hj hs
  have htarget := joins_target hj ht
  refine ⟨source, target, hsource, htarget, reach_lt hf ?_ ?_⟩
  · exact fun hk => ha ⟨source, hsource, hk⟩
  · exact fun hk => hb ⟨target, htarget, hk⟩

/-- What a whole walk past no queue leaves of the reach it set out with. -/
theorem walk_reach (h : Admissible topology policy) (hr : policy.recheckConnections = true)
    (hw : Walk topology a edges b) (hq : ∀ id ∈ visited a edges, ¬ HasKind topology id .queue)
    {first : Node} (hd : Describes topology a first) :
    ∃ last, Describes topology b last ∧ reach last.kind + edges.length ≤ reach first.kind := by
  induction hw generalizing first with
  | stay => exact ⟨first, hd, Nat.le_refl _⟩
  | @step a c b edge edges he hs ht _ ih =>
      rw [visited_cons ht] at hq
      have hrest : ∀ id ∈ visited c edges, ¬ HasKind topology id .queue :=
        fun id hm => hq id (List.mem_cons_of_mem _ hm)
      have ha : ¬ HasKind topology a .queue := hq a List.mem_cons_self
      have hc : ¬ HasKind topology c .queue := hrest c List.mem_cons_self
      obtain ⟨source, target, hsource, htarget, hlt⟩ := step_reach h hr he hs ht ha hc
      obtain rfl := describes_unique h.distinct hsource hd
      obtain ⟨last, hlast, hle⟩ := ih hrest htarget
      exact ⟨last, hlast, by simp only [List.length_cons]; omega⟩

theorem exists_describes_of_left (h : Admissible topology policy) (he : edge ∈ topology.edges)
    (hs : edge.source = some a) : ∃ node, Describes topology a node := by
  obtain ⟨source, _, hj⟩ := exists_joins h he
  exact ⟨source, joins_source hj hs⟩

theorem walk_length_le (h : Admissible topology policy) (hr : policy.recheckConnections = true)
    (hw : Walk topology a edges b) (hq : ∀ id ∈ visited a edges, ¬ HasKind topology id .queue) :
    edges.length ≤ 3 := by
  by_cases hne : edges = []
  · subst hne
    exact Nat.zero_le 3
  · obtain ⟨edge, he, hs⟩ := hw.left hne
    obtain ⟨first, hd⟩ := exists_describes_of_left h he hs
    obtain ⟨last, _, hle⟩ := walk_reach h hr hw hq hd
    have hmax := reach_le first.kind
    omega

theorem cycle_visits_queue (h : Admissible topology policy)
    (hr : policy.recheckConnections = true) (hw : Walk topology a edges a) (hne : edges ≠ []) :
    ∃ id ∈ visited a edges, HasKind topology id .queue := by
  by_contra hn
  have hq : ∀ id ∈ visited a edges, ¬ HasKind topology id .queue :=
    fun id hm hk => hn ⟨id, hm, hk⟩
  obtain ⟨edge, he, hs⟩ := hw.left hne
  obtain ⟨first, hd⟩ := exists_describes_of_left h he hs
  obtain ⟨last, hlast, hle⟩ := walk_reach h hr hw hq hd
  obtain rfl := describes_unique h.distinct hlast hd
  exact hne (List.length_eq_zero_iff.mp (by omega))

theorem cycle_avoids_ends (h : Admissible topology policy)
    (hr : policy.recheckConnections = true) (hw : Walk topology a edges a) (hne : edges ≠ [])
    (hb : b ∈ visited a edges) :
    ¬ HasKind topology b .generator ∧ ¬ HasKind topology b .output := by
  obtain ⟨turned, hturned, hcycle⟩ := hw.rotate hne hb
  obtain ⟨into, hinto, ht⟩ := hcycle.entered hturned
  obtain ⟨out, hout, hs⟩ := hcycle.left hturned
  exact ⟨not_hasKind_generator h hr hinto ht, not_hasKind_output h hr hout hs⟩

end Admitted

/-- No walk past the queues is longer than from a generator through a selector to an output, so that
every loop has a queue in it. -/
theorem loops_are_buffered (topology : Topology) (policy : Policy)
    (hr : policy.recheckConnections = true) (hv : (topology.report policy).isValid = true) :
    (∀ a edges b, Walk topology a edges b →
      (∀ id ∈ visited a edges, ¬ HasKind topology id .queue) → edges.length ≤ 3) ∧
      ∀ a edges, Walk topology a edges a → edges ≠ [] →
        (∃ id ∈ visited a edges, HasKind topology id .queue) ∧
          ∀ id ∈ visited a edges,
            ¬ HasKind topology id .generator ∧ ¬ HasKind topology id .output := by
  have h := admissible_of_isValid hv
  refine ⟨fun a edges b hw hq => walk_length_le h hr hw hq, fun a edges hw hne => ⟨?_, ?_⟩⟩
  · exact cycle_visits_queue h hr hw hne
  · exact fun id hm => cycle_avoids_ends h hr hw hne hm

def packing : Topology :=
  let box : Json := .object [("elemento", .string "box")]
  { nodes :=
      [⟨some "feed", some "generator",
          .object [("elemento", .string "box"), ("onDemand", .boolean true)]⟩,
        ⟨some "switch", some "selector", box⟩, ⟨some "belt", some "transporter", box⟩,
        ⟨some "exit", some "output", box⟩, ⟨some "store", some "queue", box⟩,
        ⟨some "cart", some "transporter", box⟩]
    edges :=
      [⟨none, some "feed", some "switch", none, none⟩,
        ⟨none, some "switch", some "belt", none, none⟩,
        ⟨none, some "belt", some "exit", none, none⟩,
        ⟨none, some "store", some "cart", none, none⟩,
        ⟨none, some "cart", some "store", none, none⟩]
    elements := [⟨none, some "box", none⟩] }

/-- The bound is attained, and loops are not ruled out. -/
theorem packing_loops_are_buffered :
    (packing.report ⟨[], false, true⟩).isValid = true ∧
      (Walk packing "feed" (packing.edges.take 3) "exit" ∧
        (∀ id ∈ visited "feed" (packing.edges.take 3), ¬ HasKind packing id .queue) ∧
        (packing.edges.take 3).length = 3) ∧
      Walk packing "store" (packing.edges.drop 3) "store" ∧
        (∃ id ∈ visited "store" (packing.edges.drop 3), HasKind packing id .queue) ∧
        ∀ id ∈ visited "store" (packing.edges.drop 3),
          ¬ HasKind packing id .generator ∧ ¬ HasKind packing id .output := by
  have hv : (packing.report ⟨[], false, true⟩).isValid = true := by
    rw [Topology.report, connectionFindings_eq]
    decide +kernel
  have hd : packing.ids.Nodup := by decide +kernel
  obtain ⟨hwalks, hcycles⟩ := loops_are_buffered packing ⟨[], false, true⟩ rfl hv
  have hwalk : Walk packing "feed" (packing.edges.take 3) "exit" :=
    .step (by simp [packing]) rfl rfl <| .step (by simp [packing]) rfl rfl <|
      .step (by simp [packing]) rfl rfl <| .stay "exit"
  have hcycle : Walk packing "store" (packing.edges.drop 3) "store" :=
    .step (by simp [packing]) rfl rfl <| .step (by simp [packing]) rfl rfl <| .stay "store"
  have hq : ∀ id ∈ visited "feed" (packing.edges.take 3), ¬ HasKind packing id .queue := by
    simp only [hasKind_iff hd]
    decide +kernel
  have hle := hwalks _ _ _ hwalk hq
  refine ⟨hv, ⟨hwalk, hq, Nat.le_antisymm hle (Nat.le_refl 3)⟩, hcycle, ?_⟩
  exact hcycles _ _ hcycle (by simp [packing])

end LineTopology.Proofs.BufferedLoops
