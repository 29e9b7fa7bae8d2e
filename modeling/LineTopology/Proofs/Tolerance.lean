import LineTopology.Proofs.Acceptance
import LineTopology.Proofs.EditorShapes
import LineTopology.Proofs.TreeReadings

namespace LineTopology.Proofs.Tolerance

open Json Json.Reader Dictionary Entries Grammar Meanings RecordMeanings EditorShapes TreeReadings

variable {α β σ : Type} {members ms : List (String × Json)}

section Fields

def Clash (key other : String) (ms : List (String × Json)) : Prop :=
  key ∈ keys ms ∧ other ∈ keys ms

instance (key other : String) (ms : List (String × Json)) : Decidable (Clash key other ms) :=
  inferInstanceAs (Decidable (_ ∧ _))

def either? (key other : String) (ms : List (String × Json)) : Option Json :=
  (find? key ms).or (find? other ms)

theorem under_one (key : String) (ms : List (String × Json)) :
    under [key] ms = (find? key ms).toList := by
  rw [under, List.filterMap_cons]
  cases find? key ms <;> rfl

theorem fill_either (f : Json → σ → σ) (x : σ) (key other : String) :
    fill (fun v => some (f v)) x (under [key, other] ms) =
      if Clash key other ms then none
      else some ((either? key other ms).elim x fun v => f v x) := by
  simp only [Clash, ← find?_isSome_iff, either?, under, List.filterMap_cons, List.filterMap_nil]
  cases find? key ms <;> cases find? other ms <;> simp [fill]

theorem fill_one (f : Json → σ → σ) (x : σ) (o : Option Json) :
    fill (fun v => some (f v)) x o.toList = some (o.elim x fun v => f v x) := by
  cases o <;> rfl

theorem askMembers_cons (c : Column σ) (columns : List (Column σ)) (x : σ)
    (ms : List (String × Json)) :
    askMembers (c :: columns) x (.object ms) =
      (fill c.ask x (under c.names ms)).bind fun y => askMembers columns y (.object ms) := by
  rw [askMembers, List.foldlM_cons]
  rfl

def named (names : List String) (set : Option String → σ → σ) : Column σ where
  names
  domain _ := True
  ask v := some (set v.name?)

variable {set : Option String → σ → σ} {x : σ}

theorem elim_name (hset : set none x = x) (o : Option Json) :
    (o.elim x fun v => set v.name? x) = set (o.bind Json.name?) x := by
  cases o with
  | none => exact hset.symm
  | some v => rfl

theorem askMembers_named (hset : set none x = x) (key : String) (columns : List (Column σ)) :
    askMembers (named [key] set :: columns) x (.object ms) =
      askMembers columns (set ((find? key ms).bind Json.name?) x) (.object ms) := by
  rw [askMembers_cons, named, under_one, fill_one, elim_name hset, Option.bind_some]

theorem askMembers_either (hset : set none x = x) (key other : String)
    (columns : List (Column σ)) :
    askMembers (named [key, other] set :: columns) x (.object ms) =
      if Clash key other ms then none
      else askMembers columns (set ((either? key other ms).bind Json.name?) x) (.object ms) := by
  rw [askMembers_cons, named, fill_either, elim_name hset]
  split
  next => rfl
  next => rw [Option.bind_some]

end Fields

section Records

def nodeOf (ms : List (String × Json)) : NodeRecord where
  id := (find? "id" ms).bind Json.name?
  kind := (find? "type" ms).bind Json.name?
  params := (either? "params" "data" ms).getD .null

def edgeOf (ms : List (String × Json)) : EdgeRecord where
  id := (find? "id" ms).bind Json.name?
  source := (either? "from" "source" ms).bind Json.name?
  target := (either? "to" "target" ms).bind Json.name?
  sourceHandle := (find? "sourceHandle" ms).bind Json.name?
  targetHandle := (find? "targetHandle" ms).bind Json.name?

def attributeType : Json → AttributeType
  | .string s => .ofName s
  | _ => .unknown

def attributes? : Json → Option (List (String × AttributeType))
  | .object ds => some (ds.map fun d => (d.1, attributeType d.2))
  | _ => none

def elementOf (ms : List (String × Json)) : ElementRecord where
  id := (find? "id" ms).bind Json.name?
  type := (find? "type" ms).bind Json.name?
  params := (find? "params" ms).bind attributes?

def HasTexts (v : Json) : Prop := v = .null ∨ ∃ ds, v = .object ds ∧ ∀ d ∈ ds, ∃ s, d.2 = .string s

theorem named_shows (name : String) (aliases : List String) (set : Option String → σ → σ) :
    Shows (EditorShapes.named name aliases set) (named (name :: aliases) set) :=
  ⟨rfl, name_agrees.map set⟩

def nodeColumns : List (Column NodeRecord) :=
  [named ["id"] fun x r => { r with id := x }, named ["type"] fun x r => { r with kind := x },
    ⟨["params", "data"], fun _ => True, fun v => some fun r => { r with params := v }⟩]

def edgeColumns : List (Column EdgeRecord) :=
  [named ["id"] fun x r => { r with id := x },
    named ["from", "source"] fun x r => { r with source := x },
    named ["to", "target"] fun x r => { r with target := x },
    named ["sourceHandle"] fun x r => { r with sourceHandle := x },
    named ["targetHandle"] fun x r => { r with targetHandle := x }]

def elementColumns : List (Column ElementRecord) :=
  [named ["id"] fun x r => { r with id := x }, named ["type"] fun x r => { r with type := x },
    ⟨["params"], HasTexts, fun v => some fun r => { r with params := attributes? v }⟩]

theorem nodes_show : List.Forall₂ Shows nodeRoles nodeColumns :=
  .cons (named_shows ..) (.cons (named_shows ..) (.cons ⟨rfl, any_agrees.map _⟩ .nil))

theorem edges_show : List.Forall₂ Shows edgeRoles edgeColumns :=
  .cons (named_shows ..) (.cons (named_shows ..) (.cons (named_shows ..)
    (.cons (named_shows ..) (.cons (named_shows ..) .nil))))

theorem attributes_agree :
    Agrees (optionalOf (dictionaryOf (oneOfOf fun name => some (AttributeType.ofName name)))) HasTexts
      fun v => some (attributes? v) := by
  have htype : Agrees (oneOfOf fun name => some (AttributeType.ofName name))
      (fun v => ∃ s, v = .string s) fun v => some (attributeType v) := oneOf_agrees fun _ => rfl
  refine (optional_agrees (dictionary_agrees htype)).congr fun v hv => ⟨hv, ?_⟩
  obtain rfl | ⟨ds, rfl, _⟩ := hv
  · rfl
  · rfl

theorem elements_show : List.Forall₂ Shows elementRoles elementColumns :=
  .cons (named_shows ..) (.cons (named_shows ..) (.cons ⟨rfl, attributes_agree.map _⟩ .nil))

theorem node_asked (ms : List (String × Json)) :
    askMembers nodeColumns .blank (.object ms) =
      if Clash "params" "data" ms then none else some (nodeOf ms) := by
  refine Eq.trans (askMembers_named rfl _ _) ?_
  refine Eq.trans (askMembers_named rfl _ _) ?_
  rw [askMembers_cons, fill_either]
  split
  next => rfl
  next =>
    rw [nodeOf]
    cases either? "params" "data" ms <;> rfl

theorem edge_asked (ms : List (String × Json)) :
    askMembers edgeColumns .blank (.object ms) =
      if Clash "from" "source" ms ∨ Clash "to" "target" ms then none else some (edgeOf ms) := by
  refine Eq.trans (askMembers_named rfl _ _) ?_
  refine Eq.trans (askMembers_either rfl _ _ _) ?_
  rw [ite_or]
  apply ite_congr rfl (fun _ => rfl)
  intro _
  refine Eq.trans (askMembers_either rfl _ _ _) ?_
  apply ite_congr rfl (fun _ => rfl)
  intro _
  refine Eq.trans (askMembers_named rfl _ _) ?_
  exact askMembers_named rfl _ _

theorem element_asked (ms : List (String × Json)) :
    askMembers elementColumns .blank (.object ms) = some (elementOf ms) := by
  refine Eq.trans (askMembers_named rfl _ _) ?_
  refine Eq.trans (askMembers_named rfl _ _) ?_
  rw [askMembers_cons, under_one, fill_one, elementOf]
  cases find? "params" ms <;> rfl

end Records

section Tables

def table (name : String) (columns : List (Column α)) (blank : α) (set : List α → σ → σ) :
    Column σ where
  names := [name]
  domain v := ∃ vs, v = .array vs ∧ ∀ w ∈ vs, Admitted columns w
  ask v := (askItems (askMembers columns blank) v).map set

theorem table_shows {name : String} {roles : List (Rewordings.Worded α)}
    {hi : Rewordings.Independent roles} {columns : List (Column α)} {blank : α} {read : Reader α}
    {hm : Means read (recordOf (roles.map Rewordings.Worded.toRole) blank)}
    {set : List α → σ → σ} (h : List.Forall₂ Shows roles columns) :
    Shows (listed name hi blank hm set) (table name columns blank set) :=
  ⟨rfl, (list_agrees (record_agrees hi h blank)).map set⟩

def topologyColumns : List (Column Topology) :=
  [table "nodes" nodeColumns .blank fun x p => { p with nodes := x },
    table "edges" edgeColumns .blank fun x p => { p with edges := x },
    table "elements" elementColumns .blank fun x p => { p with elements := x }]

theorem topology_agrees :
    Agrees (recordOf (topologyRoles.map Rewordings.Worded.toRole) .blank) (Admitted topologyColumns)
      (askMembers topologyColumns .blank) :=
  record_agrees topology_independent
    (.cons (table_shows nodes_show) (.cons (table_shows edges_show)
      (.cons (table_shows elements_show) .nil))) .blank

def Lists (key : String) (members : List (String × Json)) (rows : List (List (String × Json))) :
    Prop :=
  find? key members = none ∧ rows = [] ∨ find? key members = some (.array (rows.map .object))

variable {rows : List (List (String × Json))} {name : String} {columns : List (Column α)}
  {blank : α} {set : List α → σ → σ} {x : σ}

theorem Lists.admitted (h : Lists name members rows)
    (hrows : ∀ row ∈ rows, Admitted columns (.object row)) :
    ∀ w ∈ under [name] members, (table name columns blank set).domain w := by
  rw [under_one]
  intro w hw
  obtain ⟨hfind, _⟩ | hfind := h
  · rw [hfind] at hw
    cases hw
  · rw [hfind, Option.toList_some, List.mem_singleton] at hw
    exact ⟨_, hw, List.forall_mem_map.mpr hrows⟩

theorem askMembers_table (hset : set [] x = x) (h : Lists name members rows)
    (rest : List (Column σ)) :
    askMembers (table name columns blank set :: rest) x (.object members) =
      (rows.mapM fun row => askMembers columns blank (.object row)).bind fun ys =>
        askMembers rest (set ys x) (.object members) := by
  rw [askMembers_cons, table, under_one]
  obtain ⟨hfind, rfl⟩ | hfind := h
  · rw [hfind, List.mapM_nil]
    exact (congrArg (fun y => askMembers rest y (.object members)) hset).symm
  · simp only [hfind, Option.toList_some, fill, askItems, List.mapM_map, Function.comp_def,
      Option.map_map, Option.bind_map]

theorem mapM_guarded (bad : α → Prop) [DecidablePred bad] (f : α → β) (xs : List α) :
    (xs.mapM fun x => if bad x then none else some (f x)) =
      if ∃ x ∈ xs, bad x then none else some (xs.map f) := by
  induction xs with
  | nil => simp
  | cons x xs ih =>
      rw [List.mapM_cons, ih]
      by_cases hx : bad x
      · simp [hx]
      · by_cases hxs : ∃ y ∈ xs, bad y <;> simp [hx, hxs]

end Tables

section Topologies

/-- The members of the root hold three lists of objects, and the elements among them have texts as
the types of their attributes. -/
structure Tabular (members : List (String × Json))
    (nodes edges elements : List (List (String × Json))) : Prop where
  listed_nodes : Lists "nodes" members nodes
  listed_edges : Lists "edges" members edges
  listed_elements : Lists "elements" members elements
  attributes : ∀ ms ∈ elements, ∀ v ∈ find? "params" ms, HasTexts v

structure Unambiguous (nodes edges : List (List (String × Json))) : Prop where
  params : ∀ ms ∈ nodes, ¬ Clash "params" "data" ms
  sources : ∀ ms ∈ edges, ¬ Clash "from" "source" ms
  targets : ∀ ms ∈ edges, ¬ Clash "to" "target" ms

def topologyOf (nodes edges elements : List (List (String × Json))) : Topology where
  nodes := nodes.map nodeOf
  edges := edges.map edgeOf
  elements := elements.map elementOf

variable {nodes edges elements : List (List (String × Json))}

theorem node_admitted (ms : List (String × Json)) : Admitted nodeColumns (.object ms) :=
  ⟨ms, rfl, by simp [nodeColumns, named]⟩

theorem edge_admitted (ms : List (String × Json)) : Admitted edgeColumns (.object ms) :=
  ⟨ms, rfl, by simp [edgeColumns, named]⟩

theorem element_admitted (h : ∀ v ∈ find? "params" ms, HasTexts v) :
    Admitted elementColumns (.object ms) :=
  ⟨ms, rfl, by simpa [elementColumns, named, under_one] using h⟩

theorem topology_admitted (h : Tabular members nodes edges elements) :
    Admitted topologyColumns (.object members) := by
  refine ⟨members, rfl, ?_⟩
  simp only [topologyColumns, List.forall_mem_cons]
  exact ⟨h.listed_nodes.admitted fun ms _ => node_admitted ms,
    h.listed_edges.admitted fun ms _ => edge_admitted ms,
    h.listed_elements.admitted fun ms hms => element_admitted (h.attributes ms hms),
    List.forall_mem_nil _⟩

theorem unambiguous_iff : Unambiguous nodes edges ↔
    ¬ ((∃ ms ∈ nodes, Clash "params" "data" ms) ∨
      ∃ ms ∈ edges, Clash "from" "source" ms ∨ Clash "to" "target" ms) := by
  constructor
  · rintro ⟨hparams, hsources, htargets⟩ (⟨ms, hmem, hclash⟩ | ⟨ms, hmem, hclash | hclash⟩)
    · exact hparams ms hmem hclash
    · exact hsources ms hmem hclash
    · exact htargets ms hmem hclash
  · intro h
    exact ⟨fun ms hmem hclash => h (.inl ⟨ms, hmem, hclash⟩),
      fun ms hmem hclash => h (.inr ⟨ms, hmem, .inl hclash⟩),
      fun ms hmem hclash => h (.inr ⟨ms, hmem, .inr hclash⟩)⟩

theorem topology_asked (h : Tabular members nodes edges elements) :
    askMembers topologyColumns .blank (.object members) =
      if (∃ ms ∈ nodes, Clash "params" "data" ms) ∨
          ∃ ms ∈ edges, Clash "from" "source" ms ∨ Clash "to" "target" ms then none
      else some (topologyOf nodes edges elements) := by
  refine Eq.trans (askMembers_table rfl h.listed_nodes _) ?_
  simp only [node_asked, mapM_guarded]
  rw [ite_or]
  split
  next => rfl
  next =>
    rw [Option.bind_some]
    refine Eq.trans (askMembers_table rfl h.listed_edges _) ?_
    simp only [edge_asked, mapM_guarded]
    split
    next => rfl
    next =>
      rw [Option.bind_some]
      refine Eq.trans (askMembers_table rfl h.listed_elements _) ?_
      have helements : (elements.mapM fun ms => askMembers elementColumns .blank (.object ms)) =
          some (elements.map elementOf) := by
        simp only [element_asked]
        exact List.mapM_pure
      rw [helements]
      rfl

/-- Whatever the fields of nodes and edges hold, a document of this shape is read unless one of them
is written under both of its names, and nothing is left out and nothing moves. -/
theorem bad_values_never_sink {text : String} (hread : Reader.any.run text = .ok (.object members))
    (htabular : Tabular members nodes edges elements) :
    (∃ form, Holds form text) ∧
    ∀ form, Holds form text → KeysDiffer form →
      ((∃ topology, Topology.reader.run text = .ok topology) ↔ Unambiguous nodes edges) ∧
      ∀ topology, Topology.reader.run text = .ok topology →
        topology = topologyOf nodes edges elements := by
  refine ⟨Acceptance.holds_of_run hread, fun form hform hkeys => ?_⟩
  have htree : tree? nestingLimit form = some (.object members) := by
    rw [← run_means any_means hform, hread]
    rfl
  have hrun : (Topology.reader.run text).toOption =
      askMembers topologyColumns .blank (.object members) :=
    (run_means topology_means hform).trans
      (topology_agrees hkeys htree (topology_admitted htabular))
  rw [topology_asked htabular] at hrun
  rw [unambiguous_iff]
  cases hresult : Topology.reader.run text with
  | error fault =>
      rw [hresult] at hrun
      split at hrun
      next hclash => exact ⟨⟨(nomatch ·), fun h => absurd hclash h⟩, fun _ h => nomatch h⟩
      next => cases hrun
  | ok topology =>
      rw [hresult] at hrun
      split at hrun
      next => cases hrun
      next hclash =>
        refine ⟨⟨fun _ => hclash, fun _ => ⟨topology, rfl⟩⟩, fun _ h => ?_⟩
        cases h
        exact Option.some.inj hrun

end Topologies

section Scrap

def scrapNode : List (String × Json) := [("data", .boolean true), ("id", .array [])]

def scrapEdge : List (String × Json) := [("source", .null), ("to", .object [])]

def scrapElement : List (String × Json) := [("params", .object [("mass", .string "?")])]

def scrap : List (String × Json) :=
  [("edges", .array [.object scrapEdge]), ("elements", .array [.object scrapElement]),
    ("nodes", .array [.object scrapNode])]

theorem scrap_read : Reader.any.run (Json.object scrap).indented = .ok (.object scrap) := by
  have hholds : Holds (Printing.formOf (.object scrap)) (Json.object scrap).indented :=
    Printing.indented_holds rfl
  exact (run_ok_iff any_means hholds).mpr rfl

theorem scrap_tabular : Tabular scrap [scrapNode] [scrapEdge] [scrapElement] where
  listed_nodes := .inr rfl
  listed_edges := .inr rfl
  listed_elements := .inr rfl
  attributes := by
    rintro ms hms v hv
    cases List.mem_singleton.mp hms
    cases hv
    exact .inr ⟨_, rfl, by simp⟩

theorem scrap_unambiguous : Unambiguous [scrapNode] [scrapEdge] where
  params := by decide
  sources := by decide
  targets := by decide

theorem scrap_is_kept :
    Reader.any.run (Json.object scrap).indented = .ok (.object scrap) ∧
      Tabular scrap [scrapNode] [scrapEdge] [scrapElement] ∧
      Holds (Printing.formOf (.object scrap)) (Json.object scrap).indented ∧
      KeysDiffer (Printing.formOf (.object scrap)) ∧ Unambiguous [scrapNode] [scrapEdge] ∧
      Topology.reader.run (Json.object scrap).indented =
        .ok (topologyOf [scrapNode] [scrapEdge] [scrapElement]) := by
  have hholds : Holds (Printing.formOf (.object scrap)) (Json.object scrap).indented :=
    Printing.indented_holds rfl
  have hkeys : KeysDiffer (Printing.formOf (.object scrap)) :=
    keysDiffer_formOf (WellRead.run_yields (WellRead.value_fits _ _) scrap_read)
  obtain ⟨hread, hkept⟩ := (bad_values_never_sink scrap_read scrap_tabular).2 _ hholds hkeys
  obtain ⟨topology, htopology⟩ := hread.mpr scrap_unambiguous
  cases hkept topology htopology
  exact ⟨scrap_read, scrap_tabular, hholds, hkeys, scrap_unambiguous, htopology⟩

end Scrap

end LineTopology.Proofs.Tolerance
