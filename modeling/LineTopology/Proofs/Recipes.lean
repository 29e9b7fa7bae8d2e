import LineTopology.Proofs.HandleMap
import LineTopology.Proofs.LinkFaults

namespace LineTopology.Proofs.Recipes

open Dictionary Distinct Entries Answers Lowering HandleMap LinkFaults Parameters

variable {name : String} {side : Side} {explicit : List (String × String)}

inductive Names (name : String) : Json → Prop
  | object {members : List (String × Json)} (h : find? "elemento" members = some (.string name)) :
      Names name (.object members)
  | list : Names name (.array [.string name])

def recipeKey : Side → String
  | .source => "salidasDef"
  | .target => "entradasDef"

def Lists (record : NodeRecord) (side : Side) (name : String) : Prop :=
  ∃ params items item, record.members? = some params ∧
    find? (recipeKey side) params = some (.array items) ∧ item ∈ items ∧ Names name item

def Unmentioned (record : NodeRecord) (name : String) : Prop :=
  ∀ params members, record.members? = some params →
    find? "handles" params = some (.object members) → find? name members = none

def itemName? : Json → Option String
  | .object members => (find? "elemento" members).bind Json.name?
  | .array [value] => value.name?
  | _ => none

/-- The names that the recipe of a side gives, in its order and with repetitions; an empty one is
none. -/
def listed (params : List (String × Json)) (side : Side) : List String :=
  match find? (recipeKey side) params with
  | some (.array items) => (items.filterMap itemName?).filter (· ≠ "")
  | _ => []

def text? : Json → Option String
  | .string s => some s
  | _ => none

def mapped? (params : List (String × Json)) (handle : String) : Option String :=
  match find? "handles" params with
  | some (.object members) => (find? handle members).bind text?
  | _ => none

def texts (members : List (String × Json)) : List (String × String) :=
  members.filterMap fun member => (text? member.2).map (member.1, ·)

section Readings

variable {params members : List (String × Json)} {items : List Json} {item : Json}
  {names : List String}

theorem recipeElement?_ok {given : Option String} (h : recipeElement? item = .ok given) :
    given = itemName? item := by
  cases item with
  | object members => exact (Except.ok.inj h).symm
  | array items =>
      match items, h with
      | [], h => exact (Except.ok.inj h).symm
      | [value], h => exact (Except.ok.inj h).symm
      | _ :: _ :: _, h => cases h
  | null | boolean | number | string => cases h

theorem recipe_ok (h : recipe (find? (recipeKey side) params) = .ok names) :
    names.filter (· ≠ "") = listed params side := by
  rw [listed]
  cases hvalue : find? (recipeKey side) params with
  | none =>
      rw [hvalue] at h
      cases h
      rfl
  | some value =>
      rw [hvalue] at h
      cases value with
      | array items =>
          obtain ⟨given, hgiven, rfl⟩ := map_ok_iff.mp h
          rw [eq_map_of_mapM (fun _ _ => recipeElement?_ok) hgiven, List.filterMap_map]
          rfl
      | null =>
          cases h
          rfl
      | boolean | number | string | object => cases h

theorem texts_ascending (h : Ascending members) : Ascending (texts members) := by
  refine h.filterMap _ fun a b hab x hx y hy => ?_
  obtain ⟨_, _, rfl⟩ := Option.map_eq_some_iff.mp hx
  obtain ⟨_, _, rfl⟩ := Option.map_eq_some_iff.mp hy
  exact hab

theorem find?_texts (h : Ascending members) :
    find? name (texts members) = (find? name members).bind text? := by
  induction members with
  | nil => rfl
  | cons member members ih =>
      have htail : Ascending members := (List.pairwise_cons.mp h).2
      have hcons : texts (member :: members) =
          ((text? member.2).map (member.1, ·)).toList ++ texts members := by
        rw [texts, List.filterMap_cons]
        cases text? member.2 <;> rfl
      rw [hcons, find?_append, ih htail, find?_cons]
      by_cases hk : member.1 = name
      · -- No other member has the key, so one that holds no text hides nothing behind it.
        have hother : find? name members = none := hk ▸ find?_behind h
        rw [hother, if_pos hk]
        cases ht : text? member.2 with
        | none => simp [ht, find?]
        | some element => simp [ht, find?, hk]
      · rw [if_neg hk, Option.or_none]
        cases text? member.2 with
        | none => simp [find?]
        | some element => simp [find?, hk]

theorem handleElement_ok {entry : String × Json} {read : String × Option String}
    (h : handleElement entry = .ok read) : read = (entry.1, text? entry.2) := by
  obtain ⟨handle, value⟩ := entry
  cases value with
  | null | string element => cases h; rfl
  | boolean | number | array | object => cases h

theorem explicit_ok (h : explicitHandles (find? "handles" params) = .ok explicit) :
    Ascending explicit ∧ ∀ handle, find? handle explicit = mapped? params handle := by
  have hnone (hm : ∀ members, find? "handles" params ≠ some (.object members)) (handle : String) :
      find? handle ([] : List (String × String)) = mapped? params handle := by
    rw [mapped?]
    split
    next members hvalue => exact absurd hvalue (hm members)
    next => rfl
  cases hvalue : find? "handles" params with
  | none =>
      rw [hvalue] at h
      cases h
      exact ⟨.nil, hnone fun members hm => nomatch hvalue.symm.trans hm⟩
  | some value =>
      rw [hvalue] at h
      cases value with
      | object members =>
          obtain ⟨read, hread, rfl⟩ := map_ok_iff.mp h
          rw [eq_map_of_mapM (fun _ _ => handleElement_ok) hread, List.filterMap_map]
          have hascending := ascending_ofList members
          refine ⟨texts_ascending hascending, fun handle => (find?_texts hascending).trans ?_⟩
          rw [find?_ofList, mapped?, hvalue]
      | null =>
          cases h
          exact ⟨.nil, hnone fun members hm => nomatch hvalue.symm.trans hm⟩
      | boolean | number | string | array => cases h

end Readings

section Maps

variable {recipeInputs recipeOutputs : List String}

def sided (recipeInputs recipeOutputs : List String) : Side → List String
  | .source => recipeOutputs
  | .target => recipeInputs

theorem find?_self (names : List String) :
    find? name (names.map fun other => (other, other)) =
      if name ∈ names then some name else none := by
  induction names with
  | nil => rfl
  | cons other names ih =>
      rw [List.map_cons, find?_cons, ih]
      by_cases ho : other = name
      · subst ho
        split <;> simp
      · simp [ho, Ne.symm ho]

theorem ports_transformer (recipeInputs recipeOutputs : List String)
    (explicit : List (String × String)) (side : Side) :
    (Parameters.transformer recipeInputs recipeOutputs explicit).ports side =
      appendNew (distinct ((sided recipeInputs recipeOutputs side).filter (· ≠ "")))
        (keys explicit) := by
  cases side <;> rfl

theorem mem_ports_transformer :
    name ∈ (Parameters.transformer recipeInputs recipeOutputs explicit).ports side ↔
      name ∈ (sided recipeInputs recipeOutputs side).filter (· ≠ "") ∨ name ∈ keys explicit := by
  rw [ports_transformer, mem_appendNew, mem_distinct]

theorem find?_transformer :
    find? name (Parameters.transformer recipeInputs recipeOutputs explicit).handles =
      (find? name explicit).or
        (if name ∈ distinct (recipeInputs.filter (· ≠ "")) ++ distinct (recipeOutputs.filter (· ≠ ""))
          then some name else none) := by
  rw [Parameters.transformer, find?_ofList, find?_append, find?_self]

theorem mem_of_sided (h : name ∈ (sided recipeInputs recipeOutputs side).filter (· ≠ "")) :
    name ∈ distinct (recipeInputs.filter (· ≠ "")) ++
      distinct (recipeOutputs.filter (· ≠ "")) := by
  cases side with
  | source => exact List.mem_append_right _ (mem_distinct.mpr h)
  | target => exact List.mem_append_left _ (mem_distinct.mpr h)

/-- A handle that is mapped explicitly carries what it is mapped to, on both sides; of the others,
those that the recipe of the side names carry the element of their name. -/
theorem element?_transformer :
    (Parameters.transformer recipeInputs recipeOutputs explicit).element? side (some name) =
      (find? name explicit).or
        (if name ∈ (sided recipeInputs recipeOutputs side).filter (· ≠ "") then some name
          else none) := by
  rw [Transformer.element?, Option.bind_some, find?_transformer]
  simp only [List.contains_iff_mem, mem_ports_transformer]
  cases hx : find? name explicit with
  | some element =>
      have hkey : name ∈ keys explicit := find?_isSome_iff.mp (by rw [hx]; rfl)
      rw [if_pos (.inr hkey), Option.some_or, Option.some_or]
  | none =>
      have hkey : name ∉ keys explicit := find?_eq_none_iff.mp hx
      rw [Option.none_or, Option.none_or]
      by_cases hnamed : name ∈ (sided recipeInputs recipeOutputs side).filter (· ≠ "")
      · rw [if_pos (.inl hnamed), if_pos (mem_of_sided hnamed), if_pos hnamed]
      · -- The recipe of the other side may have put the name into the map, but not on this side.
        rw [if_neg hnamed, if_neg]
        rintro (h | h)
        · exact hnamed h
        · exact hkey h

end Maps

section Described

variable {record : NodeRecord} {node : Node} {t : Transformer} {params : List (String × Json)}

theorem lower_transformer (hl : record.lower = .ok node) (ht : node.station = .transformer t)
    (hp : record.members? = some params) :
    ∃ recipeInputs recipeOutputs explicit,
      t = Parameters.transformer recipeInputs recipeOutputs explicit ∧
        (∀ side, (sided recipeInputs recipeOutputs side).filter (· ≠ "") = listed params side) ∧
        Ascending explicit ∧ ∀ handle, find? handle explicit = mapped? params handle := by
  obtain ⟨_, _, given, _, _, _, hgiven, hstation⟩ := lower_ok_iff.mp hl
  rw [hp, Option.some_inj] at hgiven
  subst hgiven
  rw [ht] at hstation
  obtain ⟨recipeInputs, recipeOutputs, explicit, hinputs, houtputs, hexplicit, rfl⟩ :=
    station_transformer hstation
  obtain ⟨hascending, hmapped⟩ := explicit_ok hexplicit
  refine ⟨recipeInputs, recipeOutputs, explicit, rfl, fun side => ?_, hascending, hmapped⟩
  cases side with
  | source => exact recipe_ok houtputs
  | target => exact recipe_ok hinputs

theorem element?_lower (hl : record.lower = .ok node) (ht : node.station = .transformer t)
    (hp : record.members? = some params) (side : Side) (name : String) :
    t.element? side (some name) =
      (mapped? params name).or (if name ∈ listed params side then some name else none) := by
  obtain ⟨_, _, _, rfl, hlisted, _, hmapped⟩ := lower_transformer hl ht hp
  rw [element?_transformer, hlisted, hmapped]

theorem itemName?_names {item : Json} (h : Names name item) : itemName? item = some name := by
  cases h with
  | object h => simp [itemName?, h, Json.name?]
  | list => rfl

theorem carried_of_lists (hl : record.lower = .ok node) (hk : node.kind = .transformer)
    (hlist : Lists record side name) (hne : name ≠ "") (hm : Unmentioned record name) :
    node.station.carried? side (some name) = some name := by
  obtain ⟨t, ht⟩ := exists_transformer hk
  obtain ⟨params, items, item, hp, hrecipe, hitem, hname⟩ := hlist
  have hlisted : name ∈ listed params side := by
    rw [listed, hrecipe]
    exact List.mem_filter.mpr
      ⟨List.mem_filterMap.mpr ⟨item, hitem, itemName?_names hname⟩, decide_eq_true hne⟩
  have hmapped : mapped? params name = none := by
    rw [mapped?]
    split
    next members hmembers => rw [hm params members hp hmembers, Option.bind_none]
    next => rfl
  have hcarried : node.station.carried? side (some name) = t.element? side (some name) := by
    rw [ht]
    rfl
  rw [hcarried, element?_lower hl ht hp, hmapped, if_pos hlisted, Option.none_or]

end Described

end LineTopology.Proofs.Recipes
