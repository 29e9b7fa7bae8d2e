import LineTopology.Proofs.Recipes

namespace LineTopology.Proofs.HandleOverlay

open Dictionary Distinct Entries Lowering LinkFaults Recipes

/-- The names of a recipe in the order in which they first occur, and behind them, in ascending
order, the other handles that are mapped. -/
def InPlace (recipe : List String) (mapped? : String → Option String) (ports : List String) : Prop :=
  ∃ named added, ports = named ++ added ∧
    (∀ name, name ∈ named ↔ name ∈ recipe) ∧
    (named.Pairwise fun a b => recipe.idxOf a < recipe.idxOf b) ∧
    (∀ name, name ∈ added ↔ (mapped? name).isSome = true ∧ name ∉ recipe) ∧
    added.Pairwise (· < ·)

section Order

variable {recipeInputs recipeOutputs : List String} {explicit : List (String × String)}

theorem keys_ascending {entries : List (String × String)} (h : Ascending entries) :
    (keys entries).Pairwise (· < ·) :=
  List.pairwise_map.mpr h

theorem ports_inPlace {mapped? : String → Option String} (ha : Ascending explicit)
    (hm : ∀ handle, find? handle explicit = mapped? handle) (side : Side) :
    InPlace ((sided recipeInputs recipeOutputs side).filter (· ≠ "")) mapped?
      ((Parameters.transformer recipeInputs recipeOutputs explicit).ports side) := by
  have hkeys := keys_ascending ha
  have hports := ports_transformer recipeInputs recipeOutputs explicit side
  rw [appendNew_eq_append (hkeys.imp fun hlt => ne_of_lt hlt)] at hports
  refine ⟨_, _, hports, fun name => mem_distinct, distinct_ordered _, fun name => ?_,
    hkeys.filter _⟩
  rw [List.mem_filter, ← find?_isSome_iff, hm, Bool.not_eq_true', ← Bool.not_eq_true,
    List.contains_iff_mem, mem_distinct]

end Order

section Blindness

variable {record : NodeRecord} {node : Node} {params other : List (String × Json)}

theorem lower_of_other_keys (hl : record.lower = .ok node) (hk : node.kind = .transformer)
    (hp : record.members? = some params)
    (ho : ∀ key, key ∉ Parameters.elementKeys → find? key other = find? key params) :
    ({ record with params := .object other } : NodeRecord).lower = .ok node := by
  obtain ⟨name, kind, given, hid, hname, hkind, hgiven, hstation⟩ := lower_ok_iff.mp hl
  rw [hp, Option.some_inj] at hgiven
  subst hgiven
  obtain rfl : kind = .transformer := (station_kind hstation).symm.trans hk
  have hinputs : "entradasDef" ∉ Parameters.elementKeys := by decide
  have hhandles : "handles" ∉ Parameters.elementKeys := by decide
  have houtputs : "salidasDef" ∉ Parameters.elementKeys := by decide
  refine lower_ok_iff.mpr ⟨name, .transformer, other, hid, hname, hkind, rfl, ?_⟩
  simp only [Parameters.station, ho _ hinputs, ho _ hhandles, ho _ houtputs]
  exact hstation

end Blindness

/-- The explicit handles of a transformer lie over those of its recipes: a handle that is mapped to
an element carries it on both sides, and any other carries the element of its own name where the
recipe of the side gives that name. The ports stand in the order of the recipe with the other handles
behind it, and no key that declares the one element of another kind has a say in it. -/
theorem handles_overlay_recipes {record : NodeRecord} {node : Node}
    (hl : record.lower = .ok node) (hk : node.kind = .transformer) :
    ∃ params t, record.members? = some params ∧ node.station = .transformer t ∧
      (∀ side handle element, mapped? params handle = some element →
        t.element? side (some handle) = some element) ∧
      (∀ side handle, mapped? params handle = none →
        t.element? side (some handle) = if handle ∈ listed params side then some handle else none) ∧
      (∀ side, t.element? side none = none) ∧
      (∀ side, InPlace (listed params side) (mapped? params) (t.ports side)) ∧
      ∀ other, (∀ key, key ∉ Parameters.elementKeys → find? key other = find? key params) →
        ({ record with params := .object other } : NodeRecord).lower = .ok node := by
  obtain ⟨t, ht⟩ := exists_transformer hk
  obtain ⟨_, _, params, _, _, _, hp, _⟩ := lower_ok_iff.mp hl
  refine ⟨params, t, hp, ht, ?_, ?_, fun side => rfl, ?_,
    fun other => lower_of_other_keys hl hk hp⟩
  · intro side handle element hm
    rw [element?_lower hl ht hp, hm, Option.some_or]
  · intro side handle hm
    rw [element?_lower hl ht hp, hm, Option.none_or]
  · intro side
    obtain ⟨_, _, _, rfl, hlisted, hascending, hmapped⟩ := lower_transformer hl ht hp
    rw [← hlisted]
    exact ports_inPlace hascending hmapped side

def millParams (scalar : Json) : List (String × Json) :=
  [("elemento", scalar),
    ("entradasDef", .array
      [.object [("elemento", .ofNat 7)], .array [.string "rod"], .object [],
        .object [("elemento", .string "rod")]]),
    ("handles", .object [("arm", .string "tin"), ("cam", .string "steel"), ("rod", .null)]),
    ("salidasDef", .array [.array [.string "cam"]])]

/-- A number as a name, a repeated name, an item without one, a name of a recipe that is mapped to
another element, one that is mapped to nothing, and an element that is declared in vain. -/
def millRecord : NodeRecord :=
  ⟨some "mill", some "transformer", .object (millParams (.string "ore"))⟩

def mill : Transformer :=
  ⟨[("7", "7"), ("arm", "tin"), ("cam", "steel"), ("rod", "rod")], ["7", "rod", "arm", "cam"],
    ["cam", "arm"]⟩

theorem mill_handles_overlay :
    millRecord.lower = .ok ⟨"mill", .transformer mill⟩ ∧
      millRecord.members? = some (millParams (.string "ore")) ∧
      mill.element? .source (some "cam") = some "steel" ∧
      mill.element? .target (some "rod") = some "rod" ∧
      mill.element? .source (some "rod") = none ∧
      ({ millRecord with params := .object (millParams .null) } : NodeRecord).lower =
        .ok ⟨"mill", .transformer mill⟩ := by
  have hl : millRecord.lower = .ok ⟨"mill", .transformer mill⟩ := rfl
  obtain ⟨params, t, hp, ht, hmapped, hlisted, _, _, hblind⟩ := handles_overlay_recipes hl rfl
  obtain rfl : millParams (.string "ore") = params := Option.some_inj.mp hp
  obtain rfl : mill = t := Station.transformer.inj ht
  have hscalar : "elemento" ∈ Parameters.elementKeys := by decide
  refine ⟨hl, rfl, hmapped .source "cam" "steel" rfl, (hlisted .target "rod" rfl).trans ?_,
    (hlisted .source "rod" rfl).trans ?_, hblind _ fun key hkey => ?_⟩
  · decide +kernel
  · decide +kernel
  · have hne : "elemento" ≠ key := fun he => hkey (he ▸ hscalar)
    simp only [millParams, find?_cons, if_neg hne]

end LineTopology.Proofs.HandleOverlay
