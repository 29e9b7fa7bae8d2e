import LineTopology.Proofs.Decimals
import LineTopology.Proofs.Entries
import LineTopology.Proofs.Lowering
import LineTopology.Proofs.Trimming

namespace LineTopology.Proofs.ParameterReadings

open Dictionary Text Answers Decimals Entries Trimming Parameters

def Writes (cs : List Char) (n : Nat) : Prop :=
  ∃ ds, (cs = ds ∨ cs = '+' :: ds) ∧ ds ≠ [] ∧ (∀ d ∈ ds, isDigit d = true) ∧ decimalValue ds = n

inductive Counts : Json → Nat → Prop
  | null : Counts .null 1
  | integer {n : Nat} (h : n < 2 ^ 64) : Counts (.ofNat n) n
  | blank {s : String} (h : isBlank s = true) : Counts (.string s) 1
  | digits {s : String} {n : Nat} (h : Writes (trim s).toList n) (hn : n < 2 ^ 64) :
      Counts (.string s) n

def IsPortCount (value : Json) : Prop := ∃ n, Counts value n

inductive IsRecipeItem : Json → Prop
  | object {members : List (String × Json)} : IsRecipeItem (.object members)
  | list {items : List Json} (h : items.length ≤ 1) : IsRecipeItem (.array items)

inductive IsRecipe : Json → Prop
  | null : IsRecipe .null
  | list {items : List Json} (h : ∀ item ∈ items, IsRecipeItem item) : IsRecipe (.array items)

inductive IsHandleMap : Json → Prop
  | null : IsHandleMap .null
  | object {members : List (String × Json)}
      (h : ∀ handle value, find? handle members = some value →
        value = .null ∨ ∃ element, value = .string element) : IsHandleMap (.object members)

def Holds (params : List (String × Json)) (key : String) (Form : Json → Prop) : Prop :=
  ∀ value, find? key params = some value → Form value

def WellFormed : Kind → List (String × Json) → Prop
  | .generator, _ | .transporter, _ => True
  | .queue, params | .selector, params =>
      Holds params "entradas" IsPortCount ∧ Holds params "salidas" IsPortCount
  | .output, params => Holds params "entradas" IsPortCount
  | .transformer, params =>
      Holds params "handles" IsHandleMap ∧ Holds params "entradasDef" IsRecipe ∧
        Holds params "salidasDef" IsRecipe

variable {params : List (String × Json)} {key : String} {value : Json} {n : Nat}

section Counting

theorem le_limit_iff : n ≤ Ports.limit ↔ n < 2 ^ 64 := by
  have hlimit : Ports.limit = 2 ^ 64 - 1 := rfl
  omega

theorem writtenCount?_eq_some_iff {cs : List Char} :
    writtenCount? cs = some n ↔ Writes cs n ∧ n < 2 ^ 64 := by
  rw [writtenCount?, decimalWithin?_eq_some_iff, le_limit_iff, Writes]
  split
  next hplus =>
    obtain ⟨ds, rfl⟩ := List.head?_eq_some_iff.mp hplus
    constructor
    · rintro ⟨hne, hds, hvalue, hn⟩
      exact ⟨⟨ds, .inr rfl, hne, hds, hvalue⟩, hn⟩
    · rintro ⟨⟨other, rfl | hcs, hne, hds, hvalue⟩, hn⟩
      · cases hds '+' List.mem_cons_self
      · cases hcs
        exact ⟨hne, hds, hvalue, hn⟩
  next hplus =>
    constructor
    · rintro ⟨hne, hds, hvalue, hn⟩
      exact ⟨⟨cs, .inl rfl, hne, hds, hvalue⟩, hn⟩
    · rintro ⟨⟨ds, rfl | rfl, hne, hds, hvalue⟩, hn⟩
      · exact ⟨hne, hds, hvalue, hn⟩
      · exact absurd rfl hplus

theorem Writes.ne_nil {cs : List Char} (h : Writes cs n) : cs ≠ [] := by
  obtain ⟨ds, rfl | rfl, hne, _⟩ := h
  · exact hne
  · exact List.cons_ne_nil _ _

theorem isEmpty_trim_iff {s : String} : (trim s).toList.isEmpty = true ↔ isBlank s = true := by
  rw [List.isEmpty_iff, String.toList_eq_nil_iff, trim_eq_empty_iff]

theorem portCount_ok_iff : portCount value = .ok n ↔ Counts value n := by
  constructor
  · intro h
    rw [portCount.eq_def] at h
    split at h
    next =>
      cases h
      exact .null
    next m =>
      split at h
      next hm =>
        cases h
        exact .integer (le_limit_iff.mp hm)
      next => cases h
    next s =>
      dsimp only at h
      split at h
      next hempty =>
        cases h
        exact .blank (isEmpty_trim_iff.mp hempty)
      next =>
        split at h
        next hwritten =>
          cases h
          obtain ⟨hwrites, hn⟩ := writtenCount?_eq_some_iff.mp hwritten
          exact .digits hwrites hn
        next => cases h
    next => cases h
  · intro h
    cases h with
    | null => rfl
    | integer hn => exact if_pos (le_limit_iff.mpr hn)
    | blank hblank => exact if_pos (isEmpty_trim_iff.mpr hblank)
    | @digits s _ hwrites hn =>
        have hne : ¬ (trim s).toList.isEmpty = true := by
          rw [List.isEmpty_iff]
          exact hwrites.ne_nil
        simp only [portCount, if_neg hne, writtenCount?_eq_some_iff.mpr ⟨hwrites, hn⟩]

theorem counts_number_iff {x : Number} :
    Counts (.number x) n ↔ x = .integer (.ofNat n) ∧ n < 2 ^ 64 := by
  constructor
  · intro h
    cases h with
    | integer hn => exact ⟨rfl, hn⟩
  · rintro ⟨rfl, hn⟩
    exact .integer hn

theorem counts_text_iff {s : String} (h : trim s ≠ "") :
    Counts (.string s) n ↔ Writes (trim s).toList n ∧ n < 2 ^ 64 := by
  constructor
  · intro hc
    cases hc with
    | blank hb => exact absurd (trim_eq_empty_iff.mpr hb) h
    | digits hw hn => exact ⟨hw, hn⟩
  · rintro ⟨hw, hn⟩
    exact .digits hw hn

theorem portCountAt_isOk_iff :
    (∃ n, portCountAt key params = .ok n) ↔ Holds params key IsPortCount := by
  rw [portCountAt, Holds]
  cases find? key params with
  | none => simp
  | some value => simp [portCount_ok_iff, IsPortCount]

end Counting

section Recipes

theorem recipeElement?_isOk_iff :
    (∃ given, recipeElement? value = .ok given) ↔ IsRecipeItem value := by
  constructor
  · rintro ⟨given, h⟩
    cases value with
    | object => exact .object
    | array items =>
        match items, h with
        | [], _ => exact .list (Nat.zero_le 1)
        | [_], _ => exact .list (Nat.le_refl 1)
        | _ :: _ :: _, h => cases h
    | null | boolean | number | string => cases h
  · intro h
    cases h with
    | object => exact ⟨_, rfl⟩
    | @list items hlength =>
        match items, hlength with
        | [], _ => exact ⟨_, rfl⟩
        | [_], _ => exact ⟨_, rfl⟩
        | _ :: _ :: _, hlength => simp at hlength

theorem recipe_isOk_iff :
    (∃ names, recipe (find? key params) = .ok names) ↔ Holds params key IsRecipe := by
  rw [Holds]
  cases find? key params with
  | none => simp [recipe]
  | some value =>
      simp only [Option.some_inj, forall_eq']
      cases value with
      | null => simp [recipe, IsRecipe.null]
      | array items =>
          rw [recipe, exists_map_ok_iff, exists_mapM_ok_iff]
          simp only [recipeElement?_isOk_iff]
          refine ⟨.list, fun h => ?_⟩
          cases h with
          | list h => exact h
      | boolean | number | string | object =>
          constructor
          · rintro ⟨_, h⟩
            cases h
          · intro h
            cases h

end Recipes

section Handles

theorem handleElement_isOk_iff {handle : String} :
    (∃ read, handleElement (handle, value) = .ok read) ↔
      value = .null ∨ ∃ element, value = .string element := by
  cases value <;> simp [handleElement]

theorem explicitHandles_isOk_iff :
    (∃ explicit, explicitHandles (find? key params) = .ok explicit) ↔
      Holds params key IsHandleMap := by
  rw [Holds]
  cases find? key params with
  | none => simp [explicitHandles]
  | some value =>
      simp only [Option.some_inj, forall_eq']
      cases value with
      | null => simp [explicitHandles, IsHandleMap.null]
      | object members =>
          rw [explicitHandles, exists_map_ok_iff, exists_mapM_ok_iff]
          simp only [Prod.forall, mem_ofList_iff, handleElement_isOk_iff]
          refine ⟨.object, fun h => ?_⟩
          cases h with
          | object h => exact h
      | boolean | number | string | array =>
          constructor
          · rintro ⟨_, h⟩
            cases h
          · intro h
            cases h

end Handles

/-- Parameters of the right form, and no others, describe a component. -/
theorem station_isOk_iff {kind : Kind} :
    (∃ station, Parameters.station kind params = .ok station) ↔ WellFormed kind params := by
  cases kind with
  | generator | transporter => exact ⟨fun _ => trivial, fun _ => ⟨_, rfl⟩⟩
  | queue | selector | output =>
      simp only [Parameters.station, exists_bind_ok_iff, ← portCountAt_isOk_iff, WellFormed]
      simp [pure, Except.pure]
  | transformer =>
      simp only [Parameters.station, exists_bind_ok_iff, ← recipe_isOk_iff,
        ← explicitHandles_isOk_iff, WellFormed]
      simp [pure, Except.pure, and_left_comm]

end LineTopology.Proofs.ParameterReadings
