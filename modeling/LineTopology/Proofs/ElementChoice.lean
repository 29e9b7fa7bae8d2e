import LineTopology.Proofs.DeclaredElement
import LineTopology.Proofs.Entries
import LineTopology.Proofs.Trimming

namespace LineTopology.Proofs.ElementChoice

open Dictionary Text Parameters DeclaredElement Entries Trimming

/-- A text says itself, and a number the text it is written as; nothing else says a name. -/
inductive Says : Json → String → Prop
  | text (s : String) : Says (.string s) s
  | number (n : Number) : Says (.number n) n.text

inductive PassedOver (params : List (String × Json)) (key : String) : Prop
  | absent (h : find? key params = none) : PassedOver params key
  | nameless {value : Json} (h : find? key params = some value) (hn : ∀ text, ¬ Says value text) :
      PassedOver params key
  | blank {value : Json} {text : String} (h : find? key params = some value)
      (ht : Says value text) (hb : isBlank text = true) : PassedOver params key

structure ChosenAt (params : List (String × Json)) (position : Nat) (name : String) : Prop where
  said : ∃ key value text, elementKeys[position]? = some key ∧ find? key params = some value ∧
    Says value text ∧ trim text = name
  nonempty : name ≠ ""
  first : ∀ i < position, ∀ key, elementKeys[i]? = some key → PassedOver params key

def Stored (key : String) (value : Json) (params more : List (String × Json)) : Prop :=
  find? key more = some value ∧ ∀ other, other ≠ key → find? other more = find? other params

variable {params more : List (String × Json)} {key name text : String} {value : Json}

section Keys

theorem name?_eq_some_iff : value.name? = some text ↔ Says value text := by
  constructor
  · intro h
    cases value with
    | string =>
        cases h
        exact .text _
    | number =>
        cases h
        exact .number _
    | null | boolean | array | object => cases h
  · intro h
    cases h <;> rfl

theorem usable_iff :
    Usable params key name ↔
      (∃ value text, find? key params = some value ∧ Says value text ∧ trim text = name) ∧
        name ≠ "" := by
  simp only [Usable, name?_eq_some_iff, ← and_assoc, exists_and_right]

theorem passedOver_iff : PassedOver params key ↔ ∀ name, ¬ Usable params key name := by
  constructor
  · rintro (h | ⟨h, hn⟩ | ⟨h, ht, hb⟩) name ⟨value, text, hvalue, htext, rfl, hne⟩ <;>
      rw [h] at hvalue <;> cases hvalue
    · exact hn text (name?_eq_some_iff.mp htext)
    · rw [name?_eq_some_iff.mpr ht, Option.some_inj] at htext
      subst htext
      exact hne (trim_eq_empty_iff.mpr hb)
  · intro h
    cases hvalue : find? key params with
    | none => exact .absent hvalue
    | some value =>
        cases htext : value.name? with
        | none =>
            refine .nameless hvalue fun text hs => ?_
            rw [name?_eq_some_iff.mpr hs] at htext
            cases htext
        | some text =>
            refine .blank hvalue (name?_eq_some_iff.mp htext) (trim_eq_empty_iff.mp ?_)
            by_contra hne
            exact h (trim text) ⟨value, text, hvalue, htext, rfl, hne⟩

theorem declares_iff : Declares params name ↔ ∃ position, ChosenAt params position name := by
  constructor
  · rintro ⟨earlier, key, later, hkeys, hu, hnone⟩
    obtain ⟨⟨value, text, hvalue, hs, ht⟩, hne⟩ := usable_iff.mp hu
    refine ⟨earlier.length, ⟨key, value, text, by simp [hkeys], hvalue, hs, ht⟩, hne,
      fun i hi other hother => ?_⟩
    rw [hkeys, List.getElem?_append_left hi] at hother
    exact passedOver_iff.mpr (hnone other (List.mem_of_getElem? hother))
  · rintro ⟨position, ⟨key, value, text, hkey, hvalue, hs, ht⟩, hne, hfirst⟩
    obtain ⟨hlength, hat⟩ := List.getElem?_eq_some_iff.mp hkey
    refine ⟨elementKeys.take position, key, elementKeys.drop (position + 1), ?_,
      usable_iff.mpr ⟨⟨value, text, hvalue, hs, ht⟩, hne⟩, fun other hother => ?_⟩
    · rw [← hat, List.getElem_cons_drop, List.take_append_drop]
    · obtain ⟨i, hi⟩ := List.mem_iff_getElem?.mp hother
      rw [List.getElem?_take] at hi
      split at hi
      next hlt => exact passedOver_iff.mp (hfirst i hlt other hi)
      next => cases hi

theorem undeclared_iff : Undeclared params ↔ ∀ key ∈ elementKeys, PassedOver params key := by
  simp only [Undeclared, passedOver_iff]

end Keys

section Names

theorem trimmed_trim (s : String) : Trimmed (trim s) := by
  rw [Trimmed, toList_trim]
  constructor
  · intro c hc
    obtain ⟨rest, hrest⟩ := List.rdropWhile_prefix isWhite (s.toList.dropWhile isWhite)
    have hhead : c ∈ (s.toList.dropWhile isWhite).head? := by
      rw [← hrest, List.head?_append, Option.mem_def.mp hc]
      rfl
    have hkept := List.head?_dropWhile_not isWhite s.toList
    rw [Option.mem_def.mp hhead] at hkept
    simpa using hkept
  · exact trimEnd_eq_self_iff.mp (List.rdropWhile_idempotent isWhite _)

theorem trimmed_of_declares (h : Declares params name) : Trimmed name := by
  obtain ⟨_, _, _, _, ⟨_, text, _, _, rfl, _⟩, _⟩ := h
  exact trimmed_trim text

theorem nonempty_of_declares (h : Declares params name) : name ≠ "" := by
  obtain ⟨_, _, _, _, ⟨_, _, _, _, _, hne⟩, _⟩ := h
  exact hne

end Names

section Storing

theorem exists_stored (key : String) (value : Json) (params : List (String × Json)) :
    ∃ more, Ascending more ∧ Stored key value params more := by
  have hascending := ascending_ofList params
  refine ⟨Dictionary.insert key value (ofList params), ascending_insert hascending, ?_,
    fun other hne => ?_⟩
  · rw [find?_insert hascending, if_pos rfl]
  · rw [find?_insert hascending, if_neg (Ne.symm hne), find?_ofList]

theorem declares_of_stored (ht : Trimmed name) (hne : name ≠ "")
    (h : Stored "elemento" (.string name) params more) : Declares more name :=
  ⟨[], "elemento", _, rfl, ⟨.string name, name, h.1, rfl, trim_eq_self_iff.mpr ht, hne⟩,
    List.forall_mem_nil _⟩

end Storing

/-- The element that parameters declare is the name under the first of the keys that lead to one,
without the blanks around it. Stored as it is under the first key, it is declared again. -/
theorem element_is_first_usable (params : List (String × Json)) :
    (∀ name, element? params = some name ↔ ∃ position, ChosenAt params position name) ∧
      (element? params = none ↔ ∀ key ∈ elementKeys, PassedOver params key) ∧
      ∀ name, element? params = some name →
        Trimmed name ∧
          (∃ more, Ascending more ∧ Stored "elemento" (.string name) params more) ∧
          ∀ more, Stored "elemento" (.string name) params more → element? more = some name := by
  refine ⟨fun name => element?_eq_some_iff.trans declares_iff,
    element?_eq_none_iff.trans undeclared_iff, fun name hname => ?_⟩
  have hd := element?_eq_some_iff.mp hname
  have ht := trimmed_of_declares hd
  refine ⟨ht, exists_stored "elemento" (.string name) params, fun more hmore => ?_⟩
  exact element?_eq_some_iff.mpr (declares_of_stored ht (nonempty_of_declares hd) hmore)

example : element? [("elemento", .string " "), ("element", .boolean true), ("element_id", .ofNat 7)] =
    some "7" := by decide +kernel

end LineTopology.Proofs.ElementChoice
