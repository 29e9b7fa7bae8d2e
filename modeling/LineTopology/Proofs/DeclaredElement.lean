import LineTopology.Node.Parameters

namespace LineTopology.Proofs.DeclaredElement

open Dictionary Text Parameters

variable {params : List (String × Json)} {key name : String}

def Usable (params : List (String × Json)) (key name : String) : Prop :=
  ∃ value text, find? key params = some value ∧ value.name? = some text ∧ trim text = name ∧
    name ≠ ""

def Declares (params : List (String × Json)) (name : String) : Prop :=
  ∃ earlier key later, elementKeys = earlier ++ key :: later ∧ Usable params key name ∧
    ∀ k ∈ earlier, ∀ other, ¬ Usable params k other

def Undeclared (params : List (String × Json)) : Prop :=
  ∀ key ∈ elementKeys, ∀ name, ¬ Usable params key name

def usable? (params : List (String × Json)) (key : String) : Option String :=
  (((find? key params).bind Json.name?).map trim).filter (· ≠ "")

theorem usable?_eq_some_iff : usable? params key = some name ↔ Usable params key name := by
  simp only [usable?, Usable, Option.filter_eq_some_iff, Option.map_eq_some_iff,
    Option.bind_eq_some_iff, decide_eq_true_eq]
  constructor
  · rintro ⟨⟨text, ⟨value, hvalue, htext⟩, htrim⟩, hne⟩
    exact ⟨value, text, hvalue, htext, htrim, hne⟩
  · rintro ⟨value, text, hvalue, htext, htrim, hne⟩
    exact ⟨⟨text, ⟨value, hvalue, htext⟩, htrim⟩, hne⟩

theorem usable?_eq_none_iff : usable? params key = none ↔ ∀ name, ¬ Usable params key name := by
  simp only [← usable?_eq_some_iff, Option.eq_none_iff_forall_ne_some]

theorem element?_eq_findSome? (params : List (String × Json)) :
    element? params = elementKeys.findSome? (usable? params) := by
  have hkeys (keys : List String) :
      ((((keys.filterMap fun key => find? key params).filterMap Json.name?).map trim).find?
        (· ≠ "")) = keys.findSome? (usable? params) := by
    induction keys with
    | nil => rfl
    | cons key keys ih =>
        rw [List.findSome?_cons, ← ih, usable?, List.filterMap_cons]
        cases find? key params with
        | none => rfl
        | some value =>
            rw [List.filterMap_cons, Option.bind_some]
            cases value.name? with
            | none => rfl
            | some text =>
                rw [List.map_cons, List.find?_cons, Option.map_some, Option.filter_some]
                cases decide (trim text ≠ "") <;> rfl
  exact hkeys elementKeys

theorem element?_eq_some_iff : element? params = some name ↔ Declares params name := by
  simp only [element?_eq_findSome?, List.findSome?_eq_some_iff, usable?_eq_some_iff,
    usable?_eq_none_iff]
  rfl

theorem element?_eq_none_iff : element? params = none ↔ Undeclared params := by
  simp only [element?_eq_findSome?, List.findSome?_eq_none_iff, usable?_eq_none_iff]
  rfl

end LineTopology.Proofs.DeclaredElement
