import LineTopology.Names
import Mathlib.Data.List.Basic

namespace LineTopology.Proofs.Distinct

variable {name : String} {names more : List String}

theorem mem_appendNew :
    name ∈ appendNew names more ↔ name ∈ names ∨ name ∈ more := by
  rw [appendNew]
  induction more generalizing names with
  | nil => simp
  | cons other more ih =>
      rw [List.foldl_cons, ih]
      by_cases ho : other ∈ names
      · simp only [List.contains_iff_mem, ho, if_true, List.mem_cons]
        grind
      · simp only [List.contains_iff_mem, ho, if_false, List.mem_append, List.mem_cons,
          List.not_mem_nil, or_false, or_assoc]

theorem appendNew_nodup (h : names.Nodup) (more : List String) :
    (appendNew names more).Nodup := by
  induction more generalizing names with
  | nil => exact h
  | cons name more ih =>
      rw [appendNew, List.foldl_cons, ← appendNew]
      apply ih
      by_cases hn : name ∈ names
      · rw [if_pos (List.contains_iff_mem.mpr hn)]
        exact h
      · rw [if_neg fun hc => hn (List.contains_iff_mem.mp hc)]
        exact List.nodup_append.mpr ⟨h, List.pairwise_singleton _ _, by grind⟩

theorem distinct_nodup (names : List String) : (distinct names).Nodup :=
  appendNew_nodup List.nodup_nil names

theorem mem_distinct : name ∈ distinct names ↔ name ∈ names := by
  rw [distinct, mem_appendNew]
  simp

theorem appendNew_eq_append (h : more.Nodup) :
    appendNew names more = names ++ more.filter fun name => !names.contains name := by
  induction more generalizing names with
  | nil => exact (List.append_nil names).symm
  | cons name more ih =>
      obtain ⟨hname, hmore⟩ := List.nodup_cons.mp h
      rw [appendNew, List.foldl_cons, ← appendNew]
      by_cases hn : name ∈ names
      · rw [if_pos (List.contains_iff_mem.mpr hn), ih hmore, List.filter_cons_of_neg (by simp [hn])]
      · rw [if_neg fun hc => hn (List.contains_iff_mem.mp hc), ih hmore,
          List.filter_cons_of_pos (by simp [hn]), List.append_assoc, List.singleton_append]
        congr 2
        refine List.filter_congr fun other ho => ?_
        have hne : other ≠ name := fun he => hname (he ▸ ho)
        simp [hne]

theorem appendNew_ordered (done : List String) (hmem : ∀ name, name ∈ names ↔ name ∈ done)
    (h : names.Pairwise fun a b => (done ++ more).idxOf a < (done ++ more).idxOf b) :
    (appendNew names more).Pairwise
      fun a b => (done ++ more).idxOf a < (done ++ more).idxOf b := by
  induction more generalizing names done with
  | nil => exact h
  | cons name more ih =>
      rw [appendNew, List.foldl_cons, ← appendNew]
      rw [List.append_cons] at h ⊢
      by_cases hname : name ∈ names
      · rw [if_pos (List.contains_iff_mem.mpr hname)]
        refine ih (done ++ [name]) (fun other => ?_) h
        rw [hmem, List.mem_append, List.mem_singleton]
        constructor
        · exact .inl
        · rintro (ho | rfl)
          · exact ho
          · exact (hmem other).mp hname
      · rw [if_neg fun hc => hname (List.contains_iff_mem.mp hc)]
        refine ih (done ++ [name]) (fun other => by simp [hmem])
          (List.pairwise_append.mpr ⟨h, ?_, ?_⟩)
        · exact List.pairwise_singleton _ _
        · intro a ha b hb
          obtain rfl := List.mem_singleton.mp hb
          have hold : a ∈ done := (hmem a).mp ha
          have hnew : b ∉ done := fun hd => hname ((hmem b).mpr hd)
          rw [List.append_assoc, List.idxOf_append_of_mem hold, List.idxOf_append_of_notMem hnew]
          have hlt := List.idxOf_lt_length_iff.mpr hold
          omega

theorem distinct_ordered (names : List String) :
    (distinct names).Pairwise fun a b => names.idxOf a < names.idxOf b :=
  appendNew_ordered [] (by simp) .nil

end LineTopology.Proofs.Distinct
