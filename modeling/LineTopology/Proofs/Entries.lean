import LineTopology.Dictionary
import Mathlib.Data.String.Basic

namespace LineTopology.Proofs.Entries

open Dictionary

variable {α : Type} {key k : String} {value : α} {entries : List (String × α)}

theorem keys_cons (entry : String × α) (entries : List (String × α)) :
    keys (entry :: entries) = entry.1 :: keys entries := rfl

theorem mem_keys_insert : k ∈ keys (insert key value entries) ↔ k = key ∨ k ∈ keys entries := by
  induction entries with
  | nil => simp [Dictionary.insert, keys]
  | cons entry entries ih =>
      rw [Dictionary.insert]
      split
      next => simp only [keys_cons, List.mem_cons]
      next =>
        split
        next he => simp only [keys_cons, List.mem_cons, he, or_self_left]
        next => simp only [keys_cons, List.mem_cons, ih, or_left_comm]

theorem find?_isSome_iff : (find? key entries).isSome = true ↔ key ∈ keys entries := by
  induction entries with
  | nil => simp [find?, keys]
  | cons entry entries ih =>
      rw [find?, Option.isSome_or, Bool.or_eq_true, ih, keys_cons, List.mem_cons, or_comm]
      by_cases he : entry.1 = key
      · simp [he]
      · simp [he, Ne.symm he]

theorem mem_insert {entry : String × α} (h : entry ∈ insert key value entries) :
    entry = (key, value) ∨ entry ∈ entries := by
  induction entries with
  | nil => exact .inl (List.mem_singleton.mp h)
  | cons head entries ih =>
      rw [Dictionary.insert] at h
      split at h
      next => exact List.mem_cons.mp h
      next =>
        split at h
        next => exact (List.mem_cons.mp h).imp_right (List.mem_cons_of_mem _)
        next =>
          rcases List.mem_cons.mp h with rfl | h
          · exact .inr List.mem_cons_self
          · exact (ih h).imp_right (List.mem_cons_of_mem _)

theorem ascending_insert (h : Ascending entries) : Ascending (insert key value entries) := by
  induction entries with
  | nil => exact List.pairwise_singleton _ _
  | cons head entries ih =>
      obtain ⟨hhead, htail⟩ := List.pairwise_cons.mp h
      rw [Dictionary.insert]
      split
      next hlt =>
        refine List.pairwise_cons.mpr ⟨fun entry he => ?_, h⟩
        rcases List.mem_cons.mp he with rfl | he
        · exact hlt
        · exact String.lt_trans hlt (hhead entry he)
      next hle =>
        split
        next heq => exact List.pairwise_cons.mpr ⟨fun entry he => heq ▸ hhead entry he, htail⟩
        next hne =>
          have hlt : head.1 < key := lt_of_le_of_ne (not_lt.mp hle) (Ne.symm hne)
          refine List.pairwise_cons.mpr ⟨fun entry he => ?_, ih htail⟩
          rcases mem_insert he with rfl | he
          · exact hlt
          · exact hhead entry he

theorem ascending_ofList (entries : List (String × α)) : Ascending (ofList entries) := by
  have hfold (start : List (String × α)) (hstart : Ascending start) :
      Ascending (entries.foldl (fun d entry => insert entry.1 entry.2 d) start) := by
    induction entries generalizing start with
    | nil => exact hstart
    | cons entry entries ih => exact ih _ (ascending_insert hstart)
  exact hfold [] .nil

theorem insert_of_lt (h : ∀ entry ∈ entries, entry.1 < key) :
    insert key value entries = entries ++ [(key, value)] := by
  induction entries with
  | nil => rfl
  | cons head entries ih =>
      obtain ⟨hhead, htail⟩ := List.forall_mem_cons.mp h
      rw [Dictionary.insert, if_neg (String.lt_asymm hhead), if_neg (ne_of_gt hhead), ih htail]
      rfl

theorem find?_cons (entry : String × α) (entries : List (String × α)) :
    find? key (entry :: entries) =
      (find? key entries).or (if entry.1 = key then some entry.2 else none) := rfl

theorem find?_eq_none_iff : find? key entries = none ↔ key ∉ keys entries := by
  rw [← find?_isSome_iff, Option.not_isSome_iff_eq_none]

theorem find?_append (xs ys : List (String × α)) :
    find? key (xs ++ ys) = (find? key ys).or (find? key xs) := by
  induction xs with
  | nil => simp [find?]
  | cons entry xs ih => rw [List.cons_append, find?_cons, ih, find?_cons, Option.or_assoc]

theorem find?_insert (h : Ascending entries) :
    find? k (insert key value entries) = if key = k then some value else find? k entries := by
  have hcons (entries : List (String × α)) (hkey : key ∉ keys entries) :
      find? k ((key, value) :: entries) = if key = k then some value else find? k entries := by
    rw [find?_cons]
    by_cases hk : key = k
    · subst hk
      simp [find?_eq_none_iff.mpr hkey]
    · simp [hk]
  induction entries with
  | nil => simp [Dictionary.insert, find?]
  | cons head entries ih =>
      obtain ⟨hhead, htail⟩ := List.pairwise_cons.mp h
      have hnot (hle : key ≤ head.1) : key ∉ keys entries := by
        intro hmem
        obtain ⟨entry, he, rfl⟩ := List.mem_map.mp hmem
        exact absurd (hhead entry he) (not_lt.mpr hle)
      rw [Dictionary.insert]
      split
      next hlt =>
        refine hcons _ fun hmem => ?_
        rcases List.mem_cons.mp hmem with heq | hmem
        · exact absurd heq (ne_of_lt hlt)
        · exact hnot (le_of_lt hlt) hmem
      next =>
        split
        next heq =>
          rw [hcons _ (hnot (le_of_eq heq)), find?_cons, ← heq]
          by_cases hk : key = k <;> simp [hk]
        next hne =>
          rw [find?_cons, ih htail, find?_cons]
          by_cases hk : key = k <;> simp [hk]

theorem find?_ofList : find? k (ofList entries) = find? k entries := by
  have hfold (start : List (String × α)) (hstart : Ascending start) :
      find? k (entries.foldl (fun d entry => insert entry.1 entry.2 d) start) =
        (find? k entries).or (find? k start) := by
    induction entries generalizing start with
    | nil => simp [find?]
    | cons entry entries ih =>
        rw [List.foldl_cons, ih _ (ascending_insert hstart), find?_insert hstart, find?_cons,
          Option.or_assoc]
        split <;> simp
  rw [ofList, hfold [] .nil]
  simp [find?]

theorem find?_behind {entry : String × α} (h : Ascending (entry :: entries)) :
    find? entry.1 entries = none := by
  refine find?_eq_none_iff.mpr fun hmem => ?_
  obtain ⟨other, ho, hkey⟩ := List.mem_map.mp hmem
  exact absurd hkey (ne_of_gt ((List.pairwise_cons.mp h).1 other ho))

theorem nodup_keys (h : Ascending entries) : (keys entries).Nodup :=
  List.pairwise_map.mpr (h.imp ne_of_lt)

theorem find?_eq_some_iff (h : (keys entries).Nodup) :
    find? key entries = some value ↔ (key, value) ∈ entries := by
  induction entries with
  | nil => simp [find?]
  | cons head entries ih =>
      obtain ⟨hhead, htail⟩ := List.nodup_cons.mp h
      rw [find?_cons, List.mem_cons, ← ih htail, Prod.ext_iff]
      by_cases hk : head.1 = key
      · have hother : find? key entries = none := find?_eq_none_iff.mpr (hk ▸ hhead)
        simp [hk, hother, eq_comm]
      · simp [hk, Ne.symm hk]

theorem mem_ofList_iff : (key, value) ∈ ofList entries ↔ find? key entries = some value := by
  rw [← find?_eq_some_iff (nodup_keys (ascending_ofList entries)), find?_ofList]

theorem mem_ofList_of_nodup {entry : String × α} (h : (keys entries).Nodup)
    (hmem : entry ∈ entries) : entry ∈ ofList entries :=
  mem_ofList_iff.mpr ((find?_eq_some_iff h).mpr hmem)

theorem mem_keys_ofList : k ∈ keys (ofList entries) ↔ k ∈ keys entries := by
  rw [← find?_isSome_iff, find?_ofList, find?_isSome_iff]

section Values

variable {β : Type}

theorem insert_map (f : α → β) (key : String) (x : α) (entries : List (String × α)) :
    insert key (f x) (entries.map fun e => (e.1, f e.2)) =
      (insert key x entries).map fun e => (e.1, f e.2) := by
  induction entries with
  | nil => rfl
  | cons entry entries ih =>
      rw [List.map_cons, Dictionary.insert, Dictionary.insert, ih]
      split
      next => rfl
      next => split <;> rfl

theorem ofList_map (f : α → β) (entries : List (String × α)) :
    ofList (entries.map fun e => (e.1, f e.2)) = (ofList entries).map fun e => (e.1, f e.2) := by
  have hfold (start : List (String × α)) :
      (entries.map fun e => (e.1, f e.2)).foldl (fun d e => insert e.1 e.2 d)
          (start.map fun e => (e.1, f e.2)) =
        (entries.foldl (fun d e => insert e.1 e.2 d) start).map fun e => (e.1, f e.2) := by
    induction entries generalizing start with
    | nil => rfl
    | cons entry entries ih =>
        rw [List.map_cons, List.foldl_cons, List.foldl_cons, ← ih, ← insert_map]
  exact hfold []

end Values

end LineTopology.Proofs.Entries
