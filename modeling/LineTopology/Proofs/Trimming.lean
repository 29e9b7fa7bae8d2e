import LineTopology.Text.Blank
import Mathlib.Data.List.DropRight

namespace LineTopology.Proofs.Trimming

open Text

variable {s : String} {cs : List Char}

def Trimmed (s : String) : Prop :=
  (∀ c ∈ s.toList.head?, isWhite c = false) ∧ ∀ c ∈ s.toList.getLast?, isWhite c = false

theorem toList_trim (s : String) :
    (trim s).toList = (s.toList.dropWhile isWhite).rdropWhile isWhite := String.toList_ofList

theorem trimStart_eq_self_iff :
    cs.dropWhile isWhite = cs ↔ ∀ c ∈ cs.head?, isWhite c = false := by
  cases cs with
  | nil => simp
  | cons c cs => simp [List.dropWhile_eq_self_iff]

theorem trimEnd_eq_self_iff :
    cs.rdropWhile isWhite = cs ↔ ∀ c ∈ cs.getLast?, isWhite c = false := by
  rw [← List.head?_reverse, ← trimStart_eq_self_iff, List.rdropWhile, List.reverse_eq_iff]

theorem trim_eq_self_iff : trim s = s ↔ Trimmed s := by
  rw [← String.toList_inj, toList_trim, Trimmed, ← trimStart_eq_self_iff, ← trimEnd_eq_self_iff]
  constructor
  · intro h
    have hpre : s.toList <+: s.toList.dropWhile isWhite := by
      have hprefix := List.rdropWhile_prefix isWhite (s.toList.dropWhile isWhite)
      rwa [h] at hprefix
    have hstart : s.toList.dropWhile isWhite = s.toList :=
      (List.dropWhile_suffix isWhite).sublist.antisymm hpre.sublist
    rw [hstart] at h
    exact ⟨hstart, h⟩
  · rintro ⟨hstart, hend⟩
    rw [hstart, hend]

instance (s : String) : Decidable (Trimmed s) := decidable_of_iff _ trim_eq_self_iff

theorem trim_eq_empty_iff : trim s = "" ↔ isBlank s = true := by
  rw [← String.toList_inj, toList_trim, String.toList_empty, List.rdropWhile_eq_nil_iff, isBlank,
    List.all_eq_true]
  constructor
  · intro h
    -- A first character that stays is no white space.
    rw [← List.dropWhile_eq_nil_iff]
    cases hd : s.toList.dropWhile isWhite with
    | nil => rfl
    | cons c cs =>
        have hwhite := h c (by rw [hd]; exact List.mem_cons_self)
        have hkept := List.head?_dropWhile_not isWhite s.toList
        simp [hd, hwhite] at hkept
  · intro h c hc
    exact h c ((List.dropWhile_suffix isWhite).subset hc)

theorem trimmed_of_no_white (h : ∀ c ∈ cs, isWhite c = false) : Trimmed (String.ofList cs) := by
  rw [Trimmed, String.toList_ofList]
  exact ⟨fun c hc => h c (List.mem_of_mem_head? hc), fun c hc => h c (List.mem_of_mem_getLast? hc)⟩

theorem trim_padded {before behind : List Char} (hb : ∀ c ∈ before, isWhite c = true)
    (hs : Trimmed s) (hne : s ≠ "") (hb' : ∀ c ∈ behind, isWhite c = true) :
    trim (String.ofList (before ++ (s.toList ++ behind))) = s := by
  obtain ⟨hstart, hend⟩ := hs
  obtain ⟨c, rest, hc⟩ := List.exists_cons_of_ne_nil (mt String.toList_eq_nil_iff.mp hne)
  have hkept : (s.toList ++ behind).dropWhile isWhite = s.toList ++ behind := by
    rw [trimStart_eq_self_iff]
    rw [hc] at hstart ⊢
    exact hstart
  have hcut : (s.toList ++ behind).rdropWhile isWhite = s.toList.rdropWhile isWhite := by
    rw [List.rdropWhile, List.reverse_append, List.dropWhile_append_of_pos, List.rdropWhile]
    exact fun x hx => hb' x (List.mem_reverse.mp hx)
  rw [← String.toList_inj, toList_trim, String.toList_ofList, List.dropWhile_append_of_pos hb,
    hkept, hcut]
  exact trimEnd_eq_self_iff.mpr hend

end LineTopology.Proofs.Trimming
