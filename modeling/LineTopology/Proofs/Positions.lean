namespace LineTopology.Proofs.Positions

variable {α β : Type}

theorem zipIdx_ascending (xs : List α) : xs.zipIdx.Pairwise fun a b => a.2 < b.2 := by
  rw [← List.pairwise_map (f := Prod.snd) (R := (· < ·)), List.zipIdx_map_snd]
  exact List.pairwise_lt_range'

section OnePosition

variable {f : α × Nat → Option β} {p : β → Bool} {k i : Nat}

/-- Of what the elements give, what is found at one position is what the element there gives. -/
theorem filter_filterMap_zipIdx {xs : List α}
    (h : ∀ x j y, f (x, j) = some y → (p y = true ↔ j = k + i)) :
    ((xs.zipIdx k).filterMap f).filter p = (xs[i]?.bind fun x => f (x, k + i)).toList := by
  induction xs generalizing k i with
  | nil => rfl
  | cons x xs ih =>
      have hsplit : ((x :: xs).zipIdx k).filterMap f =
          (f (x, k)).toList ++ (xs.zipIdx (k + 1)).filterMap f := by
        rw [List.zipIdx_cons, List.filterMap_cons]
        cases f (x, k) <;> rfl
      rw [hsplit, List.filter_append]
      cases i with
      | zero =>
          have hhead : (f (x, k)).toList.filter p = (f (x, k)).toList :=
            List.filter_eq_self.mpr fun y hy => (h x k y (Option.mem_toList.mp hy)).mpr rfl
          have htail : ((xs.zipIdx (k + 1)).filterMap f).filter p = [] := by
            refine List.filter_eq_nil_iff.mpr fun y hy hpy => ?_
            obtain ⟨⟨z, j⟩, hz, hfz⟩ := List.mem_filterMap.mp hy
            have hj := List.le_snd_of_mem_zipIdx hz
            have hk := (h z j y hfz).mp hpy
            omega
          rw [hhead, htail, List.append_nil]
          rfl
      | succ i =>
          have hhead : (f (x, k)).toList.filter p = [] := by
            refine List.filter_eq_nil_iff.mpr fun y hy hpy => ?_
            have hk := (h x k y (Option.mem_toList.mp hy)).mp hpy
            omega
          have hshift : k + (i + 1) = k + 1 + i := by omega
          rw [hshift] at h ⊢
          rw [hhead, List.nil_append, ih h, List.getElem?_cons_succ]

end OnePosition

section Order

variable {holds other : Nat → α → Prop} {items : List α} {R : α → α → Prop}

/-- The items are all that the positions hold, in the order of the positions. -/
def InOrder (holds : Nat → α → Prop) (items : List α) : Prop :=
  ∃ marked : List (α × Nat), marked.Pairwise (fun a b => a.2 < b.2) ∧
    (∀ item position, (item, position) ∈ marked ↔ holds position item) ∧
    marked.map Prod.fst = items

theorem InOrder.congr (h : InOrder holds items)
    (hiff : ∀ position item, holds position item ↔ other position item) :
    InOrder other items := by
  obtain ⟨marked, hascending, hmem, rfl⟩ := h
  exact ⟨marked, hascending, fun item position => (hmem item position).trans (hiff _ _), rfl⟩

theorem inOrder_getElem (xs : List α) : InOrder (fun position x => xs[position]? = some x) xs :=
  ⟨xs.zipIdx, zipIdx_ascending xs, fun _ _ => List.mem_zipIdx_iff_getElem?, List.zipIdx_map_fst ..⟩

theorem InOrder.filterMap (h : InOrder holds items) (f : α → Option β) :
    InOrder (fun position item => ∃ x, holds position x ∧ f x = some item)
      (items.filterMap f) := by
  obtain ⟨marked, hascending, hmem, rfl⟩ := h
  refine ⟨marked.filterMap fun entry => (f entry.1).map (·, entry.2), ?_, ?_, ?_⟩
  · refine hascending.filterMap _ ?_
    intro a b hab first ha second hb
    obtain ⟨_, _, rfl⟩ := Option.map_eq_some_iff.mp ha
    obtain ⟨_, _, rfl⟩ := Option.map_eq_some_iff.mp hb
    exact hab
  · intro item position
    simp only [List.mem_filterMap, Prod.exists, Option.map_eq_some_iff, Prod.mk.injEq]
    constructor
    · rintro ⟨x, _, hx, _, hf, rfl, rfl⟩
      exact ⟨x, (hmem _ _).mp hx, hf⟩
    · rintro ⟨x, hx, hf⟩
      exact ⟨x, position, (hmem _ _).mpr hx, item, hf, rfl, rfl⟩
  · rw [List.map_filterMap, List.filterMap_map]
    congr 1
    funext entry
    cases h : f entry.1 <;> simp [h]

theorem InOrder.filter (h : InOrder holds items) (p : α → Bool) :
    InOrder (fun position item => holds position item ∧ p item = true) (items.filter p) := by
  rw [← List.filterMap_eq_filter]
  apply (h.filterMap _).congr
  simp [Option.guard]

theorem inOrder_filterMap (f : α → Option β) (xs : List α) :
    InOrder (fun position item => ∃ x, xs[position]? = some x ∧ f x = some item)
      (xs.filterMap f) :=
  (inOrder_getElem xs).filterMap f

theorem InOrder.mem_iff (h : InOrder holds items) {item : α} :
    item ∈ items ↔ ∃ position, holds position item := by
  obtain ⟨marked, _, hmem, rfl⟩ := h
  simp only [List.mem_map, Prod.exists, ← hmem]
  grind

theorem InOrder.pairwise (h : InOrder holds items)
    (hR : ∀ i j a b, i < j → holds i a → holds j b → R a b) : items.Pairwise R := by
  obtain ⟨marked, hascending, hmem, rfl⟩ := h
  rw [List.pairwise_map]
  refine hascending.imp_of_mem ?_
  intro a b ha hb hab
  exact hR _ _ _ _ hab ((hmem _ _).mp ha) ((hmem _ _).mp hb)

end Order

section Appended

theorem flatMap_zipIdx_append {f : α × Nat → List β} {raise : β → β} {xs : List α}
    (h : ∀ x j, f (x, xs.length + j) = (f (x, j)).map raise) (ys : List α) :
    (xs ++ ys).zipIdx.flatMap f = xs.zipIdx.flatMap f ++ (ys.zipIdx.flatMap f).map raise := by
  rw [List.zipIdx_append, List.flatMap_append, Nat.zero_add,
    List.zipIdx_eq_map_add (l := ys) (i := xs.length), List.flatMap_map, List.map_flatMap]
  congr 2
  funext entry
  exact h entry.1 entry.2

end Appended

end LineTopology.Proofs.Positions
