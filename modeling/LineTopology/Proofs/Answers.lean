namespace LineTopology.Proofs.Answers

variable {ε α β : Type}

theorem bind_ok_iff {answer : Except ε α} {next : α → Except ε β} {b : β} :
    (answer >>= next) = .ok b ↔ ∃ a, answer = .ok a ∧ next a = .ok b := by
  cases answer <;> simp [bind, Except.bind]

theorem map_ok_iff {answer : Except ε α} {f : α → β} {b : β} :
    answer.map f = .ok b ↔ ∃ a, answer = .ok a ∧ f a = b := by
  cases answer <;> simp [Except.map]

theorem mapError_ok_iff {δ : Type} {answer : Except ε α} {f : ε → δ} {a : α} :
    answer.mapError f = .ok a ↔ answer = .ok a := by
  cases answer with
  | error e => exact ⟨fun h => (nomatch h), fun h => (nomatch h)⟩
  | ok b =>
      have hok : (Except.ok b : Except ε α).mapError f = .ok b := rfl
      rw [hok, Except.ok.injEq, Except.ok.injEq]

theorem eq_map_of_mapM {ask : α → Except ε β} {f : α → β} (hf : ∀ x y, ask x = .ok y → y = f x)
    {xs : List α} {ys : List β} (h : xs.mapM ask = .ok ys) : ys = xs.map f := by
  induction xs generalizing ys with
  | nil =>
      cases h
      rfl
  | cons x xs ih =>
      rw [List.mapM_cons, bind_ok_iff] at h
      obtain ⟨y, hy, h⟩ := h
      obtain ⟨rest, hrest, h⟩ := bind_ok_iff.mp h
      cases h
      rw [List.map_cons, hf x y hy, ih hrest]

theorem exists_bind_ok_iff {answer : Except ε α} {next : α → Except ε β} :
    (∃ b, (answer >>= next) = .ok b) ↔ ∃ a, answer = .ok a ∧ ∃ b, next a = .ok b := by
  simp only [bind_ok_iff, ← exists_and_left]
  exact exists_comm

theorem exists_map_ok_iff {answer : Except ε α} {f : α → β} :
    (∃ b, answer.map f = .ok b) ↔ ∃ a, answer = .ok a := by
  cases answer <;> simp [Except.map]

theorem exists_mapM_ok_iff {ask : α → Except ε β} {xs : List α} :
    (∃ ys, xs.mapM ask = .ok ys) ↔ ∀ x ∈ xs, ∃ y, ask x = .ok y := by
  induction xs with
  | nil => simp [pure, Except.pure]
  | cons x xs ih =>
      rw [List.mapM_cons, List.forall_mem_cons, ← ih, exists_bind_ok_iff, ← exists_and_right]
      refine exists_congr fun y => and_congr_right fun _ => ?_
      rw [exists_bind_ok_iff]
      simp [pure, Except.pure]

section Checks

variable {answer : Except ε Unit} {next : Unit → Except ε Unit}

theorem then_ok_iff : (answer >>= next) = .ok () ↔ answer = .ok () ∧ next () = .ok () := by
  cases answer <;> simp [bind, Except.bind]

theorem if_ok_iff {c : Prop} [Decidable c] :
    (if c then answer else pure ()) = .ok () ↔ (c → answer = .ok ()) := by
  split
  next hc => exact ⟨fun h _ => h, fun h => h hc⟩
  next hc => exact ⟨fun _ h => absurd h hc, fun _ => rfl⟩

theorem if_then_ok_iff {c : Prop} [Decidable c] :
    (if c then answer >>= next else next ()) = .ok () ↔
      (c → answer = .ok ()) ∧ next () = .ok () := by
  split
  next hc => rw [then_ok_iff, forall_prop_of_true hc]
  next hc => exact ⟨fun h => ⟨fun hc' => absurd hc' hc, h⟩, And.right⟩

theorem forM_ok_iff {checks : List α} {check : α → Except ε Unit} :
    checks.forM check = .ok () ↔ ∀ a ∈ checks, check a = .ok () := by
  induction checks with
  | nil => simp [pure, Except.pure]
  | cons a checks ih =>
      rw [List.forall_mem_cons, ← ih]
      exact then_ok_iff

/-- The first check that fails decides, and those behind it are not made. -/
theorem forM_error_iff {checks : List α} {check : α → Except ε Unit} {e : ε} :
    checks.forM check = .error e ↔
      ∃ earlier a later, checks = earlier ++ a :: later ∧ (∀ b ∈ earlier, check b = .ok ()) ∧
        check a = .error e := by
  induction checks with
  | nil => simp [pure, Except.pure]
  | cons a checks ih =>
      have hcons : (a :: checks).forM check = check a >>= fun _ => checks.forM check := rfl
      rw [hcons]
      cases hcheck : check a with
      | error fault =>
          constructor
          · rintro ⟨⟩
            exact ⟨[], a, checks, rfl, List.forall_mem_nil _, hcheck⟩
          · rintro ⟨earlier, b, later, heq, hok, hb⟩
            cases earlier with
            | nil =>
                cases heq
                exact hcheck.symm.trans hb
            | cons c earlier =>
                cases heq
                cases hcheck.symm.trans (hok a List.mem_cons_self)
      | ok =>
          refine ih.trans ⟨?_, ?_⟩
          · rintro ⟨earlier, b, later, rfl, hok, hb⟩
            exact ⟨a :: earlier, b, later, rfl, List.forall_mem_cons.mpr ⟨hcheck, hok⟩, hb⟩
          · rintro ⟨earlier, b, later, heq, hok, hb⟩
            cases earlier with
            | nil =>
                cases heq
                cases hcheck.symm.trans hb
            | cons c earlier =>
                cases heq
                exact ⟨earlier, b, later, rfl, (List.forall_mem_cons.mp hok).2, hb⟩

end Checks

end LineTopology.Proofs.Answers
