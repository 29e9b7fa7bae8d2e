import LineTopology.Proofs.Numerals

namespace LineTopology.Proofs.Quotations

open Text Json Grammar Numerals

variable {a b c d x : Char} {n used : Nat} {lead : Option Nat} {rest cs xs acc : List Char}

theorem unit?_eq_some (h : unit? a b c d = some n) :
    ∃ i j k l, hexValue? a = some i ∧ hexValue? b = some j ∧ hexValue? c = some k ∧
      hexValue? d = some l ∧ 16 * (16 * (16 * i + j) + k) + l = n := by
  obtain ⟨i, hi, h⟩ := Option.bind_eq_some_iff.mp h
  obtain ⟨j, hj, h⟩ := Option.bind_eq_some_iff.mp h
  obtain ⟨k, hk, h⟩ := Option.bind_eq_some_iff.mp h
  obtain ⟨l, hl, h⟩ := Option.bind_eq_some_iff.mp h
  exact ⟨i, j, k, l, hi, hj, hk, hl, Option.some_inj.mp h⟩

theorem read_unit (h : unit? a b c d = some n) :
    Quotation.read (.hex 0 0 lead) acc (a :: b :: c :: d :: rest) used =
      match lead with
      | none =>
          if Quotation.isTrail n then .error ⟨.loneSurrogate, used + 1 + 1 + 1 + 1⟩
          else if Quotation.isLead n then
            Quotation.read (.secondEscape n) acc rest (used + 1 + 1 + 1 + 1)
          else Quotation.read .plain (Char.ofNat n :: acc) rest (used + 1 + 1 + 1 + 1)
      | some l =>
          if Quotation.isTrail n then
            Quotation.read .plain (Quotation.paired l n :: acc) rest (used + 1 + 1 + 1 + 1)
          else .error ⟨.loneSurrogate, used + 1 + 1 + 1 + 1⟩ := by
  obtain ⟨i, j, k, l, hi, hj, hk, hl, rfl⟩ := unit?_eq_some h
  cases lead <;> simp only [Quotation.read, hi, hj, hk, hl, Nat.reduceAdd, Nat.reduceLT, if_true,
    if_false, Nat.zero_add, Nat.mul_zero, Nat.lt_irrefl]

theorem read_mark :
    Quotation.read .plain acc ('\\' :: 'u' :: rest) used =
      Quotation.read (.hex 0 0 none) acc rest (used + 1 + 1) := by
  have hquote : ('\\' : Char) ≠ '"' := by decide
  rw [Quotation.read, if_neg hquote, if_pos rfl, Quotation.read, if_pos rfl]

theorem read_secondMark {l : Nat} :
    Quotation.read (.secondEscape l) acc ('\\' :: 'u' :: rest) used =
      Quotation.read (.hex 0 0 (some l)) acc rest (used + 1 + 1) := by
  rw [Quotation.read, if_pos rfl, Quotation.read, if_pos rfl]

theorem read_plain (h : isPlain x = true) :
    Quotation.read .plain acc (x :: rest) used =
      Quotation.read .plain (x :: acc) rest (used + x.utf8Size) := by
  simp only [isPlain, Bool.and_eq_true, decide_eq_true_eq] at h
  rw [Quotation.read, if_neg h.1.1, if_neg h.1.2, if_neg (Nat.not_lt.mpr h.2)]

theorem escape_ne_mark {y : Char} (h : Quotation.simpleEscape? x = some y) : x ≠ 'u' := by
  rintro rfl
  have hnone : Quotation.simpleEscape? 'u' = none := rfl
  rw [hnone] at h
  cases h

theorem read_spells (h : Spells cs xs) (acc rest : List Char) (used : Nat) :
    ∃ used', Quotation.read .plain acc (cs ++ '"' :: rest) used =
      .ok (String.ofList (acc.reverse ++ xs), ⟨rest, used'⟩) := by
  induction h generalizing acc used with
  | nil => exact ⟨used + 1, by simp [Quotation.read]⟩
  | @plain c cs xs hc _ ih =>
      obtain ⟨used', hrest⟩ := ih (c :: acc) (used + c.utf8Size)
      exact ⟨used', by rw [List.cons_append, read_plain hc, hrest]; simp⟩
  | @escape c x cs xs hc _ ih =>
      obtain ⟨used', hrest⟩ := ih (x :: acc) (used + 1 + 1)
      exact ⟨used', by
        rw [List.cons_append, List.cons_append, Tokens.read_simple (escape_ne_mark hc) hc, hrest]
        simp⟩
  | @unit a b c d n cs xs hn hlead htrail _ ih =>
      obtain ⟨used', hrest⟩ := ih (Char.ofNat n :: acc) (used + 1 + 1 + 1 + 1 + 1 + 1)
      refine ⟨used', ?_⟩
      simp only [List.cons_append, read_mark, read_unit hn, hlead, htrail, Bool.false_eq_true,
        if_false, hrest]
      simp
  | @pair a b c d a' b' c' d' l t cs xs hl hlead ht htrail _ ih =>
      obtain ⟨used', hrest⟩ := ih (Quotation.paired l t :: acc)
        (used + 1 + 1 + 1 + 1 + 1 + 1 + 1 + 1 + 1 + 1 + 1 + 1)
      refine ⟨used', ?_⟩
      have hnone : Quotation.isTrail l = false := by
        simp only [Quotation.isLead, Quotation.isTrail, Bool.and_eq_true, decide_eq_true_eq,
          Bool.and_eq_false_iff, decide_eq_false_iff_not] at hlead ⊢
        omega
      simp only [List.cons_append, read_mark, read_unit hl, hnone, hlead, Bool.false_eq_true,
        if_false, if_true, read_secondMark, read_unit ht, htrail, hrest]
      simp

theorem secondEscape_broken (hx : x ≠ '\\') (l : Nat) (acc rest : List Char) (used : Nat) :
    ∃ fault, Quotation.read (.secondEscape l) acc (x :: rest) used = .error fault :=
  ⟨_, by rw [Quotation.read, if_neg hx]⟩

theorem secondMark_broken (hx : x ≠ 'u') (l : Nat) (acc rest : List Char) (used : Nat) :
    ∃ fault, Quotation.read (.secondEscape l) acc ('\\' :: x :: rest) used = .error fault :=
  ⟨_, by rw [Quotation.read, if_pos rfl, Quotation.read, if_neg hx]⟩

/-- Whether letters between quotes write a text, and which, does not depend on what is around
them. -/
theorem read_fixed (h : Quotable cs) :
    (∀ acc, ∃ o, ∀ rest used,
      Leaves (Quotation.read .plain acc (cs ++ '"' :: rest) used) rest o) ∧
    ∀ l acc, ∃ o, ∀ rest used,
      Leaves (Quotation.read (.secondEscape l) acc (cs ++ '"' :: rest) used) rest o := by
  induction h with
  | nil =>
      refine ⟨fun acc => ⟨some (String.ofList acc.reverse), fun rest used => ⟨used + 1, ?_⟩⟩,
        fun l acc => ⟨none, fun rest used => secondEscape_broken (by decide) l acc rest used⟩⟩
      simp [Quotation.read]
  | @plain c cs hc _ ih =>
      refine ⟨fun acc => ?_, fun l acc => ⟨none, fun rest used =>
        secondEscape_broken ?_ l acc _ used⟩⟩
      · obtain ⟨o, ho⟩ := ih.1 (c :: acc)
        exact ⟨o, fun rest used => by rw [List.cons_append, read_plain hc]; exact ho rest _⟩
      · rintro rfl
        exact absurd hc (by decide)
  | @escape c x cs hc _ ih =>
      refine ⟨fun acc => ?_, fun l acc => ⟨none, fun rest used =>
        secondMark_broken (escape_ne_mark hc) l acc _ used⟩⟩
      obtain ⟨o, ho⟩ := ih.1 (x :: acc)
      refine ⟨o, fun rest used => ?_⟩
      rw [List.cons_append, List.cons_append, Tokens.read_simple (escape_ne_mark hc) hc]
      exact ho rest _
  | @unit a b c d n cs hn _ ih =>
      refine ⟨fun acc => ?_, fun l acc => ?_⟩
      · by_cases htrail : Quotation.isTrail n = true
        · exact ⟨none, fun rest used => ⟨_, by
            simp only [List.cons_append, read_mark, read_unit hn, htrail, if_true]
            rfl⟩⟩
        · by_cases hlead : Quotation.isLead n = true
          · obtain ⟨o, ho⟩ := ih.2 n acc
            refine ⟨o, fun rest used => ?_⟩
            simp only [List.cons_append, read_mark, read_unit hn, htrail, hlead,
              Bool.false_eq_true, if_false, if_true]
            exact ho rest _
          · obtain ⟨o, ho⟩ := ih.1 (Char.ofNat n :: acc)
            refine ⟨o, fun rest used => ?_⟩
            simp only [List.cons_append, read_mark, read_unit hn, htrail, hlead,
              Bool.false_eq_true, if_false]
            exact ho rest _
      · by_cases htrail : Quotation.isTrail n = true
        · obtain ⟨o, ho⟩ := ih.1 (Quotation.paired l n :: acc)
          refine ⟨o, fun rest used => ?_⟩
          simp only [List.cons_append, read_secondMark, read_unit hn, htrail, if_true]
          exact ho rest _
        · exact ⟨none, fun rest used => ⟨_, by
            simp only [List.cons_append, read_secondMark, read_unit hn, htrail,
              Bool.false_eq_true, if_false]
            rfl⟩⟩

def spelled? (cs : List Char) : Option String :=
  (quotation ⟨cs ++ ['"'], 0⟩).toOption.map (·.1)

theorem quotation_leaves (h : Quotable cs) (rest : List Char) (used : Nat) :
    Leaves (quotation ⟨cs ++ '"' :: rest, used⟩) rest (spelled? cs) := by
  obtain ⟨o, ho⟩ := (read_fixed h).1 []
  have hspelled : spelled? cs = o := (ho [] 0).toOption
  rw [hspelled]
  exact ho rest used

theorem spelled?_of_spells (h : Spells cs xs) : spelled? cs = some (String.ofList xs) := by
  obtain ⟨used', hread⟩ := read_spells h [] [] 0
  rw [spelled?, quotation, hread]
  rfl

theorem skip_plain (h : isPlain x = true) :
    Quotation.skip .plain (x :: rest) used = Quotation.skip .plain rest (used + x.utf8Size) := by
  simp only [isPlain, Bool.and_eq_true, decide_eq_true_eq] at h
  rw [Quotation.skip, if_neg h.1.1, if_neg h.1.2, if_neg (Nat.not_lt.mpr h.2)]

theorem skip_escape {y : Char} (h : Quotation.simpleEscape? x = some y) :
    Quotation.skip .plain ('\\' :: x :: rest) used = Quotation.skip .plain rest (used + 1 + 1) := by
  have hquote : ('\\' : Char) ≠ '"' := by decide
  simp [Quotation.skip, hquote, escape_ne_mark h, h]

theorem skip_unit (h : unit? a b c d = some n) :
    Quotation.skip .plain ('\\' :: 'u' :: a :: b :: c :: d :: rest) used =
      Quotation.skip .plain rest (used + 1 + 1 + 1 + 1 + 1 + 1) := by
  obtain ⟨i, j, k, l, hi, hj, hk, hl, _⟩ := unit?_eq_some h
  have hquote : ('\\' : Char) ≠ '"' := by decide
  simp [Quotation.skip, hquote, hi, hj, hk, hl]

theorem skipQuotation_passes (h : Quotable cs) (rest : List Char) (used : Nat) :
    ∃ used', skipQuotation ⟨cs ++ '"' :: rest, used⟩ = .ok ⟨rest, used'⟩ := by
  change ∃ used', Quotation.skip .plain (cs ++ '"' :: rest) used = .ok ⟨rest, used'⟩
  induction h generalizing used with
  | nil => exact ⟨used + 1, by simp [Quotation.skip]⟩
  | plain hc _ ih =>
      obtain ⟨used', hrest⟩ := ih _
      exact ⟨used', by rw [List.cons_append, skip_plain hc, hrest]⟩
  | escape hc _ ih =>
      obtain ⟨used', hrest⟩ := ih _
      exact ⟨used', by rw [List.cons_append, List.cons_append, skip_escape hc, hrest]⟩
  | unit hn _ ih =>
      obtain ⟨used', hrest⟩ := ih (used + 1 + 1 + 1 + 1 + 1 + 1)
      exact ⟨used', by simp only [List.cons_append, skip_unit hn, hrest]⟩

end LineTopology.Proofs.Quotations
