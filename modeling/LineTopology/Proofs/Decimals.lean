import LineTopology.Text.Digits

namespace LineTopology.Proofs.Decimals

open Text

variable {n limit : Nat} {c : Char} {ds rest : List Char}

def extend (n : Nat) (ds : List Char) : Nat := ds.foldl (fun n d => 10 * n + digitValue d) n

theorem extend_decimal (n : Nat) : extend 0 (decimal n) = n := by
  have h := Nat.ofDigitChars_ten_toDigits (n := n)
  rw [Nat.ofDigitChars_eq_foldl] at h
  exact h

theorem decimalValue_decimal (n : Nat) : decimalValue (decimal n) = n := extend_decimal n

theorem decimalValue_zeros (zeros : Nat) (ds : List Char) :
    decimalValue (List.replicate zeros '0' ++ ds) = decimalValue ds := by
  induction zeros with
  | zero => rfl
  | succ zeros ih =>
      rw [List.replicate_succ, List.cons_append, ← ih]
      rfl

theorem decimal_injective {m n : Nat} (h : decimal m = decimal n) : m = n := by
  rw [← extend_decimal m, h, extend_decimal]

theorem isDigit_of_mem (h : c ∈ decimal n) : isDigit c = true :=
  Nat.isDigit_of_mem_toDigits (by decide) (by decide) h

theorem decimal_ne_nil (n : Nat) : decimal n ≠ [] := Nat.toDigits_ne_nil

theorem digitChar_ne_zero : ∀ d < 10, d ≠ 0 → Nat.digitChar d ≠ '0' := by decide

theorem head_ne_zero (hn : n ≠ 0) : (decimal n).head? ≠ some '0' := by
  induction n using Nat.strongRecOn with
  | ind n ih =>
      rw [decimal, Nat.toDigits_eq_if (by decide)]
      split
      next hlt => exact fun h => digitChar_ne_zero n hlt hn (Option.some_inj.mp h)
      next hle =>
        have hdiv : n / 10 ≠ 0 := by omega
        have hhead := ih (n / 10) (by omega) hdiv
        cases hd : Nat.toDigits 10 (n / 10) with
        | nil => exact absurd hd Nat.toDigits_ne_nil
        | cons d ds =>
            rw [decimal, hd] at hhead
            exact hhead

/-- A run of digits as a number is written: with a zero in front only if that is all. -/
def Plain (ds : List Char) : Prop :=
  ds ≠ [] ∧ (∀ d ∈ ds, isDigit d = true) ∧ (ds.head? = some '0' → ds.length = 1)

theorem decimal_plain (n : Nat) : Plain (decimal n) := by
  refine ⟨decimal_ne_nil n, fun _ => isDigit_of_mem, fun hzero => ?_⟩
  by_cases hn : n = 0
  · subst hn
    rfl
  · exact absurd hzero (head_ne_zero hn)

theorem toNat_of_isDigit (hd : isDigit c = true) :
    c.toNat = 48 + digitValue c ∧ digitValue c < 10 := by
  have hbounds : 48 ≤ c.toNat ∧ c.toNat ≤ 57 := by
    rw [isDigit, Bool.and_eq_true, decide_eq_true_eq, decide_eq_true_eq] at hd
    exact hd
  have hzero : '0'.toNat = 48 := rfl
  rw [digitValue]
  omega

theorem decimal_digitValue (hd : isDigit c = true) : decimal (digitValue c) = [c] := by
  obtain ⟨hc, hlt⟩ := toNat_of_isDigit hd
  rw [decimal, Nat.toDigits_of_lt_base hlt, List.cons.injEq, ← Char.toNat_inj,
    Nat.toNat_digitChar_of_lt_ten hlt]
  exact ⟨hc.symm, rfl⟩

theorem decimal_append (hn : 0 < n) (hds : ∀ d ∈ ds, isDigit d = true) :
    decimal n ++ ds = decimal (extend n ds) := by
  induction ds generalizing n with
  | nil => exact List.append_nil _
  | cons d ds ih =>
      obtain ⟨hd, hds⟩ := List.forall_mem_cons.mp hds
      have hnext : decimal n ++ [d] = decimal (10 * n + digitValue d) := by
        rw [← decimal_digitValue hd]
        exact Nat.toDigits_append_toDigits (by decide) hn (toNat_of_isDigit hd).2
      rw [List.append_cons, hnext, ih (by omega) hds]
      rfl

theorem decimal_decimalValue (h : Plain ds) : decimal (decimalValue ds) = ds := by
  obtain ⟨hne, hds, hzero⟩ := h
  cases ds with
  | nil => exact absurd rfl hne
  | cons d ds =>
      obtain ⟨hd, hrest⟩ := List.forall_mem_cons.mp hds
      have hvalue : decimalValue (d :: ds) = extend (digitValue d) ds := by
        rw [decimalValue, List.foldl_cons, Nat.mul_zero, Nat.zero_add]
        rfl
      by_cases hd0 : d = '0'
      · subst hd0
        have hnil : ds = [] := List.length_eq_zero_iff.mp (Nat.succ.inj (hzero rfl))
        subst hnil
        rfl
      · have hpos : 0 < digitValue d := by
          have hne : d.toNat ≠ 48 := fun h => hd0 (Char.toNat_inj.mp h)
          have hd48 := (toNat_of_isDigit hd).1
          omega
        rw [hvalue, ← decimal_append hpos hrest, decimal_digitValue hd]
        rfl

theorem decimalWithin?_eq_some_iff :
    decimalWithin? limit ds = some n ↔
      ds ≠ [] ∧ (∀ d ∈ ds, isDigit d = true) ∧ decimalValue ds = n ∧ n ≤ limit := by
  rw [decimalWithin?, Option.ite_none_right_eq_some, Option.some_inj, List.all_eq_true]
  grind

theorem takeWhile_decimal (h : ∀ x ∈ rest.head?, isDigit x = false) :
    (decimal n ++ rest).takeWhile isDigit = decimal n := by
  rw [List.takeWhile_append_of_pos fun _ => isDigit_of_mem]
  cases rest with
  | nil => exact List.append_nil _
  | cons x rest => rw [List.takeWhile_cons_of_neg (by simp [h x rfl]), List.append_nil]

theorem dropWhile_decimal (h : ∀ x ∈ rest.head?, isDigit x = false) :
    (decimal n ++ rest).dropWhile isDigit = rest := by
  rw [List.dropWhile_append_of_pos fun _ => isDigit_of_mem]
  cases rest with
  | nil => rfl
  | cons x rest => rw [List.dropWhile_cons_of_neg (by simp [h x rfl])]

theorem le_extend (n : Nat) (ds : List Char) : n ≤ extend n ds := by
  induction ds generalizing n with
  | nil => exact Nat.le_refl n
  | cons d ds ih =>
      have hd := ih (10 * n + digitValue d)
      rw [extend, List.foldl_cons]
      exact Nat.le_trans (by omega) hd

theorem absorb_of_le (h : extend n ds ≤ limit) : absorb limit n ds = (extend n ds, []) := by
  induction ds generalizing n with
  | nil => rfl
  | cons d ds ih =>
      have hd : 10 * n + digitValue d ≤ limit := Nat.le_trans (le_extend _ ds) h
      rw [absorb, if_pos hd]
      exact ih h

theorem absorb_all_iff (hn : n ≤ limit) : (absorb limit n ds).2 = [] ↔ extend n ds ≤ limit := by
  refine ⟨fun h => ?_, fun h => by rw [absorb_of_le h]⟩
  induction ds generalizing n with
  | nil => exact hn
  | cons d ds ih =>
      rw [absorb] at h
      split at h
      next hd => exact ih hd h
      next => cases h

theorem absorb_decimal (h : n ≤ limit) : absorb limit 0 (decimal n) = (n, []) := by
  have hle : extend 0 (decimal n) ≤ limit := by rwa [extend_decimal]
  rw [absorb_of_le hle, extend_decimal]

theorem absorb_le (hn : n ≤ limit) (ds : List Char) : (absorb limit n ds).1 ≤ limit := by
  induction ds generalizing n with
  | nil => exact hn
  | cons d ds ih =>
      rw [absorb]
      split
      next hd => exact ih hd
      next => exact hn

end LineTopology.Proofs.Decimals
