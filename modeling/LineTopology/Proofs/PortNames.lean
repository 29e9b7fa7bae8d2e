import LineTopology.Ports
import LineTopology.Proofs.Decimals

namespace LineTopology.Proofs.PortNames

open Text Ports Decimals

def portName (stem : String) (i : Nat) : String := stem ++ "-" ++ String.ofList (decimal i)

variable {stem handle : String} {ds rest : List Char} {i count : Nat}

section Reading

theorem index?_eq_some_iff : index? ds = some i ↔ Plain ds ∧ decimalValue ds = i ∧ i ≤ limit := by
  rw [index?, Plain]
  by_cases hzero : ds.head? = some '0' ∧ ds.length ≠ 1
  · rw [if_pos hzero]
    grind
  · rw [if_neg hzero, decimalWithin?_eq_some_iff]
    grind

theorem index?_eq_some_iff_decimal : index? ds = some i ↔ ds = decimal i ∧ i ≤ limit := by
  rw [index?_eq_some_iff]
  constructor
  · rintro ⟨hplain, rfl, hi⟩
    exact ⟨(decimal_decimalValue hplain).symm, hi⟩
  · rintro ⟨rfl, hi⟩
    exact ⟨decimal_plain i, decimalValue_decimal i, hi⟩

theorem behind?_eq_some_iff {cs stem : List Char} :
    behind? stem cs = some rest ↔ cs = stem ++ '-' :: rest := by
  induction stem generalizing cs with
  | nil =>
      cases cs with
      | nil => simp [behind?]
      | cons c cs =>
          by_cases hc : c = '-'
          · subst hc
            simp [behind?]
          · simp [behind?, hc]
  | cons s stem ih =>
      cases cs with
      | nil => simp [behind?]
      | cons c cs =>
          rw [behind?]
          split
          next he => rw [ih, he, List.cons_append, List.cons.injEq, and_iff_right rfl]
          next hne => simp [Ne.symm hne]

theorem toList_portName : (portName stem i).toList = stem.toList ++ '-' :: decimal i := by
  simp [portName]

theorem portNumber?_eq_some_iff :
    portNumber? stem handle = some i ↔ handle = portName stem i ∧ i ≤ limit := by
  rw [portNumber?, Option.bind_eq_some_iff, ← String.toList_inj, toList_portName]
  simp only [behind?_eq_some_iff, index?_eq_some_iff_decimal]
  grind

end Reading

theorem portName_injective (stem : String) : Function.Injective (portName stem) := by
  intro i j h
  have hnames := congrArg String.toList h
  rw [toList_portName, toList_portName, List.append_cancel_left_eq, List.cons.injEq] at hnames
  exact decimal_injective hnames.2

theorem contains_indexed_iff (hc : count ≤ limit) :
    (Ports.indexed stem count).contains handle = true ↔ ∃ i < count, handle = portName stem i := by
  rw [Ports.contains, Option.any_eq_true]
  simp only [portNumber?_eq_some_iff, decide_eq_true_eq]
  grind

theorem portNumber?_injective {other : String} (h : portNumber? stem handle = some i)
    (ho : portNumber? stem other = some i) : handle = other :=
  (portNumber?_eq_some_iff.mp h).1.trans (portNumber?_eq_some_iff.mp ho).1.symm

/-- A run of digits behind the stem is judged by the number that it writes, however long it is. -/
theorem contains_digits_iff (hc : count ≤ limit) :
    (Ports.indexed stem count).contains (stem ++ "-" ++ String.ofList ds) = true ↔
      Plain ds ∧ decimalValue ds < count := by
  have hname (i : Nat) : stem ++ "-" ++ String.ofList ds = portName stem i ↔ ds = decimal i := by
    simp [← String.toList_inj, portName]
  simp only [contains_indexed_iff hc, hname]
  constructor
  · rintro ⟨i, hi, rfl⟩
    refine ⟨decimal_plain i, ?_⟩
    rwa [decimalValue_decimal]
  · rintro ⟨hplain, hlt⟩
    exact ⟨decimalValue ds, hlt, (decimal_decimalValue hplain).symm⟩

theorem portName_in_ne_out (i j : Nat) : portName "in" i ≠ portName "out" j := by
  intro h
  have hfirst := congrArg (fun name => name.toList.head?) h
  simp [portName] at hfirst

/-- The ports of a numbered side answer to their canonical names and to nothing else. A name
belongs to one port, and a port has one name; the names of the other side are refused, and a run of
digits that is too long for a count of ports stands for no other port. -/
theorem numbered_ports_named (stem : String) (count : Nat) (hc : count ≤ limit) :
    (∀ handle, (Ports.indexed stem count).contains handle = true ↔
        ∃ i < count, handle = portName stem i) ∧
      (∀ handle other, (Ports.indexed stem count).contains handle = true →
        portNumber? stem handle = portNumber? stem other → handle = other) ∧
      Function.Injective (portName stem) ∧
      (∀ i, (Ports.indexed "in" count).contains (portName "out" i) = false ∧
        (Ports.indexed "out" count).contains (portName "in" i) = false) ∧
      ∀ digits, (Ports.indexed stem count).contains (stem ++ "-" ++ String.ofList digits) = true ↔
        Plain digits ∧ decimalValue digits < count := by
  refine ⟨fun handle => contains_indexed_iff hc, ?_, portName_injective stem, fun i => ⟨?_, ?_⟩,
    fun digits => contains_digits_iff hc⟩
  · intro handle other hcontains hsame
    obtain ⟨i, hi, _⟩ := (Option.any_eq_true _ _).mp hcontains
    exact portNumber?_injective hi (hsame ▸ hi)
  · rw [Bool.eq_false_iff, ne_eq, contains_indexed_iff hc]
    rintro ⟨j, _, h⟩
    exact portName_in_ne_out j i h.symm
  · rw [Bool.eq_false_iff, ne_eq, contains_indexed_iff hc]
    rintro ⟨j, _, h⟩
    exact portName_in_ne_out i j h

/-- On a side with as many ports as there may be, the number before the count is the last; neither
the count nor the number behind it, which no count reaches, names a port, nor does a padded one. -/
theorem last_port_named :
    limit ≤ limit ∧
      (Ports.indexed "in" limit).contains "in-18446744073709551614" = true ∧
      (Ports.indexed "in" limit).contains "in-18446744073709551615" = false ∧
      (Ports.indexed "in" limit).contains "in-18446744073709551616" = false ∧
      (Ports.indexed "in" limit).contains "in-07" = false := by
  obtain ⟨hnames, _, _, _, hdigits⟩ := numbered_ports_named "in" limit (Nat.le_refl limit)
  have hrefused (digits : List Char) (h : ¬ (Plain digits ∧ decimalValue digits < limit)) :
      (Ports.indexed "in" limit).contains ("in" ++ "-" ++ String.ofList digits) = false :=
    Bool.eq_false_iff.mpr fun hc => h ((hdigits digits).mp hc)
  refine ⟨Nat.le_refl limit, (hnames _).mpr ⟨18446744073709551614, by decide, by decide +kernel⟩,
    ?_, ?_, ?_⟩
  · exact hrefused "18446744073709551615".toList fun h => absurd h.2 (by decide +kernel)
  · exact hrefused "18446744073709551616".toList fun h => absurd h.2 (by decide +kernel)
  · exact hrefused "07".toList fun h => absurd (h.1.2.2 rfl) (by decide)

end LineTopology.Proofs.PortNames
