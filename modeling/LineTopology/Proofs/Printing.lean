import LineTopology.Json.Printer
import LineTopology.Proofs.Quotations

namespace LineTopology.Proofs.Printing

open Text Json Decimals Tokens Trees Grammar

def letters (s : String) : List Char := s.toList.flatMap escaped

mutual

def formOf : Json → Form
  | .null => .null
  | .boolean b => .boolean b
  | .number n => .numeral n.chars
  | .string s => .quoted (letters s)
  | .array xs => .array (formsOf xs)
  | .object ms => .object (membersOf ms)

def formsOf : List Json → List Form
  | [] => []
  | x :: xs => formOf x :: formsOf xs

def membersOf : List (String × Json) → List (List Char × Form)
  | [] => []
  | (k, v) :: ms => (letters k, formOf v) :: membersOf ms

end

theorem formsOf_eq (xs : List Json) : formsOf xs = xs.map formOf := by
  induction xs with
  | nil => rfl
  | cons x xs ih => rw [formsOf, ih, List.map_cons]

theorem membersOf_eq (ms : List (String × Json)) :
    membersOf ms = ms.map fun m => (letters m.1, formOf m.2) := by
  induction ms with
  | nil => rfl
  | cons m ms ih => rw [membersOf, ih, List.map_cons]

section Letters

theorem spells_escaped {c : Char} {cs xs : List Char} (h : Spells cs xs) :
    Spells (escaped c ++ cs) (c :: xs) := by
  have hofNat (n : Nat) (hn : c.toNat = n) : c = Char.ofNat n := by rw [← hn, Char.ofNat_toNat]
  -- The cases come in the order in which `escaped` asks for them.
  fun_cases escaped c
  next hc =>
    subst hc
    exact .escape rfl h
  next hc =>
    subst hc
    exact .escape rfl h
  next hc => exact .escape (by rw [hofNat _ hc]; rfl) h
  next hc => exact .escape (by rw [hofNat _ hc]; rfl) h
  next hc => exact .escape (by rw [hc]; rfl) h
  next hc => exact .escape (by rw [hc]; rfl) h
  next hc => exact .escape (by rw [hc]; rfl) h
  next hc =>
    have hunit : unit? '0' '0' (hexDigit (c.toNat / 16)) (hexDigit (c.toNat % 16)) =
        some c.toNat := by
      have hhigh := hexValue_hexDigit (c.toNat / 16) (by omega)
      have hlow := hexValue_hexDigit (c.toNat % 16) (by omega)
      have hzero : hexValue? '0' = some 0 := rfl
      simp only [unit?, hzero, hhigh, hlow, bind, Option.bind_some, pure]
      congr 1
      omega
    have hlead : Quotation.isLead c.toNat = false := by simp [Quotation.isLead]; omega
    have htrail : Quotation.isTrail c.toNat = false := by simp [Quotation.isTrail]; omega
    have hspells := Spells.unit hunit hlead htrail h
    rw [Char.ofNat_toNat] at hspells
    exact hspells
  next hquote hback _ _ _ _ _ hcontrol =>
    refine .plain ?_ h
    simp only [isPlain, Bool.and_eq_true, decide_eq_true_eq]
    exact ⟨⟨hquote, hback⟩, Nat.not_lt.mp hcontrol⟩

theorem letters_spell (s : String) : Spells (letters s) s.toList := by
  rw [letters]
  induction s.toList with
  | nil => exact .nil
  | cons c cs ih => exact spells_escaped ih

theorem decimal_unsigned (n : Nat) : IsUnsigned (decimal n) := by
  have hwhole : IsWhole (decimal n) := by
    by_cases hzero : n = 0
    · subst hzero
      exact .zero
    · obtain ⟨d, ds, hd⟩ := List.exists_cons_of_ne_nil (decimal_ne_nil n)
      rw [hd]
      refine .digits (fun he => head_ne_zero hzero (by rw [hd, he]; rfl)) ⟨by simp, ?_⟩
      exact fun x hx => isDigit_of_mem (hd ▸ hx)
  exact hwhole.unsigned

theorem integer_numeral (i : Int) : IsNumeral (Number.integer i).chars := by
  cases i with
  | ofNat n => exact .positive (decimal_unsigned n)
  | negSucc n => exact .negative (decimal_unsigned (n + 1))

end Letters

section Lines

theorem blank_lineBreak (depth : Nat) : Blank (lineBreak depth) := by
  intro c hc
  rcases List.mem_cons.mp hc with rfl | hc
  · decide
  · rw [List.eq_of_mem_replicate hc]
    decide

theorem items_written (depth : Nat) {before : List Char} (hb : Blank before) (first : Bool)
    (x : Json) (xs : List Json)
    (h : ∀ y ∈ x :: xs, Writes (formOf y) (indentedChars (depth + 1) y)) :
    ∃ slots : List Slot, slots.map Slot.form = formsOf (x :: xs) ∧ (∀ s ∈ slots, s.Apart) ∧
      (∀ s ∈ slots, Writes s.form s.core) ∧
      pieces ']' first (slots.map Slot.text) =
        separator first ++ (before ++ (indentedChars (depth + 1) x ++ indentedItems depth xs)) := by
  induction xs generalizing x before first with
  | nil =>
      refine ⟨[⟨before, indentedChars (depth + 1) x, lineBreak depth, formOf x⟩], rfl, ?_, ?_, ?_⟩
      · exact List.forall_mem_singleton.mpr ⟨hb, blank_lineBreak depth⟩
      · exact List.forall_mem_singleton.mpr (h x List.mem_cons_self)
      · simp only [List.map_cons, List.map_nil, pieces, Slot.text, indentedItems, List.append_assoc]
  | cons y ys ih =>
      obtain ⟨hx, hys⟩ := List.forall_mem_cons.mp h
      obtain ⟨slots, hforms, hapart, hwrites, htext⟩ := ih (blank_lineBreak (depth + 1)) false y hys
      refine ⟨⟨before, indentedChars (depth + 1) x, [], formOf x⟩ :: slots, ?_, ?_, ?_, ?_⟩
      · rw [List.map_cons, hforms]
        rfl
      · exact List.forall_mem_cons.mpr ⟨⟨hb, blank_nil⟩, hapart⟩
      · exact List.forall_mem_cons.mpr ⟨hx, hwrites⟩
      · simp only [List.map_cons, pieces, Slot.text, htext, indentedItems, separator,
          List.append_assoc, List.nil_append, List.cons_append]

theorem members_written (depth : Nat) {before : List Char} (hb : Blank before) (first : Bool)
    (m : String × Json) (ms : List (String × Json))
    (h : ∀ n ∈ m :: ms, Writes (formOf n.2) (indentedChars (depth + 1) n.2)) :
    ∃ entries : List Entry, entries.map Entry.member = membersOf (m :: ms) ∧
      (∀ e ∈ entries, e.Apart) ∧ (∀ e ∈ entries, Quotable e.key) ∧
      (∀ e ∈ entries, Writes e.slot.form e.slot.core) ∧
      pieces '\x7d' first (entries.map Entry.text) =
        separator first ++ (before ++ (stringChars m.1 ++ ':' :: ' ' ::
          (indentedChars (depth + 1) m.2 ++ indentedMembers depth ms))) := by
  have hspace : Blank [' '] := by simp [Blank, Cursor.isSpace]
  induction ms generalizing m before first with
  | nil =>
      refine ⟨[⟨before, letters m.1, [],
        ⟨[' '], indentedChars (depth + 1) m.2, lineBreak depth, formOf m.2⟩⟩], rfl, ?_, ?_, ?_, ?_⟩
      · exact List.forall_mem_singleton.mpr ⟨hb, blank_nil, hspace, blank_lineBreak depth⟩
      · exact List.forall_mem_singleton.mpr (letters_spell m.1).quotable
      · exact List.forall_mem_singleton.mpr (h m List.mem_cons_self)
      · simp only [List.map_cons, List.map_nil, pieces, Entry.text, Entry.lead, Slot.text,
          indentedMembers, stringChars, letters, List.append_assoc, List.cons_append,
          List.nil_append]
  | cons n ms ih =>
      obtain ⟨hm, hms⟩ := List.forall_mem_cons.mp h
      obtain ⟨entries, hmembers, hapart, hkeys, hwrites, htext⟩ :=
        ih (blank_lineBreak (depth + 1)) false n hms
      refine ⟨⟨before, letters m.1, [],
        ⟨[' '], indentedChars (depth + 1) m.2, [], formOf m.2⟩⟩ :: entries, ?_, ?_, ?_, ?_, ?_⟩
      · rw [List.map_cons, hmembers]
        rfl
      · exact List.forall_mem_cons.mpr ⟨⟨hb, blank_nil, hspace, blank_nil⟩, hapart⟩
      · exact List.forall_mem_cons.mpr ⟨(letters_spell m.1).quotable, hkeys⟩
      · exact List.forall_mem_cons.mpr ⟨hm, hwrites⟩
      · simp only [List.map_cons, pieces, Entry.text, Entry.lead, Slot.text, htext,
          indentedMembers, stringChars, letters, separator, List.append_assoc, List.cons_append,
          List.nil_append]

mutual

theorem indented_writes : ∀ (v : Json), isWhole v = true → ∀ depth,
    Writes (formOf v) (indentedChars depth v)
  | .null, _, _ => .null
  | .boolean true, _, _ => .yes
  | .boolean false, _, _ => .no
  | .number (.integer i), _, _ => .numeral (integer_numeral i)
  | .string s, _, _ => .quoted (letters_spell s).quotable
  | .array [], _, _ => @Writes.array [] [] blank_nil (by simp) (by simp)
  | .array (x :: xs), h, depth => by
      obtain ⟨slots, hforms, hapart, hwrites, htext⟩ :=
        items_written depth blank_nil true x xs (items_write (x :: xs) h (depth + 1))
      have harray := Writes.array (blank_lineBreak (depth + 1)) hapart hwrites
      rw [hforms, htext] at harray
      simpa only [formOf, indentedChars, separator, List.nil_append, List.cons_append,
        List.append_assoc] using harray
  | .object [], _, _ => @Writes.object [] [] blank_nil (by simp) (by simp) (by simp)
  | .object (m :: ms), h, depth => by
      obtain ⟨entries, hmembers, hapart, hkeys, hwrites, htext⟩ :=
        members_written depth blank_nil true m ms (members_write (m :: ms) h (depth + 1))
      have hobject := Writes.object (blank_lineBreak (depth + 1)) hapart hkeys hwrites
      rw [hmembers, htext] at hobject
      simpa only [formOf, indentedChars, separator, List.nil_append, List.cons_append,
        List.append_assoc] using hobject

theorem items_write : ∀ (xs : List Json), areWhole xs = true → ∀ depth, ∀ x ∈ xs,
    Writes (formOf x) (indentedChars depth x)
  | [], _, _ => by simp
  | x :: xs, h, depth => by
      obtain ⟨hx, hxs⟩ := Bool.and_eq_true_iff.mp h
      exact List.forall_mem_cons.mpr ⟨indented_writes x hx depth, items_write xs hxs depth⟩

theorem members_write : ∀ (ms : List (String × Json)), haveWhole ms = true → ∀ depth, ∀ m ∈ ms,
    Writes (formOf m.2) (indentedChars depth m.2)
  | [], _, _ => by simp
  | (k, v) :: ms, h, depth => by
      obtain ⟨hv, hms⟩ := Bool.and_eq_true_iff.mp h
      exact List.forall_mem_cons.mpr ⟨indented_writes v hv depth, members_write ms hms depth⟩

end

theorem indented_holds {v : Json} (h : isWhole v = true) : Holds (formOf v) v.indented := by
  refine ⟨[], indentedChars 0 v, [], blank_nil, indented_writes v h 0, blank_nil, ?_⟩
  rw [indented, String.toList_ofList, List.append_nil, List.nil_append]

end Lines

end LineTopology.Proofs.Printing
