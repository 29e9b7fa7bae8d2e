import LineTopology.Json.Printer
import LineTopology.Json.Reader.Value
import LineTopology.Proofs.Decimals

namespace LineTopology.Proofs.Tokens

open Text Json Decimals

variable {cs rest : List Char} {used : Nat}

/-- What may follow a value inside a text. -/
def Ends (rest : List Char) : Prop := ∀ x ∈ rest.head?, x = ',' ∨ x = ']' ∨ x = '\x7d'

def Starts (cs : List Char) : Prop := ∃ x r, cs = x :: r ∧ Cursor.isSpace x = false ∧ x ≠ ']'

theorem starts_cons {x : Char} {r : List Char} (h : Cursor.isSpace x = false ∧ x ≠ ']') :
    Starts (x :: r) := ⟨x, r, rfl, h⟩

theorem ends_nil : Ends [] := by simp [Ends]

theorem ends_comma : Ends (',' :: rest) := by simp [Ends]

theorem ends_bracket : Ends (']' :: rest) := by simp [Ends]

theorem ends_brace : Ends ('\x7d' :: rest) := by simp [Ends]

theorem Ends.not_digit (h : Ends rest) : ∀ x ∈ rest.head?, isDigit x = false := by
  intro x hx
  rcases h x hx with rfl | rfl | rfl <;> decide

section Tokens

theorem skipSpace_cons {x : Char} {r : List Char} (hx : Cursor.isSpace x = false) :
    Cursor.skipSpace ⟨x :: r, used⟩ = ⟨x :: r, used⟩ := by
  simp [Cursor.skipSpace, hx]

theorem hexValue_hexDigit : ∀ n < 16, hexValue? (hexDigit n) = some n := by decide

theorem read_simple {x y : Char} {acc : List Char} (hx : x ≠ 'u')
    (h : Quotation.simpleEscape? x = some y) :
    Quotation.read .plain acc ('\\' :: x :: rest) used =
      Quotation.read .plain (y :: acc) rest (used + 1 + 1) := by
  have hquote : ('\\' : Char) ≠ '"' := by decide
  rw [Quotation.read, if_neg hquote, if_pos rfl, Quotation.read, if_neg hx, h]

theorem read_unicode {n : Nat} {acc : List Char} (h : n < 0x20) :
    Quotation.read .plain acc
        ('\\' :: 'u' :: '0' :: '0' :: hexDigit (n / 16) :: hexDigit (n % 16) :: rest) used =
      Quotation.read .plain (Char.ofNat n :: acc) rest (used + 1 + 1 + 1 + 1 + 1 + 1) := by
  have hhigh := hexValue_hexDigit (n / 16) (by omega)
  have hlow := hexValue_hexDigit (n % 16) (by omega)
  have hzero : hexValue? '0' = some 0 := rfl
  have hn : 16 * (n / 16) + n % 16 = n := Nat.div_add_mod n 16
  have htrail : Quotation.isTrail n = false := by simp [Quotation.isTrail]; omega
  have hlead : Quotation.isLead n = false := by simp [Quotation.isLead]; omega
  simp [Quotation.read, hhigh, hlow, hzero, hn, htrail, hlead]

theorem read_escaped (c : Char) (acc rest : List Char) (used : Nat) :
    ∃ used', Quotation.read .plain acc (escaped c ++ rest) used =
      Quotation.read .plain (c :: acc) rest used' := by
  have hofNat (n : Nat) (h : c.toNat = n) : c = Char.ofNat n := by rw [← h, Char.ofNat_toNat]
  -- The cases come in the order in which `escaped` asks for them.
  fun_cases escaped c
  next h =>
    subst h
    exact ⟨_, read_simple (by decide) rfl⟩
  next h =>
    subst h
    exact ⟨_, read_simple (by decide) rfl⟩
  next h => exact ⟨_, read_simple (by decide) (hofNat _ h ▸ rfl)⟩
  next h => exact ⟨_, read_simple (by decide) (hofNat _ h ▸ rfl)⟩
  next h => exact ⟨_, read_simple (by decide) (h ▸ rfl)⟩
  next h => exact ⟨_, read_simple (by decide) (h ▸ rfl)⟩
  next h => exact ⟨_, read_simple (by decide) (h ▸ rfl)⟩
  next h => exact ⟨_, (read_unicode h).trans (by rw [Char.ofNat_toNat]; rfl)⟩
  next hquote hback _ _ _ _ _ hcontrol =>
    exact ⟨_, by rw [List.singleton_append, Quotation.read, if_neg hquote, if_neg hback,
      if_neg hcontrol]⟩

theorem quotation_reads (s : String) (rest : List Char) (used : Nat) :
    ∃ used', quotation ⟨s.toList.flatMap escaped ++ '"' :: rest, used⟩ =
      .ok (s, ⟨rest, used'⟩) := by
  have hread (cs acc : List Char) (used : Nat) :
      ∃ used', Quotation.read .plain acc (cs.flatMap escaped ++ '"' :: rest) used =
        .ok (String.ofList (acc.reverse ++ cs), ⟨rest, used'⟩) := by
    induction cs generalizing acc used with
    | nil => exact ⟨used + 1, by simp [Quotation.read]⟩
    | cons c cs ih =>
        obtain ⟨behind, hc⟩ := read_escaped c acc (cs.flatMap escaped ++ '"' :: rest) used
        obtain ⟨used', hcs⟩ := ih (c :: acc) behind
        refine ⟨used', ?_⟩
        rw [List.flatMap_cons, List.append_assoc, hc, hcs, List.reverse_cons, List.append_assoc]
        rfl
  obtain ⟨used', h⟩ := hread s.toList [] used
  exact ⟨used', by rw [quotation, h, List.reverse_nil, List.nil_append, String.ofList_toList]⟩

theorem Ends.not_startsWith {p : Char → Bool} (h : Ends rest)
    (hp : p ',' = false ∧ p ']' = false ∧ p '\x7d' = false) :
    Numeral.startsWith p ⟨rest, used⟩ = false := by
  cases rest with
  | nil => rfl
  | cons x rest =>
      rcases h x rfl with rfl | rfl | rfl
      · exact hp.1
      · exact hp.2.1
      · exact hp.2.2

theorem numeral_zero {negative : Bool}
    (h : Numeral.startsWith isDigit ⟨rest, used + 1⟩ = false) :
    numeral negative ⟨'0' :: rest, used⟩ = Numeral.integral negative ['0'] ⟨rest, used + 1⟩ := by
  simp [numeral, h]

theorem numeral_digit (negative : Bool) {d : Char} (r : List Char) (used : Nat) (hzero : d ≠ '0')
    (hd : isDigit d = true) :
    numeral negative ⟨d :: r, used⟩ =
      Numeral.integral negative (Numeral.digits ⟨d :: r, used⟩)
        (Numeral.skipDigits ⟨d :: r, used⟩) := by
  simp [numeral, hzero, hd]

theorem numeral_reads (negative : Bool) {n : Nat} {x : Number} (used : Nat) (h : Ends rest)
    (hn : n ≤ Numeral.significandLimit) (hx : Numeral.whole negative n = some x) :
    ∃ used', numeral negative ⟨decimal n ++ rest, used⟩ = .ok (x, ⟨rest, used'⟩) := by
  have hintegral (used : Nat) :
      Numeral.integral negative (decimal n) ⟨rest, used⟩ = .ok (x, ⟨rest, used⟩) := by
    have hpoint : Numeral.startsWith (· == '.') ⟨rest, used⟩ = false :=
      h.not_startsWith (by decide)
    have hmark : Numeral.startsWith Numeral.isExponentMark ⟨rest, used⟩ = false :=
      h.not_startsWith (by decide)
    simp [Numeral.integral, absorb_decimal hn, hpoint, hmark, hx]
  -- A numeral may begin with a zero only if it is the zero.
  by_cases hzero : n = 0
  · subst hzero
    have hnone : Numeral.startsWith isDigit ⟨rest, used + 1⟩ = false := h.not_startsWith (by decide)
    refine ⟨used + 1, ?_⟩
    rw [← hintegral]
    exact numeral_zero hnone
  · obtain ⟨d, ds, hd⟩ := List.exists_cons_of_ne_nil (decimal_ne_nil n)
    have hhead : d ≠ '0' := fun he => head_ne_zero hzero (by rw [hd, he]; rfl)
    have hdigit : isDigit d = true := isDigit_of_mem (hd ▸ List.mem_cons_self)
    have hdigits : Numeral.digits ⟨decimal n ++ rest, used⟩ = decimal n :=
      takeWhile_decimal h.not_digit
    have hbehind : Numeral.skipDigits ⟨decimal n ++ rest, used⟩ =
        ⟨rest, used + (decimal n).length⟩ := by
      rw [Numeral.skipDigits, hdigits, dropWhile_decimal h.not_digit]
    have hnumeral := numeral_digit negative (ds ++ rest) used hhead hdigit
    rw [← List.cons_append, ← hd, hdigits, hbehind] at hnumeral
    exact ⟨_, hnumeral.trans (hintegral _)⟩

theorem isDigit_starts {d : Char} (h : isDigit d = true) : Cursor.isSpace d = false ∧ d ≠ ']' := by
  refine ⟨Bool.eq_false_iff.mpr fun hspace => ?_, fun hclose => ?_⟩
  · simp only [Cursor.isSpace, Bool.or_eq_true, decide_eq_true_eq] at hspace
    rcases hspace with ((rfl | rfl) | rfl) | rfl <;> exact absurd h (by decide)
  · subst hclose
    exact absurd h (by decide)

end Tokens

section Separators

def separator : Bool → List Char
  | true => []
  | false => [',']

theorem moreItems_item (first : Bool) (h : Starts cs) (rest : List Char) (used : Nat) :
    ∃ used', moreItems first ⟨separator first ++ (cs ++ rest), used⟩ =
      .ok (true, ⟨cs ++ rest, used'⟩) := by
  obtain ⟨x, r, rfl, hspace, hclose⟩ := h
  cases first with
  | true => exact ⟨used, by simp [moreItems, separator, skipSpace_cons hspace]⟩
  | false =>
      have hcomma : Cursor.isSpace ',' = false := by decide
      exact ⟨used + 1,
        by simp [moreItems, separator, skipSpace_cons hspace, skipSpace_cons hcomma]⟩

theorem moreMembers_key (first : Bool) (rest : List Char) (used : Nat) :
    ∃ used', moreMembers first ⟨separator first ++ '"' :: rest, used⟩ =
      .ok (true, ⟨rest, used'⟩) := by
  cases first with
  | true => exact ⟨_, rfl⟩
  | false => exact ⟨_, rfl⟩

theorem colon_reads : colon ⟨':' :: rest, used⟩ = .ok ⟨rest, used + 1⟩ := rfl

end Separators

end LineTopology.Proofs.Tokens
