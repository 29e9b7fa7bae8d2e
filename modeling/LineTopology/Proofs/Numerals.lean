import LineTopology.Proofs.Grammar

namespace LineTopology.Proofs.Numerals

open Text Json Grammar

variable {α β : Type} {rest middle : List Char} {used : Nat}

def marks : List Char := [' ', '\n', '\t', '\r', ',', ']', '\x7d']

def Bounded (rest : List Char) : Prop := ∀ x ∈ rest.head?, x ∈ marks

/-- The answer is the value, with `rest` still to be read, or a fault where there is no value. -/
def Leaves (answer : Except Fault (α × Cursor)) (rest : List Char) : Option α → Prop
  | some x => ∃ used, answer = .ok (x, ⟨rest, used⟩)
  | none => ∃ fault, answer = .error fault

def Fixed (scan : Scan α) (letters : List Char) : Prop :=
  ∃ o, ∀ rest used, Bounded rest → Leaves (scan ⟨letters ++ rest, used⟩) rest o

def Passed (skip : Cursor → Except Fault Cursor) (letters : List Char) : Prop :=
  ∀ rest used, Bounded rest → ∃ used', skip ⟨letters ++ rest, used⟩ = .ok ⟨rest, used'⟩

section Answers

variable {answer : Except Fault (α × Cursor)} {o : Option α}

theorem Leaves.bind {next : α × Cursor → Except Fault (β × Cursor)} {g : α → Option β}
    (h : Leaves answer middle o)
    (hn : ∀ x used, o = some x → Leaves (next (x, ⟨middle, used⟩)) rest (g x)) :
    Leaves (answer >>= next) rest (o.bind g) := by
  cases o with
  | none =>
      obtain ⟨fault, rfl⟩ := h
      exact ⟨fault, rfl⟩
  | some x =>
      obtain ⟨used, rfl⟩ := h
      exact hn x used rfl

theorem Leaves.closed {close : Char} {leave : Cursor → Except Fault Cursor}
    (h : Leaves answer (close :: rest) o)
    (hl : ∀ used, leave ⟨close :: rest, used⟩ = .ok ⟨rest, used + 1⟩) :
    Leaves (answer >>= fun (x, c) => do return (x, ← leave c)) rest o := by
  cases o with
  | none =>
      obtain ⟨fault, rfl⟩ := h
      exact ⟨fault, rfl⟩
  | some x =>
      obtain ⟨used, rfl⟩ := h
      have hleave : (do return (x, ← leave ⟨close :: rest, used⟩) : Except Fault (α × Cursor)) =
          .ok (x, ⟨rest, used + 1⟩) := by
        rw [hl]
        rfl
      exact ⟨used + 1, hleave⟩

theorem Leaves.map (f : α → β) (h : Leaves answer rest o) :
    Leaves (answer.map fun (x, c) => (f x, c)) rest (o.map f) := by
  cases o with
  | none =>
      obtain ⟨fault, rfl⟩ := h
      exact ⟨fault, rfl⟩
  | some x =>
      obtain ⟨used, rfl⟩ := h
      exact ⟨used, rfl⟩

theorem Leaves.toOption (h : Leaves answer rest o) : answer.toOption.map (·.1) = o := by
  cases o with
  | none =>
      obtain ⟨fault, rfl⟩ := h
      rfl
  | some x =>
      obtain ⟨used, rfl⟩ := h
      rfl

end Answers

section Blanks

theorem bounded_nil : Bounded [] := by simp [Bounded]

theorem mem_marks_of_isSpace {x : Char} (h : Cursor.isSpace x = true) : x ∈ marks := by
  simp only [Cursor.isSpace, Bool.or_eq_true, decide_eq_true_eq] at h
  rcases h with ((rfl | rfl) | rfl) | rfl <;> simp [marks]

theorem Bounded.head {p : Char → Bool} (h : Bounded rest) (hp : marks.all (!p ·) = true) :
    rest.head?.any p = false := by
  cases rest with
  | nil => rfl
  | cons x rest => simpa using List.all_eq_true.mp hp x (h x rfl)

theorem skipSpace_blank {blank : List Char} (h : Blank blank) (cs : List Char) (used : Nat) :
    Cursor.skipSpace ⟨blank ++ cs, used⟩ = Cursor.skipSpace ⟨cs, used + blank.length⟩ := by
  simp only [Cursor.skipSpace, List.dropWhile_append_of_pos h, List.takeWhile_append_of_pos h,
    List.length_append, Nat.add_assoc]

end Blanks

section Numerals

variable {negative : Bool} {n : Nat} {e : Int} {sign ds cs whole fraction exponent : List Char}

theorem digits_append (hds : ∀ d ∈ ds, isDigit d = true) (hr : rest.head?.any isDigit = false)
    (used : Nat) : Numeral.digits ⟨ds ++ rest, used⟩ = ds := by
  rw [Numeral.digits, List.takeWhile_append_of_pos hds]
  cases rest with
  | nil => exact List.append_nil _
  | cons x rest =>
      have hx : isDigit x = false := hr
      rw [List.takeWhile_cons_of_neg (by simp [hx]), List.append_nil]

theorem skipDigits_append (hds : ∀ d ∈ ds, isDigit d = true)
    (hr : rest.head?.any isDigit = false) (used : Nat) :
    Numeral.skipDigits ⟨ds ++ rest, used⟩ = ⟨rest, used + ds.length⟩ := by
  rw [Numeral.skipDigits, digits_append hds hr, List.dropWhile_append_of_pos hds]
  cases rest with
  | nil => rfl
  | cons x rest =>
      have hx : isDigit x = false := hr
      rw [List.dropWhile_cons_of_neg (by simp [hx])]

theorem finish_fixed (negative : Bool) (n : Nat) (e : Int) :
    Fixed (Numeral.finish negative n e) [] := by
  cases h : Binary64.ofScientific? n e with
  | none => exact ⟨none, fun rest used _ => ⟨_, by rw [Numeral.finish, h]; rfl⟩⟩
  | some x => exact ⟨some _, fun rest used _ => ⟨_, by rw [Numeral.finish, h]; rfl⟩⟩

theorem sign_append (hs : sign = [] ∨ sign = ['+'] ∨ sign = ['-']) (hds : Digits ds)
    (rest : List Char) (used : Nat) :
    ∃ used', (if Numeral.startsWith (fun x => x == '+' || x == '-') ⟨sign ++ (ds ++ rest), used⟩
        then Cursor.next ⟨sign ++ (ds ++ rest), used⟩ else ⟨sign ++ (ds ++ rest), used⟩) =
      ⟨ds ++ rest, used'⟩ := by
  obtain ⟨d, r, rfl⟩ := List.exists_cons_of_ne_nil hds.1
  rcases hs with rfl | rfl | rfl
  · have hd := hds.2 d List.mem_cons_self
    have hsign : (d == '+' || d == '-') = false := by
      rw [Bool.or_eq_false_iff, beq_eq_false_iff_ne, beq_eq_false_iff_ne]
      constructor <;> rintro rfl <;> exact absurd hd (by decide)
    exact ⟨used, by simp [Numeral.startsWith, hsign]⟩
  · exact ⟨_, rfl⟩
  · exact ⟨_, rfl⟩

theorem sign_down (hs : sign = [] ∨ sign = ['+'] ∨ sign = ['-']) (hds : Digits ds)
    (used : Nat) :
    Numeral.startsWith (· == '-') ⟨sign ++ (ds ++ rest), used⟩ = (sign == ['-']) := by
  obtain ⟨d, r, rfl⟩ := List.exists_cons_of_ne_nil hds.1
  rcases hs with rfl | rfl | rfl
  · have hd := hds.2 d List.mem_cons_self
    have hsign : (d == '-') = false := by
      rw [beq_eq_false_iff_ne]
      rintro rfl
      exact absurd hd (by decide)
    simp [Numeral.startsWith, hsign]
  · rfl
  · rfl

theorem exponent_fixed (negative : Bool) (n : Nat) (e : Int)
    (hs : sign = [] ∨ sign = ['+'] ∨ sign = ['-']) (hds : Digits ds) :
    Fixed (Numeral.exponent negative n e) (sign ++ ds) := by
  let down := sign == ['-']
  let value := absorb Numeral.exponentLimit 0 ds
  have hread (rest : List Char) (used : Nat) (hb : Bounded rest) : ∃ used',
      Numeral.exponent negative n e ⟨(sign ++ ds) ++ rest, used⟩ =
        if value.2.isEmpty then
          Numeral.finish negative n (if down then e - value.1 else e + value.1) ⟨rest, used'⟩
        else if n ≠ 0 && !down then .error ⟨.numberOutOfRange, used' - value.2.length + 1⟩
        else .ok (.real (Numeral.signed negative Binary64.zero), ⟨rest, used'⟩) := by
    obtain ⟨atDigits, hsign⟩ := sign_append hs hds rest used
    have hnone : rest.head?.any isDigit = false := hb.head rfl
    refine ⟨atDigits + ds.length, ?_⟩
    simp only [Numeral.exponent, List.append_assoc, sign_down hs hds, hsign,
      digits_append hds.2 hnone, skipDigits_append hds.2 hnone]
    obtain ⟨d, r, hd⟩ := List.exists_cons_of_ne_nil hds.1
    have hdigit : isDigit d = true := hds.2 d (hd ▸ List.mem_cons_self)
    simp only [hd, List.cons_append, hdigit, if_true, value, down]
  by_cases hfits : value.2.isEmpty = true
  · obtain ⟨o, ho⟩ := finish_fixed negative n (if down then e - value.1 else e + value.1)
    refine ⟨o, fun rest used hb => ?_⟩
    obtain ⟨used', h⟩ := hread rest used hb
    rw [h, if_pos hfits]
    exact ho rest used' hb
  · by_cases hout : (n ≠ 0 && !down) = true
    · refine ⟨none, fun rest used hb => ?_⟩
      obtain ⟨used', h⟩ := hread rest used hb
      exact ⟨_, by rw [h, if_neg hfits, if_pos hout]⟩
    · refine ⟨some (.real (Numeral.signed negative Binary64.zero)), fun rest used hb => ?_⟩
      obtain ⟨used', h⟩ := hread rest used hb
      exact ⟨_, by rw [h, if_neg hfits, if_neg hout]⟩

theorem exponent_head (h : IsExponent exponent) (hb : Bounded rest) {p : Char → Bool}
    (hp : marks.all (!p ·) = true) (he : p 'e' = false) (hE : p 'E' = false) :
    (exponent ++ rest).head?.any p = false := by
  cases h with
  | absent => exact hb.head hp
  | @mark e sign ds hmark _ _ =>
      simp only [Numeral.isExponentMark, Bool.or_eq_true, decide_eq_true_eq] at hmark
      rcases hmark with rfl | rfl
      · exact he
      · exact hE

theorem mark_fixed {scan : Scan Number}
    (hscan : ∀ c, scan c = if Numeral.startsWith Numeral.isExponentMark c then
      Numeral.exponent negative n e c.next else Numeral.finish negative n e c)
    (h : IsExponent exponent) : Fixed scan exponent := by
  cases h with
  | absent =>
      obtain ⟨o, ho⟩ := finish_fixed negative n e
      refine ⟨o, fun rest used hb => ?_⟩
      have hnone : Numeral.startsWith Numeral.isExponentMark ⟨rest, used⟩ = false :=
        hb.head rfl
      rw [List.nil_append, hscan, hnone]
      exact ho rest used hb
  | @mark mark sign ds hmark hs hds =>
      obtain ⟨o, ho⟩ := exponent_fixed negative n e hs hds
      refine ⟨o, fun rest used hb => ?_⟩
      rw [hscan, if_pos (by simp [Numeral.startsWith, hmark])]
      exact ho rest _ hb

theorem fraction_fixed (negative : Bool) (n : Nat) (e : Int) (hds : Digits ds)
    (h : IsExponent exponent) : Fixed (Numeral.fraction negative n e) (ds ++ exponent) := by
  let value := absorb Numeral.significandLimit n ds
  let shifted : Int := e - (ds.length - value.2.length : Nat)
  have hmark : Fixed (fun c => if Numeral.startsWith Numeral.isExponentMark c then
      Numeral.exponent negative value.1 shifted c.next
      else Numeral.finish negative value.1 shifted c) exponent := mark_fixed (fun _ => rfl) h
  obtain ⟨o, ho⟩ := hmark
  refine ⟨o, fun rest used hb => ?_⟩
  have hnone : (exponent ++ rest).head?.any isDigit = false := exponent_head h hb rfl rfl rfl
  have hne : ds.isEmpty = false := by simpa using hds.1
  simp only [Numeral.fraction, List.append_assoc, digits_append hds.2 hnone,
    skipDigits_append hds.2 hnone, hne, Bool.false_eq_true, if_false]
  exact ho rest _ hb

theorem integral_bounded (negative : Bool) (ds : List Char) (hb : Bounded rest) (used : Nat) :
    Numeral.integral negative ds ⟨rest, used⟩ =
      if (absorb Numeral.significandLimit 0 ds).2.isEmpty then
        match Numeral.whole negative (absorb Numeral.significandLimit 0 ds).1 with
        | some x => .ok (x, ⟨rest, used⟩)
        | none => Cursor.failHere ⟨rest, used⟩ .numberOutOfRange
      else Numeral.finish negative (absorb Numeral.significandLimit 0 ds).1
        (absorb Numeral.significandLimit 0 ds).2.length ⟨rest, used⟩ := by
  have hpoint : Numeral.startsWith (· == '.') ⟨rest, used⟩ = false := hb.head rfl
  have hmark : Numeral.startsWith Numeral.isExponentMark ⟨rest, used⟩ = false := hb.head rfl
  rw [Numeral.integral, hpoint, hmark]
  rfl

theorem integer_fixed (negative : Bool) (ds : List Char) :
    Fixed (Numeral.integral negative ds) [] := by
  let value := absorb Numeral.significandLimit 0 ds
  by_cases hfits : value.2.isEmpty = true
  · cases hwhole : Numeral.whole negative value.1 with
    | none =>
        refine ⟨none, fun rest used hb => ?_⟩
        rw [List.nil_append, integral_bounded negative ds hb, if_pos hfits, hwhole]
        exact ⟨_, rfl⟩
    | some x =>
        refine ⟨some x, fun rest used hb => ?_⟩
        rw [List.nil_append, integral_bounded negative ds hb, if_pos hfits, hwhole]
        exact ⟨used, rfl⟩
  · obtain ⟨o, ho⟩ := finish_fixed negative value.1 value.2.length
    refine ⟨o, fun rest used hb => ?_⟩
    rw [List.nil_append, integral_bounded negative ds hb, if_neg hfits]
    exact ho rest used hb

theorem integral_fixed (negative : Bool) (ds : List Char) (hf : IsFraction fraction)
    (he : IsExponent exponent) : Fixed (Numeral.integral negative ds) (fraction ++ exponent) := by
  let value := absorb Numeral.significandLimit 0 ds
  cases hf with
  | @point fs hfs =>
      obtain ⟨o, ho⟩ := fraction_fixed negative value.1 value.2.length hfs he
      exact ⟨o, fun rest used hb => ho rest _ hb⟩
  | absent =>
      cases he with
      | @mark mark sign es hmark hs hes =>
          obtain ⟨o, ho⟩ := exponent_fixed negative value.1 value.2.length hs hes
          refine ⟨o, fun rest used hb => ?_⟩
          have hpoint : (mark == '.') = false := by
            rw [beq_eq_false_iff_ne]
            rintro rfl
            exact absurd hmark (by decide)
          simp only [Numeral.integral, Numeral.startsWith, List.nil_append, List.cons_append,
            List.head?_cons, Option.any_some, hpoint, hmark, Bool.false_eq_true, if_false, if_true]
          exact ho rest _ hb
      | absent => exact integer_fixed negative ds

theorem fraction_head (hf : IsFraction fraction) (he : IsExponent exponent) (hb : Bounded rest) :
    (fraction ++ (exponent ++ rest)).head?.any isDigit = false := by
  cases hf with
  | absent => exact exponent_head he hb rfl rfl rfl
  | point _ => rfl

theorem numeral_fixed (negative : Bool) (h : IsUnsigned cs) : Fixed (numeral negative) cs := by
  obtain ⟨hw, hf, he⟩ := h
  cases hw with
  | zero =>
      obtain ⟨o, ho⟩ := integral_fixed negative ['0'] hf he
      refine ⟨o, fun rest used hb => ?_⟩
      have hread := ho rest (used + 1) hb
      rw [List.append_assoc] at hread
      rw [List.append_assoc, List.append_assoc, List.singleton_append,
        Tokens.numeral_zero (fraction_head hf he hb)]
      exact hread
  | @digits d ds hzero hds =>
      obtain ⟨o, ho⟩ := integral_fixed negative (d :: ds) hf he
      refine ⟨o, fun rest used hb => ?_⟩
      have hnone := fraction_head hf he hb
      have hdigits := digits_append hds.2 hnone used
      have hbehind := skipDigits_append hds.2 hnone used
      have hread := ho rest (used + (d :: ds).length) hb
      rw [List.append_assoc] at hread
      rw [List.append_assoc, List.append_assoc, List.cons_append,
        Tokens.numeral_digit negative _ used hzero (hds.2 d List.mem_cons_self), ← List.cons_append,
        hdigits, hbehind]
      exact hread

theorem skipExponent_passed (hs : sign = [] ∨ sign = ['+'] ∨ sign = ['-']) (hds : Digits ds) :
    Passed Numeral.skipExponent (sign ++ ds) := by
  intro rest used hb
  obtain ⟨atDigits, hsign⟩ := sign_append hs hds rest used
  have hnone : rest.head?.any isDigit = false := hb.head rfl
  refine ⟨atDigits + ds.length, ?_⟩
  simp only [Numeral.skipExponent, List.append_assoc, hsign, skipDigits_append hds.2 hnone]
  obtain ⟨d, r, hd⟩ := List.exists_cons_of_ne_nil hds.1
  have hdigit : isDigit d = true := hds.2 d (hd ▸ List.mem_cons_self)
  simp only [hd, List.cons_append, hdigit, if_true]

theorem skipMark_passed {skip : Cursor → Except Fault Cursor}
    (hskip : ∀ c, skip c = if Numeral.startsWith Numeral.isExponentMark c then
      Numeral.skipExponent c.next else .ok c)
    (h : IsExponent exponent) : Passed skip exponent := by
  intro rest used hb
  cases h with
  | absent =>
      have hnone : Numeral.startsWith Numeral.isExponentMark ⟨rest, used⟩ = false :=
        hb.head rfl
      exact ⟨used, by rw [List.nil_append, hskip, hnone]; rfl⟩
  | @mark mark sign ds hmark hs hds =>
      rw [hskip, if_pos (by simp [Numeral.startsWith, hmark])]
      exact skipExponent_passed hs hds rest _ hb

theorem skipIntegral_passed (hf : IsFraction fraction) (he : IsExponent exponent) :
    Passed Numeral.skipIntegral (fraction ++ exponent) := by
  intro rest used hb
  cases hf with
  | absent =>
      have hpoint : Numeral.startsWith (· == '.') ⟨exponent ++ rest, used⟩ = false :=
        exponent_head he hb rfl rfl rfl
      simp only [Numeral.skipIntegral, List.nil_append, hpoint, Bool.false_eq_true, if_false]
      exact skipMark_passed (fun _ => rfl) he rest used hb
  | @point ds hds =>
      have hnone : (exponent ++ rest).head?.any isDigit = false := exponent_head he hb rfl rfl rfl
      have hne : ds.isEmpty = false := by simpa using hds.1
      have hfraction : Numeral.skipIntegral ⟨'.' :: ds ++ exponent ++ rest, used⟩ =
          Numeral.skipFraction ⟨ds ++ (exponent ++ rest), used + 1⟩ := by
        rw [List.append_assoc]
        rfl
      rw [hfraction, Numeral.skipFraction, digits_append hds.2 hnone, hne,
        skipDigits_append hds.2 hnone]
      exact skipMark_passed (fun _ => rfl) he rest _ hb

theorem skipNumeral_passed (h : IsUnsigned cs) : Passed skipNumeral cs := by
  intro rest used hb
  obtain ⟨hw, hf, he⟩ := h
  have hnone := fraction_head hf he hb
  cases hw with
  | zero =>
      have hpassed := skipIntegral_passed hf he rest (used + 1) hb
      rw [List.append_assoc] at hpassed ⊢
      rw [List.append_assoc]
      have hfirst : Numeral.startsWith isDigit ⟨_, used + 1⟩ = false := hnone
      simpa [skipNumeral, hfirst] using hpassed
  | @digits d ds hzero hds =>
      have hpassed := skipIntegral_passed hf he rest (used + (d :: ds).length) hb
      rw [List.append_assoc] at hpassed ⊢
      rw [List.append_assoc]
      have hbehind := skipDigits_append hds.2 hnone used
      have hdigit := hds.2 d List.mem_cons_self
      rw [List.cons_append] at hbehind ⊢
      simpa [skipNumeral, hzero, hdigit, hbehind] using hpassed

def number? (cs : List Char) : Option Number :=
  match cs with
  | '-' :: ds => (numeral true ⟨ds, 0⟩).toOption.map (·.1)
  | ds => (numeral false ⟨ds, 0⟩).toOption.map (·.1)

theorem number?_positive (h : IsUnsigned cs) :
    number? cs = (numeral false ⟨cs, 0⟩).toOption.map (·.1) := by
  obtain ⟨d, r, rfl, hd⟩ := h.head
  rw [number?]
  rintro ds he
  cases he
  exact absurd hd (by decide)

theorem numeral_leaves (negative : Bool) (h : IsUnsigned cs) (hb : Bounded rest) (used : Nat) :
    Leaves (numeral negative ⟨cs ++ rest, used⟩) rest
      ((numeral negative ⟨cs, 0⟩).toOption.map (·.1)) := by
  obtain ⟨o, ho⟩ := numeral_fixed negative h
  have hnumber := (ho [] 0 bounded_nil).toOption
  rw [List.append_nil] at hnumber
  rw [hnumber]
  exact ho rest used hb

end Numerals

end LineTopology.Proofs.Numerals
