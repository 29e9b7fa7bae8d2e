import LineTopology.Proofs.Meanings

namespace LineTopology.Proofs.Acceptance

open Text Json Json.Reader Answers Tokens Trees Grammar

variable {α : Type} {c c' : Cursor} {steps room : Nat}

section Marks

theorem skipSpace_blanks (c : Cursor) : ∃ gap, Blank gap ∧ c.rest = gap ++ c.skipSpace.rest :=
  ⟨c.rest.takeWhile Cursor.isSpace, List.all_eq_true.mp List.all_takeWhile,
    List.takeWhile_append_dropWhile.symm⟩

theorem blanks_of_skipSpace {rest : List Char} (h : c.skipSpace.rest = rest) :
    ∃ gap, Blank gap ∧ c.rest = gap ++ rest := h ▸ skipSpace_blanks c

theorem rest_cons {x : Char} {r tail : List Char} {used : Nat} (hr : c.rest = x :: r)
    (h : (Cursor.mk r used).rest = tail) : c.rest = x :: tail := by
  rw [hr, ← h]

theorem word_accepted {ls : List Char} (h : word ls c = .ok c') : c.rest = ls ++ c'.rest := by
  induction ls generalizing c with
  | nil =>
      cases h
      rfl
  | cons l ls ih =>
      rw [word] at h
      split at h
      next => cases h
      next x r hr =>
        split at h
        next hx =>
          rw [hx] at hr
          exact rest_cons hr (ih h)
        next => cases h

theorem colon_accepted (h : colon c = .ok c') :
    ∃ gap, Blank gap ∧ c.rest = gap ++ ':' :: c'.rest := by
  rw [colon] at h
  split at h
  next => cases h
  next hr =>
    cases h
    exact blanks_of_skipSpace hr
  next => cases h

theorem moreItems_accepted {first more : Bool} (h : moreItems first c = .ok (more, c')) :
    ∃ gap, Blank gap ∧ ∃ before, Blank before ∧
      c.rest = gap ++ ((if more then separator first else []) ++ (before ++ c'.rest)) := by
  rw [moreItems] at h
  split at h
  next => cases h
  next hr =>
    cases h
    obtain ⟨gap, hg, hrest⟩ := skipSpace_blanks c
    exact ⟨gap, hg, [], blank_nil, hrest⟩
  next x r _ hr =>
    split at h
    next hfirst =>
      cases h
      obtain ⟨gap, hg, hrest⟩ := skipSpace_blanks c
      exact ⟨gap, hg, [], blank_nil, by rw [hfirst]; exact hrest⟩
    next hfirst =>
      split at h
      next hcomma =>
        subst hcomma
        obtain ⟨gap, hg, hrest⟩ := blanks_of_skipSpace hr
        obtain ⟨before, hb, hr'⟩ := skipSpace_blanks ⟨r, c.skipSpace.used + 1⟩
        dsimp only at h
        split at h
        next => cases h
        next => cases h
        next =>
          cases h
          refine ⟨gap, hg, before, hb, ?_⟩
          rw [hrest, Bool.eq_false_iff.mpr hfirst, ← hr']
          rfl
      next => cases h

theorem moreMembers_close_accepted {first : Bool} (h : moreMembers first c = .ok (false, c')) :
    ∃ gap, Blank gap ∧ c.rest = gap ++ c'.rest := by
  rw [moreMembers] at h
  split at h
  next => cases h
  next =>
    cases h
    exact skipSpace_blanks c
  next =>
    split at h
    next => split at h <;> cases h
    next =>
      split at h
      next =>
        dsimp only at h
        split at h <;> cases h
      next => cases h

theorem moreMembers_key_accepted {first : Bool} (h : moreMembers first c = .ok (true, c')) :
    ∃ gap, Blank gap ∧ ∃ before, Blank before ∧
      c.rest = gap ++ (separator first ++ (before ++ '"' :: c'.rest)) := by
  rw [moreMembers] at h
  split at h
  next => cases h
  next => cases h
  next x r _ hr =>
    obtain ⟨gap, hg, hrest⟩ := blanks_of_skipSpace hr
    split at h
    next hfirst =>
      split at h
      next hquote =>
        cases h
        exact ⟨gap, hg, [], blank_nil, by rw [hrest, hquote, hfirst]; rfl⟩
      next => cases h
    next hfirst =>
      split at h
      next hcomma =>
        dsimp only at h
        split at h
        next => cases h
        next hr' =>
          cases h
          obtain ⟨before, hb, hr'⟩ := blanks_of_skipSpace hr'
          refine ⟨gap, hg, before, hb, ?_⟩
          rw [hrest, hcomma, Bool.eq_false_iff.mpr hfirst, ← hr']
          rfl
        next => cases h
        next => cases h
      next => cases h

theorem leaveList_accepted (h : leaveList c = .ok c') :
    ∃ gap, Blank gap ∧ c.rest = gap ++ ']' :: c'.rest := by
  rw [leaveList] at h
  split at h
  next => cases h
  next hr =>
    cases h
    exact blanks_of_skipSpace hr
  next =>
    dsimp only at h
    split at h <;> cases h
  next => cases h

theorem leaveObject_accepted (h : leaveObject c = .ok c') :
    ∃ gap, Blank gap ∧ c.rest = gap ++ '\x7d' :: c'.rest := by
  rw [leaveObject] at h
  split at h
  next => cases h
  next hr =>
    cases h
    exact blanks_of_skipSpace hr
  next => cases h
  next => cases h

end Marks

section Quotations

/-- What the letters in front of the closing quote are, by where the reader stands. -/
def Completes : Quotation → List Char → Prop
  | .plain, cs => Quotable cs
  | .escape, cs => Quotable ('\\' :: cs)
  | .hex seen _ _, cs => seen < 4 → ∃ units tail : List Char, units.length + seen = 4 ∧
      (∀ d ∈ units, (hexValue? d).isSome = true) ∧ Quotable tail ∧ cs = units ++ tail
  | .secondEscape _, cs => Quotable cs
  | .secondMark _, cs => Quotable ('\\' :: cs)

theorem unit?_isSome {a b x y : Char} (ha : (hexValue? a).isSome = true)
    (hb : (hexValue? b).isSome = true) (hx : (hexValue? x).isSome = true)
    (hy : (hexValue? y).isSome = true) : ∃ n, unit? a b x y = some n := by
  obtain ⟨_, ha⟩ := Option.isSome_iff_exists.mp ha
  obtain ⟨_, hb⟩ := Option.isSome_iff_exists.mp hb
  obtain ⟨_, hx⟩ := Option.isSome_iff_exists.mp hx
  obtain ⟨_, hy⟩ := Option.isSome_iff_exists.mp hy
  exact ⟨_, by rw [unit?, ha, hb, hx, hy]; rfl⟩

theorem quotable_of_units {value : Nat} {lead : Option Nat} {cs : List Char}
    (h : Completes (.hex 0 value lead) cs) : Quotable ('\\' :: 'u' :: cs) := by
  obtain ⟨units, tail, hlength, hunits, htail, rfl⟩ := h (by decide)
  obtain ⟨a, b, x, y, rfl⟩ : ∃ a b x y, units = [a, b, x, y] := List.length_eq_four.mp hlength
  simp only [List.forall_mem_cons] at hunits
  obtain ⟨n, hn⟩ := unit?_isSome hunits.1 hunits.2.1 hunits.2.2.1 hunits.2.2.2.1
  exact .unit hn htail

theorem completes_last {seen value : Nat} {lead : Option Nat} {x : Char} {cs : List Char}
    (hseen : ¬ seen < 3) (hx : (hexValue? x).isSome = true) (h : Quotable cs) :
    Completes (.hex seen value lead) (x :: cs) := by
  intro hlt
  refine ⟨[x], cs, ?_, List.forall_mem_singleton.mpr hx, h, rfl⟩
  rw [List.length_singleton]
  omega

theorem completes_next {seen value n : Nat} {lead : Option Nat} {x : Char} {cs : List Char}
    (hseen : seen < 3) (hx : (hexValue? x).isSome = true)
    (h : Completes (.hex (seen + 1) n lead) cs) : Completes (.hex seen value lead) (x :: cs) := by
  intro _
  obtain ⟨units, tail, hlength, hunits, htail, rfl⟩ := h (Nat.succ_lt_succ hseen)
  refine ⟨x :: units, tail, ?_, List.forall_mem_cons.mpr ⟨hx, hunits⟩, htail, rfl⟩
  rw [List.length_cons]
  omega

theorem accepted_cons {p q : List Char → Prop} {x : Char} {r behind : List Char}
    (hx : ∀ letters, p letters → q (x :: letters))
    (h : ∃ letters, p letters ∧ r = letters ++ behind) :
    ∃ letters, q letters ∧ x :: r = letters ++ behind := by
  obtain ⟨letters, hletters, rfl⟩ := h
  exact ⟨x :: letters, hx letters hletters, rfl⟩

theorem read_accepted {q : Quotation} {acc cs : List Char} {used : Nat} {s : String}
    (h : Quotation.read q acc cs used = .ok (s, c')) :
    ∃ letters, Completes q letters ∧ cs = letters ++ '"' :: c'.rest := by
  fun_induction Quotation.read q acc cs used
  -- The quote, the mark of an escape and a plain letter.
  case case2 =>
    cases h
    exact ⟨[], .nil, rfl⟩
  case case3 ih => exact accepted_cons (fun _ => id) (ih h)
  case case5 x _ _ hquote hback hcontrol ih =>
    have hx : isPlain x = true := by
      simp only [isPlain, Bool.and_eq_true, decide_eq_true_eq]
      exact ⟨⟨hquote, hback⟩, Nat.not_lt.mp hcontrol⟩
    exact accepted_cons (fun _ => Quotable.plain hx) (ih h)
  -- Behind the mark: the mark of a unit, or a letter.
  case case6 ih => exact accepted_cons (fun _ => quotable_of_units) (ih h)
  case case7 hx ih => exact accepted_cons (fun _ => Quotable.escape hx) (ih h)
  -- A letter of a unit, and the last one, behind which another unit may be due.
  case case10 hx _ hseen ih =>
    exact accepted_cons (fun _ => completes_next hseen (Option.isSome_of_eq_some hx)) (ih h)
  case case12 hx _ hseen _ _ ih =>
    exact accepted_cons (fun _ => completes_last hseen (Option.isSome_of_eq_some hx)) (ih h)
  case case13 hx _ hseen _ _ ih =>
    exact accepted_cons (fun _ => completes_last hseen (Option.isSome_of_eq_some hx)) (ih h)
  case case14 hx _ hseen _ _ ih =>
    exact accepted_cons (fun _ => completes_last hseen (Option.isSome_of_eq_some hx)) (ih h)
  -- The mark in front of the second half of a pair.
  case case16 ih => exact accepted_cons (fun _ => id) (ih h)
  case case18 ih => exact accepted_cons (fun _ => quotable_of_units) (ih h)
  all_goals cases h

theorem quotation_accepted {s : String} (h : quotation c = .ok (s, c')) :
    ∃ letters, Quotable letters ∧ c.rest = letters ++ '"' :: c'.rest := read_accepted h

end Quotations

section Numerals

theorem digits_split (c : Cursor) :
    (∀ d ∈ Numeral.digits c, isDigit d = true) ∧
      c.rest = Numeral.digits c ++ (Numeral.skipDigits c).rest :=
  ⟨List.all_eq_true.mp List.all_takeWhile, List.takeWhile_append_dropWhile.symm⟩

theorem startsWith_next {p : Char → Bool} (h : Numeral.startsWith p c = true) :
    ∃ x, p x = true ∧ c.rest = x :: c.next.rest := by
  rw [Numeral.startsWith] at h
  rw [Cursor.next]
  cases hr : c.rest with
  | nil =>
      rw [hr] at h
      cases h
  | cons x r =>
      rw [hr] at h
      exact ⟨x, h, rfl⟩

theorem finish_accepted {negative : Bool} {significand : Nat} {e : Int} {n : Number}
    (h : Numeral.finish negative significand e c = .ok (n, c')) : c' = c := by
  rw [Numeral.finish] at h
  split at h
  next =>
    cases h
    rfl
  next => cases h

theorem sign_split (c : Cursor) :
    ∃ sign, (sign = [] ∨ sign = ['+'] ∨ sign = ['-']) ∧ c.rest = sign ++
      (if Numeral.startsWith (fun x => x == '+' || x == '-') c then c.next else c).rest := by
  split
  next hsign =>
    obtain ⟨x, hx, hr⟩ := startsWith_next hsign
    simp only [Bool.or_eq_true, beq_iff_eq] at hx
    rcases hx with rfl | rfl
    · exact ⟨['+'], .inr (.inl rfl), hr⟩
    · exact ⟨['-'], .inr (.inr rfl), hr⟩
  next => exact ⟨[], .inl rfl, rfl⟩

theorem exponent_accepted {negative : Bool} {significand : Nat} {e : Int} {n : Number}
    (h : Numeral.exponent negative significand e c = .ok (n, c')) :
    ∃ sign ds, (sign = [] ∨ sign = ['+'] ∨ sign = ['-']) ∧ Digits ds ∧
      c.rest = sign ++ (ds ++ c'.rest) := by
  obtain ⟨sign, hsign, hrest⟩ := sign_split c
  rw [Numeral.exponent] at h
  generalize (if Numeral.startsWith (fun x => x == '+' || x == '-') c then c.next else c) = c₁
    at h hrest
  split at h
  next => cases h
  next x r hr =>
    split at h
    next hx =>
      obtain ⟨hall, hdigits⟩ := digits_split c₁
      have hne : Numeral.digits c₁ ≠ [] := by
        rw [Numeral.digits, hr, List.takeWhile_cons_of_pos hx]
        exact List.cons_ne_nil _ _
      have hbehind : c' = Numeral.skipDigits c₁ := by
        dsimp only at h
        split at h
        next => exact finish_accepted h
        next =>
          split at h
          next => cases h
          next =>
            cases h
            rfl
      exact ⟨sign, Numeral.digits c₁, hsign, ⟨hne, hall⟩, by rw [hrest, hbehind, ← hdigits]⟩
    next => cases h

theorem mark_accepted {negative : Bool} {significand : Nat} {e : Int} {n : Number}
    (hmark : Numeral.startsWith Numeral.isExponentMark c = true)
    (h : Numeral.exponent negative significand e c.next = .ok (n, c')) :
    ∃ exponent, IsExponent exponent ∧ c.rest = exponent ++ c'.rest := by
  obtain ⟨x, hx, hr⟩ := startsWith_next hmark
  obtain ⟨sign, ds, hsign, hds, hrest⟩ := exponent_accepted h
  refine ⟨x :: (sign ++ ds), .mark hx hsign hds, ?_⟩
  rw [hr, hrest, List.cons_append, List.append_assoc]

theorem fraction_accepted {negative : Bool} {significand : Nat} {e : Int} {n : Number}
    (h : Numeral.fraction negative significand e c = .ok (n, c')) :
    ∃ ds exponent, Digits ds ∧ IsExponent exponent ∧ c.rest = ds ++ (exponent ++ c'.rest) := by
  obtain ⟨hall, hdigits⟩ := digits_split c
  rw [Numeral.fraction] at h
  dsimp only at h
  split at h
  next => split at h <;> cases h
  next hne =>
    have hds : Digits (Numeral.digits c) := ⟨fun he => hne (List.isEmpty_iff.mpr he), hall⟩
    split at h
    next hmark =>
      obtain ⟨exponent, hexponent, hrest⟩ := mark_accepted hmark h
      exact ⟨_, exponent, hds, hexponent, by rw [← hrest, ← hdigits]⟩
    next =>
      rw [finish_accepted h]
      exact ⟨_, [], hds, .absent, hdigits⟩

theorem integral_accepted {negative : Bool} {ds : List Char} {n : Number}
    (h : Numeral.integral negative ds c = .ok (n, c')) :
    ∃ fraction exponent, IsFraction fraction ∧ IsExponent exponent ∧
      c.rest = fraction ++ (exponent ++ c'.rest) := by
  rw [Numeral.integral] at h
  dsimp only at h
  split at h
  next hpoint =>
    obtain ⟨x, hx, hr⟩ := startsWith_next hpoint
    obtain ⟨ds, exponent, hds, hexponent, hrest⟩ := fraction_accepted h
    rw [hr, hrest, beq_iff_eq.mp hx]
    exact ⟨'.' :: ds, exponent, .point hds, hexponent, rfl⟩
  next =>
    split at h
    next hmark =>
      obtain ⟨exponent, hexponent, hrest⟩ := mark_accepted hmark h
      exact ⟨[], exponent, .absent, hexponent, hrest⟩
    next =>
      have hbehind : c' = c := by
        split at h
        next =>
          split at h
          next =>
            cases h
            rfl
          next => cases h
        next => exact finish_accepted h
      rw [hbehind]
      exact ⟨[], [], .absent, .absent, rfl⟩

theorem numeral_accepted {negative : Bool} {n : Number} (h : numeral negative c = .ok (n, c')) :
    ∃ cs, IsUnsigned cs ∧ c.rest = cs ++ c'.rest := by
  have hparts {whole : List Char} {behind : Cursor} (hwhole : IsWhole whole)
      (hc : c.rest = whole ++ behind.rest) {ds : List Char}
      (h : Numeral.integral negative ds behind = .ok (n, c')) :
      ∃ cs, IsUnsigned cs ∧ c.rest = cs ++ c'.rest := by
    obtain ⟨fraction, exponent, hfraction, hexponent, hrest⟩ := integral_accepted h
    exact ⟨_, .parts hwhole hfraction hexponent, by rw [hc, hrest]; simp⟩
  rw [numeral] at h
  split at h
  next => cases h
  next x r hr =>
    split at h
    next hzero =>
      dsimp only at h
      split at h
      next => cases h
      next => exact hparts .zero (by rw [hr, hzero]; rfl) h
    next hzero =>
      split at h
      next hx =>
        obtain ⟨hall, hdigits⟩ := digits_split c
        have hcons : Numeral.digits c = x :: r.takeWhile isDigit := by
          rw [Numeral.digits, hr, List.takeWhile_cons_of_pos hx]
        have hwhole : IsWhole (Numeral.digits c) := by
          rw [hcons] at hall ⊢
          exact .digits hzero ⟨List.cons_ne_nil _ _, hall⟩
        exact hparts hwhole hdigits h
      next => cases h

end Numerals

section Brackets

def Accepts (read : Scan α) : Prop :=
  ∀ ⦃c x c'⦄, read c = .ok (x, c') → ∃ form before core, Blank before ∧ Writes form core ∧
    c.rest = before ++ (core ++ c'.rest)

/-- The remaining items of a list, up to the bracket that closes it, stand in front of `rest`. -/
def HoldsItems (first : Bool) (cs rest : List Char) : Prop :=
  ∃ (gap : List Char) (slots : List Slot), Blank gap ∧ (∀ s ∈ slots, s.Apart) ∧
    (∀ s ∈ slots, Writes s.form s.core) ∧
    cs = gap ++ (pieces ']' first (slots.map Slot.text) ++ rest)

def HoldsMembers (first : Bool) (cs rest : List Char) : Prop :=
  ∃ (gap : List Char) (entries : List Entry), Blank gap ∧ (∀ e ∈ entries, e.Apart) ∧
    (∀ e ∈ entries, Quotable e.key) ∧ (∀ e ∈ entries, Writes e.slot.form e.slot.core) ∧
    cs = gap ++ (pieces '\x7d' first (entries.map Entry.text) ++ rest)

variable {first : Bool} {gap before beforeKey behindKey key core cs rest : List Char} {form : Form}

theorem holdsItems_close (first : Bool) (hg : Blank gap) (rest : List Char) :
    HoldsItems first (gap ++ ']' :: rest) rest :=
  ⟨gap, [], hg, List.forall_mem_nil _, List.forall_mem_nil _, rfl⟩

/-- The blanks in front of what follows an item belong to the item. -/
theorem holdsItems_item (first : Bool) (hg : Blank gap) (hb : Blank before)
    (hw : Writes form core) (h : HoldsItems false cs rest) :
    HoldsItems first (gap ++ (separator first ++ (before ++ (core ++ cs)))) rest := by
  obtain ⟨behind, slots, hbehind, hapart, hwrites, rfl⟩ := h
  refine ⟨gap, ⟨before, core, behind, form⟩ :: slots, hg,
    List.forall_mem_cons.mpr ⟨⟨hb, hbehind⟩, hapart⟩, List.forall_mem_cons.mpr ⟨hw, hwrites⟩, ?_⟩
  simp only [List.map_cons, pieces, Slot.text, List.append_assoc]

theorem items_accepted {read : Scan α} (hread : Accepts read) {seen xs : List α}
    {closing : Cursor} (h : items read steps first seen c = .ok (xs, closing))
    (hclose : leaveList closing = .ok c') : HoldsItems first c.rest c'.rest := by
  induction steps generalizing first seen c with
  | zero => cases h
  | succ steps ih =>
      rw [items] at h
      obtain ⟨⟨more, c₁⟩, hmore, h⟩ := bind_ok_iff.mp h
      obtain ⟨gap, hg, before, hb, hrest⟩ := moreItems_accepted hmore
      cases more with
      | false =>
          cases h
          obtain ⟨gap', hg', hrest'⟩ := leaveList_accepted hclose
          have hblank := Passing.blank_append hg (Passing.blank_append hb hg')
          have hclosed := holdsItems_close first hblank c'.rest
          rw [List.append_assoc, List.append_assoc] at hclosed
          rw [hrest, hrest']
          exact hclosed
      | true =>
          obtain ⟨⟨x, c₂⟩, hx, h⟩ := bind_ok_iff.mp h
          obtain ⟨form, before', core, hb', hw, hrest'⟩ := hread hx
          have hitem := holdsItems_item first hg (Passing.blank_append hb hb') hw (ih h)
          rw [hrest, hrest', ← List.append_assoc before before']
          exact hitem

theorem holdsMembers_close (first : Bool) (hg : Blank gap) (rest : List Char) :
    HoldsMembers first (gap ++ '\x7d' :: rest) rest :=
  ⟨gap, [], hg, List.forall_mem_nil _, List.forall_mem_nil _, List.forall_mem_nil _, rfl⟩

theorem holdsMembers_member (first : Bool) (hg : Blank gap) (hbk : Blank beforeKey)
    (hk : Quotable key) (hbk' : Blank behindKey) (hb : Blank before) (hw : Writes form core)
    (h : HoldsMembers false cs rest) :
    HoldsMembers first (gap ++ (separator first ++ (beforeKey ++ '"' :: (key ++ '"' ::
      (behindKey ++ ':' :: (before ++ (core ++ cs))))))) rest := by
  obtain ⟨behind, entries, hbehind, hapart, hkeys, hwrites, rfl⟩ := h
  refine ⟨gap, ⟨beforeKey, key, behindKey, ⟨before, core, behind, form⟩⟩ :: entries, hg,
    List.forall_mem_cons.mpr ⟨⟨hbk, hbk', hb, hbehind⟩, hapart⟩,
    List.forall_mem_cons.mpr ⟨hk, hkeys⟩, List.forall_mem_cons.mpr ⟨hw, hwrites⟩, ?_⟩
  rw [Contents.entry_text]
  rfl

theorem members_accepted {read : Scan α} (hread : Accepts read) {seen ms : List (String × α)}
    {closing : Cursor} (h : members read steps first seen c = .ok (ms, closing))
    (hclose : leaveObject closing = .ok c') : HoldsMembers first c.rest c'.rest := by
  induction steps generalizing first seen c with
  | zero => cases h
  | succ steps ih =>
      rw [members] at h
      obtain ⟨⟨more, c₁⟩, hmore, h⟩ := bind_ok_iff.mp h
      cases more with
      | false =>
          cases h
          obtain ⟨gap, hg, hrest⟩ := moreMembers_close_accepted hmore
          obtain ⟨gap', hg', hrest'⟩ := leaveObject_accepted hclose
          rw [hrest, hrest', ← List.append_assoc]
          exact holdsMembers_close first (Passing.blank_append hg hg') c'.rest
      | true =>
          obtain ⟨gap, hg, beforeKey, hbk, hrest⟩ := moreMembers_key_accepted hmore
          obtain ⟨⟨key, c₂⟩, hkey, h⟩ := bind_ok_iff.mp h
          obtain ⟨letters, hletters, hkey⟩ := quotation_accepted hkey
          obtain ⟨c₃, hcolon, h⟩ := bind_ok_iff.mp h
          obtain ⟨behindKey, hbk', hcolon⟩ := colon_accepted hcolon
          obtain ⟨⟨x, c₄⟩, hx, h⟩ := bind_ok_iff.mp h
          obtain ⟨form, before, core, hb, hw, hx⟩ := hread hx
          rw [hrest, hkey, hcolon, hx]
          exact holdsMembers_member first hg hbk hletters hbk' hb hw (ih h)

end Brackets

section Values

theorem listBody_accepted {read : Scan α} (hread : Accepts read) {xs : List α}
    (h : listBody read steps c = .ok (xs, c')) :
    ∃ form core, Writes form core ∧ '[' :: c.rest = core ++ c'.rest := by
  obtain ⟨⟨_, closing⟩, hitems, h⟩ := bind_ok_iff.mp h
  obtain ⟨_, hclose, h⟩ := bind_ok_iff.mp h
  cases h
  obtain ⟨gap, slots, hg, hapart, hwrites, hrest⟩ := items_accepted hread hitems hclose
  exact ⟨_, _, .array hg hapart hwrites, by rw [hrest]; simp⟩

theorem objectBody_accepted {read : Scan α} (hread : Accepts read) {ms : List (String × α)}
    (h : objectBody read steps c = .ok (ms, c')) :
    ∃ form core, Writes form core ∧ '\x7b' :: c.rest = core ++ c'.rest := by
  obtain ⟨⟨_, closing⟩, hmembers, h⟩ := bind_ok_iff.mp h
  obtain ⟨_, hclose, h⟩ := bind_ok_iff.mp h
  cases h
  obtain ⟨gap, entries, hg, hapart, hkeys, hwrites, hrest⟩ :=
    members_accepted hread hmembers hclose
  exact ⟨_, _, .object hg hapart hkeys hwrites, by rw [hrest]; simp⟩

theorem wordFrom_accepted {l : Char} {ls r : List Char} {used : Nat} (hr : c.rest = l :: r)
    (h : word ls ⟨r, used⟩ = .ok c') : c.rest = (l :: ls) ++ c'.rest :=
  rest_cons hr (word_accepted h)

theorem valueAt_accepts {inner : Option (Scan Json)} (hinner : ∀ read ∈ inner, Accepts read) :
    Accepts (valueAt steps inner) := by
  intro c x c' h
  obtain ⟨before, hb, hrest⟩ := skipSpace_blanks c
  suffices hcore : ∃ form core, Writes form core ∧ c.skipSpace.rest = core ++ c'.rest by
    obtain ⟨form, core, hw, hcore⟩ := hcore
    exact ⟨form, before, core, hb, hw, by rw [hrest, hcore]⟩
  -- The cases come in the order in which `valueAt` asks for them.
  rw [valueAt] at h
  split at h
  next => cases h
  next r hr =>
    obtain ⟨_, hword, h⟩ := map_ok_iff.mp h
    cases h
    exact ⟨_, _, .null, wordFrom_accepted hr hword⟩
  next r hr =>
    obtain ⟨_, hword, h⟩ := map_ok_iff.mp h
    cases h
    exact ⟨_, _, .yes, wordFrom_accepted hr hword⟩
  next r hr =>
    obtain ⟨_, hword, h⟩ := map_ok_iff.mp h
    cases h
    exact ⟨_, _, .no, wordFrom_accepted hr hword⟩
  next r hr =>
    obtain ⟨⟨_, _⟩, hquotation, h⟩ := map_ok_iff.mp h
    cases h
    obtain ⟨letters, hletters, hr'⟩ := quotation_accepted hquotation
    exact ⟨_, _, .quoted hletters, by rw [rest_cons hr hr']; simp⟩
  next r hr =>
    obtain ⟨⟨_, _⟩, hnumeral, h⟩ := map_ok_iff.mp h
    cases h
    obtain ⟨cs, hcs, hr'⟩ := numeral_accepted hnumeral
    exact ⟨_, _, .numeral (.negative hcs), by rw [rest_cons hr hr']; simp⟩
  next r hr =>
    split at h
    next => cases h
    next read =>
      obtain ⟨⟨_, _⟩, hbody, h⟩ := map_ok_iff.mp h
      cases h
      rw [hr]
      exact listBody_accepted (hinner read rfl) hbody
  next r hr =>
    split at h
    next => cases h
    next read =>
      obtain ⟨⟨_, _⟩, hbody, h⟩ := map_ok_iff.mp h
      cases h
      rw [hr]
      exact objectBody_accepted (hinner read rfl) hbody
  next =>
    split at h
    next =>
      obtain ⟨⟨_, _⟩, hnumeral, h⟩ := map_ok_iff.mp h
      cases h
      obtain ⟨cs, hcs, hr⟩ := numeral_accepted hnumeral
      exact ⟨_, _, .numeral (.positive hcs), hr⟩
    next => cases h

theorem value_accepts (steps room : Nat) : Accepts (value steps room) := by
  induction room with
  | zero => exact valueAt_accepts fun read h => nomatch h
  | succ room ih =>
      refine valueAt_accepts fun read h => ?_
      cases h
      exact ih

/-- A text that is read at all is well formed. -/
theorem holds_of_run {text : String} {v : Json} (h : any.run text = .ok v) :
    ∃ form, Holds form text := by
  obtain ⟨⟨_, behind⟩, hvalue, h⟩ := bind_ok_iff.mp (mapError_ok_iff.mp h)
  obtain ⟨form, before, core, hb, hw, hrest⟩ := value_accepts _ _ hvalue
  dsimp only at h
  split at h
  next hend =>
    obtain ⟨gap, hg, hgap⟩ := blanks_of_skipSpace (List.isEmpty_iff.mp hend)
    rw [List.append_nil] at hgap
    exact ⟨form, before, core, gap, hb, hw, hg, by rw [← hgap, ← hrest]; rfl⟩
  next => cases h

end Values

end LineTopology.Proofs.Acceptance
