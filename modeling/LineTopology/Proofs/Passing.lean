import LineTopology.Json.Reader.Skip
import LineTopology.Proofs.Quotations

namespace LineTopology.Proofs.Passing

open Text Json Tokens Trees Grammar Numerals Quotations

variable {form : Form} {core rest gap : List Char} {used steps : Nat} {bracket : Bracket}
  {enclosing : List Bracket}

section Positions

theorem skipSpace_starts (h : Starts core) (rest : List Char) (used : Nat) :
    Cursor.skipSpace ⟨core ++ rest, used⟩ = ⟨core ++ rest, used⟩ := by
  obtain ⟨x, r, rfl, hspace, _⟩ := h
  exact skipSpace_cons hspace

theorem skipSpace_text (hg : Blank gap) (h : Starts core) (rest : List Char) (used : Nat) :
    Cursor.skipSpace ⟨gap ++ (core ++ rest), used⟩ = ⟨core ++ rest, used + gap.length⟩ := by
  rw [skipSpace_blank hg, skipSpace_starts h]

theorem skipSpace_mark (hg : Blank gap) {x : Char} (hx : Cursor.isSpace x = false)
    (rest : List Char) (used : Nat) :
    Cursor.skipSpace ⟨gap ++ x :: rest, used⟩ = ⟨x :: rest, used + gap.length⟩ := by
  rw [skipSpace_blank hg, skipSpace_cons hx]

theorem blank_append {front behind : List Char} (hf : Blank front) (hb : Blank behind) :
    Blank (front ++ behind) := fun c hc => (List.mem_append.mp hc).elim (hf c) (hb c)

theorem bounded_blank (hg : Blank gap) (hr : Bounded rest) : Bounded (gap ++ rest) := by
  cases gap with
  | nil => exact hr
  | cons x gap =>
      rintro y ⟨⟩
      exact mem_marks_of_isSpace (hg x List.mem_cons_self)

theorem bounded_pieces {close : Char} (hc : close = ']' ∨ close = '\x7d') (ps : List (List Char))
    (rest : List Char) : Bounded (pieces close false ps ++ rest) := by
  cases ps with
  | nil =>
      rintro y ⟨⟩
      rcases hc with rfl | rfl <;> simp [marks]
  | cons p ps =>
      rintro y ⟨⟩
      simp [marks]

theorem colon_passes (hg : Blank gap) (rest : List Char) (used : Nat) :
    colon ⟨gap ++ ':' :: rest, used⟩ = .ok ⟨rest, used + gap.length + 1⟩ := by
  rw [colon, skipSpace_mark hg (by decide)]
  rfl

end Positions

/-- Passing over the letters of a value takes no more steps than there are letters, inside whatever
brackets they stand. -/
def Passes (core : List Char) : Prop :=
  ∀ before enclosing rest used steps, Blank before → Bounded rest → core.length ≤ steps →
    ∃ left used', steps ≤ left + core.length ∧
      Unread.skip steps ⟨true, enclosing⟩ ⟨before ++ (core ++ rest), used⟩ =
        Unread.skip left ⟨false, enclosing⟩ ⟨rest, used'⟩

section Scalars

theorem scalar_passes (hs : Starts core)
    (hb : core.head? ≠ some '[' ∧ core.head? ≠ some '\x7b') (h : Passed skipScalar core) :
    Passes core := by
  intro before enclosing rest used steps hbefore hrest hsteps
  obtain ⟨x, r, rfl, hspace, hclose⟩ := hs
  obtain ⟨used', hpassed⟩ := h rest (used + before.length) hrest
  have hvalue : Unread.value enclosing ⟨before ++ (x :: r ++ rest), used⟩ =
      .ok (⟨false, enclosing⟩, ⟨rest, used'⟩) := by
    rw [List.cons_append] at hpassed ⊢
    rw [Unread.value, skipSpace_mark hbefore hspace]
    simp only [List.head?_cons, ne_eq, Option.some.injEq] at hb
    split
    next he => exact absurd (List.cons.inj he).1 hb.1
    next he => exact absurd (List.cons.inj he).1 hb.2
    next =>
      rw [hpassed]
      rfl
  rw [List.length_cons] at hsteps ⊢
  obtain ⟨left, rfl⟩ := Nat.exists_eq_add_one.mpr (show 0 < steps by omega)
  refine ⟨left, used', by omega, ?_⟩
  rw [Unread.skip, hvalue]
  rfl

theorem numeral_passed (h : IsNumeral core) : Passed skipScalar core := by
  intro rest used hb
  cases h with
  | positive h =>
      obtain ⟨used', hpassed⟩ := skipNumeral_passed h rest used hb
      obtain ⟨d, r, rfl, hd⟩ := h.head
      refine ⟨used', ?_⟩
      rw [← hpassed, List.cons_append, skipScalar]
      split <;> simp_all [isDigit]
  | negative h => exact skipNumeral_passed h rest (used + 1) hb

end Scalars

section Brackets

structure Piece where
  lead : List Char
  slot : Slot

def Piece.text (p : Piece) : List Char := p.lead ++ p.slot.text

structure Reachable (bracket : Bracket) (p : Piece) : Prop where
  first : ∀ gap enclosing rest used, Blank gap → ∃ before used', Blank before ∧
    Unread.opened bracket enclosing
        ⟨gap ++ (p.lead ++ (p.slot.before ++ (p.slot.core ++ rest))), used⟩ =
      .ok (⟨true, bracket :: enclosing⟩, ⟨before ++ (p.slot.core ++ rest), used'⟩)
  later : ∀ rest used, ∃ used', skipKey bracket ⟨p.lead ++ rest, used⟩ = .ok ⟨rest, used'⟩
  apart : p.slot.Apart
  passes : Passes p.slot.core

theorem closing_bounds (bracket : Bracket) : bracket.closing = ']' ∨ bracket.closing = '\x7d' := by
  cases bracket with
  | list => exact .inl rfl
  | object => exact .inr rfl

theorem closing_marks (bracket : Bracket) :
    Cursor.isSpace bracket.closing = false ∧ bracket.closing ≠ ',' := by
  cases bracket <;> decide

theorem follow_passes {ps : List Piece} (h : ∀ p ∈ ps, Reachable bracket p) (hg : Blank gap)
    (hsteps : (gap ++ pieces bracket.closing false (ps.map Piece.text)).length ≤ steps)
    (enclosing : List Bracket) (rest : List Char) (used : Nat) :
    ∃ left used', steps ≤
        left + (gap ++ pieces bracket.closing false (ps.map Piece.text)).length ∧
      Unread.skip steps ⟨false, bracket :: enclosing⟩
          ⟨gap ++ (pieces bracket.closing false (ps.map Piece.text) ++ rest), used⟩ =
        Unread.skip left ⟨false, enclosing⟩ ⟨rest, used'⟩ := by
  induction ps generalizing gap steps used with
  | nil =>
      obtain ⟨hspace, hcomma⟩ := closing_marks bracket
      simp only [List.map_nil, pieces, List.length_append, List.length_cons, List.length_nil]
        at hsteps ⊢
      obtain ⟨left, rfl⟩ := Nat.exists_eq_add_one.mpr (show 0 < steps by omega)
      refine ⟨left, used + gap.length + 1, by omega, ?_⟩
      have hfollow : Unread.follow bracket enclosing ⟨gap ++ ([bracket.closing] ++ rest), used⟩ =
          .ok (⟨false, enclosing⟩, ⟨rest, used + gap.length + 1⟩) := by
        rw [List.singleton_append, Unread.follow, skipSpace_mark hg hspace]
        simp only [hcomma, if_false, if_true]
      rw [Unread.skip, hfollow]
      rfl
  | cons p ps ih =>
      obtain ⟨hp, hps⟩ := List.forall_mem_cons.mp h
      let tail := pieces bracket.closing false (ps.map Piece.text)
      simp only [List.map_cons, pieces, separator, Piece.text, Slot.text, List.length_append,
        List.length_cons, List.length_nil] at hsteps ⊢
      obtain ⟨afterComma, rfl⟩ := Nat.exists_eq_add_one.mpr (show 0 < steps by omega)
      obtain ⟨atValue, hlead⟩ :=
        hp.later (p.slot.before ++ (p.slot.core ++ (p.slot.behind ++ (tail ++ rest))))
          (used + gap.length + 1)
      have hfollow : Unread.follow bracket enclosing
          ⟨gap ++ (',' :: (p.lead ++ (p.slot.before ++ (p.slot.core ++
            (p.slot.behind ++ (tail ++ rest)))))), used⟩ =
          .ok (⟨true, bracket :: enclosing⟩,
            ⟨p.slot.before ++ (p.slot.core ++ (p.slot.behind ++ (tail ++ rest))), atValue⟩) := by
        rw [Unread.follow, skipSpace_mark hg (by decide)]
        simp only [if_true, hlead]
        rfl
      have hbounded : Bounded (p.slot.behind ++ (tail ++ rest)) :=
        bounded_blank hp.apart.2 (bounded_pieces (closing_bounds bracket) _ rest)
      obtain ⟨afterValue, behind, hvalue, hpassed⟩ := hp.passes p.slot.before (bracket :: enclosing)
        (p.slot.behind ++ (tail ++ rest)) atValue afterComma hp.apart.1 hbounded (by omega)
      have hroom : (p.slot.behind ++ tail).length ≤ afterValue := by
        simp only [tail, List.length_append]
        omega
      obtain ⟨left, used', hleft, htail⟩ := ih hps hp.apart.2 hroom behind
      refine ⟨left, used', ?_, ?_⟩
      · simp only [List.length_append] at hleft
        omega
      · rw [← htail, ← hpassed, ← List.append_assoc]
        simp only [List.append_assoc, List.cons_append, List.nil_append]
        rw [Unread.skip, hfollow]
        rfl

theorem bracket_passes (bracket : Bracket) {ps : List Piece} {opening : Char} (hg : Blank gap)
    (hopen : ∀ enclosing rest used, Unread.value enclosing ⟨opening :: rest, used⟩ =
      Unread.opened bracket enclosing ⟨rest, used + 1⟩)
    (hspace : Cursor.isSpace opening = false) (h : ∀ p ∈ ps, Reachable bracket p) :
    Passes (opening :: (gap ++ pieces bracket.closing true (ps.map Piece.text))) := by
  intro before enclosing rest used steps hbefore hrest hsteps
  simp only [List.length_cons, List.length_append] at hsteps ⊢
  obtain ⟨afterOpening, rfl⟩ := Nat.exists_eq_add_one.mpr (show 0 < steps by omega)
  have hvalue (text : List Char) : Unread.value enclosing ⟨before ++ opening :: text, used⟩ =
      Unread.opened bracket enclosing ⟨text, used + before.length + 1⟩ := by
    rw [← hopen, Unread.value, Unread.value, skipSpace_mark hbefore hspace, skipSpace_cons hspace]
  cases ps with
  | nil =>
      obtain ⟨hclosing, _⟩ := closing_marks bracket
      refine ⟨afterOpening, used + before.length + 1 + gap.length + 1, by omega, ?_⟩
      have hopened : Unread.opened bracket enclosing
          ⟨gap ++ bracket.closing :: rest, used + before.length + 1⟩ =
          .ok (⟨false, enclosing⟩, ⟨rest, used + before.length + 1 + gap.length + 1⟩) := by
        rw [Unread.opened, skipSpace_mark hg hclosing]
        simp only [if_true]
      simp only [List.map_nil, pieces, List.cons_append, List.append_assoc, List.nil_append]
      rw [Unread.skip, hvalue, hopened]
      rfl
  | cons p ps =>
      obtain ⟨hp, hps⟩ := List.forall_mem_cons.mp h
      let tail := pieces bracket.closing false (ps.map Piece.text)
      obtain ⟨blank, atValue, hblank, hopened⟩ := hp.first gap enclosing
        (p.slot.behind ++ (tail ++ rest)) (used + before.length + 1) hg
      have hbounded : Bounded (p.slot.behind ++ (tail ++ rest)) :=
        bounded_blank hp.apart.2 (bounded_pieces (closing_bounds bracket) _ rest)
      simp only [List.map_cons, pieces, separator, Piece.text, Slot.text, List.length_append,
        List.length_nil] at hsteps ⊢
      obtain ⟨afterValue, behind, hvalueLength, hpassed⟩ := hp.passes blank (bracket :: enclosing)
        (p.slot.behind ++ (tail ++ rest)) atValue afterOpening hblank hbounded (by omega)
      have hroom : (p.slot.behind ++ tail).length ≤ afterValue := by
        simp only [tail, List.length_append]
        omega
      obtain ⟨left, used', hleft, htail⟩ :=
        follow_passes hps hp.apart.2 hroom enclosing rest behind
      refine ⟨left, used', ?_, ?_⟩
      · simp only [List.length_append] at hleft
        omega
      · rw [← htail, ← hpassed]
        simp only [List.append_assoc, List.cons_append, List.nil_append]
        rw [Unread.skip, hvalue, hopened]
        rfl

theorem item_reachable {s : Slot} (hs : s.Apart) (h : Starts s.core) (hp : Passes s.core) :
    Reachable .list ⟨[], s⟩ := by
  refine ⟨fun gap enclosing rest used hg => ?_, fun rest used => ⟨used, rfl⟩, hs, hp⟩
  have hopened : Unread.opened .list enclosing ⟨gap ++ (s.before ++ (s.core ++ rest)), used⟩ =
      .ok (⟨true, .list :: enclosing⟩, ⟨s.core ++ rest, used + (gap ++ s.before).length⟩) := by
    rw [← List.append_assoc, Unread.opened, skipSpace_text (blank_append hg hs.1) h]
    obtain ⟨x, r, hcore, _, hclose⟩ := h
    simp only [hcore, List.cons_append, Bracket.closing, hclose, if_false, skipKey]
    rfl
  exact ⟨[], _, blank_nil, hopened⟩

theorem member_reachable {e : Entry} (he : e.Apart) (hk : Quotable e.key)
    (hp : Passes e.slot.core) : Reachable .object ⟨e.lead, e.slot⟩ := by
  obtain ⟨hbeforeKey, hbehindKey, hslot⟩ := he
  have hkey (rest : List Char) (used : Nat) : ∃ used', skipKey .object
      ⟨'"' :: (e.key ++ '"' :: (e.behindKey ++ ':' :: rest)), used⟩ = .ok ⟨rest, used'⟩ := by
    obtain ⟨behind, hquoted⟩ := skipQuotation_passes hk (e.behindKey ++ ':' :: rest) (used + 1)
    refine ⟨behind + e.behindKey.length + 1, ?_⟩
    rw [skipKey, skipSpace_cons (by decide)]
    simp only [hquoted]
    exact colon_passes hbehindKey rest behind
  have hquote : ('"' : Char) ≠ Bracket.closing .object := by decide
  refine ⟨fun gap enclosing rest used hg => ?_, fun rest used => ?_, hslot, hp⟩
  · obtain ⟨used', hpassed⟩ :=
      hkey (e.slot.before ++ (e.slot.core ++ rest)) (used + (gap ++ e.beforeKey).length)
    refine ⟨e.slot.before, used', hslot.1, ?_⟩
    simp only [Entry.lead, List.append_assoc, List.cons_append, List.nil_append]
    rw [← List.append_assoc gap, Unread.opened,
      skipSpace_mark (blank_append hg hbeforeKey) (by decide)]
    simp only [hquote, if_false, hpassed]
    rfl
  · obtain ⟨used', hpassed⟩ := hkey rest (used + e.beforeKey.length)
    refine ⟨used', ?_⟩
    rw [← hpassed]
    simp only [Entry.lead, List.append_assoc, List.cons_append, List.nil_append]
    rw [skipKey, skipKey, skipSpace_mark hbeforeKey (by decide), skipSpace_cons (by decide)]

end Brackets

/-- Every value is passed over, at any depth and whatever the size of its numbers. -/
theorem writes_passes (h : Writes form core) : Passes core := by
  have hstarts := h.starts
  induction h with
  | null | yes | no => exact scalar_passes hstarts (by decide) fun _ _ _ => ⟨_, rfl⟩
  | numeral h =>
      exact scalar_passes hstarts ⟨h.head_ne (by decide), h.head_ne (by decide)⟩ (numeral_passed h)
  | @quoted cs h =>
      refine scalar_passes hstarts (by simp) fun rest used _ => ?_
      obtain ⟨used', hpassed⟩ := skipQuotation_passes h rest (used + 1)
      refine ⟨used', ?_⟩
      rw [← hpassed]
      simp only [List.cons_append, List.append_assoc, List.nil_append]
      rfl
  | @array slots gap hg hapart hw ih =>
      have htext : slots.map Slot.text = (slots.map (Piece.mk [])).map Piece.text := by
        rw [List.map_map]
        rfl
      rw [htext]
      refine bracket_passes .list hg (fun _ _ _ => rfl) (by decide) fun p hp => ?_
      obtain ⟨s, hs, rfl⟩ := List.mem_map.mp hp
      exact item_reachable (hapart s hs) (hw s hs).starts (ih s hs (hw s hs).starts)
  | @object entries gap hg hapart hk hw ih =>
      have htext : entries.map Entry.text =
          (entries.map fun e => Piece.mk e.lead e.slot).map Piece.text := by
        rw [List.map_map]
        rfl
      rw [htext]
      refine bracket_passes .object hg (fun _ _ _ => rfl) (by decide) fun p hp => ?_
      obtain ⟨e, he, rfl⟩ := List.mem_map.mp hp
      exact member_reachable (hapart e he) (hk e he) (ih e he (hw e he).starts)

theorem skipValue_passes (h : Writes form core) {before : List Char} (hb : Blank before)
    (hr : Bounded rest) (hs : core.length ≤ steps) (used : Nat) :
    ∃ used', skipValue steps ⟨before ++ (core ++ rest), used⟩ = .ok ⟨rest, used'⟩ := by
  obtain ⟨left, used', _, hskip⟩ := writes_passes h before [] rest used steps hb hr hs
  exact ⟨used', hskip.trans (by cases left <;> rfl)⟩

end LineTopology.Proofs.Passing
