import LineTopology.Proofs.Passing

namespace LineTopology.Proofs.Contents

open Text Json Tokens Trees Grammar Numerals Quotations Passing

variable {α : Type} {core gap rest : List Char} {steps used : Nat}

/-- Wherever the letters of a value stand, the scan gives the same and leaves what is behind. -/
def Gives (read : Scan α) (core : List Char) (o : Option α) : Prop :=
  ∀ before rest used, Blank before → Bounded rest →
    Leaves (read ⟨before ++ (core ++ rest), used⟩) rest o

section Items

variable {read : Scan α} {m : Form → Option α}

theorem moreItems_blank (first : Bool) (hg : Blank gap) (rest : List Char) (used : Nat) :
    moreItems first ⟨gap ++ rest, used⟩ = moreItems first ⟨rest, used + gap.length⟩ := by
  rw [moreItems, moreItems, skipSpace_blank hg]

theorem moreItems_close (first : Bool) (hg : Blank gap) (rest : List Char) (used : Nat) :
    moreItems first ⟨gap ++ ']' :: rest, used⟩ = .ok (false, ⟨']' :: rest, used + gap.length⟩) := by
  rw [moreItems, skipSpace_mark hg (by decide)]
  rfl

theorem moreItems_comma (text : List Char) (used : Nat) : moreItems false ⟨',' :: text, used⟩ =
    match (Cursor.skipSpace ⟨text, used + 1⟩).rest with
    | [] => (Cursor.skipSpace ⟨text, used + 1⟩).fail .endOfValue
    | ']' :: _ => (Cursor.skipSpace ⟨text, used + 1⟩).fail .trailingComma
    | _ :: _ => .ok (true, Cursor.skipSpace ⟨text, used + 1⟩) := rfl

theorem moreItems_slot (first : Bool) {before : List Char} (hg : Blank gap) (hb : Blank before)
    (h : Starts core) (rest : List Char) (used : Nat) :
    ∃ used', moreItems first ⟨gap ++ (separator first ++ (before ++ (core ++ rest))), used⟩ =
      .ok (true, ⟨core ++ rest, used'⟩) := by
  obtain ⟨x, r, hcore, _, hclose⟩ := id h
  cases first with
  | true =>
      refine ⟨used + (gap ++ before).length, ?_⟩
      rw [separator, List.nil_append, ← List.append_assoc, moreItems,
        skipSpace_text (blank_append hg hb) h, hcore, List.cons_append]
      simp only [if_true]
  | false =>
      refine ⟨used + gap.length + 1 + before.length, ?_⟩
      rw [moreItems_blank false hg, separator, List.singleton_append, moreItems_comma,
        skipSpace_text hb h, hcore, List.cons_append]
      split
      next he => cases he
      next he => exact absurd (List.cons.inj he).1 hclose
      next => rfl

structure Readable (read : Scan α) (m : Form → Option α) (s : Slot) : Prop where
  apart : s.Apart
  starts : Starts s.core
  gives : Gives read s.core (m s.form)

theorem Readable.reads {s : Slot} (h : Readable read m s) {text : List Char} (hb : Bounded text)
    (used : Nat) : Leaves (read ⟨s.core ++ (s.behind ++ text), used⟩) (s.behind ++ text)
      (m s.form) := by
  have hread := h.gives [] (s.behind ++ text) used blank_nil (bounded_blank h.apart.2 hb)
  exact hread

/-- What the items mean, behind the ones before them, the latest of which comes first. -/
def each? (m : Form → Option α) (seen : List α) : List Form → Option (List α)
  | [] => some seen.reverse
  | v :: vs => (m v).bind fun x => each? m (x :: seen) vs

theorem items_read {first : Bool} {c c' : Cursor} (h : moreItems first c = .ok (true, c'))
    (seen : List α) : items read (steps + 1) first seen c =
      read c' >>= fun (x, c) => items read steps false (x :: seen) c := by
  rw [items, h]
  rfl

theorem items_leaves {slots : List Slot} (h : ∀ s ∈ slots, Readable read m s)
    (hs : slots.length < steps) (first : Bool) (hg : Blank gap) (seen : List α) (rest : List Char)
    (used : Nat) :
    Leaves (items read steps first seen
        ⟨gap ++ (pieces ']' first (slots.map Slot.text) ++ rest), used⟩) (']' :: rest)
      (each? m seen (slots.map Slot.form)) := by
  induction slots generalizing steps first gap seen used with
  | nil =>
      obtain ⟨steps, rfl⟩ := Nat.exists_eq_add_one.mpr (Nat.zero_lt_of_lt hs)
      refine ⟨used + gap.length, ?_⟩
      rw [items, List.map_nil, pieces, List.singleton_append, moreItems_close first hg]
      rfl
  | cons s slots ih =>
      obtain ⟨steps, rfl⟩ := Nat.exists_eq_add_one.mpr (Nat.zero_lt_of_lt hs)
      obtain ⟨hslot, hslots⟩ := List.forall_mem_cons.mp h
      let text := pieces ']' false (slots.map Slot.text) ++ rest
      obtain ⟨atItem, hmore⟩ := moreItems_slot first hg hslot.apart.1 hslot.starts
        (s.behind ++ text) used
      simp only [List.map_cons, pieces, Slot.text, List.append_assoc]
      rw [items_read hmore]
      exact (hslot.reads (bounded_pieces (.inl rfl) _ rest) atItem).bind fun x behind _ =>
        ih hslots (Nat.lt_of_succ_lt_succ hs) false hslot.apart.2 (x :: seen) behind

theorem listBody_leaves {slots : List Slot} (h : ∀ s ∈ slots, Readable read m s)
    (hs : slots.length < steps) (hg : Blank gap) (rest : List Char) (used : Nat) :
    Leaves (listBody read steps ⟨gap ++ (pieces ']' true (slots.map Slot.text) ++ rest), used⟩) rest
      (each? m [] (slots.map Slot.form)) :=
  (items_leaves h hs true hg [] rest used).closed fun _ => rfl

end Items

section Members

variable {read : Scan α} {m : Form → Option α}

theorem moreMembers_close (first : Bool) (hg : Blank gap) (rest : List Char) (used : Nat) :
    moreMembers first ⟨gap ++ '\x7d' :: rest, used⟩ =
      .ok (false, ⟨'\x7d' :: rest, used + gap.length⟩) := by
  rw [moreMembers, skipSpace_mark hg (by decide)]
  rfl

theorem moreMembers_blank (first : Bool) (hg : Blank gap) (rest : List Char) (used : Nat) :
    moreMembers first ⟨gap ++ rest, used⟩ = moreMembers first ⟨rest, used + gap.length⟩ := by
  rw [moreMembers, moreMembers, skipSpace_blank hg]

theorem moreMembers_comma (text : List Char) (used : Nat) :
    moreMembers false ⟨',' :: text, used⟩ =
      match (Cursor.skipSpace ⟨text, used + 1⟩).rest with
      | [] => (Cursor.skipSpace ⟨text, used + 1⟩).fail .endOfValue
      | '"' :: r => .ok (true, ⟨r, (Cursor.skipSpace ⟨text, used + 1⟩).used + 1⟩)
      | '\x7d' :: _ => (Cursor.skipSpace ⟨text, used + 1⟩).fail .trailingComma
      | _ :: _ => (Cursor.skipSpace ⟨text, used + 1⟩).fail .keyNotString := rfl

theorem moreMembers_quote (first : Bool) {before : List Char} (hg : Blank gap) (hb : Blank before)
    (rest : List Char) (used : Nat) :
    ∃ used', moreMembers first ⟨gap ++ (separator first ++ (before ++ '"' :: rest)), used⟩ =
      .ok (true, ⟨rest, used'⟩) := by
  cases first with
  | true =>
      refine ⟨used + (gap ++ before).length + 1, ?_⟩
      rw [separator, List.nil_append, ← List.append_assoc, moreMembers,
        skipSpace_mark (blank_append hg hb) (by decide)]
      rfl
  | false =>
      refine ⟨used + gap.length + 1 + before.length + 1, ?_⟩
      rw [moreMembers_blank false hg, separator, List.singleton_append, moreMembers_comma,
        skipSpace_mark hb (by decide)]
      rfl

structure Enterable (read : Scan α) (m : Form → Option α) (e : Entry) : Prop where
  apart : e.Apart
  key : Quotable e.key
  gives : Gives read e.slot.core (m e.slot.form)

def afterQuote (e : Entry) (text : List Char) : List Char :=
  e.key ++ '"' :: (e.behindKey ++ ':' ::
    (e.slot.before ++ (e.slot.core ++ (e.slot.behind ++ text))))

theorem entry_text (first : Bool) (e : Entry) (entries : List Entry) (rest : List Char) :
    pieces '\x7d' first ((e :: entries).map Entry.text) ++ rest =
      separator first ++ (e.beforeKey ++ '"' ::
        afterQuote e (pieces '\x7d' false (entries.map Entry.text) ++ rest)) := by
  simp only [List.map_cons, pieces, Entry.text, Entry.lead, Slot.text, afterQuote,
    List.append_assoc, List.cons_append, List.nil_append]

theorem Enterable.reads {e : Entry} (h : Enterable read m e) {text : List Char}
    (hb : Bounded text) (used : Nat) :
    Leaves (read ⟨e.slot.before ++ (e.slot.core ++ (e.slot.behind ++ text)), used⟩)
      (e.slot.behind ++ text) (m e.slot.form) :=
  h.gives e.slot.before (e.slot.behind ++ text) used h.apart.2.2.1
    (bounded_blank h.apart.2.2.2 hb)

def entries? (m : Form → Option α) (seen : List (String × α)) :
    List (List Char × Form) → Option (List (String × α))
  | [] => some seen
  | (cs, v) :: ms =>
      (spelled? cs).bind fun key =>
        (m v).bind fun x => entries? m (Dictionary.insert key x seen) ms

theorem members_read {first : Bool} {c c' : Cursor} (h : moreMembers first c = .ok (true, c'))
    (seen : List (String × α)) : members read (steps + 1) first seen c =
      (do
        let (key, c) ← quotation c'
        let c ← colon c
        let (x, c) ← read c
        members read steps false (Dictionary.insert key x seen) c) := by
  rw [members, h]
  rfl

theorem members_leaves {entries : List Entry} (h : ∀ e ∈ entries, Enterable read m e)
    (hs : entries.length < steps) (first : Bool) (hg : Blank gap) (seen : List (String × α))
    (rest : List Char) (used : Nat) :
    Leaves (members read steps first seen
        ⟨gap ++ (pieces '\x7d' first (entries.map Entry.text) ++ rest), used⟩) ('\x7d' :: rest)
      (entries? m seen (entries.map Entry.member)) := by
  induction entries generalizing steps first gap seen used with
  | nil =>
      obtain ⟨steps, rfl⟩ := Nat.exists_eq_add_one.mpr (Nat.zero_lt_of_lt hs)
      refine ⟨used + gap.length, ?_⟩
      rw [members, List.map_nil, pieces, List.singleton_append, moreMembers_close first hg]
      rfl
  | cons e entries ih =>
      obtain ⟨steps, rfl⟩ := Nat.exists_eq_add_one.mpr (Nat.zero_lt_of_lt hs)
      obtain ⟨he, hentries⟩ := List.forall_mem_cons.mp h
      let text := pieces '\x7d' false (entries.map Entry.text) ++ rest
      obtain ⟨atKey, hmore⟩ := moreMembers_quote first hg he.apart.1 (afterQuote e text) used
      rw [entry_text, members_read hmore]
      refine (quotation_leaves he.key _ atKey).bind fun key behindKey _ => ?_
      simp only [colon_passes he.apart.2.1]
      exact (he.reads (bounded_pieces (.inr rfl) _ rest) _).bind fun x behind _ =>
        ih hentries (Nat.lt_of_succ_lt_succ hs) false he.apart.2.2.2 _ behind

theorem objectBody_leaves {entries : List Entry} (h : ∀ e ∈ entries, Enterable read m e)
    (hs : entries.length < steps) (hg : Blank gap) (rest : List Char) (used : Nat) :
    Leaves (objectBody read steps
        ⟨gap ++ (pieces '\x7d' true (entries.map Entry.text) ++ rest), used⟩) rest
      (entries? m [] (entries.map Entry.member)) :=
  (members_leaves h hs true hg [] rest used).closed fun _ => rfl

end Members

end LineTopology.Proofs.Contents
