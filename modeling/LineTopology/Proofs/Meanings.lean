import LineTopology.Json.Reader.Shape
import LineTopology.Proofs.Contents

namespace LineTopology.Proofs.Meanings

open Text Json Json.Reader Tokens Trees Grammar Numerals Quotations Passing Contents

variable {α σ : Type} {form : Form} {core rest : List Char} {steps room : Nat}

/-- What the values of a shape mean, by what the text holds and by how many brackets may be opened;
a form that is not of the shape means nothing. -/
abbrev Meaning (α : Type) := Nat → Form → Option α

/-- The reader reads each form as what it means, and no other form. -/
def Means (read : Reader α) (m : Meaning α) : Prop :=
  ∀ steps room form core, Writes form core → core.length ≤ steps →
    Gives (read ⟨steps, room⟩) core (m room form)

def tree? : Meaning Json
  | _, .null => some .null
  | _, .boolean b => some (.boolean b)
  | _, .numeral cs => (number? cs).map .number
  | _, .quoted cs => (spelled? cs).map .string
  | 0, .array _ => none
  | 0, .object _ => none
  | room + 1, .array xs => (each? (tree? room) [] xs).map .array
  | room + 1, .object ms => (entries? (tree? room) [] ms).map .object

section Values

theorem valueAt_blank {before : List Char} (hb : Blank before) (steps : Nat)
    (inner : Option (Scan Json)) (cs : List Char) (used : Nat) :
    valueAt steps inner ⟨before ++ cs, used⟩ = valueAt steps inner ⟨cs, used + before.length⟩ := by
  rw [valueAt, valueAt, skipSpace_blank hb]

theorem numeral_gives (inner : Option (Scan Json)) (h : IsNumeral core) :
    Gives (valueAt steps inner) core ((number? core).map .number) := by
  intro before rest used hbefore hrest
  rw [valueAt_blank hbefore]
  cases h with
  | positive h =>
      have hnumeral := (numeral_leaves false h hrest (used + before.length)).map Json.number
      rw [← number?_positive h] at hnumeral
      obtain ⟨d, r, rfl, hd⟩ := h.head
      rw [List.cons_append, valueAt_digit steps inner _ _ hd]
      exact hnumeral
  | negative h => exact (numeral_leaves true h hrest (used + before.length + 1)).map Json.number

theorem quoted_gives (inner : Option (Scan Json)) {cs : List Char} (h : Quotable cs) :
    Gives (valueAt steps inner) ('"' :: (cs ++ ['"'])) ((spelled? cs).map .string) := by
  intro before rest used hbefore _
  have hquoted := (quotation_leaves h rest (used + before.length + 1)).map Json.string
  rw [valueAt_blank hbefore, List.cons_append, List.append_assoc, List.singleton_append]
  exact hquoted

theorem slots_length_lt (gap : List Char) (slots : List Slot) :
    slots.length < ('[' :: (gap ++ pieces ']' true (slots.map Slot.text))).length := by
  have hle := length_le_pieces ']' true (slots.map Slot.text)
  rw [List.length_map] at hle
  simp only [List.length_cons, List.length_append]
  omega

theorem slot_length_le {s : Slot} {slots : List Slot} (gap : List Char) (h : s ∈ slots) :
    s.core.length ≤ ('[' :: (gap ++ pieces ']' true (slots.map Slot.text))).length := by
  have htext : s.text ∈ slots.map Slot.text := List.mem_map_of_mem h
  have hle : s.text.length ≤ (pieces ']' true (slots.map Slot.text)).length :=
    piece_length_le htext true
  simp only [Slot.text, List.length_append] at hle
  simp only [List.length_cons, List.length_append]
  omega

theorem entries_length_lt (gap : List Char) (entries : List Entry) :
    entries.length < ('\x7b' :: (gap ++ pieces '\x7d' true (entries.map Entry.text))).length := by
  have hle := length_le_pieces '\x7d' true (entries.map Entry.text)
  rw [List.length_map] at hle
  simp only [List.length_cons, List.length_append]
  omega

theorem entry_length_le {e : Entry} {entries : List Entry} (gap : List Char) (h : e ∈ entries) :
    e.slot.core.length ≤
      ('\x7b' :: (gap ++ pieces '\x7d' true (entries.map Entry.text))).length := by
  have htext : e.text ∈ entries.map Entry.text := List.mem_map_of_mem h
  have hle : e.text.length ≤ (pieces '\x7d' true (entries.map Entry.text)).length :=
    piece_length_le htext true
  simp only [Entry.text, Slot.text, List.length_append] at hle
  simp only [List.length_cons, List.length_append]
  omega

theorem word_gives (inner : Option (Scan Json)) {v : Json}
    (h : ∀ rest used, ∃ used', valueAt steps inner ⟨core ++ rest, used⟩ = .ok (v, ⟨rest, used'⟩)) :
    Gives (valueAt steps inner) core (some v) := by
  intro before rest used hbefore _
  rw [valueAt_blank hbefore]
  exact h rest _

theorem array_gives {read : Scan Json} {m : Form → Option Json} {slots : List Slot}
    {gap : List Char} (hg : Blank gap) (h : ∀ s ∈ slots, Readable read m s)
    (hs : slots.length < steps) :
    Gives (valueAt steps (some read)) ('[' :: (gap ++ pieces ']' true (slots.map Slot.text)))
      ((each? m [] (slots.map Slot.form)).map .array) := by
  intro before rest used hbefore _
  rw [valueAt_blank hbefore, List.cons_append, List.append_assoc]
  exact (listBody_leaves h hs hg rest (used + before.length + 1)).map Json.array

theorem object_gives {read : Scan Json} {m : Form → Option Json} {entries : List Entry}
    {gap : List Char} (hg : Blank gap) (h : ∀ e ∈ entries, Enterable read m e)
    (hs : entries.length < steps) :
    Gives (valueAt steps (some read))
      ('\x7b' :: (gap ++ pieces '\x7d' true (entries.map Entry.text)))
      ((entries? m [] (entries.map Entry.member)).map .object) := by
  intro before rest used hbefore _
  rw [valueAt_blank hbefore, List.cons_append, List.append_assoc]
  exact (objectBody_leaves h hs hg rest (used + before.length + 1)).map Json.object

theorem tooDeep_gives {bracket : Char} (hb : bracket = '[' ∨ bracket = '\x7b') (cs : List Char) :
    Gives (valueAt steps none) (bracket :: cs) none := by
  intro before rest used hbefore _
  rw [valueAt_blank hbefore, List.cons_append]
  rcases hb with rfl | rfl
  · exact ⟨_, rfl⟩
  · exact ⟨_, rfl⟩

theorem level_gives (h : Writes form core) (hs : core.length ≤ steps)
    (hless : ∀ less, room = less + 1 → ∀ form core, Writes form core → core.length ≤ steps →
      Gives (value steps less) core (tree? less form)) :
    Gives (value steps room) core (tree? room form) := by
  obtain ⟨inner, hvalue⟩ := value_eq steps room
  cases h with
  | null =>
      rw [hvalue, tree?]
      exact word_gives inner fun rest used => ⟨_, rfl⟩
  | yes =>
      rw [hvalue, tree?]
      exact word_gives inner fun rest used => ⟨_, rfl⟩
  | no =>
      rw [hvalue, tree?]
      exact word_gives inner fun rest used => ⟨_, rfl⟩
  | numeral h =>
      rw [hvalue, tree?]
      exact numeral_gives inner h
  | quoted h =>
      rw [hvalue, tree?]
      exact quoted_gives inner h
  | @array slots gap hg hapart hw =>
      cases room with
      | zero => exact tooDeep_gives (.inl rfl) _
      | succ room =>
          refine array_gives hg (fun s hmem => ?_)
            (Nat.lt_of_lt_of_le (slots_length_lt gap slots) hs)
          exact ⟨hapart s hmem, (hw s hmem).starts, hless room rfl _ _ (hw s hmem)
            (Nat.le_trans (slot_length_le gap hmem) hs)⟩
  | @object entries gap hg hapart hk hw =>
      cases room with
      | zero => exact tooDeep_gives (.inr rfl) _
      | succ room =>
          refine object_gives hg (fun e hmem => ?_)
            (Nat.lt_of_lt_of_le (entries_length_lt gap entries) hs)
          exact ⟨hapart e hmem, hk e hmem, hless room rfl _ _ (hw e hmem)
            (Nat.le_trans (entry_length_le gap hmem) hs)⟩

theorem any_means : Means any tree? := by
  intro steps room
  induction room with
  | zero => exact fun form core h hs => level_gives h hs fun less hl => by cases hl
  | succ room ih =>
      intro form core h hs
      refine level_gives h hs fun less hl => ?_
      cases hl
      exact ih

end Values

section Shapes

variable {read : Reader α} {m : Meaning α}

theorem map_means (f : α → σ) (h : Means read m) :
    Means (read.map f) fun room form => (m room form).map f :=
  fun steps room form core hw hs before rest used hb hr =>
    (h steps room form core hw hs before rest used hb hr).map f

def nameOf : Meaning (Option String) := fun room form => (tree? room form).map Json.name?

theorem name_means : Means name nameOf := map_means Json.name? any_means

def listOf (m : Meaning α) : Meaning (List α) := fun room form =>
  match form, room with
  | .array xs, room + 1 => each? (m room) [] xs
  | _, _ => none

theorem list_means (h : Means read m) : Means (list read) (listOf m) := by
  intro steps room form core hw hs before rest used hbefore hrest
  have hskip := skipSpace_text hbefore hw.starts rest used
  have hother (hne : core.head? ≠ some '[') :
      ∃ fault, list read ⟨steps, room⟩ ⟨before ++ (core ++ rest), used⟩ = .error fault := by
    obtain ⟨x, r, rfl, _⟩ := hw.starts
    rw [list, hskip]
    split
    next he => exact absurd (congrArg some (List.cons.inj he).1) hne
    next => exact ⟨_, rfl⟩
  cases hw with
  | null | yes | no | quoted _ | object _ _ _ _ => exact hother (by simp)
  | numeral h => exact hother (h.head_ne (by decide))
  | @array slots gap hg hapart hw =>
      rw [list, hskip]
      cases room with
      | zero => exact ⟨_, rfl⟩
      | succ room =>
          have hslots : ∀ s ∈ slots, Readable (read ⟨steps, room⟩) (m room) s := fun s hmem =>
            ⟨hapart s hmem, (hw s hmem).starts, h steps room _ _ (hw s hmem)
              (Nat.le_trans (slot_length_le gap hmem) hs)⟩
          have hlength := Nat.lt_of_lt_of_le (slots_length_lt gap slots) hs
          rw [List.cons_append, List.append_assoc]
          exact listBody_leaves hslots hlength hg rest _

def dictionaryOf (m : Meaning α) : Meaning (List (String × α)) := fun room form =>
  match form, room with
  | .object ms, room + 1 => entries? (m room) [] ms
  | _, _ => none

theorem dictionary_means (h : Means read m) : Means (dictionary read) (dictionaryOf m) := by
  intro steps room form core hw hs before rest used hbefore hrest
  have hskip := skipSpace_text hbefore hw.starts rest used
  have hother (hne : core.head? ≠ some '\x7b') :
      ∃ fault, dictionary read ⟨steps, room⟩ ⟨before ++ (core ++ rest), used⟩ = .error fault := by
    obtain ⟨x, r, rfl, _⟩ := hw.starts
    rw [dictionary, hskip]
    split
    next he => exact absurd (congrArg some (List.cons.inj he).1) hne
    next => exact ⟨_, rfl⟩
  cases hw with
  | null | yes | no | quoted _ | array _ _ _ => exact hother (by simp)
  | numeral h => exact hother (h.head_ne (by decide))
  | @object entries gap hg hapart hk hw =>
      rw [dictionary, hskip]
      cases room with
      | zero => exact ⟨_, rfl⟩
      | succ room =>
          have hentries : ∀ e ∈ entries, Enterable (read ⟨steps, room⟩) (m room) e :=
            fun e hmem => ⟨hapart e hmem, hk e hmem, h steps room _ _ (hw e hmem)
              (Nat.le_trans (entry_length_le gap hmem) hs)⟩
          have hlength := Nat.lt_of_lt_of_le (entries_length_lt gap entries) hs
          rw [List.cons_append, List.append_assoc]
          exact objectBody_leaves hentries hlength hg rest _

def optionalOf (m : Meaning α) : Meaning (Option α) := fun room form =>
  match form with
  | .null => some none
  | form => (m room form).map some

theorem optional_means (h : Means read m) : Means (Reader.optional read) (optionalOf m) := by
  intro steps room form core hw hs before rest used hbefore hrest
  have hskip := skipSpace_text hbefore hw.starts rest used
  have hsome := (h steps room form core hw hs [] rest (used + before.length)
    blank_nil hrest).map some
  have hother (hne : core.head? ≠ some 'n') :
      Leaves (Reader.optional read ⟨steps, room⟩ ⟨before ++ (core ++ rest), used⟩) rest
        ((m room form).map some) := by
    obtain ⟨x, r, rfl, _⟩ := hw.starts
    rw [Reader.optional, hskip]
    split
    next he => exact absurd (congrArg some (List.cons.inj he).1) hne
    next => exact hsome
  cases hw with
  | null =>
      rw [Reader.optional, hskip]
      exact ⟨_, rfl⟩
  | yes | no | quoted _ | array _ _ _ | object _ _ _ _ => exact hother (by simp)
  | numeral h => exact hother (h.head_ne (by decide))

def unitOf : Meaning Unit := fun _ form =>
  match form with
  | .null => some ()
  | _ => none

theorem unit_means : Means unit unitOf := by
  intro steps room form core hw hs before rest used hbefore hrest
  have hskip := skipSpace_text hbefore hw.starts rest used
  have hother (hne : core.head? ≠ some 'n') :
      ∃ fault, unit ⟨steps, room⟩ ⟨before ++ (core ++ rest), used⟩ = .error fault := by
    obtain ⟨x, r, rfl, _⟩ := hw.starts
    rw [unit, hskip]
    split
    next he => exact absurd (congrArg some (List.cons.inj he).1) hne
    next => exact ⟨_, rfl⟩
  cases hw with
  | null =>
      rw [unit, hskip]
      exact ⟨_, rfl⟩
  | yes | no | quoted _ | array _ _ _ | object _ _ _ _ => exact hother (by simp)
  | numeral h => exact hother (h.head_ne (by decide))

theorem pickName_leaves (known : List String) (pick : String → Option α) {cs : List Char}
    (h : Quotable cs) (rest : List Char) (used : Nat) :
    Leaves (pickName known pick ⟨cs ++ '"' :: rest, used⟩) rest ((spelled? cs).bind pick) := by
  refine (quotation_leaves h rest used).bind fun name behind _ => ?_
  cases hpick : pick name with
  | none => exact ⟨_, by simp only [hpick]; rfl⟩
  | some x => exact ⟨_, by simp only [hpick]; rfl⟩

def oneOfOf (pick : String → Option α) : Meaning α := fun room form =>
  match form with
  | .quoted cs => (spelled? cs).bind pick
  | .object [(cs, .null)] => if room = 0 then none else (spelled? cs).bind pick
  | _ => none

theorem oneOfOf_zero (pick : String → Option α) (ms : List (List Char × Form)) :
    oneOfOf pick 0 (.object ms) = none := by
  unfold oneOfOf
  split <;> simp_all

theorem nameObject_leaves (known : List String) (pick : String → Option α) {limits : Limits}
    {e : Entry} {entries : List Entry} (he : Enterable (unit limits) (unitOf limits.room) e)
    (rest : List Char) (used : Nat) :
    Leaves (do
        let (x, c) ← pickName known pick
          ⟨afterQuote e (pieces '\x7d' false (entries.map Entry.text) ++ rest), used⟩
        let c ← colon c
        let (_, c) ← unit limits c
        let c := c.skipSpace
        match c.rest with
        | [] => c.failHere .endOfObject
        | '\x7d' :: _ => return (x, c.next)
        | _ :: _ => c.failHere .expectedValue) rest
      (oneOfOf pick (limits.room + 1) (.object ((e :: entries).map Entry.member))) := by
  let text := pieces '\x7d' false (entries.map Entry.text) ++ rest
  have hmeaning : oneOfOf pick (limits.room + 1) (.object ((e :: entries).map Entry.member)) =
      ((spelled? e.key).bind pick).bind fun x => (unitOf limits.room e.slot.form).bind fun _ =>
        if entries = [] then some x else none := by
    cases entries with
    | nil =>
        simp only [List.map_cons, List.map_nil, Entry.member, if_true]
        cases e.slot.form <;> cases hpick : (spelled? e.key).bind pick <;>
          simp [oneOfOf, unitOf, hpick]
    | cons other entries =>
        simp [Entry.member, oneOfOf]
  rw [hmeaning]
  refine (pickName_leaves known pick he.key _ used).bind fun x behindKey _ => ?_
  simp only [colon_passes he.apart.2.1]
  refine (he.reads (bounded_pieces (.inr rfl) _ rest) _).bind fun _ behind _ => ?_
  cases entries with
  | nil =>
      simp only [List.map_nil, pieces, List.singleton_append,
        skipSpace_mark he.apart.2.2.2 (show Cursor.isSpace '\x7d' = false by decide)]
      exact ⟨_, rfl⟩
  | cons other entries =>
      simp only [List.map_cons, pieces, separator, List.cons_append, List.nil_append,
        skipSpace_mark he.apart.2.2.2 (show Cursor.isSpace ',' = false by decide)]
      exact ⟨_, rfl⟩

theorem oneOf_means (known : List String) (pick : String → Option α) :
    Means (oneOf known pick) (oneOfOf pick) := by
  intro steps room form core hw hs before rest used hbefore hrest
  have hskip := skipSpace_text hbefore hw.starts rest used
  have hother (hne : core.head? ≠ some '"' ∧ core.head? ≠ some '\x7b') :
      ∃ fault, oneOf known pick ⟨steps, room⟩ ⟨before ++ (core ++ rest), used⟩ = .error fault := by
    obtain ⟨x, r, rfl, _⟩ := hw.starts
    rw [oneOf, hskip]
    split
    next he => cases he
    next he => exact absurd (congrArg some (List.cons.inj he).1) hne.1
    next he => exact absurd (congrArg some (List.cons.inj he).1) hne.2
    next => exact ⟨_, rfl⟩
  cases hw with
  | null | yes | no | array _ _ _ => exact hother (by simp)
  | numeral h => exact hother ⟨h.head_ne (by decide), h.head_ne (by decide)⟩
  | @quoted cs h =>
      rw [oneOf, hskip, List.cons_append, List.append_assoc, List.singleton_append]
      exact pickName_leaves known pick h rest _
  | @object entries gap hg hapart hk hw =>
      rw [oneOf, hskip]
      cases room with
      | zero =>
          rw [oneOfOf_zero]
          exact ⟨_, rfl⟩
      | succ room =>
          rw [List.cons_append, List.append_assoc]
          simp only [enter, Cursor.next]
          cases entries with
          | nil =>
              simp only [List.map_nil, pieces, List.singleton_append,
                skipSpace_mark hg (show Cursor.isSpace '\x7d' = false by decide)]
              exact ⟨_, rfl⟩
          | cons e entries =>
              have he : Enterable (unit ⟨steps, room⟩) (unitOf room) e :=
                ⟨hapart e List.mem_cons_self, hk e List.mem_cons_self,
                  unit_means steps room _ _ (hw e List.mem_cons_self)
                    (Nat.le_trans (entry_length_le gap List.mem_cons_self) hs)⟩
              rw [entry_text, separator, List.nil_append, ← List.append_assoc]
              simp only [skipSpace_mark (blank_append hg he.apart.1)
                (show Cursor.isSpace '"' = false by decide)]
              exact nameObject_leaves known pick he rest _

end Shapes

theorem run_means {read : Reader α} {m : Meaning α} (h : Means read m) {text : String}
    (ht : Holds form text) : (read.run text).toOption = m nestingLimit form := by
  obtain ⟨before, core, behind, hbefore, hw, hbehind, htext⟩ := ht
  have hlength : core.length ≤ text.length + 1 := by
    rw [← String.length_toList, htext]
    simp only [List.length_append]
    omega
  have hbounded : Bounded (behind ++ []) := bounded_blank hbehind bounded_nil
  rw [List.append_nil] at hbounded
  have hread := h _ nestingLimit form core hw hlength before behind 0 hbefore hbounded
  rw [← htext] at hread
  have hend (used : Nat) : (Cursor.skipSpace ⟨behind, used⟩).rest = [] := by
    have hskip := skipSpace_blank hbehind [] used
    rw [List.append_nil] at hskip
    rw [hskip]
    rfl
  cases hm : m nestingLimit form with
  | none =>
      rw [hm] at hread
      obtain ⟨fault, hread⟩ := hread
      rw [Reader.run, Cursor.start, hread]
      rfl
  | some x =>
      rw [hm] at hread
      obtain ⟨used, hread⟩ := hread
      simp only [Reader.run, Cursor.start, hread, bind, Except.bind, hend]
      rfl

theorem run_ok_iff {read : Reader α} {m : Meaning α} (h : Means read m) {text : String}
    (ht : Holds form text) {x : α} : read.run text = .ok x ↔ m nestingLimit form = some x := by
  rw [← run_means h ht]
  cases read.run text <;> simp [Except.toOption]

theorem run_numeral (h : IsNumeral core) :
    (Reader.any.run (String.ofList core)).toOption = (number? core).map .number := by
  have hholds : Holds (.numeral core) (String.ofList core) :=
    ⟨[], core, [], blank_nil, .numeral h, blank_nil, by simp⟩
  exact run_means any_means hholds

end LineTopology.Proofs.Meanings
