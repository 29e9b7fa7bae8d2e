import LineTopology.Proofs.Meanings

namespace LineTopology.Proofs.RecordMeanings

open Json Json.Reader Tokens Trees Grammar Numerals Quotations Passing Contents Meanings

variable {α σ : Type} {gap rest : List Char} {steps limit room used : Nat}

structure Role (σ : Type) where
  field : Reader.Field σ
  change : Meaning (σ → σ)
  means : Means field.read change

def role (name : String) (aliases : List String) {read : Reader α} {m : Meaning α}
    (h : Means read m) (set : α → σ → σ) : Role σ :=
  ⟨field name aliases read set, fun room form => (m room form).map set, map_means set h⟩

inductive Effect (σ : Type)
  | skip
  | fault
  | set (name : String) (change : σ → σ)

def effectOf (roles : List (Role σ)) (room : Nat) (key : String) (v : Form) : Effect σ :=
  match roles.find? (·.field.answers key) with
  | none => .skip
  | some p =>
      match p.change room v with
      | none => .fault
      | some change => .set p.field.name change

def effect (roles : List (Role σ)) (room : Nat) (member : List Char × Form) : Effect σ :=
  match spelled? member.1 with
  | none => .fault
  | some key => effectOf roles room key member.2

/-- The record that the effects lead to, where the fields under `seen` have been set. -/
def settle (seen : List String) (x : σ) : List (Effect σ) → Option σ
  | [] => some x
  | .skip :: es => settle seen x es
  | .fault :: _ => none
  | .set name change :: es =>
      if seen.contains name then none else settle (name :: seen) (change x) es

def fillInOrder (room : Nat) : List (Role σ) → σ → List Form → Option σ
  | _, x, [] => some x
  | [], _, _ :: _ => none
  | p :: ps, x, v :: vs => (p.change room v).bind fun change => fillInOrder room ps (change x) vs

def recordOf (roles : List (Role σ)) (blank : σ) : Meaning σ := fun room form =>
  match form, room with
  | .object ms, room + 1 => settle [] blank (ms.map (effect roles room))
  | .array xs, room + 1 => fillInOrder room roles blank xs
  | _, _ => none

section ByKey

variable {roles : List (Role σ)}

structure Written (limit : Nat) (e : Entry) : Prop where
  apart : e.Apart
  key : Quotable e.key
  writes : Writes e.slot.form e.slot.core
  length_le : e.slot.core.length ≤ limit

theorem Written.enterable {e : Entry} (h : Written limit e) {read : Reader α} {m : Meaning α}
    (hm : Means read m) (room : Nat) : Enterable (read ⟨limit, room⟩) (m room) e :=
  ⟨h.apart, h.key, hm limit room _ _ h.writes h.length_le⟩

theorem settle_effect (roles : List (Role σ)) (room : Nat) (seen : List String) (x : σ)
    (member : List Char × Form) (es : List (Effect σ)) :
    settle seen x (effect roles room member :: es) =
      (spelled? member.1).bind fun key =>
        settle seen x (effectOf roles room key member.2 :: es) := by
  rw [effect]
  cases spelled? member.1 <;> rfl

theorem settle_role {room : Nat} {key : String} {p : Role σ}
    (h : roles.find? (·.field.answers key) = some p) (seen : List String) (x : σ) (v : Form)
    (es : List (Effect σ)) :
    settle seen x (effectOf roles room key v :: es) =
      if seen.contains p.field.name then none
      else (p.change room v).bind fun change => settle (p.field.name :: seen) (change x) es := by
  cases hchange : p.change room v with
  | none => simp [effectOf, h, hchange, settle]
  | some change => simp [effectOf, h, hchange, settle]

theorem fieldsByKey_read {fields : List (Reader.Field σ)} {limits : Limits} {first : Bool}
    {c c' : Cursor} (h : moreMembers first c = .ok (true, c')) (seen : List String) (x : σ) :
    fieldsByKey fields limits (steps + 1) first seen x c =
      (do
        let (key, c) ← quotation c'
        match fields.find? (·.answers key) with
        | none =>
            let c ← colon c
            let c ← skipValue limits.steps c
            fieldsByKey fields limits steps false seen x c
        | some f =>
            if seen.contains f.name then .error (repeated f.name c)
            else
              let c ← colon c
              let (set, c) ← f.read limits c
              fieldsByKey fields limits steps false (f.name :: seen) (set x) c) := by
  rw [fieldsByKey, h]
  rfl

theorem fieldsByKey_leaves {entries : List Entry} (h : ∀ e ∈ entries, Written limit e)
    (hs : entries.length < steps) (first : Bool) (hg : Blank gap) (seen : List String) (x : σ)
    (rest : List Char) (used : Nat) :
    Leaves (fieldsByKey (roles.map Role.field) ⟨limit, room⟩ steps first seen x
        ⟨gap ++ (pieces '\x7d' first (entries.map Entry.text) ++ rest), used⟩) ('\x7d' :: rest)
      (settle seen x ((entries.map Entry.member).map (effect roles room))) := by
  induction entries generalizing steps first gap seen x used with
  | nil =>
      obtain ⟨steps, rfl⟩ := Nat.exists_eq_add_one.mpr (Nat.zero_lt_of_lt hs)
      refine ⟨used + gap.length, ?_⟩
      rw [fieldsByKey, List.map_nil, pieces, List.singleton_append, moreMembers_close first hg]
      rfl
  | cons e entries ih =>
      obtain ⟨steps, rfl⟩ := Nat.exists_eq_add_one.mpr (Nat.zero_lt_of_lt hs)
      obtain ⟨he, hentries⟩ := List.forall_mem_cons.mp h
      let text := pieces '\x7d' false (entries.map Entry.text) ++ rest
      have hbounded : Bounded text := bounded_pieces (.inr rfl) _ rest
      obtain ⟨atKey, hmore⟩ := moreMembers_quote first hg he.apart.1 (afterQuote e text) used
      rw [entry_text, fieldsByKey_read hmore, List.map_cons, List.map_cons, settle_effect]
      refine (quotation_leaves he.key _ atKey).bind fun key behindKey _ => ?_
      simp only [List.find?_map, Function.comp_def, colon_passes he.apart.2.1]
      have hrest (seen : List String) (x : σ) (used : Nat) := ih hentries
        (Nat.lt_of_succ_lt_succ hs) false he.apart.2.2.2 seen x used
      cases hfind : roles.find? fun p => p.field.answers key with
      | none =>
          obtain ⟨behind, hpassed⟩ := skipValue_passes he.writes he.apart.2.2.1
            (bounded_blank he.apart.2.2.2 hbounded) he.length_le
            (behindKey + e.behindKey.length + 1)
          rw [effectOf, hfind]
          simp only [Option.map_none, bind, Except.bind, hpassed]
          exact hrest seen x behind
      | some p =>
          rw [settle_role hfind]
          simp only [Option.map_some]
          split
          next => exact ⟨_, rfl⟩
          next =>
            exact ((he.enterable p.means room).reads hbounded _).bind fun change behind _ =>
              hrest (p.field.name :: seen) (change x) behind

end ByKey

section ByOrder

variable {roles : List (Role σ)}

theorem leaveList_slot (first : Bool) {s : Slot} (hs : s.Apart) (h : Starts s.core)
    (hg : Blank gap) (text : List Char) (used : Nat) :
    ∃ fault, leaveList ⟨gap ++ (separator first ++ (s.before ++ (s.core ++ text))), used⟩ =
      .error fault := by
  obtain ⟨x, r, hcore, hspace, hclose⟩ := id h
  cases first with
  | true =>
      rw [separator, List.nil_append, ← List.append_assoc, leaveList,
        skipSpace_text (blank_append hg hs.1) h, hcore, List.cons_append]
      split
      next he => cases he
      next he => exact absurd (List.cons.inj he).1 hclose
      next =>
        dsimp only
        split
        next => exact ⟨_, rfl⟩
        next => exact ⟨_, rfl⟩
      next => exact ⟨_, rfl⟩
  | false =>
      rw [separator, List.singleton_append, leaveList, skipSpace_mark hg (by decide)]
      simp only [skipSpace_text hs.1 h]
      split
      next => exact ⟨_, rfl⟩
      next => exact ⟨_, rfl⟩

def restByOrder (fields : List (Reader.Field σ)) (limits : Limits) (first : Bool) (x : σ)
    (c : Cursor) : Except Fault (σ × Cursor) := do
  let (x, c) ← fieldsByOrder limits fields first x c
  return (x, ← leaveList c)

theorem restByOrder_more {f : Reader.Field σ} {fields : List (Reader.Field σ)} {limits : Limits}
    {first : Bool} {x : σ} {c c₁ : Cursor} (h : moreItems first c = .ok (true, c₁)) :
    restByOrder (f :: fields) limits first x c =
      (do
        let (set, c) ← f.read limits c₁
        restByOrder fields limits false (set x) c) := by
  simp only [restByOrder, fieldsByOrder, h, bind, Except.bind, if_true]
  cases f.read limits c₁ <;> rfl

theorem restByOrder_close (fields : List (Reader.Field σ)) (limits : Limits) (first : Bool) (x : σ)
    (hg : Blank gap) (rest : List Char) (used : Nat) :
    restByOrder fields limits first x ⟨gap ++ ']' :: rest, used⟩ =
      .ok (x, ⟨rest, used + gap.length + 1⟩) := by
  have hleave (used : Nat) : leaveList ⟨']' :: rest, used⟩ = .ok ⟨rest, used + 1⟩ := rfl
  have hclose : leaveList ⟨gap ++ ']' :: rest, used⟩ = .ok ⟨rest, used + gap.length + 1⟩ := by
    rw [leaveList, skipSpace_mark hg (by decide)]
    rfl
  cases fields with
  | nil =>
      rw [restByOrder, fieldsByOrder]
      simp only [bind, Except.bind, hclose]
      rfl
  | cons f fields =>
      rw [restByOrder, fieldsByOrder, moreItems_close first hg]
      simp only [bind, Except.bind, Bool.false_eq_true, if_false, pure, Except.pure, hleave]

theorem restByOrder_leaves {slots : List Slot}
    (h : ∀ s ∈ slots, s.Apart ∧ Writes s.form s.core ∧ s.core.length ≤ limit)
    (roles : List (Role σ)) (first : Bool) (hg : Blank gap) (x : σ) (rest : List Char)
    (used : Nat) :
    Leaves (restByOrder (roles.map Role.field) ⟨limit, room⟩ first x
        ⟨gap ++ (pieces ']' first (slots.map Slot.text) ++ rest), used⟩) rest
      (fillInOrder room roles x (slots.map Slot.form)) := by
  induction slots generalizing roles first gap x used with
  | nil =>
      rw [List.map_nil, pieces, List.singleton_append, restByOrder_close _ _ first x hg]
      cases roles <;> exact ⟨_, rfl⟩
  | cons s slots ih =>
      obtain ⟨⟨hapart, hw, hlength⟩, hslots⟩ := List.forall_mem_cons.mp h
      let text := pieces ']' false (slots.map Slot.text) ++ rest
      have htext : pieces ']' first ((s :: slots).map Slot.text) ++ rest =
          separator first ++ (s.before ++ (s.core ++ (s.behind ++ text))) := by
        simp only [List.map_cons, pieces, Slot.text, List.append_assoc, text]
      rw [htext]
      cases roles with
      | nil =>
          obtain ⟨fault, hleave⟩ := leaveList_slot first hapart hw.starts hg (s.behind ++ text) used
          refine ⟨fault, ?_⟩
          rw [List.map_nil, restByOrder, fieldsByOrder]
          simp only [bind, Except.bind, hleave]
      | cons p roles =>
          obtain ⟨atItem, hmore⟩ :=
            moreItems_slot first hg hapart.1 hw.starts (s.behind ++ text) used
          have hreadable : Readable (p.field.read ⟨limit, room⟩) (p.change room) s :=
            ⟨hapart, hw.starts, p.means limit room _ _ hw hlength⟩
          rw [List.map_cons, restByOrder_more hmore]
          exact (hreadable.reads (bounded_pieces (.inl rfl) _ rest) atItem).bind
            fun change behind _ => ih hslots roles false hapart.2 (change x) behind

end ByOrder

theorem record_means (title : String) (roles : List (Role σ)) (blank : σ) :
    Means (record title (roles.map Role.field) blank) (recordOf roles blank) := by
  intro steps room form core hw hs before rest used hbefore hrest
  have hskip := skipSpace_text hbefore hw.starts rest used
  have hother (hne : core.head? ≠ some '[' ∧ core.head? ≠ some '\x7b') :
      ∃ fault, record title (roles.map Role.field) blank ⟨steps, room⟩
        ⟨before ++ (core ++ rest), used⟩ = .error fault := by
    obtain ⟨x, r, rfl, _⟩ := hw.starts
    rw [record, hskip]
    split
    next he => exact absurd (congrArg some (List.cons.inj he).1) hne.2
    next he => exact absurd (congrArg some (List.cons.inj he).1) hne.1
    next => exact ⟨_, rfl⟩
  cases hw with
  | null | yes | no | quoted _ => exact hother (by simp)
  | numeral h => exact hother ⟨h.head_ne (by decide), h.head_ne (by decide)⟩
  | @array slots gap hg hapart hw =>
      rw [record, hskip]
      cases room with
      | zero => exact ⟨_, rfl⟩
      | succ room =>
          have hslots : ∀ s ∈ slots, s.Apart ∧ Writes s.form s.core ∧ s.core.length ≤ steps :=
            fun s hmem => ⟨hapart s hmem, hw s hmem, Nat.le_trans (slot_length_le gap hmem) hs⟩
          rw [List.cons_append, List.append_assoc]
          exact restByOrder_leaves hslots roles true hg blank rest _
  | @object entries gap hg hapart hk hw =>
      rw [record, hskip]
      cases room with
      | zero => exact ⟨_, rfl⟩
      | succ room =>
          have hentries : ∀ e ∈ entries, Written steps e := fun e hmem =>
            ⟨hapart e hmem, hk e hmem, hw e hmem, Nat.le_trans (entry_length_le gap hmem) hs⟩
          have hlength := Nat.lt_of_lt_of_le (entries_length_lt gap entries) hs
          rw [List.cons_append, List.append_assoc]
          exact (fieldsByKey_leaves hentries hlength true hg [] blank rest _).closed fun _ => rfl

end LineTopology.Proofs.RecordMeanings
