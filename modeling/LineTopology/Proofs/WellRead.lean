import LineTopology.Json.Reader.Shape
import LineTopology.Proofs.Answers
import LineTopology.Proofs.Decimals
import LineTopology.Proofs.Entries

namespace LineTopology.Proofs.WellRead

open Json Dictionary Answers Decimals Entries

variable {α σ : Type}

def Yields (read : Scan α) (p : α → Prop) : Prop := ∀ c x c', read c = .ok (x, c') → p x

section Numbers

def InRange : Number → Prop
  | .integer (.ofNat n) => n ≤ Numeral.significandLimit
  | .integer (.negSucc n) => n + 1 ≤ Nat.pow 2 63
  | .real _ => True

variable {negative : Bool} {n : Nat} {e : Int} {ds : List Char} {c c' : Cursor} {x : Number}

theorem finish_inRange (h : Numeral.finish negative n e c = .ok (x, c')) : InRange x := by
  rw [Numeral.finish] at h
  split at h
  next => cases h; trivial
  next => cases h

theorem exponent_inRange (h : Numeral.exponent negative n e c = .ok (x, c')) : InRange x := by
  rw [Numeral.exponent] at h
  generalize (if Numeral.startsWith (fun x => x == '+' || x == '-') c then c.next else c) =
    behind at h
  simp only at h
  split at h
  next => cases h
  next =>
    split at h
    next =>
      split at h
      next => exact finish_inRange h
      next =>
        split at h
        next => cases h
        next => cases h; trivial
    next => cases h

theorem fraction_inRange (h : Numeral.fraction negative n e c = .ok (x, c')) : InRange x := by
  simp only [Numeral.fraction] at h
  split at h
  next =>
    split at h
    next => cases h
    next => cases h
  next =>
    split at h
    next => exact exponent_inRange h
    next => exact finish_inRange h

theorem whole_inRange (hn : n ≤ Numeral.significandLimit)
    (h : Numeral.whole negative n = some x) : InRange x := by
  rw [Numeral.whole] at h
  split at h
  next => cases h; exact hn
  next =>
    split at h
    next hlow =>
      cases h
      cases n with
      | zero => exact absurd hlow.1 (Nat.lt_irrefl 0)
      | succ n => exact hlow.2
    next =>
      obtain ⟨r, _, rfl⟩ := Option.map_eq_some_iff.mp h
      trivial

theorem integral_inRange (h : Numeral.integral negative ds c = .ok (x, c')) : InRange x := by
  simp only [Numeral.integral] at h
  split at h
  next => exact fraction_inRange h
  next =>
    split at h
    next => exact exponent_inRange h
    next =>
      split at h
      next =>
        split at h
        next hwhole =>
          cases h
          exact whole_inRange (absorb_le (Nat.zero_le _) ds) hwhole
        next => cases h
      next => exact finish_inRange h

theorem numeral_inRange (negative : Bool) : Yields (numeral negative) InRange := by
  intro c x c' h
  simp only [numeral] at h
  split at h
  next => cases h
  next =>
    split at h
    next =>
      split at h
      next => cases h
      next => exact integral_inRange h
    next =>
      split at h
      next => exact integral_inRange h
      next => cases h

end Numbers

section Brackets

variable {read : Scan α} {p : α → Prop} {steps : Nat}

theorem items_yields (hr : Yields read p) {first : Bool} {seen xs : List α} {c c' : Cursor}
    (hs : ∀ x ∈ seen, p x) (h : items read steps first seen c = .ok (xs, c')) : ∀ x ∈ xs, p x := by
  induction steps generalizing first seen c with
  | zero => cases h
  | succ steps ih =>
      rw [items] at h
      obtain ⟨⟨more, c⟩, _, h⟩ := bind_ok_iff.mp h
      cases more with
      | false =>
          cases h
          simpa using hs
      | true =>
          obtain ⟨⟨x, c⟩, hx, h⟩ := bind_ok_iff.mp h
          exact ih (List.forall_mem_cons.mpr ⟨hr _ _ _ hx, hs⟩) h

theorem listBody_yields (hr : Yields read p) : Yields (listBody read steps) (∀ x ∈ ·, p x) := by
  intro c xs c' h
  obtain ⟨⟨ys, c⟩, hys, h⟩ := bind_ok_iff.mp h
  obtain ⟨c, _, h⟩ := bind_ok_iff.mp h
  cases h
  exact items_yields hr (by simp) hys

def Sorted (p : α → Prop) (entries : List (String × α)) : Prop :=
  Ascending entries ∧ ∀ entry ∈ entries, p entry.2

theorem members_yields (hr : Yields read p) {first : Bool} {seen entries : List (String × α)}
    {c c' : Cursor} (hs : Sorted p seen)
    (h : members read steps first seen c = .ok (entries, c')) : Sorted p entries := by
  induction steps generalizing first seen c with
  | zero => cases h
  | succ steps ih =>
      rw [members] at h
      obtain ⟨⟨more, c⟩, _, h⟩ := bind_ok_iff.mp h
      cases more with
      | false =>
          cases h
          exact hs
      | true =>
          obtain ⟨⟨key, c⟩, _, h⟩ := bind_ok_iff.mp h
          obtain ⟨c, _, h⟩ := bind_ok_iff.mp h
          obtain ⟨⟨x, c⟩, hx, h⟩ := bind_ok_iff.mp h
          refine ih ⟨ascending_insert hs.1, fun entry he => ?_⟩ h
          rcases mem_insert he with rfl | he
          · exact hr _ _ _ hx
          · exact hs.2 entry he

theorem objectBody_yields (hr : Yields read p) : Yields (objectBody read steps) (Sorted p) := by
  intro c entries c' h
  obtain ⟨⟨ms, c⟩, hms, h⟩ := bind_ok_iff.mp h
  obtain ⟨c, _, h⟩ := bind_ok_iff.mp h
  cases h
  exact members_yields hr ⟨List.Pairwise.nil, by simp⟩ hms

end Brackets

section Values

variable {steps room : Nat}

/-- The trees that a text can hold with at most so many brackets open at a time. -/
inductive Fits : Nat → Json → Prop
  | null {room : Nat} : Fits room .null
  | boolean {room : Nat} (b : Bool) : Fits room (.boolean b)
  | number {room : Nat} {n : Number} : InRange n → Fits room (.number n)
  | string {room : Nat} (s : String) : Fits room (.string s)
  | array {room : Nat} {xs : List Json} : (∀ x ∈ xs, Fits room x) → Fits (room + 1) (.array xs)
  | object {room : Nat} {ms : List (String × Json)} :
      Ascending ms → (∀ m ∈ ms, Fits room m.2) → Fits (room + 1) (.object ms)

theorem valueAt_fits {inner : Option (Scan Json)}
    (hi : ∀ read, inner = some read → ∃ less, room = less + 1 ∧ Yields read (Fits less)) :
    Yields (valueAt steps inner) (Fits room) := by
  intro c v c' h
  simp only [valueAt] at h
  split at h
  next => cases h
  next =>
    obtain ⟨c, _, h⟩ := map_ok_iff.mp h
    cases h
    exact .null
  next =>
    obtain ⟨c, _, h⟩ := map_ok_iff.mp h
    cases h
    exact .boolean true
  next =>
    obtain ⟨c, _, h⟩ := map_ok_iff.mp h
    cases h
    exact .boolean false
  next =>
    obtain ⟨⟨s, c⟩, _, h⟩ := map_ok_iff.mp h
    cases h
    exact .string s
  next =>
    obtain ⟨⟨n, c⟩, hn, h⟩ := map_ok_iff.mp h
    cases h
    exact .number (numeral_inRange true _ _ _ hn)
  next =>
    split at h
    next => cases h
    next read =>
      obtain ⟨less, rfl, hread⟩ := hi read rfl
      obtain ⟨⟨xs, c⟩, hxs, h⟩ := map_ok_iff.mp h
      cases h
      exact .array (listBody_yields hread _ _ _ hxs)
  next =>
    split at h
    next => cases h
    next read =>
      obtain ⟨less, rfl, hread⟩ := hi read rfl
      obtain ⟨⟨ms, c⟩, hms, h⟩ := map_ok_iff.mp h
      cases h
      obtain ⟨hascending, hvalues⟩ := objectBody_yields hread _ _ _ hms
      exact .object hascending hvalues
  next =>
    split at h
    next =>
      obtain ⟨⟨n, c⟩, hn, h⟩ := map_ok_iff.mp h
      cases h
      exact .number (numeral_inRange false _ _ _ hn)
    next => cases h

theorem value_fits (steps room : Nat) : Yields (value steps room) (Fits room) := by
  induction room with
  | zero => exact valueAt_fits fun read h => by cases h
  | succ room ih =>
      refine valueAt_fits fun read h => ⟨room, rfl, ?_⟩
      cases h
      exact ih

end Values

section Shapes

open Reader

variable {read : Reader α} {p : α → Prop} {limits : Limits} {steps room : Nat}

theorem map_yields {f : α → σ} {q : σ → Prop} (hr : Yields (read limits) p)
    (hq : ∀ x, p x → q (f x)) : Yields (Reader.map f read limits) q := by
  intro c y c' h
  obtain ⟨⟨x, c⟩, hx, h⟩ := map_ok_iff.mp h
  cases h
  exact hq x (hr _ _ _ hx)

theorem optional_yields (hr : Yields (read limits) p) :
    Yields (Reader.optional read limits) (∀ x ∈ ·, p x) := by
  intro c o c' h
  simp only [Reader.optional] at h
  split at h
  next =>
    obtain ⟨c, _, h⟩ := map_ok_iff.mp h
    cases h
    simp
  next =>
    have hsome : Yields (Reader.map some read limits) (∀ x ∈ ·, p x) := by
      refine map_yields hr fun x hx y hy => ?_
      obtain rfl := Option.some_inj.mp hy
      exact hx
    exact hsome _ _ _ h

theorem list_yields (hr : Yields (read ⟨steps, room⟩) p) :
    Yields (Reader.list read ⟨steps, room + 1⟩) (∀ x ∈ ·, p x) := by
  intro c xs c' h
  simp only [Reader.list] at h
  split at h
  next => exact listBody_yields hr _ _ _ h
  next => cases h

theorem dictionary_yields (hr : Yields (read ⟨steps, room⟩) p) :
    Yields (Reader.dictionary read ⟨steps, room + 1⟩) (Sorted p) := by
  intro c entries c' h
  simp only [Reader.dictionary] at h
  split at h
  next => exact objectBody_yields hr _ _ _ h
  next => cases h

variable {fields : List (Reader.Field σ)} {blank : σ} {q : σ → Prop}

def Keeps (fields : List (Reader.Field σ)) (limits : Limits) (q : σ → Prop) : Prop :=
  ∀ f ∈ fields, Yields (f.read limits) fun set => ∀ x, q x → q (set x)

theorem keeps_nil : Keeps [] limits q := by
  intro f hf
  cases hf

theorem keeps_cons {f : Reader.Field σ}
    (hf : Yields (f.read limits) fun set => ∀ x, q x → q (set x)) (h : Keeps fields limits q) :
    Keeps (f :: fields) limits q := List.forall_mem_cons.mpr ⟨hf, h⟩

theorem fieldsByKey_yields (hf : Keeps fields limits q) {first : Bool} {seen : List String}
    {x y : σ} {c c' : Cursor} (hx : q x)
    (h : fieldsByKey fields limits steps first seen x c = .ok (y, c')) : q y := by
  induction steps generalizing first seen x c with
  | zero => cases h
  | succ steps ih =>
      rw [fieldsByKey] at h
      obtain ⟨⟨more, c⟩, _, h⟩ := bind_ok_iff.mp h
      cases more with
      | false =>
          cases h
          exact hx
      | true =>
          obtain ⟨⟨key, c⟩, _, h⟩ := bind_ok_iff.mp h
          simp only at h
          split at h
          next =>
            obtain ⟨c, _, h⟩ := bind_ok_iff.mp h
            obtain ⟨c, _, h⟩ := bind_ok_iff.mp h
            exact ih hx h
          next f hfind =>
            split at h
            next => cases h
            next =>
              obtain ⟨c, _, h⟩ := bind_ok_iff.mp h
              obtain ⟨⟨set, c⟩, hset, h⟩ := bind_ok_iff.mp h
              exact ih (hf f (List.mem_of_find?_eq_some hfind) _ _ _ hset x hx) h

theorem fieldsByOrder_yields (hf : Keeps fields limits q) {first : Bool} {x y : σ} {c c' : Cursor}
    (hx : q x) (h : fieldsByOrder limits fields first x c = .ok (y, c')) : q y := by
  induction fields generalizing first x c with
  | nil =>
      cases h
      exact hx
  | cons f fields ih =>
      obtain ⟨hhead, htail⟩ := List.forall_mem_cons.mp hf
      rw [fieldsByOrder] at h
      obtain ⟨⟨more, c⟩, _, h⟩ := bind_ok_iff.mp h
      cases more with
      | false =>
          cases h
          exact hx
      | true =>
          obtain ⟨⟨set, c⟩, hset, h⟩ := bind_ok_iff.mp h
          exact ih htail (hhead _ _ _ hset x hx) h

theorem record_yields {title : String} (hb : q blank) (hf : Keeps fields ⟨steps, room⟩ q) :
    Yields (Reader.record title fields blank ⟨steps, room + 1⟩) q := by
  intro c x c' h
  simp only [Reader.record] at h
  split at h
  next =>
    obtain ⟨⟨y, c⟩, hy, h⟩ := bind_ok_iff.mp h
    obtain ⟨c, _, h⟩ := bind_ok_iff.mp h
    cases h
    exact fieldsByKey_yields hf hb hy
  next =>
    obtain ⟨⟨y, c⟩, hy, h⟩ := bind_ok_iff.mp h
    obtain ⟨c, _, h⟩ := bind_ok_iff.mp h
    cases h
    exact fieldsByOrder_yields hf hb hy
  next => cases h

theorem field_keeps {name : String} {aliases : List String} {set : α → σ → σ}
    (hr : Yields (read limits) p) (hq : ∀ a, p a → ∀ x, q x → q (set a x)) :
    Yields ((field name aliases read set).read limits) fun set => ∀ x, q x → q (set x) :=
  map_yields hr hq

theorem run_yields {text : String} {x : α} (hr : Yields (read ⟨text.length + 1, nestingLimit⟩) p)
    (h : Reader.run read text = .ok x) : p x := by
  obtain ⟨⟨y, c⟩, hy, h⟩ := bind_ok_iff.mp (mapError_ok_iff.mp h)
  simp only at h
  split at h
  next =>
    cases h
    exact hr _ _ _ hy
  next => cases h

end Shapes

end LineTopology.Proofs.WellRead
