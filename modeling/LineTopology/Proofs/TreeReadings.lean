import LineTopology.Proofs.Printing
import LineTopology.Proofs.Rewordings
import Mathlib.Data.List.Forall2
import Mathlib.Data.List.Nodup

namespace LineTopology.Proofs.TreeReadings

open Json Json.Reader Dictionary Entries Grammar Quotations Contents Meanings RecordMeanings
  Rewordings Printing WellRead

variable {α β σ : Type} {form : Form} {room : Nat} {name : String}

section Keys

/-- No object in the form has a key twice, however it is spelled. -/
inductive KeysDiffer : Form → Prop
  | null : KeysDiffer .null
  | boolean (b : Bool) : KeysDiffer (.boolean b)
  | numeral (cs : List Char) : KeysDiffer (.numeral cs)
  | quoted (cs : List Char) : KeysDiffer (.quoted cs)
  | array {xs : List Form} : (∀ x ∈ xs, KeysDiffer x) → KeysDiffer (.array xs)
  | object {ms : List (List Char × Form)} :
      (ms.map fun m => spelled? m.1).Nodup → (∀ m ∈ ms, KeysDiffer m.2) → KeysDiffer (.object ms)

theorem KeysDiffer.item {xs : List Form} (h : KeysDiffer (.array xs)) : ∀ x ∈ xs, KeysDiffer x := by
  cases h with
  | array h => exact h

theorem KeysDiffer.members {ms : List (List Char × Form)} (h : KeysDiffer (.object ms)) :
    (ms.map fun m => spelled? m.1).Nodup ∧ ∀ m ∈ ms, KeysDiffer m.2 := by
  cases h with
  | object hkeys hms => exact ⟨hkeys, hms⟩

theorem spelled?_letters (s : String) : spelled? (letters s) = some s := by
  rw [spelled?_of_spells (letters_spell s), String.ofList_toList]

theorem keysDiffer_formOf {v : Json} (h : Fits room v) : KeysDiffer (formOf v) := by
  induction h with
  | null => exact .null
  | boolean b => exact .boolean b
  | number _ => exact .numeral _
  | string s => exact .quoted _
  | array _ ih =>
      rw [formOf, formsOf_eq]
      exact .array (List.forall_mem_map.mpr ih)
  | object hascending _ ih =>
      rw [formOf, membersOf_eq]
      refine .object ?_ (List.forall_mem_map.mpr ih)
      rw [List.map_map]
      have hspelled : (fun m => spelled? m.1) ∘ (fun m : String × Json =>
          (letters m.1, formOf m.2)) = some ∘ Prod.fst :=
        funext fun m => spelled?_letters m.1
      rw [hspelled, ← List.map_map]
      exact (nodup_keys hascending).map fun _ _ => Option.some.inj

end Keys

section Lists

theorem forall₂_of_mapM {f : α → Option β} {xs : List α} {ys : List β}
    (h : xs.mapM f = some ys) : List.Forall₂ (fun x y => f x = some y) xs ys := by
  induction xs generalizing ys with
  | nil =>
      cases h
      exact .nil
  | cons x xs ih =>
      rw [List.mapM_cons] at h
      obtain ⟨y, hy, h⟩ := Option.bind_eq_some_iff.mp h
      obtain ⟨rest, hrest, h⟩ := Option.bind_eq_some_iff.mp h
      cases h
      exact .cons hy (ih hrest)

theorem mapM_of_forall₂ {σ : Type} {r : α → β → Prop} {f : α → Option σ} {g : β → Option σ}
    {xs : List α} {ys : List β} (h : List.Forall₂ r xs ys)
    (hfg : ∀ x y, x ∈ xs → y ∈ ys → r x y → f x = g y) : xs.mapM f = ys.mapM g := by
  induction h with
  | nil => rfl
  | cons hr _ ih =>
      rw [List.mapM_cons, List.mapM_cons, hfg _ _ List.mem_cons_self List.mem_cons_self hr,
        ih fun x y hx hy => hfg x y (List.mem_cons_of_mem _ hx) (List.mem_cons_of_mem _ hy)]

theorem each?_eq_mapM (m : Form → Option α) (seen : List α) (xs : List Form) :
    each? m seen xs = (xs.mapM m).map (seen.reverse ++ ·) := by
  induction xs generalizing seen with
  | nil => simp [each?]
  | cons x xs ih =>
      rw [each?, List.mapM_cons]
      cases m x with
      | none => rfl
      | some y =>
          simp only [Option.bind_some, ih, Option.bind_eq_bind, List.reverse_cons]
          cases xs.mapM m <;> simp

def pair? (m : Form → Option α) (member : List Char × Form) : Option (String × α) :=
  (spelled? member.1).bind fun key => (m member.2).map fun x => (key, x)

theorem entries?_eq_mapM (m : Form → Option α) (seen : List (String × α))
    (ms : List (List Char × Form)) :
    entries? m seen ms =
      (ms.mapM (pair? m)).map fun ps => ps.foldl (fun d p => insert p.1 p.2 d) seen := by
  induction ms generalizing seen with
  | nil => simp [entries?]
  | cons member ms ih =>
      rw [entries?, List.mapM_cons, pair?]
      cases spelled? member.1 with
      | none => rfl
      | some key =>
          cases m member.2 with
          | none => rfl
          | some x =>
              simp only [Option.bind_some, ih, Option.bind_eq_bind, Option.map_some]
              cases ms.mapM (pair? m) <;> simp

end Lists

section Agreement

/-- On the trees of a domain, what a form means can be told from the tree that it holds. -/
def Agrees (m : Meaning α) (domain : Json → Prop) (ask : Json → Option α) : Prop :=
  ∀ ⦃room form v⦄, KeysDiffer form → tree? room form = some v → domain v → m room form = ask v

theorem tree?_null (h : tree? room form = some .null) : form = .null := by
  unfold tree? at h
  split at h
  next => rfl
  all_goals simp at h

theorem tree?_string {s : String} (h : tree? room form = some (.string s)) :
    ∃ cs, form = .quoted cs ∧ spelled? cs = some s := by
  unfold tree? at h
  split at h
  case h_4 cs => exact ⟨cs, rfl, by simpa using h⟩
  all_goals simp at h

theorem tree?_array {vs : List Json} (h : tree? room form = some (.array vs)) :
    ∃ less xs, room = less + 1 ∧ form = .array xs ∧
      List.Forall₂ (fun x v => tree? less x = some v) xs vs := by
  unfold tree? at h
  split at h
  case h_7 less xs =>
    refine ⟨less, xs, rfl, rfl, forall₂_of_mapM ?_⟩
    simpa [each?_eq_mapM] using h
  all_goals simp at h

def Holding (room : Nat) (m : List Char × Form) (entry : String × Json) : Prop :=
  spelled? m.1 = some entry.1 ∧ tree? room m.2 = some entry.2

theorem tree?_object {ds : List (String × Json)} (h : tree? room form = some (.object ds)) :
    ∃ less ms ps, room = less + 1 ∧ form = .object ms ∧ ds = ofList ps ∧
      List.Forall₂ (Holding less) ms ps := by
  unfold tree? at h
  split at h
  case h_8 less ms =>
    obtain ⟨_, hentries, h⟩ := Option.map_eq_some_iff.mp h
    cases h
    rw [entries?_eq_mapM] at hentries
    obtain ⟨ps, hps, rfl⟩ := Option.map_eq_some_iff.mp hentries
    refine ⟨less, ms, ps, rfl, rfl, rfl, (forall₂_of_mapM hps).imp fun m p hp => ?_⟩
    obtain ⟨key, hkey, hp⟩ := Option.bind_eq_some_iff.mp hp
    obtain ⟨v, hv, rfl⟩ := Option.map_eq_some_iff.mp hp
    exact ⟨hkey, hv⟩
  all_goals simp at h

theorem any_agrees : Agrees tree? (fun _ => True) some := fun _ _ _ _ h _ => h

theorem name_agrees : Agrees nameOf (fun _ => True) fun v => some v.name? := by
  intro room form v _ h _
  rw [nameOf, h, Option.map_some]

def askItems (ask : Json → Option α) : Json → Option (List α)
  | .array vs => vs.mapM ask
  | _ => none

theorem list_agrees {m : Meaning α} {domain : Json → Prop} {ask : Json → Option α}
    (h : Agrees m domain ask) :
    Agrees (listOf m) (fun v => ∃ vs, v = .array vs ∧ ∀ w ∈ vs, domain w) (askItems ask) := by
  rintro room form _ hkeys htree ⟨vs, rfl, hdomain⟩
  obtain ⟨less, xs, rfl, rfl, hitems⟩ := tree?_array htree
  have heach : each? (m less) [] xs = xs.mapM (m less) := by
    rw [each?_eq_mapM]
    cases xs.mapM (m less) <;> rfl
  rw [listOf, heach]
  exact mapM_of_forall₂ hitems fun x v hx hv hxv => h (hkeys.item x hx) hxv (hdomain v hv)

theorem optionalOf_some (m : Meaning α) (room : Nat) (h : form ≠ .null) :
    optionalOf m room form = (m room form).map some := by
  cases form with
  | null => exact absurd rfl h
  | boolean | numeral | quoted | array | object => rfl

def askOptional (f : Json → α) : Json → Option α
  | .null => none
  | v => some (f v)

theorem optional_agrees {m : Meaning α} {domain : Json → Prop} {f : Json → α}
    (h : Agrees m domain fun v => some (f v)) :
    Agrees (optionalOf m) (fun v => v = .null ∨ domain v) fun v => some (askOptional f v) := by
  intro room form v hkeys htree hdomain
  by_cases hnull : v = .null
  · subst hnull
    rw [tree?_null htree]
    rfl
  · have hform : form ≠ .null := by
      rintro rfl
      rw [tree?, Option.some_inj] at htree
      exact hnull htree.symm
    have hask : askOptional f v = some (f v) := by
      cases v with
      | null => exact absurd rfl hnull
      | boolean | number | string | array | object => rfl
    rw [optionalOf_some m room hform, h hkeys htree (hdomain.resolve_left hnull)]
    exact congrArg some hask.symm

section Members

variable {ms : List (List Char × Form)} {ps : List (String × Json)}

theorem map_spelled? (h : List.Forall₂ (Holding room) ms ps) :
    (ms.map fun m => spelled? m.1) = (keys ps).map some := by
  induction h with
  | nil => rfl
  | cons hm _ ih => rw [List.map_cons, hm.1, ih, keys_cons, List.map_cons]

theorem nodup_of_holding (h : List.Forall₂ (Holding room) ms ps)
    (hkeys : (ms.map fun m => spelled? m.1).Nodup) : (keys ps).Nodup := by
  rw [map_spelled? h] at hkeys
  exact hkeys.of_map some

theorem pairs_of_holding {m : Form → Option α} {f : Json → α}
    (h : List.Forall₂ (Holding room) ms ps)
    (hf : ∀ member ∈ ms, ∀ p ∈ ps, tree? room member.2 = some p.2 →
      m member.2 = some (f p.2)) :
    ms.mapM (pair? m) = some (ps.map fun p => (p.1, f p.2)) := by
  have hpair := mapM_of_forall₂ (f := pair? m) (g := fun p => some (p.1, f p.2)) h
    fun member p hmember hp hmp => by
      rw [pair?, hmp.1, hf member hmember p hp hmp.2]
      rfl
  rw [hpair]
  exact List.mapM_pure

end Members

def entriesOf (f : Json → α) : Json → List (String × α)
  | .object ds => ds.map fun d => (d.1, f d.2)
  | _ => []

theorem dictionary_agrees {m : Meaning α} {domain : Json → Prop} {f : Json → α}
    (h : Agrees m domain fun v => some (f v)) :
    Agrees (dictionaryOf m) (fun v => ∃ ds, v = .object ds ∧ ∀ d ∈ ds, domain d.2)
      fun v => some (entriesOf f v) := by
  rintro room form _ hkeys htree ⟨ds, rfl, hdomain⟩
  obtain ⟨less, ms, ps, rfl, rfl, rfl, hms⟩ := tree?_object htree
  obtain ⟨hnodup, hvalues⟩ := hkeys.members
  have hpairs := pairs_of_holding (f := f) hms fun member hmember p hp hv =>
    h (hvalues member hmember) hv
      (hdomain p (mem_ofList_of_nodup (nodup_of_holding hms hnodup) hp))
  rw [dictionaryOf, entries?_eq_mapM, hpairs]
  exact congrArg some (ofList_map f ps)

theorem oneOf_agrees {pick : String → α} {f : Json → α} (hf : ∀ s, f (.string s) = pick s) :
    Agrees (oneOfOf fun s => some (pick s)) (fun v => ∃ s, v = .string s) fun v => some (f v) := by
  rintro room form _ _ htree ⟨s, rfl⟩
  obtain ⟨cs, rfl, hs⟩ := tree?_string htree
  rw [oneOfOf, hs, Option.bind_some]
  exact congrArg some (hf s).symm

theorem Agrees.map {m : Meaning α} {domain : Json → Prop} {ask : Json → Option α}
    (h : Agrees m domain ask) (f : α → β) :
    Agrees (fun room form => (m room form).map f) domain fun v => (ask v).map f :=
  fun _ _ _ hkeys htree hdomain => congrArg (Option.map f) (h hkeys htree hdomain)

theorem Agrees.congr {m : Meaning α} {domain domain' : Json → Prop} {ask ask' : Json → Option α}
    (h : Agrees m domain ask) (hask : ∀ v, domain' v → domain v ∧ ask v = ask' v) :
    Agrees m domain' ask' := fun _ _ v hkeys htree hdomain =>
  (h hkeys htree (hask v hdomain).1).trans (hask v hdomain).2

end Agreement

section Fields

/-- What the values under the names of a field do to a record; two of them are too many. -/
def fill (ask : α → Option (σ → σ)) (x : σ) : List α → Option σ
  | [] => some x
  | [v] => (ask v).map fun change => change x
  | _ :: _ :: _ => none

theorem fill_perm (ask : α → Option (σ → σ)) (x : σ) {vs ws : List α} (h : vs.Perm ws) :
    fill ask x vs = fill ask x ws := by
  match vs, ws, h with
  | [], ws, h => rw [h.nil_eq]
  | [v], ws, h => rw [List.perm_singleton.mp h.symm]
  | _ :: _ :: _, [], h => exact absurd h.length_eq (by simp)
  | _ :: _ :: _, [_], h => exact absurd h.length_eq (by simp)
  | _ :: _ :: _, _ :: _ :: _, _ => rfl

def under (names : List String) (entries : List (String × α)) : List α :=
  names.filterMap fun name => find? name entries

theorem under_map {γ : Type} {f : α → γ} {g : β → γ} {entries : List (String × α)}
    {entries' : List (String × β)}
    (h : ∀ name, (find? name entries).map f = (find? name entries').map g) (names : List String) :
    (under names entries).map f = (under names entries').map g := by
  rw [under, under, List.map_filterMap, List.map_filterMap]
  exact List.filterMap_congr fun name _ => h name

theorem under_ofList (names : List String) (entries : List (String × α)) :
    under names (ofList entries) = under names entries :=
  List.filterMap_congr fun _ _ => find?_ofList

theorem mem_of_mem_under {names : List String} {entries : List (String × α)} {v : α}
    (hkeys : (keys entries).Nodup) (h : v ∈ under names entries) : ∃ name, (name, v) ∈ entries := by
  obtain ⟨name, _, hfind⟩ := List.mem_filterMap.mp h
  exact ⟨name, (find?_eq_some_iff hkeys).mp hfind⟩

theorem fill_of_trees {change : Form → Option (σ → σ)} {ask : Json → Option (σ → σ)} (x : σ)
    {vs : List Form} {ws : List Json} (h : vs.map (tree? room) = ws.map some)
    (hask : ∀ v ∈ vs, ∀ w ∈ ws, tree? room v = some w → change v = ask w) :
    fill change x vs = fill ask x ws := by
  match vs, ws, h with
  | [], [], _ => rfl
  | [v], [w], h =>
      have htree : tree? room v = some w := (List.cons.inj h).1
      rw [fill, fill, hask v List.mem_cons_self w List.mem_cons_self htree]
  | [_], _ :: _ :: _, h => cases (List.cons.inj h).2
  | _ :: _ :: _, [_], h => cases (List.cons.inj h).2
  | _ :: _ :: _, _ :: _ :: _, _ => rfl

theorem under_filter {q : String → Bool} {names : List String} (hq : ∀ name ∈ names, q name = true)
    (entries : List (String × α)) :
    under names (entries.filter fun e => q e.1) = under names entries := by
  refine List.filterMap_congr fun name hname => ?_
  induction entries with
  | nil => rfl
  | cons entry entries ih =>
      rw [List.filter_cons, find?_cons, ← ih]
      split
      next => rw [find?_cons]
      next hentry =>
        have hne : entry.1 ≠ name := fun he => hentry (by rw [he]; exact hq name hname)
        rw [if_neg hne, Option.or_none]

theorem under_perm {names : List String} {entries : List (String × α)} (hn : names.Nodup)
    (he : (keys entries).Nodup) {q : String → Bool} (hq : ∀ name, q name = true ↔ name ∈ names) :
    ((entries.filter fun e => q e.1).map Prod.snd).Perm (under names entries) := by
  let pairs := names.filterMap fun name => (find? name entries).map fun v => (name, v)
  have hunder : under names entries = pairs.map Prod.snd := by
    rw [under, List.map_filterMap]
    refine List.filterMap_congr fun name _ => ?_
    rw [Option.map_map]
    exact Option.map_id'.symm
  rw [hunder]
  refine List.Perm.map _ ((List.perm_ext_iff_of_nodup ?_ ?_).mpr fun entry => ?_)
  · exact (he.of_map Prod.fst).filter _
  · refine hn.filterMap fun name other e hname hother => ?_
    obtain ⟨v, _, rfl⟩ := Option.map_eq_some_iff.mp hname
    obtain ⟨w, _, hw⟩ := Option.map_eq_some_iff.mp hother
    exact (congrArg Prod.fst hw).symm
  · rw [List.mem_filter, hq, List.mem_filterMap]
    constructor
    · rintro ⟨hmem, hname⟩
      exact ⟨entry.1, hname, by rw [(find?_eq_some_iff he).mpr hmem]; rfl⟩
    · rintro ⟨name, hname, hentry⟩
      obtain ⟨v, hv, rfl⟩ := Option.map_eq_some_iff.mp hentry
      exact ⟨(find?_eq_some_iff he).mp hv, hname⟩

end Fields

section Records

variable {roles : List (Worded σ)} {p : Worded σ}

def effects (roles : List (Worded σ)) (room : Nat) (ks : List (String × Form)) : List (Effect σ) :=
  ks.map fun k => effectOf (roles.map Worded.toRole) room k.1 k.2

theorem effects_commuting (hi : Independent roles) (room : Nat) (ks : List (String × Form)) :
    Commuting (effects roles room ks) := by
  refine commuting_of_changes hi room fun name f hmem => ?_
  obtain ⟨k, _, hk⟩ := List.mem_map.mp hmem
  exact change_of_effectOf hk

theorem settle_skips (seen : List String) (x : σ) {es : List (Effect σ)}
    (h : ∀ e ∈ es, e = .skip) : settle seen x es = some x := by
  induction es with
  | nil => rfl
  | cons e es ih =>
      obtain ⟨rfl, htail⟩ := List.forall_mem_cons.mp h
      exact ih htail

theorem effects_tail (p : Worded σ) (room : Nat) {ks : List (String × Form)}
    (h : ∀ k ∈ ks, p.field.answers k.1 = false) :
    effects (p :: roles) room ks = effects roles room ks := by
  refine List.map_congr_left fun k hk => ?_
  rw [effectOf, effectOf, List.map_cons, List.find?_cons_of_neg]
  rw [h k hk]
  exact Bool.false_ne_true

/-- The values of one field come first, and those of the others then find the field set. -/
theorem settle_own (p : Worded σ) {own others : List (String × Form)}
    (hown : ∀ k ∈ own, p.field.answers k.1 = true)
    (hothers : ∀ f, .set p.field.name f ∉ effects roles room others) (x : σ) :
    settle [] x (effects (p :: roles) room own ++ effects roles room others) =
      (fill (p.change room) x (own.map Prod.snd)).bind fun y =>
        settle [] y (effects roles room others) := by
  have hfind {k : String × Form} (hk : p.field.answers k.1 = true) :
      ((p :: roles).map Worded.toRole).find? (·.field.answers k.1) = some p.toRole :=
    List.find?_cons_of_pos hk
  have hforget (y : σ) : settle [p.field.name] y (effects roles room others) =
      settle [] y (effects roles room others) := by
    refine settle_congr (fun name f hmem => ?_) y
    have hne : name ≠ p.field.name := by
      rintro rfl
      exact hothers f hmem
    simp [hne]
  match own, hown with
  | [], _ => rfl
  | [k], hown =>
      refine (settle_role (hfind (hown k List.mem_cons_self)) [] x k.2 _).trans ?_
      simp only [List.contains_nil, Bool.false_eq_true, if_false, List.map_cons, List.map_nil, fill,
        Option.bind_map, Function.comp_def]
      exact congrArg _ (funext fun change => hforget (change x))
  | k :: k' :: own, hown =>
      obtain ⟨hk, hown⟩ := List.forall_mem_cons.mp hown
      refine (settle_role (hfind hk) [] x k.2 _).trans ?_
      have hsecond (y : σ) : settle [p.field.name] y
          (effects (p :: roles) room (k' :: own) ++ effects roles room others) = none :=
        (settle_role (hfind (hown k' List.mem_cons_self)) _ y k'.2 _).trans (by simp)
      simp only [List.contains_nil, Bool.false_eq_true, if_false]
      exact Option.bind_eq_none_iff.mpr fun change _ => hsecond (change x)

theorem settle_apart (hi : Independent (p :: roles)) (ks : List (String × Form)) (x : σ) :
    settle [] x (effects (p :: roles) room ks) =
      settle [] x (effects (p :: roles) room (ks.filter fun k => p.field.answers k.1) ++
        effects roles room (ks.filter fun k => !p.field.answers k.1)) := by
  have hothers : ∀ k ∈ ks.filter fun k => !p.field.answers k.1, p.field.answers k.1 = false :=
    fun k hk => by simpa using (List.mem_filter.mp hk).2
  have hperm := List.filter_append_perm (fun k : String × Form => p.field.answers k.1) ks
  rw [← effects_tail p room hothers, effects, effects, effects, ← List.map_append]
  exact settle_perm (hperm.symm.map _) (effects_commuting hi room ks) [] x

theorem names_apart (hi : Independent (p :: roles)) {q : Worded σ} (hq : q ∈ roles)
    (hname : name ∈ q.wording.names) : name ∉ p.wording.names := by
  intro hmem
  obtain ⟨_, _, hdisjoint⟩ := List.nodup_append.mp hi.names
  exact hdisjoint name hmem name (List.mem_flatMap.mpr ⟨q, hq, hname⟩) rfl

theorem not_set_by_others (hi : Independent (p :: roles)) (ks : List (String × Form))
    (f : σ → σ) : .set p.field.name f ∉ effects roles room ks := by
  intro hmem
  obtain ⟨k, _, hk⟩ := List.mem_map.mp hmem
  obtain ⟨q, hq, hname, _⟩ := change_of_effectOf hk
  exact names_apart hi hq List.mem_cons_self (hname ▸ List.mem_cons_self)

/-- A record is what its fields, one after the other, make of the values under their names. Of the
entries `all`, those of the fields before them need not be among the members any more. -/
theorem settle_eq_foldlM (hi : Independent roles) {ks all : List (String × Form)}
    (hks : (keys ks).Nodup)
    (hall : ∀ p ∈ roles, under p.wording.names ks = under p.wording.names all) (x : σ) :
    settle [] x (effects roles room ks) =
      roles.foldlM (fun x p => fill (p.change room) x (under p.wording.names all)) x := by
  induction roles generalizing ks x with
  | nil =>
      refine settle_skips [] x fun e he => ?_
      obtain ⟨k, _, rfl⟩ := List.mem_map.mp he
      rfl
  | cons p roles ih =>
      obtain ⟨hnames, htail, _⟩ := List.nodup_append.mp hi.names
      obtain ⟨hp, hroles⟩ := List.forall_mem_cons.mp hall
      have hfill : fill (p.change room) x ((ks.filter fun k => p.field.answers k.1).map Prod.snd) =
          fill (p.change room) x (under p.wording.names all) := by
        rw [← hp]
        exact fill_perm _ x (under_perm hnames hks fun name => answers_iff)
      have hrest : ∀ q ∈ roles, under q.wording.names (ks.filter fun k => !p.field.answers k.1) =
          under q.wording.names all := by
        intro q hq
        rw [← hroles q hq]
        refine under_filter (q := fun name => !p.field.answers name) (fun name hname => ?_) ks
        have hno : ¬ p.field.answers name = true := fun h =>
          names_apart hi hq hname (answers_iff.mp h)
        simpa using hno
      rw [settle_apart hi, settle_own p (fun k hk => (List.mem_filter.mp hk).2)
        (not_set_by_others hi _), hfill, List.foldlM_cons]
      exact congrArg _ (funext fun y => ih ⟨htail, (List.pairwise_cons.mp hi.apart).2⟩
        (hks.sublist (List.filter_sublist.map _)) hrest y)

structure Column (σ : Type) where
  names : List String
  domain : Json → Prop
  ask : Json → Option (σ → σ)

def Shows (p : Worded σ) (c : Column σ) : Prop :=
  p.wording.names = c.names ∧ Agrees p.change c.domain c.ask

def askMembers (columns : List (Column σ)) (blank : σ) : Json → Option σ
  | .object ds => columns.foldlM (fun x c => fill c.ask x (under c.names ds)) blank
  | _ => none

def Admitted (columns : List (Column σ)) (v : Json) : Prop :=
  ∃ ds, v = .object ds ∧ ∀ c ∈ columns, ∀ w ∈ under c.names ds, c.domain w

theorem keyed_of_holding {ms : List (List Char × Form)} {ps : List (String × Json)}
    (h : List.Forall₂ (Holding room) ms ps) (roles : List (Worded σ)) :
    ∃ ks : List (String × Form),
      ms.map (effect (roles.map Worded.toRole) room) = effects roles room ks ∧
      keys ks = keys ps ∧ (∀ k ∈ ks, ∃ m ∈ ms, m.2 = k.2) ∧
      ∀ name, (find? name ks).map (tree? room) = (find? name ps).map some := by
  induction h with
  | nil => exact ⟨[], rfl, rfl, List.forall_mem_nil _, fun _ => rfl⟩
  | @cons m p ms ps hm _ ih =>
      obtain ⟨ks, heffects, hkeys, hmem, hfind⟩ := ih
      refine ⟨(p.1, m.2) :: ks, ?_, ?_, ?_, fun name => ?_⟩
      · rw [List.map_cons, heffects, effect, hm.1]
        rfl
      · rw [keys_cons, keys_cons, hkeys]
      · refine List.forall_mem_cons.mpr ⟨⟨m, List.mem_cons_self, rfl⟩, fun k hk => ?_⟩
        obtain ⟨m', hm', he⟩ := hmem k hk
        exact ⟨m', List.mem_cons_of_mem _ hm', he⟩
      · rw [find?_cons, find?_cons, Option.map_or, Option.map_or, hfind]
        split
        next => rw [Option.map_some, Option.map_some, hm.2]
        next => rfl

theorem foldlM_of_shows {columns : List (Column σ)} {ks : List (String × Form)}
    {ps : List (String × Json)} (h : List.Forall₂ Shows roles columns)
    (hfind : ∀ name, (find? name ks).map (tree? room) = (find? name ps).map some)
    (hkeys : ∀ names, ∀ v ∈ under names ks, KeysDiffer v)
    (hdomain : ∀ c ∈ columns, ∀ w ∈ under c.names ps, c.domain w) (x : σ) :
    roles.foldlM (fun x p => fill (p.change room) x (under p.wording.names ks)) x =
      columns.foldlM (fun x c => fill c.ask x (under c.names ps)) x := by
  induction h generalizing x with
  | nil => rfl
  | @cons p c roles columns hpc _ ih =>
      obtain ⟨hc, hcolumns⟩ := List.forall_mem_cons.mp hdomain
      have hfill : fill (p.change room) x (under p.wording.names ks) =
          fill c.ask x (under c.names ps) := by
        rw [hpc.1]
        exact fill_of_trees x (under_map hfind c.names) fun v hv w hw htree =>
          hpc.2 (hkeys c.names v hv) htree (hc w hw)
      rw [List.foldlM_cons, List.foldlM_cons, hfill]
      exact congrArg _ (funext fun y => ih hcolumns y)

theorem record_agrees (hi : Independent roles) {columns : List (Column σ)}
    (h : List.Forall₂ Shows roles columns) (blank : σ) :
    Agrees (recordOf (roles.map Worded.toRole) blank) (Admitted columns)
      (askMembers columns blank) := by
  rintro room form _ hkeys htree ⟨_, rfl, hdomain⟩
  obtain ⟨less, ms, ps, rfl, rfl, rfl, hms⟩ := tree?_object htree
  obtain ⟨hnodup, hvalues⟩ := hkeys.members
  obtain ⟨ks, heffects, hks, hmem, hfind⟩ := keyed_of_holding hms roles
  have hksNodup : (keys ks).Nodup := hks ▸ nodup_of_holding hms hnodup
  have hdiffer (names : List String) : ∀ v ∈ under names ks, KeysDiffer v := fun v hv => by
    obtain ⟨name, hk⟩ := mem_of_mem_under hksNodup hv
    obtain ⟨m, hm, rfl⟩ := hmem _ hk
    exact hvalues m hm
  simp only [under_ofList] at hdomain
  simp only [recordOf, askMembers, under_ofList]
  rw [heffects, settle_eq_foldlM hi hksNodup fun _ _ => rfl]
  exact foldlM_of_shows h hfind hdiffer hdomain blank

end Records

end LineTopology.Proofs.TreeReadings
