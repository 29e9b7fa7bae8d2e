import LineTopology.Proofs.RecordMeanings

namespace LineTopology.Proofs.Rewordings

open Json Json.Reader Grammar Quotations Contents Meanings RecordMeanings

variable {α σ : Type} {form form' : Form}

/-- How a document may write a field: under any of its names, and with any of the values that are
alike. -/
structure Wording where
  names : List String
  alike : Form → Form → Prop

/-- Two ways of writing one record. Members under other names than those of its fields may come and
go. -/
inductive Reworded (wordings : List Wording) : Form → Form → Prop
  | refl (form : Form) : Reworded wordings form form
  | symm {form form' : Form} : Reworded wordings form form' → Reworded wordings form' form
  | trans {form form' form'' : Form} :
      Reworded wordings form form' → Reworded wordings form' form'' → Reworded wordings form form''
  | reorder {ms ms' : List (List Char × Form)} :
      ms.Perm ms' → Reworded wordings (.object ms) (.object ms')
  | rename {w : Wording} {name name' : String} {cs cs' : List Char} {v : Form}
      {ms : List (List Char × Form)} :
      w ∈ wordings → name ∈ w.names → name' ∈ w.names →
      Spells cs name.toList → Spells cs' name'.toList →
      Reworded wordings (.object ((cs, v) :: ms)) (.object ((cs', v) :: ms))
  | other {name : String} {cs : List Char} {v : Form} {ms : List (List Char × Form)} :
      (∀ w ∈ wordings, name ∉ w.names) → Spells cs name.toList →
      Reworded wordings (.object ms) (.object ((cs, v) :: ms))
  | value {w : Wording} {name : String} {cs : List Char} {v v' : Form}
      {ms : List (List Char × Form)} :
      w ∈ wordings → name ∈ w.names → Spells cs name.toList → w.alike v v' →
      Reworded wordings (.object ((cs, v) :: ms)) (.object ((cs, v') :: ms))
  | item {w : Wording} {front behind : List Form} {v v' : Form} :
      wordings[front.length]? = some w → w.alike v v' →
      Reworded wordings (.array (front ++ v :: behind)) (.array (front ++ v' :: behind))

inductive InItem (alike : Form → Form → Prop) : Form → Form → Prop
  | item {front behind : List Form} {v v' : Form} :
      alike v v' → InItem alike (.array (front ++ v :: behind)) (.array (front ++ v' :: behind))

inductive SameName : Form → Form → Prop
  | numeral {cs letters : List Char} {n : Number} :
      IsNumeral cs → Reader.any.run (String.ofList cs) = .ok (.number n) →
      Spells letters n.text.toList → SameName (.numeral cs) (.quoted letters)

section Effects

variable {seen seen' : List String} {es es' : List (Effect σ)}

def Commuting (es : List (Effect σ)) : Prop :=
  ∀ name f other g, .set name f ∈ es → .set other g ∈ es → name ≠ other → ∀ x, f (g x) = g (f x)

theorem settle_congr
    (h : ∀ name f, .set name f ∈ es → seen.contains name = seen'.contains name) (x : σ) :
    settle seen x es = settle seen' x es := by
  induction es generalizing seen seen' x with
  | nil => rfl
  | cons e es ih =>
      have htail := fun name f hf => h name f (List.mem_cons_of_mem e hf)
      cases e with
      | skip => exact ih htail x
      | fault => rfl
      | set name change =>
          rw [settle, settle, h name change List.mem_cons_self]
          refine ite_congr rfl (fun _ => rfl) fun _ => ih (fun other f hf => ?_) _
          rw [List.contains_cons, List.contains_cons, htail other f hf]

theorem settle_swap {e e' : Effect σ} (h : Commuting [e, e']) (seen : List String) (x : σ)
    (es : List (Effect σ)) : settle seen x (e :: e' :: es) = settle seen x (e' :: e :: es) := by
  cases e with
  | skip => cases e' <;> rfl
  | fault => cases e' <;> simp [settle]
  | set name f =>
      cases e' with
      | skip => rfl
      | fault => simp [settle]
      | set other g =>
          by_cases hname : name = other
          · subst hname
            simp [settle]
          · have hcomm := h name f other g (by simp) (by simp) hname x
            have hcontains (key : String) : (other :: name :: seen).contains key =
                (name :: other :: seen).contains key := by
              simp only [List.contains_cons]
              cases key == other <;> cases key == name <;> rfl
            have hcongr : settle (other :: name :: seen) (f (g x)) es =
                settle (name :: other :: seen) (f (g x)) es :=
              settle_congr (fun key _ _ => hcontains key) _
            have hother : (other == name) = false := beq_false_of_ne (Ne.symm hname)
            have hname : (name == other) = false := beq_false_of_ne hname
            simp only [settle, List.contains_cons, hname, hother, Bool.false_or, ← hcomm, hcongr]
            cases seen.contains name <;> cases seen.contains other <;> rfl

theorem settle_perm (h : es.Perm es') (hc : Commuting es) (seen : List String) (x : σ) :
    settle seen x es = settle seen x es' := by
  induction h generalizing seen x with
  | nil => rfl
  | cons e _ ih =>
      have htail := ih fun name f other g hf hg =>
        hc name f other g (List.mem_cons_of_mem _ hf) (List.mem_cons_of_mem _ hg)
      cases e with
      | skip => exact htail seen x
      | fault => rfl
      | set name change => exact ite_congr rfl (fun _ => rfl) fun _ => htail _ _
  | swap e e' es =>
      refine settle_swap (fun name f other g hf hg => ?_) seen x es
      exact hc name f other g (List.mem_append_left es hf) (List.mem_append_left es hg)
  | trans h _ ih ih' =>
      refine (ih hc seen x).trans (ih' (fun name f other g hf hg => ?_) seen x)
      exact hc name f other g (h.mem_iff.mpr hf) (h.mem_iff.mpr hg)

end Effects

structure Worded (σ : Type) extends Role σ where
  alike : Form → Form → Prop
  same : ∀ room v v', alike v v' → change room v = change room v'

def Worded.wording (p : Worded σ) : Wording := ⟨p.field.name :: p.field.aliases, p.alike⟩

def Apart (p q : Worded σ) : Prop :=
  ∀ room v w f g, p.change room v = some f → q.change room w = some g → ∀ x, f (g x) = g (f x)

theorem Apart.symm {p q : Worded σ} (h : Apart p q) : Apart q p :=
  fun room v w f g hf hg x => (h room w v g f hg hf x).symm

structure Independent (roles : List (Worded σ)) : Prop where
  names : (roles.flatMap fun p => p.wording.names).Nodup
  apart : roles.Pairwise Apart

theorem Independent.apart_of_ne {roles : List (Worded σ)} (h : Independent roles) {p q : Worded σ}
    (hp : p ∈ roles) (hq : q ∈ roles) (hne : p.field.name ≠ q.field.name) : Apart p q := by
  have hbehind : roles.Pairwise fun p q => p.field.name ≠ q.field.name → Apart p q := by
    refine List.Pairwise.imp ?_ h.apart
    exact fun hapart _ => hapart
  have hbefore : roles.Pairwise fun p q => q.field.name ≠ p.field.name → Apart q p := by
    refine List.Pairwise.imp ?_ h.apart
    exact fun hapart _ => hapart.symm
  exact List.Pairwise.forall_of_forall_of_flip (fun p _ hne => absurd rfl hne) hbehind hbefore
    hp hq hne

section Records

variable {roles : List (Worded σ)} {room : Nat} {p : Worded σ} {name : String} {cs : List Char}
  {v v' : Form} {blank : σ}

theorem answers_iff : p.field.answers name = true ↔ name ∈ p.wording.names := by
  simp only [Field.answers, Worded.wording, Bool.or_eq_true, beq_iff_eq, List.contains_iff_mem,
    List.mem_cons]
  rw [eq_comm]

theorem find?_of_mem (hn : (roles.flatMap fun p => p.wording.names).Nodup) (hp : p ∈ roles)
    (hname : name ∈ p.wording.names) : roles.find? (·.field.answers name) = some p := by
  induction roles with
  | nil => cases hp
  | cons q roles ih =>
      obtain ⟨_, htail, hdisjoint⟩ := List.nodup_append.mp hn
      rcases List.mem_cons.mp hp with rfl | hmem
      · exact List.find?_cons_of_pos (answers_iff.mpr hname)
      · have hq : ¬q.field.answers name = true := fun hq =>
          hdisjoint name (answers_iff.mp hq) name (List.mem_flatMap.mpr ⟨p, hmem, hname⟩) rfl
        simpa [List.find?_cons, hq] using ih htail hmem

theorem effect_spells (roles : List (Role σ)) (room : Nat) (h : Spells cs name.toList) (v : Form) :
    effect roles room (cs, v) = effectOf roles room name v := by
  rw [effect, spelled?_of_spells h, String.ofList_toList]

theorem effectOf_mem (hi : Independent roles) (hp : p ∈ roles) (hname : name ∈ p.wording.names)
    (room : Nat) (v : Form) :
    effectOf (roles.map Worded.toRole) room name v =
      match p.change room v with
      | none => .fault
      | some change => .set p.field.name change := by
  have hfind := find?_of_mem hi.names hp hname
  rw [effectOf, List.find?_map, Function.comp_def, hfind]
  rfl

theorem effectOf_other (h : ∀ w ∈ roles.map Worded.wording, name ∉ w.names) (room : Nat)
    (v : Form) : effectOf (roles.map Worded.toRole) room name v = .skip := by
  have hfind : roles.find? (fun p => p.field.answers name) = none := by
    refine List.find?_eq_none.mpr fun p hp ha => ?_
    exact h _ (List.mem_map_of_mem hp) (answers_iff.mp ha)
  rw [effectOf, List.find?_map, Function.comp_def, hfind]
  rfl

theorem change_of_effectOf {key : String} {f : σ → σ}
    (h : effectOf (roles.map Worded.toRole) room key v = .set name f) :
    ∃ p ∈ roles, p.field.name = name ∧ ∃ v, p.change room v = some f := by
  rw [effectOf, List.find?_map] at h
  cases hfind : roles.find? ((·.field.answers key) ∘ Worded.toRole) with
  | none =>
      rw [hfind] at h
      cases h
  | some p =>
      rw [hfind] at h
      simp only [Option.map_some] at h
      split at h
      next => cases h
      next hchange =>
        cases h
        exact ⟨p, List.mem_of_find?_eq_some hfind, rfl, v, hchange⟩

theorem commuting_of_changes (hi : Independent roles) (room : Nat) {es : List (Effect σ)}
    (h : ∀ name f, .set name f ∈ es →
      ∃ p ∈ roles, p.field.name = name ∧ ∃ v, p.change room v = some f) : Commuting es := by
  intro name f other g hf hg hne x
  obtain ⟨p, hp, rfl, v, hchange⟩ := h name f hf
  obtain ⟨q, hq, rfl, w, hchange'⟩ := h other g hg
  exact hi.apart_of_ne hp hq hne room v w f g hchange hchange' x

theorem effects_commute (hi : Independent roles) (room : Nat) (ms : List (List Char × Form)) :
    Commuting (ms.map (effect (roles.map Worded.toRole) room)) := by
  refine commuting_of_changes hi room fun name f hmem => ?_
  obtain ⟨m, _, hm⟩ := List.mem_map.mp hmem
  rw [effect] at hm
  split at hm
  next => cases hm
  next => exact change_of_effectOf hm

theorem fillInOrder_item {front behind : List Form} (hp : roles[front.length]? = some p)
    (h : p.alike v v') (room : Nat) (x : σ) :
    fillInOrder room (roles.map Worded.toRole) x (front ++ v :: behind) =
      fillInOrder room (roles.map Worded.toRole) x (front ++ v' :: behind) := by
  induction front generalizing roles x with
  | nil =>
      cases roles with
      | nil => cases hp
      | cons q roles =>
          cases hp
          simp only [List.map_cons, List.nil_append, fillInOrder, p.same room v v' h]
  | cons w front ih =>
      cases roles with
      | nil => cases hp
      | cons q roles =>
          simp only [List.map_cons, List.cons_append, fillInOrder]
          exact congrArg _ (funext fun change => ih hp (change x))

theorem recordOf_reworded (hi : Independent roles)
    (h : Reworded (roles.map Worded.wording) form form') (room : Nat) :
    recordOf (roles.map Worded.toRole) blank room form =
      recordOf (roles.map Worded.toRole) blank room form' := by
  induction h with
  | refl => rfl
  | symm _ ih => exact ih.symm
  | trans _ _ ih ih' => exact ih.trans ih'
  | @reorder ms ms' hperm =>
      cases room with
      | zero => rfl
      | succ room => exact settle_perm (hperm.map _) (effects_commute hi room ms) [] blank
  | @rename w name name' cs cs' v ms hw hname hname' hs hs' =>
      obtain ⟨p, hp, rfl⟩ := List.mem_map.mp hw
      cases room with
      | zero => rfl
      | succ room =>
          simp only [recordOf, List.map_cons, effect_spells _ room hs, effect_spells _ room hs',
            effectOf_mem hi hp hname, effectOf_mem hi hp hname']
  | @other name cs v ms hname hs =>
      cases room with
      | zero => rfl
      | succ room =>
          simp only [recordOf, List.map_cons, effect_spells _ room hs, effectOf_other hname, settle]
  | @value w name cs v v' ms hw hname hs halike =>
      obtain ⟨p, hp, rfl⟩ := List.mem_map.mp hw
      cases room with
      | zero => rfl
      | succ room =>
          simp only [recordOf, List.map_cons, effect_spells _ room hs, effectOf_mem hi hp hname,
            p.same room v v' halike]
  | @item w front behind v v' hw halike =>
      rw [List.getElem?_map] at hw
      obtain ⟨p, hp, rfl⟩ := Option.map_eq_some_iff.mp hw
      cases room with
      | zero => rfl
      | succ room => exact fillInOrder_item hp halike room blank

end Records

end LineTopology.Proofs.Rewordings
