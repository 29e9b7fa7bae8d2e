import LineTopology.Proofs.Trees
import LineTopology.Topology.Writing

namespace LineTopology.Proofs.Records

open Json Json.Reader Dictionary WellRead Tokens Trees

variable {α σ : Type} {room : Nat}

/-- The reader gives `x` for the text of a value, as long as the value is not too long for it. -/
def ReadsBack (read : Reader α) (room : Nat) (v : Json) (x : α) : Prop :=
  ∀ steps, v.chars.length ≤ steps → Scans (read ⟨steps, room⟩) v x

section Shapes

variable {read : Reader α} {v : Json} {x : α}

theorem map_reads {f : α → σ} (h : ReadsBack read room v x) :
    ReadsBack (Reader.map f read) room v (f x) := by
  intro steps hs
  refine ⟨(h steps hs).starts, fun rest used hends => ?_⟩
  obtain ⟨used', hread⟩ := (h steps hs).scans rest used hends
  exact ⟨used', by rw [Reader.map, hread]; rfl⟩

theorem any_reads (h : Fits room v) (hw : isWhole v = true) : ReadsBack any room v v :=
  fun _ hs => value_scans h hw hs

theorem name_reads (o : Option String) : ReadsBack name room (.ofString? o) o := by
  cases o with
  | none => exact map_reads (any_reads .null rfl)
  | some s => exact map_reads (any_reads (.string s) rfl)

theorem boolean_reads (b : Bool) : ReadsBack boolean room (.boolean b) b := by
  intro steps _
  cases b with
  | false => exact ⟨starts_cons (by decide), fun _ _ _ => ⟨_, rfl⟩⟩
  | true => exact ⟨starts_cons (by decide), fun _ _ _ => ⟨_, rfl⟩⟩

theorem oneOf_reads {known : List String} {pick : String → Option α} {s : String}
    (h : pick s = some x) : ReadsBack (oneOf known pick) room (.string s) x := by
  intro steps _
  refine ⟨starts_cons (by decide), fun rest used _ => ?_⟩
  obtain ⟨used', hread⟩ := quotation_reads s rest (used + 1)
  let letters := s.toList.flatMap escaped ++ '"' :: rest
  have hname : oneOf known pick ⟨steps, room⟩ ⟨'"' :: letters, used⟩ =
      pickName known pick ⟨letters, used + 1⟩ := rfl
  refine ⟨used', ?_⟩
  rw [chars, stringChars_append, hname, pickName, hread]
  simp only [bind, Except.bind, h]
  rfl

theorem optional_none_reads : ReadsBack (optional read) room .null none :=
  fun _ _ => ⟨starts_cons (by decide), fun _ _ _ => ⟨_, rfl⟩⟩

theorem optional_some_reads (h : ReadsBack read room v x) (hv : v.chars.head? ≠ some 'n') :
    ReadsBack (optional read) room v (some x) := by
  intro steps hs
  obtain ⟨⟨d, ds, hd, hspace, hclose⟩, hscans⟩ := map_reads (f := some) h steps hs
  refine ⟨⟨d, ds, hd, hspace, hclose⟩, fun rest used hends => ?_⟩
  obtain ⟨used', hread⟩ := hscans rest used hends
  refine ⟨used', ?_⟩
  rw [hd] at hread hv ⊢
  rw [← hread, List.cons_append, Reader.optional, skipSpace_cons hspace]
  split
  next hn => simp_all
  next => rfl

theorem list_reads {w : α → Json} {xs : List α} (h : ∀ x ∈ xs, ReadsBack read room (w x) x) :
    ReadsBack (list read) (room + 1) (.array (xs.map w)) xs := by
  intro steps hs
  have hlength := Nat.lt_of_lt_of_le (length_lt_array (xs.map w)) hs
  rw [List.length_map] at hlength
  have hitems : ∀ x ∈ xs, Scans (read ⟨steps, room⟩) (w x) x := fun x hx =>
    h x hx steps (Nat.le_trans (item_length_le (List.mem_map_of_mem hx)) hs)
  refine ⟨bracket_starts _, fun rest used _ => ?_⟩
  obtain ⟨used', hbody⟩ := listBody_reads hitems hlength rest (used + 1)
  refine ⟨used', ?_⟩
  rw [array_chars, ← hbody]
  rfl

theorem dictionary_reads {w : α → Json} {ms : List (String × α)} (hascending : Ascending ms)
    (h : ∀ m ∈ ms, ReadsBack read room (w m.2) m.2) :
    ReadsBack (dictionary read) (room + 1) (.object (ms.map fun m => (m.1, w m.2))) ms := by
  intro steps hs
  have hlength := Nat.lt_of_lt_of_le (length_lt_object (ms.map fun m => (m.1, w m.2))) hs
  rw [List.length_map] at hlength
  have hmembers : ∀ m ∈ ms, Scans (read ⟨steps, room⟩) (w m.2) m.2 := by
    intro m hm
    have hmem : (m.1, w m.2) ∈ ms.map fun m => (m.1, w m.2) := List.mem_map_of_mem hm
    exact h m hm steps (Nat.le_trans (member_length_le hmem) hs)
  refine ⟨brace_starts _, fun rest used _ => ?_⟩
  obtain ⟨used', hbody⟩ := objectBody_reads hmembers hlength hascending rest (used + 1)
  refine ⟨used', ?_⟩
  rw [object_chars, ← hbody]
  rfl

end Shapes

section Records

variable {fields : List (Reader.Field σ)} {seen : List String} {x y : σ} {ms : List (String × Json)}

/-- The members of an object turn the record `x` into `y`, field after field, where the fields
under `seen` are not among them. -/
inductive Fills (fields : List (Reader.Field σ)) (room : Nat) :
    List String → σ → List (String × Json) → σ → Prop
  | done (seen : List String) (x : σ) : Fills fields room seen x [] x
  | member {seen : List String} {x y : σ} {key : String} {v : Json} {ms : List (String × Json)}
      {f : Reader.Field σ} {set : σ → σ} :
      fields.find? (·.answers key) = some f → seen.contains f.name = false →
      ReadsBack f.read room v set → Fills fields room (f.name :: seen) (set x) ms y →
      Fills fields room seen x ((key, v) :: ms) y

theorem fieldsByKey_more {limits : Limits} {steps : Nat} {first : Bool} {key : String}
    {f : Reader.Field σ} {set : σ → σ} {c c₁ c₂ c₃ c₄ : Cursor}
    (hmore : moreMembers first c = .ok (true, c₁)) (hkey : quotation c₁ = .ok (key, c₂))
    (hfind : fields.find? (·.answers key) = some f) (hnew : seen.contains f.name = false)
    (hcolon : colon c₂ = .ok c₃) (hset : f.read limits c₃ = .ok (set, c₄)) :
    fieldsByKey fields limits (steps + 1) first seen x c =
      fieldsByKey fields limits steps false (f.name :: seen) (set x) c₄ := by
  simp only [fieldsByKey, hmore, bind, Except.bind, if_true, hkey, hfind, hnew, Bool.false_eq_true,
    if_false, hcolon, hset]

theorem fieldsByKey_reads {limit steps : Nat} (h : Fills fields room seen x ms y)
    (hlength : ms.length < steps) (hfit : ∀ m ∈ ms, m.2.chars.length ≤ limit) (first : Bool)
    (rest : List Char) (used : Nat) :
    ∃ used', fieldsByKey fields ⟨limit, room⟩ steps first seen x
        ⟨objectText first ms ++ rest, used⟩ =
      .ok (y, ⟨'\x7d' :: rest, used'⟩) := by
  induction h generalizing steps first used with
  | done seen x =>
      obtain ⟨steps, rfl⟩ := Nat.exists_eq_add_one.mpr (Nat.zero_lt_of_lt hlength)
      exact ⟨used, rfl⟩
  | @member seen x y key v ms f set hfind hnew hv _ ih =>
      obtain ⟨steps, rfl⟩ := Nat.exists_eq_add_one.mpr (Nat.zero_lt_of_lt hlength)
      obtain ⟨hm, hms⟩ := List.forall_mem_cons.mp hfit
      let text := objectText false ms ++ rest
      obtain ⟨c₁, c₂, atValue, hmore, hkey, hcolon⟩ := key_reads first key (v.chars ++ text) used
      obtain ⟨behind, hset⟩ := (hv limit hm).scans text atValue (ends_objectText _ rest)
      obtain ⟨used', htail⟩ := ih (Nat.lt_of_succ_lt_succ hlength) hms false behind
      refine ⟨used', ?_⟩
      rw [← htail, ← fieldsByKey_more hmore hkey hfind hnew hcolon hset]
      simp only [objectText_cons, List.append_assoc, List.cons_append, text]

theorem record_brace (title : String) (blank : σ) (steps room : Nat) (r : List Char) (used : Nat) :
    record title fields blank ⟨steps, room + 1⟩ ⟨'\x7b' :: r, used⟩ =
      (do
        let (x, c) ← fieldsByKey fields ⟨steps, room⟩ steps true [] blank ⟨r, used + 1⟩
        return (x, ← leaveObject c)) :=
  rfl

theorem record_reads {title : String} {blank : σ} (h : Fills fields room [] blank ms y) :
    ReadsBack (record title fields blank) (room + 1) (.object ms) y := by
  intro steps hs
  refine ⟨brace_starts ms, fun rest used _ => ?_⟩
  obtain ⟨used', hfields⟩ := fieldsByKey_reads h (Nat.lt_of_lt_of_le (length_lt_object ms) hs)
    (fun m hm => Nat.le_trans (member_length_le hm) hs) true rest (used + 1)
  exact ⟨used' + 1, by rw [object_chars, List.cons_append, record_brace, hfields]; rfl⟩

theorem Fills.mono {before : List String} (h : Fills fields room seen x ms y) (hb : before ⊆ seen) :
    Fills fields room before x ms y := by
  induction h generalizing before with
  | done => exact .done _ _
  | member hfind hnew hv _ ih =>
      refine .member hfind ?_ hv (ih (List.cons_subset_cons _ hb))
      simp only [List.contains_eq_mem, decide_eq_false_iff_not] at hnew ⊢
      exact fun hmem => hnew (hb hmem)

variable {key fieldName : String} {aliases : List String} {read : Reader α} {set : α → σ → σ}

theorem Fills.field {v : Json} {a : α}
    (hfind : fields.find? (·.answers key) = some (Reader.field fieldName aliases read set))
    (hnew : seen.contains fieldName = false) (hv : ReadsBack read room v a)
    (h : Fills fields room (fieldName :: seen) (set a x) ms y) :
    Fills fields room seen x ((key, v) :: ms) y :=
  .member hfind hnew (map_reads hv) h

theorem Fills.name? {set : Option String → σ → σ} {o : Option String}
    (hfind : fields.find? (·.answers key) = some (Reader.field fieldName aliases Reader.name set))
    (hnew : seen.contains fieldName = false) (hnone : set none x = x)
    (h : Fills fields room (fieldName :: seen) (set o x) ms y) :
    Fills fields room seen x (member? key o ++ ms) y := by
  cases o with
  | none =>
      -- Nothing is written for the field, which is then not among those that were met.
      rw [hnone] at h
      exact h.mono (List.subset_cons_self _ _)
  | some s => exact .field hfind hnew (name_reads (some s)) h

end Records

theorem run_reads {read : Reader α} {v : Json} {x : α} (h : ReadsBack read nestingLimit v x) :
    read.run v.compact = .ok x := by
  have hlength : v.chars.length ≤ v.compact.length + 1 := by
    rw [compact, String.length_ofList]
    exact Nat.le_succ _
  obtain ⟨used', hread⟩ := (h _ hlength).scans [] 0 ends_nil
  rw [List.append_nil] at hread
  have hstart : Cursor.start v.compact = ⟨v.chars, 0⟩ := by
    rw [Cursor.start, compact, String.toList_ofList]
  rw [Reader.run, hstart, hread]
  rfl

end LineTopology.Proofs.Records
