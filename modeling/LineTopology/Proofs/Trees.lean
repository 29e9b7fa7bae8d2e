import LineTopology.Proofs.Tokens
import LineTopology.Proofs.WellRead

namespace LineTopology.Proofs.Trees

open Text Json Dictionary Answers Decimals Entries WellRead Tokens

variable {α σ : Type} {rest : List Char} {used steps room : Nat}

/-- The scan passes over the text of a value and no further, wherever it stands, and gives `x`. -/
structure Scans (read : Scan α) (v : Json) (x : α) : Prop where
  starts : Starts v.chars
  scans : ∀ rest used, Ends rest →
    ∃ used', read ⟨v.chars ++ rest, used⟩ = .ok (x, ⟨rest, used'⟩)

section Pieces

def pieces (close : Char) (first : Bool) : List (List Char) → List Char
  | [] => [close]
  | p :: ps => separator first ++ (p ++ pieces close false ps)

variable {close : Char} {p : List Char} {ps : List (List Char)}

theorem ends_pieces (hc : Ends [close]) (ps : List (List Char)) (rest : List Char) :
    Ends (pieces close false ps ++ rest) := by
  cases ps with
  | nil => exact hc
  | cons p ps => exact ends_comma

theorem length_lt_pieces (close : Char) (ps : List (List Char)) :
    ps.length < (pieces close false ps).length := by
  induction ps with
  | nil => exact Nat.one_pos
  | cons p ps ih =>
      simp only [pieces, separator, List.length_append, List.length_cons, List.length_nil]
      omega

theorem length_le_pieces (close : Char) (first : Bool) (ps : List (List Char)) :
    ps.length ≤ (pieces close first ps).length := by
  cases ps with
  | nil => exact Nat.zero_le _
  | cons p ps =>
      have htail := length_lt_pieces close ps
      simp only [pieces, List.length_append, List.length_cons]
      omega

theorem piece_length_le (h : p ∈ ps) (first : Bool) :
    p.length ≤ (pieces close first ps).length := by
  induction ps generalizing first with
  | nil => cases h
  | cons q ps ih =>
      simp only [pieces, List.length_append]
      rcases List.mem_cons.mp h with rfl | h
      · omega
      · have htail := ih h false
        omega

end Pieces

section Texts

/-- What follows the bracket that opens a list, or one of its items. -/
def listText (first : Bool) (xs : List Json) : List Char := pieces ']' first (xs.map chars)

def memberText (m : String × Json) : List Char := stringChars m.1 ++ ':' :: m.2.chars

def objectText (first : Bool) (ms : List (String × Json)) : List Char :=
  pieces '\x7d' first (ms.map memberText)

variable {x : Json} {xs : List Json} {m : String × Json} {ms : List (String × Json)}

theorem listText_cons (first : Bool) (x : Json) (xs : List Json) :
    listText first (x :: xs) = separator first ++ (x.chars ++ listText false xs) := rfl

theorem objectText_cons (first : Bool) (m : String × Json) (ms : List (String × Json)) :
    objectText first (m :: ms) =
      separator first ++ (stringChars m.1 ++ ':' :: (m.2.chars ++ objectText false ms)) := by
  simp only [objectText, memberText, List.map_cons, pieces, List.append_assoc, List.cons_append]

theorem ends_listText (xs : List Json) (rest : List Char) : Ends (listText false xs ++ rest) :=
  ends_pieces ends_bracket _ rest

theorem ends_objectText (ms : List (String × Json)) (rest : List Char) :
    Ends (objectText false ms ++ rest) := ends_pieces ends_brace _ rest

theorem itemChars_eq (xs : List Json) : itemChars xs = listText false xs := by
  induction xs with
  | nil => rfl
  | cons x xs ih => simp [itemChars, listText_cons, separator, ih]

theorem memberChars_eq (ms : List (String × Json)) : memberChars ms = objectText false ms := by
  induction ms with
  | nil => rfl
  | cons m ms ih => simp [memberChars, objectText_cons, separator, ih]

theorem array_chars (xs : List Json) : (Json.array xs).chars = '[' :: listText true xs := by
  cases xs with
  | nil => rfl
  | cons x xs => simp [chars, listText_cons, separator, itemChars_eq]

theorem object_chars (ms : List (String × Json)) :
    (Json.object ms).chars = '\x7b' :: objectText true ms := by
  cases ms with
  | nil => rfl
  | cons m ms => simp [chars, objectText_cons, separator, memberChars_eq]

theorem length_lt_array (xs : List Json) : xs.length < (Json.array xs).chars.length := by
  have hle := length_le_pieces ']' true (xs.map chars)
  rw [List.length_map] at hle
  rw [array_chars]
  exact Nat.lt_succ_of_le hle

theorem item_length_le (h : x ∈ xs) : x.chars.length ≤ (Json.array xs).chars.length := by
  rw [array_chars]
  exact Nat.le_succ_of_le (piece_length_le (List.mem_map_of_mem h) true)

theorem length_lt_object (ms : List (String × Json)) :
    ms.length < (Json.object ms).chars.length := by
  have hle := length_le_pieces '\x7d' true (ms.map memberText)
  rw [List.length_map] at hle
  rw [object_chars]
  exact Nat.lt_succ_of_le hle

theorem member_length_le (h : m ∈ ms) : m.2.chars.length ≤ (Json.object ms).chars.length := by
  have hvalue : m.2.chars.length ≤ (memberText m).length := by
    simp only [memberText, List.length_append, List.length_cons]
    omega
  rw [object_chars]
  exact Nat.le_succ_of_le
    (Nat.le_trans hvalue (piece_length_le (List.mem_map_of_mem h) true))

end Texts

section Brackets

variable {read : Scan α} {w : α → Json} {first : Bool}

theorem items_more {seen : List α} {x : α} {c c₁ c₂ : Cursor}
    (hmore : moreItems first c = .ok (true, c₁)) (hx : read c₁ = .ok (x, c₂)) :
    items read (steps + 1) first seen c = items read steps false (x :: seen) c₂ := by
  simp only [items, hmore, bind, Except.bind, if_true, hx]

theorem items_reads {xs : List α} (h : ∀ x ∈ xs, Scans read (w x) x) (hs : xs.length < steps)
    (first : Bool) (seen : List α) (rest : List Char) (used : Nat) :
    ∃ used', items read steps first seen ⟨listText first (xs.map w) ++ rest, used⟩ =
      .ok (seen.reverse ++ xs, ⟨']' :: rest, used'⟩) := by
  induction xs generalizing steps first seen used with
  | nil =>
      obtain ⟨steps, rfl⟩ := Nat.exists_eq_add_one.mpr (Nat.zero_lt_of_lt hs)
      refine ⟨used, ?_⟩
      rw [List.append_nil]
      rfl
  | cons x xs ih =>
      obtain ⟨steps, rfl⟩ := Nat.exists_eq_add_one.mpr (Nat.zero_lt_of_lt hs)
      obtain ⟨hx, hxs⟩ := List.forall_mem_cons.mp h
      obtain ⟨atItem, hmore⟩ :=
        moreItems_item first hx.starts (listText false (xs.map w) ++ rest) used
      obtain ⟨behind, hread⟩ := hx.scans _ atItem (ends_listText (xs.map w) rest)
      obtain ⟨used', htail⟩ := ih hxs (Nat.lt_of_succ_lt_succ hs) false (x :: seen) behind
      refine ⟨used', ?_⟩
      rw [List.map_cons, listText_cons, List.append_assoc, List.append_assoc, items_more hmore hread,
        htail, List.reverse_cons, List.append_assoc]
      rfl

theorem listBody_reads {xs : List α} (h : ∀ x ∈ xs, Scans read (w x) x) (hs : xs.length < steps)
    (rest : List Char) (used : Nat) :
    ∃ used', listBody read steps ⟨listText true (xs.map w) ++ rest, used⟩ =
      .ok (xs, ⟨rest, used'⟩) := by
  obtain ⟨used', hitems⟩ := items_reads h hs true [] rest used
  exact ⟨used' + 1, by rw [listBody, hitems]; rfl⟩

theorem stringChars_append (s : String) (rest : List Char) :
    stringChars s ++ rest = '"' :: (s.toList.flatMap escaped ++ '"' :: rest) := by
  simp [stringChars]

theorem key_reads (first : Bool) (key : String) (rest : List Char) (used : Nat) :
    ∃ c₁ c₂ used',
      moreMembers first ⟨separator first ++ (stringChars key ++ ':' :: rest), used⟩ =
        .ok (true, c₁) ∧
      quotation c₁ = .ok (key, c₂) ∧ colon c₂ = .ok ⟨rest, used'⟩ := by
  obtain ⟨atKey, hmore⟩ :=
    moreMembers_key first (key.toList.flatMap escaped ++ '"' :: ':' :: rest) used
  obtain ⟨behind, hkey⟩ := quotation_reads key (':' :: rest) atKey
  exact ⟨_, _, _, by rw [stringChars_append, hmore], hkey, colon_reads⟩

theorem members_more {seen : List (String × α)} {key : String} {x : α} {c c₁ c₂ c₃ c₄ : Cursor}
    (hmore : moreMembers first c = .ok (true, c₁)) (hkey : quotation c₁ = .ok (key, c₂))
    (hcolon : colon c₂ = .ok c₃) (hx : read c₃ = .ok (x, c₄)) :
    members read (steps + 1) first seen c =
      members read steps false (Dictionary.insert key x seen) c₄ := by
  simp only [members, hmore, bind, Except.bind, if_true, hkey, hcolon, hx]

theorem members_reads {ms : List (String × α)} (h : ∀ m ∈ ms, Scans read (w m.2) m.2)
    (hs : ms.length < steps) (first : Bool) (seen : List (String × α))
    (hascending : Ascending (seen ++ ms)) (rest : List Char) (used : Nat) :
    ∃ used', members read steps first seen
        ⟨objectText first (ms.map fun m => (m.1, w m.2)) ++ rest, used⟩ =
      .ok (seen ++ ms, ⟨'\x7d' :: rest, used'⟩) := by
  induction ms generalizing steps first seen used with
  | nil =>
      obtain ⟨steps, rfl⟩ := Nat.exists_eq_add_one.mpr (Nat.zero_lt_of_lt hs)
      refine ⟨used, ?_⟩
      rw [List.append_nil]
      rfl
  | cons m ms ih =>
      obtain ⟨steps, rfl⟩ := Nat.exists_eq_add_one.mpr (Nat.zero_lt_of_lt hs)
      obtain ⟨hm, hms⟩ := List.forall_mem_cons.mp h
      -- The key is above all those that were met, so that its entry goes behind theirs.
      have hlast : ∀ entry ∈ seen, entry.1 < m.1 := fun entry he =>
        (List.pairwise_append.mp hascending).2.2 entry he m List.mem_cons_self
      rw [List.append_cons] at hascending
      let text := objectText false (ms.map fun m => (m.1, w m.2)) ++ rest
      obtain ⟨c₁, c₂, atValue, hmore, hkey, hcolon⟩ :=
        key_reads first m.1 ((w m.2).chars ++ text) used
      obtain ⟨behind, hread⟩ := hm.scans text atValue (ends_objectText _ rest)
      obtain ⟨used', htail⟩ := ih hms (Nat.lt_of_succ_lt_succ hs) false _ hascending behind
      refine ⟨used', ?_⟩
      rw [List.append_cons, ← htail, ← insert_of_lt hlast, ← members_more hmore hkey hcolon hread]
      simp only [List.map_cons, objectText_cons, List.append_assoc, List.cons_append, text]

theorem objectBody_reads {ms : List (String × α)} (h : ∀ m ∈ ms, Scans read (w m.2) m.2)
    (hs : ms.length < steps) (hascending : Ascending ms) (rest : List Char) (used : Nat) :
    ∃ used', objectBody read steps
        ⟨objectText true (ms.map fun m => (m.1, w m.2)) ++ rest, used⟩ =
      .ok (ms, ⟨rest, used'⟩) := by
  obtain ⟨used', hmembers⟩ := members_reads h hs true [] hascending rest used
  exact ⟨used' + 1, by rw [objectBody, hmembers]; rfl⟩

end Brackets

section Values

mutual

def isWhole : Json → Bool
  | .null | .boolean _ | .string _ | .number (.integer _) => true
  | .number (.real _) => false
  | .array xs => areWhole xs
  | .object ms => haveWhole ms

def areWhole : List Json → Bool
  | [] => true
  | x :: xs => isWhole x && areWhole xs

def haveWhole : List (String × Json) → Bool
  | [] => true
  | (_, v) :: ms => isWhole v && haveWhole ms

end

theorem areWhole_iff {xs : List Json} : areWhole xs = true ↔ ∀ x ∈ xs, isWhole x = true := by
  induction xs with
  | nil => simp [areWhole]
  | cons x xs ih => simp [areWhole, ih]

theorem haveWhole_iff {ms : List (String × Json)} :
    haveWhole ms = true ↔ ∀ m ∈ ms, isWhole m.2 = true := by
  induction ms with
  | nil => simp [haveWhole]
  | cons m ms ih => simp [haveWhole, ih]

variable {inner : Option (Scan Json)}

theorem valueAt_digit (steps : Nat) (inner : Option (Scan Json)) {d : Char} (r : List Char)
    (used : Nat) (h : isDigit d = true) :
    valueAt steps inner ⟨d :: r, used⟩ =
      (numeral false ⟨d :: r, used⟩).map fun (n, c) => (.number n, c) := by
  rw [valueAt, skipSpace_cons (isDigit_starts h).1]
  split <;> simp_all [isDigit]

theorem number_scans {n : Number} (hn : InRange n) (hw : isWhole (.number n) = true) :
    Scans (valueAt steps inner) (.number n) (.number n) := by
  match n with
  | .integer (.ofNat n) =>
      obtain ⟨d, ds, hd⟩ := List.exists_cons_of_ne_nil (decimal_ne_nil n)
      have hdigit : isDigit d = true := isDigit_of_mem (hd ▸ List.mem_cons_self)
      refine ⟨⟨d, ds, hd, isDigit_starts hdigit⟩, fun rest used hends => ?_⟩
      obtain ⟨used', hread⟩ := numeral_reads false used hends hn rfl
      have hvalue := valueAt_digit steps inner (ds ++ rest) used hdigit
      rw [← List.cons_append, ← hd, hread] at hvalue
      exact ⟨used', hvalue⟩
  | .integer (.negSucc n) =>
      refine ⟨starts_cons (by decide), fun rest used hends => ?_⟩
      have hlimit : n + 1 ≤ Numeral.significandLimit := Nat.le_trans hn (by decide)
      have hwhole : Numeral.whole true (n + 1) = some (.integer (.negSucc n)) := by
        rw [Numeral.whole, if_neg (by decide), if_pos ⟨Nat.succ_pos n, hn⟩]
        rfl
      obtain ⟨used', hread⟩ := numeral_reads true (used + 1) hends hlimit hwhole
      have hvalue : valueAt steps inner ⟨'-' :: (decimal (n + 1) ++ rest), used⟩ =
          (numeral true ⟨decimal (n + 1) ++ rest, used + 1⟩).map
            fun (n, c) => (.number n, c) := rfl
      rw [hread] at hvalue
      exact ⟨used', hvalue⟩
  | .real _ => cases hw

theorem valueAt_quote (steps : Nat) (inner : Option (Scan Json)) (r : List Char) (used : Nat) :
    valueAt steps inner ⟨'"' :: r, used⟩ =
      (quotation ⟨r, used + 1⟩).map fun (s, c) => (.string s, c) :=
  rfl

theorem valueAt_bracket (steps : Nat) (read : Scan Json) (r : List Char) (used : Nat) :
    valueAt steps (some read) ⟨'[' :: r, used⟩ =
      (listBody read steps ⟨r, used + 1⟩).map fun (xs, c) => (.array xs, c) :=
  rfl

theorem valueAt_brace (steps : Nat) (read : Scan Json) (r : List Char) (used : Nat) :
    valueAt steps (some read) ⟨'\x7b' :: r, used⟩ =
      (objectBody read steps ⟨r, used + 1⟩).map fun (ms, c) => (.object ms, c) :=
  rfl

theorem string_scans (s : String) : Scans (valueAt steps inner) (.string s) (.string s) := by
  refine ⟨starts_cons (by decide), fun rest used _ => ?_⟩
  obtain ⟨used', hread⟩ := quotation_reads s rest (used + 1)
  have hvalue := valueAt_quote steps inner (s.toList.flatMap escaped ++ '"' :: rest) used
  rw [hread] at hvalue
  exact ⟨used', by rw [chars, stringChars_append, hvalue]; rfl⟩

theorem null_scans : Scans (valueAt steps inner) .null .null :=
  ⟨starts_cons (by decide), fun _ _ _ => ⟨_, rfl⟩⟩

theorem boolean_scans (b : Bool) : Scans (valueAt steps inner) (.boolean b) (.boolean b) := by
  cases b with
  | false => exact ⟨starts_cons (by decide), fun _ _ _ => ⟨_, rfl⟩⟩
  | true => exact ⟨starts_cons (by decide), fun _ _ _ => ⟨_, rfl⟩⟩

theorem bracket_starts (xs : List Json) : Starts (Json.array xs).chars :=
  array_chars xs ▸ starts_cons (by decide)

theorem brace_starts (ms : List (String × Json)) : Starts (Json.object ms).chars :=
  object_chars ms ▸ starts_cons (by decide)

theorem array_scans {read : Scan Json} {xs : List Json} (h : ∀ x ∈ xs, Scans read x x)
    (hs : xs.length < steps) : Scans (valueAt steps (some read)) (.array xs) (.array xs) := by
  refine ⟨bracket_starts xs, fun rest used _ => ?_⟩
  obtain ⟨used', hbody⟩ := listBody_reads (w := id) h hs rest (used + 1)
  have hvalue := valueAt_bracket steps read (listText true xs ++ rest) used
  rw [List.map_id] at hbody
  rw [hbody] at hvalue
  exact ⟨used', by rw [array_chars, List.cons_append, hvalue]; rfl⟩

theorem object_scans {read : Scan Json} {ms : List (String × Json)}
    (h : ∀ m ∈ ms, Scans read m.2 m.2) (hs : ms.length < steps) (hascending : Ascending ms) :
    Scans (valueAt steps (some read)) (.object ms) (.object ms) := by
  refine ⟨brace_starts ms, fun rest used _ => ?_⟩
  obtain ⟨used', hbody⟩ := objectBody_reads (w := id) h hs hascending rest (used + 1)
  have hvalue := valueAt_brace steps read (objectText true ms ++ rest) used
  have hmap : ms.map (fun m => (m.1, id m.2)) = ms := List.map_id' ms
  rw [hmap] at hbody
  rw [hbody] at hvalue
  exact ⟨used', by rw [object_chars, List.cons_append, hvalue]; rfl⟩

theorem value_eq (steps room : Nat) : ∃ inner, value steps room = valueAt steps inner := by
  cases room with
  | zero => exact ⟨_, rfl⟩
  | succ room => exact ⟨_, rfl⟩

/-- A tree without doubles that a text can hold is read back from the text it is written as. -/
theorem value_scans {v : Json} (h : Fits room v) (hw : isWhole v = true)
    (hs : v.chars.length ≤ steps) : Scans (value steps room) v v := by
  -- The brackets that are left fall with the tree, while the same `steps` count items at any depth.
  induction h with
  | @null room =>
      obtain ⟨inner, hvalue⟩ := value_eq steps room
      exact hvalue ▸ null_scans
  | @boolean room b =>
      obtain ⟨inner, hvalue⟩ := value_eq steps room
      exact hvalue ▸ boolean_scans b
  | @number room n hn =>
      obtain ⟨inner, hvalue⟩ := value_eq steps room
      exact hvalue ▸ number_scans hn hw
  | @string room s =>
      obtain ⟨inner, hvalue⟩ := value_eq steps room
      exact hvalue ▸ string_scans s
  | @array room xs _ ih =>
      refine array_scans (fun x hx => ?_) (Nat.lt_of_lt_of_le (length_lt_array xs) hs)
      exact ih x hx (areWhole_iff.mp hw x hx) (Nat.le_trans (item_length_le hx) hs)
  | @object room ms hascending _ ih =>
      refine object_scans (fun m hm => ?_) (Nat.lt_of_lt_of_le (length_lt_object ms) hs) hascending
      exact ih m hm (haveWhole_iff.mp hw m hm) (Nat.le_trans (member_length_le hm) hs)

end Values

end LineTopology.Proofs.Trees
