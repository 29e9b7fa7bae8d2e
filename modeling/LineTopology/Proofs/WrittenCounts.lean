import LineTopology.Proofs.ConsultedKeys
import LineTopology.Proofs.ElementChoice
import LineTopology.Proofs.Meanings
import LineTopology.Proofs.MissingHandles

namespace LineTopology.Proofs.WrittenCounts

open Dictionary Text Json Json.Reader Answers Decimals Tokens Trees Numerals Meanings Parameters
  Lowering Trimming ParameterReadings LoweringFaults ConsultedKeys ElementChoice
open Grammar (Digits IsWhole IsNumeral)
open MissingHandles (countKey)

/-- An integer as a text may hold it: a run of digits, the first of which is a zero only if it is
the only one, maybe behind a minus sign. -/
structure Literal where
  negative : Bool
  digits : List Char
  whole : IsWhole digits

namespace Literal

def letters (l : Literal) : List Char := if l.negative then '-' :: l.digits else l.digits

def text (l : Literal) : String := String.ofList l.letters

def size (l : Literal) : Nat := decimalValue l.digits

/-- Behind a minus sign not even zero counts ports. -/
def IsCount (l : Literal) : Prop := l.negative = false ∧ l.size < 2 ^ 64

instance (l : Literal) : Decidable l.IsCount := inferInstanceAs (Decidable (_ ∧ _))

def read? (l : Literal) : Option Number :=
  let (n, excess) := absorb Numeral.significandLimit 0 l.digits
  if excess.isEmpty then Numeral.whole l.negative n
  else (Binary64.ofScientific? n excess.length).map fun x => .real (Numeral.signed l.negative x)

end Literal

variable {l : Literal} {n : Nat}

section Reading

theorem Literal.isNumeral (l : Literal) : IsNumeral l.letters := by
  rw [Literal.letters]
  split
  next => exact .negative l.whole.unsigned
  next => exact .positive l.whole.unsigned

theorem numeral_whole (negative : Bool) {ds : List Char} (h : IsWhole ds) (used : Nat) :
    ∃ used', numeral negative ⟨ds, used⟩ = Numeral.integral negative ds ⟨[], used'⟩ := by
  cases h with
  | zero => exact ⟨used + 1, numeral_zero rfl⟩
  | @digits d ds hzero hds =>
      have hnone : ([] : List Char).head?.any isDigit = false := rfl
      have hdigits := digits_append hds.2 hnone used
      have hbehind := skipDigits_append hds.2 hnone used
      rw [List.append_nil] at hdigits hbehind
      refine ⟨used + (d :: ds).length, ?_⟩
      rw [numeral_digit negative ds used hzero (hds.2 d List.mem_cons_self), hdigits, hbehind]

theorem numeral_literal (l : Literal) (used : Nat) :
    ∃ used', numeral l.negative ⟨l.digits, used⟩ =
      l.read?.elim (.error ⟨.numberOutOfRange, used'⟩) fun x => .ok (x, ⟨[], used'⟩) := by
  obtain ⟨used', h⟩ := numeral_whole l.negative l.whole used
  refine ⟨used', ?_⟩
  rw [h, integral_bounded _ _ bounded_nil, Literal.read?]
  split
  next hfits =>
    simp only [hfits, if_true]
    cases Numeral.whole _ _ <;> rfl
  next hfits =>
    simp only [hfits, Numeral.finish]
    cases Binary64.ofScientific? _ _ <;> rfl

theorem value_literal (l : Literal) (steps room : Nat) :
    ∃ used, value steps room ⟨l.letters, 0⟩ =
      l.read?.elim (.error ⟨.numberOutOfRange, used⟩) fun x => .ok (.number x, ⟨[], used⟩) := by
  obtain ⟨inner, hvalue⟩ := value_eq steps room
  have hscan : ∃ start, valueAt steps inner ⟨l.letters, 0⟩ =
      (numeral l.negative ⟨l.digits, start⟩).map fun answer => (.number answer.1, answer.2) := by
    rw [Literal.letters]
    cases l.negative with
    | true => exact ⟨1, rfl⟩
    | false =>
        obtain ⟨d, r, hd⟩ := List.exists_cons_of_ne_nil l.whole.allDigits.1
        have hdigit : isDigit d = true := l.whole.allDigits.2 d (hd ▸ List.mem_cons_self)
        exact ⟨0, by rw [hd]; exact valueAt_digit steps inner r 0 hdigit⟩
  obtain ⟨start, hscan⟩ := hscan
  obtain ⟨used, hnumeral⟩ := numeral_literal l start
  refine ⟨used, ?_⟩
  rw [hvalue, hscan, hnumeral]
  cases l.read? <;> rfl

theorem run_literal (l : Literal) :
    ∃ place, Reader.any.run l.text =
      l.read?.elim (.error ⟨.numberOutOfRange, place⟩) fun x => .ok (.number x) := by
  obtain ⟨used, hvalue⟩ := value_literal l (l.text.length + 1) nestingLimit
  have hstart : Cursor.start l.text = ⟨l.letters, 0⟩ := by
    rw [Cursor.start, Literal.text, String.toList_ofList]
  refine ⟨Place.advance ⟨1, 0⟩ l.text.toList used, ?_⟩
  rw [Reader.run, Reader.any, hstart, hvalue]
  cases l.read? <;> rfl

theorem run_literal_ok_iff {value : Json} :
    Reader.any.run l.text = .ok value ↔ ∃ x, l.read? = some x ∧ .number x = value := by
  obtain ⟨place, hrun⟩ := run_literal l
  rw [hrun]
  cases l.read? <;> simp

theorem cause_of_run {m : Misreading} (h : Reader.any.run l.text = .error m) :
    m.cause = .numberOutOfRange := by
  obtain ⟨place, hrun⟩ := run_literal l
  rw [h] at hrun
  cases hread : l.read? with
  | some x =>
      rw [hread] at hrun
      cases hrun
  | none =>
      rw [hread] at hrun
      cases hrun
      rfl

theorem whole_eq_ofNat_iff {negative : Bool} {m : Nat} :
    Numeral.whole negative m = some (.integer (.ofNat n)) ↔ negative = false ∧ m = n := by
  cases negative with
  | false =>
      simp only [Numeral.whole, Bool.not_false, if_true, Option.some_inj, Number.integer.injEq,
        true_and]
      exact Int.ofNat_inj
  | true =>
      simp only [Numeral.whole, Bool.not_true, Bool.false_eq_true, if_false]
      split
      next hpos =>
        simp only [Option.some_inj, Number.integer.injEq, Int.ofNat_eq_natCast, reduceCtorEq,
          false_and, iff_false]
        omega
      next => simp

theorem read?_eq_ofNat_iff : l.read? = some (.integer (.ofNat n)) ↔ l.IsCount ∧ l.size = n := by
  have hlimit : l.size < 2 ^ 64 ↔ extend 0 l.digits ≤ Numeral.significandLimit := by
    have hsize : l.size = extend 0 l.digits := rfl
    have hsignificand : Numeral.significandLimit = 2 ^ 64 - 1 := rfl
    omega
  rw [Literal.read?, Literal.IsCount, hlimit]
  by_cases hfits : extend 0 l.digits ≤ Numeral.significandLimit
  · simp only [absorb_of_le hfits, List.isEmpty_nil, if_true, whole_eq_ofNat_iff]
    rw [and_iff_left hfits]
    rfl
  -- Where digits are left out, a double is read or nothing.
  · have hexcess : (absorb Numeral.significandLimit 0 l.digits).2 ≠ [] :=
      mt (absorb_all_iff (Nat.zero_le _)).mp hfits
    simp [hexcess, hfits]

theorem run_count (h : l.IsCount) : Reader.any.run l.text = .ok (.ofNat l.size) :=
  run_literal_ok_iff.mpr ⟨_, read?_eq_ofNat_iff.mpr ⟨h, rfl⟩, rfl⟩

end Reading

section Spellings

/-- What a text may hold for the literal: its letters or, if it has no minus sign, its digits behind
further zeros and at most one plus sign. -/
inductive Respells (l : Literal) : List Char → Prop
  | same : Respells l l.letters
  | longer (sign : List Char) (zeros : Nat) (h : l.negative = false)
      (hs : sign = [] ∨ sign = ['+']) :
      Respells l (sign ++ (List.replicate zeros '0' ++ l.digits))

inductive Spelling (l : Literal) : Json → Prop
  | number {value : Json} (h : Reader.any.run l.text = .ok value) : Spelling l value
  | text (before behind : List Char) {cs : List Char} (hb : ∀ c ∈ before, isWhite c = true)
      (h : Respells l cs) (hb' : ∀ c ∈ behind, isWhite c = true) :
      Spelling l (.string (String.ofList (before ++ (cs ++ behind))))

variable {cs : List Char} {value : Json}

theorem isWhite_of_isDigit {c : Char} (h : isDigit c = true) : isWhite c = false := by
  obtain ⟨hc, hlt⟩ := toNat_of_isDigit h
  simp only [isWhite, whiteSpace, List.contains_eq_mem, decide_eq_false_iff_not, List.mem_cons,
    List.not_mem_nil, or_false]
  omega

theorem digits_zeros (zeros : Nat) {ds : List Char} (h : Digits ds) :
    Digits (List.replicate zeros '0' ++ ds) := by
  refine ⟨List.append_ne_nil_of_right_ne_nil _ h.1, fun d hd => ?_⟩
  rcases List.mem_append.mp hd with hd | hd
  · rw [List.eq_of_mem_replicate hd]
    decide
  · exact h.2 d hd

theorem writes_signed {sign ds : List Char} (hs : sign = [] ∨ sign = ['+']) (hds : Digits ds) :
    Writes (sign ++ ds) n ↔ decimalValue ds = n := by
  constructor
  · rintro ⟨given, hgiven, _, hdigits, rfl⟩
    have hplus {cs : List Char} (h : ∀ c ∈ cs, isDigit c = true) : '+' ∉ cs :=
      fun hmem => absurd (h '+' hmem) (by decide)
    rcases hs with rfl | rfl
    · rcases hgiven with rfl | rfl
      · rfl
      · exact absurd List.mem_cons_self (hplus hds.2)
    · rcases hgiven with rfl | hgiven
      · exact absurd List.mem_cons_self (hplus hdigits)
      · cases hgiven
        rfl
  · rintro rfl
    refine ⟨ds, ?_, hds.1, hds.2, rfl⟩
    exact hs.imp (congrArg (· ++ ds)) (congrArg (· ++ ds))

theorem not_writes_minus {ds : List Char} : ¬ Writes ('-' :: ds) n := by
  rintro ⟨given, rfl | hgiven, _, hdigits, _⟩
  · exact absurd (hdigits '-' List.mem_cons_self) (by decide)
  · cases hgiven

theorem Respells.writes_iff (h : Respells l cs) :
    Writes cs n ↔ l.negative = false ∧ l.size = n := by
  cases h with
  | same =>
      rw [Literal.letters]
      cases l.negative with
      | true => simp [not_writes_minus]
      | false =>
          rw [and_iff_right rfl]
          exact writes_signed (.inl rfl) l.whole.allDigits
  | longer sign zeros hsign hs =>
      rw [writes_signed hs (digits_zeros zeros l.whole.allDigits), decimalValue_zeros,
        and_iff_right hsign]
      rfl

theorem Respells.no_white (h : Respells l cs) : cs ≠ [] ∧ ∀ c ∈ cs, isWhite c = false := by
  have hplain {ds : List Char} (hds : Digits ds) : ∀ c ∈ ds, isWhite c = false :=
    fun c hc => isWhite_of_isDigit (hds.2 c hc)
  have hdigits := l.whole.allDigits
  cases h with
  | same =>
      rw [Literal.letters]
      cases l.negative with
      | true => exact ⟨List.cons_ne_nil _ _, List.forall_mem_cons.mpr ⟨by decide, hplain hdigits⟩⟩
      | false => exact ⟨hdigits.1, hplain hdigits⟩
  | longer sign zeros _ hs =>
      have hzeros := digits_zeros zeros hdigits
      refine ⟨List.append_ne_nil_of_right_ne_nil _ hzeros.1, ?_⟩
      rcases hs with rfl | rfl
      · exact hplain hzeros
      · exact List.forall_mem_cons.mpr ⟨by decide, hplain hzeros⟩

theorem Spelling.counts_iff (h : Spelling l value) : Counts value n ↔ l.IsCount ∧ l.size = n := by
  cases h with
  | number h =>
      obtain ⟨x, hread, rfl⟩ := run_literal_ok_iff.mp h
      rw [counts_number_iff, ← read?_eq_ofNat_iff, hread, Option.some_inj, and_iff_left_of_imp]
      rintro rfl
      obtain ⟨⟨_, hsize⟩, rfl⟩ := read?_eq_ofNat_iff.mp hread
      exact hsize
  | text before behind hb h hb' =>
      obtain ⟨hne, hplain⟩ := h.no_white
      have hne' := mt String.ofList_eq_empty_iff.mp hne
      have htrim := trim_padded hb (trimmed_of_no_white hplain) hne' hb'
      rw [String.toList_ofList] at htrim
      rw [counts_text_iff (htrim ▸ hne'), htrim, String.toList_ofList, h.writes_iff,
        Literal.IsCount]
      grind

end Spellings

section Records

variable {kind : Kind} {side : Side} {key : String} {value : Json}
  {params more : List (String × Json)} {station : Station} {record other : NodeRecord} {node : Node}

def Counted : Kind → Side → Prop
  | .queue, _ | .selector, _ | .output, .target => True
  | _, _ => False

def recount : Side → Nat → Station → Station
  | .source, n, .queue element inputs _ => .queue element inputs n
  | .target, n, .queue element _ outputs => .queue element n outputs
  | .source, n, .selector element inputs _ => .selector element inputs n
  | .target, n, .selector element _ outputs => .selector element n outputs
  | .target, n, .output element _ => .output element n
  | _, _, station => station

structure Rewritten (key : String) (value : Json) (record other : NodeRecord) : Prop where
  id : other.id = record.id
  kind : other.kind = record.kind
  params : ∃ params more, Gives record params ∧ Gives other more ∧ Stored key value params more

theorem countKey_not_mem (side : Side) : countKey side ∉ elementKeys := by
  cases side <;> decide

theorem portCountAt_stored (h : Stored key value params more) :
    portCountAt key more = portCount value := by
  rw [portCountAt, h.1]

theorem station_stored (hs : Stored (countKey side) value params more) (hc : Counted kind side)
    (h : Parameters.station kind params = .ok station) :
    Parameters.station kind more = (portCount value).map fun n => recount side n station := by
  -- The element and the count of the other side stand under other keys.
  have helement : element? more = element? params := element?_congr fun key hkey =>
    hs.2 key fun he => countKey_not_mem side (he ▸ hkey)
  have hcount := portCountAt_stored hs
  cases kind with
  | generator | transporter | transformer => cases hc
  | queue | selector =>
      simp only [Parameters.station, bind_ok_iff, pure, Except.pure, Except.ok.injEq] at h
      obtain ⟨inputs, hinputs, outputs, houtputs, rfl⟩ := h
      cases side with
      | source =>
          rw [← portCountAt_congr (hs.2 "entradas" (by decide))] at hinputs
          rw [countKey] at hcount
          rw [Parameters.station, hinputs, hcount, helement]
          cases portCount value <;> rfl
      | target =>
          rw [← portCountAt_congr (hs.2 "salidas" (by decide))] at houtputs
          rw [countKey] at hcount
          rw [Parameters.station, hcount, houtputs, helement]
          cases portCount value <;> rfl
  | output =>
      simp only [Parameters.station, bind_ok_iff, pure, Except.pure, Except.ok.injEq] at h
      obtain ⟨inputs, _, rfl⟩ := h
      cases side with
      | source => cases hc
      | target =>
          rw [countKey] at hcount
          rw [Parameters.station, hcount, helement]
          cases portCount value <;> rfl

theorem lower_rewritten (hl : record.lower = .ok node) (hc : Counted node.kind side)
    (hr : Rewritten (countKey side) value record other) :
    other.lower = match portCount value with
      | .ok n => .ok ⟨node.id, recount side n node.station⟩
      | .error fault => .error (.badParams node.id node.kind fault) := by
  obtain ⟨name, kind, given, hid, hname, hkind, hgiven, hstation⟩ := lower_ok_iff.mp hl
  obtain ⟨params, more, hparams, hmore, hs⟩ := hr.params
  rw [members?_eq_some_iff.mpr hparams, Option.some_inj] at hgiven
  subst hgiven
  have hsame : kind = node.kind := (station_kind hstation).symm
  subst hsame
  simp only [NodeRecord.lower, hr.id, hid, hr.kind, hname, hkind, members?_eq_some_iff.mpr hmore,
    station_stored hs hc hstation]
  cases portCount value <;> rfl

theorem exists_rewritten (key : String) (value : Json) (hl : record.lower = .ok node) :
    ∃ other, Rewritten key value record other := by
  obtain ⟨_, _, params, _, _, _, hmembers, _⟩ := lower_ok_iff.mp hl
  obtain ⟨more, _, hs⟩ := exists_stored key value params
  exact ⟨⟨record.id, record.kind, .object more⟩, rfl, rfl, params, more,
    members?_eq_some_iff.mp hmembers, .inl rfl, hs⟩

end Records

/-- An integer in a text is read as its size if it can count ports, and is out of range if it is not
read at all; it is read alike wherever it stands. Written for the count of a side into a record that
describes a component, whatever it held there before, the record describes the component with that
many ports, in all the spellings of the integer or in none. -/
theorem written_counts_agree (l : Literal) :
    ((l.IsCount → Reader.any.run l.text = .ok (.ofNat l.size)) ∧
      ∀ m, Reader.any.run l.text = .error m → m.cause = .numberOutOfRange) ∧
    (∀ limits, Contents.Gives (Reader.any limits) l.letters (Reader.any.run l.text).toOption) ∧
    ∀ {record : NodeRecord} {node : Node} {side : Side}, record.lower = .ok node →
      Counted node.kind side → ∀ value, Spelling l value →
        (∃ other, Rewritten (countKey side) value record other) ∧
        ∀ other, Rewritten (countKey side) value record other →
          (l.IsCount → other.lower = .ok ⟨node.id, recount side l.size node.station⟩) ∧
          (¬ l.IsCount → ∃ fault, other.lower = .error (.badParams node.id node.kind fault)) := by
  refine ⟨⟨run_count, fun m => cause_of_run⟩, fun limits => ?_,
    fun {record node side} hl hc value hs => ?_⟩
  · obtain ⟨inner, hvalue⟩ := value_eq limits.steps limits.room
    have hany : Reader.any limits = valueAt limits.steps inner := hvalue
    rw [Literal.text, run_numeral l.isNumeral, hany]
    exact numeral_gives inner l.isNumeral
  · refine ⟨exists_rewritten _ value hl, fun other hr => ⟨fun hcount => ?_, fun hcount => ?_⟩⟩
    · have hok : portCount value = .ok l.size :=
        portCount_ok_iff.mpr (hs.counts_iff.mpr ⟨hcount, rfl⟩)
      rw [lower_rewritten hl hc hr, hok]
    · rw [lower_rewritten hl hc hr]
      cases hp : portCount value with
      | error fault => exact ⟨fault, rfl⟩
      | ok n => exact absurd (hs.counts_iff.mp (portCount_ok_iff.mp hp)).1 hcount

def largest : Literal where
  negative := false
  digits := ['1', '8', '4', '4', '6', '7', '4', '4', '0', '7', '3', '7', '0', '9', '5', '5', '1',
    '6', '1', '5']
  whole := .digits (by decide) ⟨List.cons_ne_nil _ _, List.all_eq_true.mp rfl⟩

def minusZero : Literal := ⟨true, ['0'], .zero⟩

def sorterRecord (value : Json) : NodeRecord :=
  ⟨some "sorter", some "selector", .object
    [("elemento", .string "nut"), ("entradas", .ofNat 2), ("salidas", value)]⟩

def sorter (outputs : Nat) : Node := ⟨"sorter", .selector (some "nut") 2 outputs⟩

theorem sorter_rewritten (value : Json) :
    Rewritten (countKey .source) value (sorterRecord .null) (sorterRecord value) where
  id := rfl
  kind := rfl
  params := by
    refine ⟨_, _, .inl rfl, .inl rfl, rfl, fun other hne => ?_⟩
    have hkey : "salidas" ≠ other := Ne.symm hne
    simp [find?, hkey]

theorem sorter_counts_agree :
    (sorterRecord .null).lower = .ok (sorter 1) ∧ Counted (sorter 1).kind .source ∧
      (Spelling largest (.ofNat 18446744073709551615) ∧
        (sorterRecord (.ofNat 18446744073709551615)).lower =
          .ok (sorter 18446744073709551615)) ∧
      (Spelling largest (.string "\u2003+0018446744073709551615\n") ∧
        (sorterRecord (.string "\u2003+0018446744073709551615\n")).lower =
          .ok (sorter 18446744073709551615)) ∧
      (Spelling minusZero (.number (.real Binary64.zero.negate)) ∧
        ∃ fault, (sorterRecord (.number (.real Binary64.zero.negate))).lower =
          .error (.badParams "sorter" .selector fault)) ∧
      Spelling minusZero (.string " -0") ∧
        ∃ fault, (sorterRecord (.string " -0")).lower =
          .error (.badParams "sorter" .selector fault) := by
  have hl : (sorterRecord .null).lower = .ok (sorter 1) := rfl
  have hc : Counted (sorter 1).kind .source := trivial
  have hlargest : largest.IsCount := by decide
  have hminus : ¬ minusZero.IsCount := by decide
  have hnumber : Spelling largest (.ofNat 18446744073709551615) := .number (run_count hlargest)
  have htext : Spelling largest (.string "\u2003+0018446744073709551615\n") :=
    .text ['\u2003'] ['\n'] (List.forall_mem_singleton.mpr rfl) (.longer ['+'] 2 rfl (.inr rfl))
      (List.forall_mem_singleton.mpr rfl)
  have hreal : Spelling minusZero (.number (.real Binary64.zero.negate)) :=
    .number (run_literal_ok_iff.mpr ⟨_, rfl, rfl⟩)
  have hsigned : Spelling minusZero (.string " -0") :=
    .text [' '] [] (List.forall_mem_singleton.mpr rfl) .same (List.forall_mem_nil _)
  have hcounted {value : Json} (h : Spelling largest value) :=
    (((written_counts_agree largest).2.2 hl hc value h).2 _ (sorter_rewritten value)).1 hlargest
  have hrefused {value : Json} (h : Spelling minusZero value) :=
    (((written_counts_agree minusZero).2.2 hl hc value h).2 _ (sorter_rewritten value)).2 hminus
  exact ⟨hl, hc, ⟨hnumber, hcounted hnumber⟩, ⟨htext, hcounted htext⟩, ⟨hreal, hrefused hreal⟩,
    hsigned, hrefused hsigned⟩

end LineTopology.Proofs.WrittenCounts
