import LineTopology.CommandLine.Arguments

namespace LineTopology.Proofs.CheckArguments

open CommandLine

/-- An argument of a check. A value is an argument of its own or attached to its name. -/
inductive Flag
  | path (value : String)
  | options (attached : Bool) (value : String)
  | exempt (attached : Bool) (value : String)
  | checkPorts
  | recheckConnections
  | json
  deriving DecidableEq

/-- The text does not look like a named argument. A lone hyphen does not. -/
def IsValue (s : String) : Prop := ∀ c r, s.toList ≠ '-' :: c :: r

namespace Flag

def valued (attached : Bool) (name value : String) : List String :=
  if attached then ["--" ++ name ++ "=" ++ value] else ["--" ++ name, value]

def spelled : Flag → List String
  | .path value => [value]
  | .options attached value => valued attached "options" value
  | .exempt attached value => valued attached "exempt" value
  | .checkPorts => ["--check-ports"]
  | .recheckConnections => ["--recheck-connections"]
  | .json => ["--json"]

def name : Flag → String
  | .path _ => "PATH"
  | .options .. => "options"
  | .exempt .. => "exempt"
  | .checkPorts => "check-ports"
  | .recheckConnections => "recheck-connections"
  | .json => "json"

def value : Flag → String
  | .path value => value
  | .options _ value => value
  | .exempt _ value => value
  | .checkPorts | .recheckConnections | .json => ""

def entry (f : Flag) : String × String := (f.name, f.value)

def Proper : Flag → Prop
  | .path value => value ≠ "" ∧ IsValue value
  | .options attached value => value ≠ "" ∧ (attached = false → IsValue value)
  | .exempt _ value => (Kind.parse? value).isSome = true
  | .checkPorts | .recheckConnections | .json => True

def mayRepeat : Flag → Bool
  | .exempt .. => true
  | _ => false

def adds : Flag → Bool
  | .exempt .. | .checkPorts | .recheckConnections => true
  | .path _ | .options .. | .json => false

end Flag

def spelledAll (flags : List Flag) : List String := flags.flatMap Flag.spelled

section Values

open Text

theorem trimEnd_head {x : Char} (hx : isWhite x = false) (cs : List Char) :
    (trimEnd (x :: cs)).head? = some x := by
  have hend : (x :: cs).reverse.dropWhile isWhite = cs.reverse.dropWhile isWhite ++ [x] := by
    rw [List.reverse_cons, List.dropWhile_append]
    split
    next hempty => simp_all
    next => rfl
  rw [trimEnd, hend, List.reverse_append]
  rfl

theorem isValue_of_kind {value : String} (h : (Kind.parse? value).isSome = true) :
    IsValue value := by
  intro c r hvalue
  obtain ⟨kind, hkind⟩ := Option.isSome_iff_exists.mp h
  have hwhite : isWhite '-' = false := by decide
  have htrim : (trim value).toList.head? = some '-' := by
    rw [trim, String.toList_ofList, hvalue, trimStart,
      List.dropWhile_cons_of_neg (by simp [hwhite])]
    exact trimEnd_head hwhite _
  have hletters := List.find?_some hkind
  rw [Kind.sameLetters, beq_iff_eq] at hletters
  have hhead := congrArg List.head? hletters
  rw [List.head?_map, List.head?_map, htrim] at hhead
  cases kind <;> exact absurd hhead (by decide)

end Values

section Splitting

def isName (name : String) : Bool :=
  !name.toList.isEmpty && name.toList.all (· ≠ '=') && name ≠ "help"

theorem isName_iff {name : String} : isName name = true ↔
    name.toList ≠ [] ∧ (∀ c ∈ name.toList, c ≠ '=') ∧ name ≠ "help" := by
  simp [isName, and_assoc]

theorem splitLong_bare {name : String} (h : isName name = true) :
    splitLong name.toList = (name, none) := by
  have hplain := (isName_iff.mp h).2.1
  have htake : name.toList.takeWhile (· ≠ '=') = name.toList := by
    have happend := @List.takeWhile_append_of_pos _ (· ≠ '=') name.toList [] (by simpa using hplain)
    simpa using happend
  rw [splitLong, htake, List.drop_length, String.ofList_toList]
  rfl

theorem splitLong_attached {name : String} (h : isName name = true) (value : String) :
    splitLong (name.toList ++ '=' :: value.toList) = (name, some value) := by
  have hplain := (isName_iff.mp h).2.1
  have htake : (name.toList ++ '=' :: value.toList).takeWhile (· ≠ '=') = name.toList := by
    rw [List.takeWhile_append_of_pos (by simpa using hplain), List.takeWhile_cons_of_neg (by simp),
      List.append_nil]
  rw [splitLong, htake, List.drop_left, String.ofList_toList]
  simp

end Splitting

def pathParameter : Parameter := .positional "PATH" .path

def settled (values : List (String × String)) : Taken :=
  ⟨values, none, if values.any fun entry => entry.1 == "PATH" then [] else [pathParameter], false⟩

/-- What is pending, if anything, may be stored, which leads to these values. -/
structure Leads (t : Taken) (values : List (String × String)) : Prop where
  settles : t.settle = .ok (settled values)
  positionals : t.positionals = (settled values).positionals
  named : t.onlyPositionals = false

structure Stuck (t : Taken) : Prop where
  settles : ∃ fault, t.settle = .error fault
  valued : ∀ p, t.pending ≠ some (p, none)
  named : t.onlyPositionals = false

section Steps

variable {t : Taken} {values : List (String × String)} {known : List Parameter} {v : String}

theorem settled_settle (values : List (String × String)) :
    (settled values).settle = .ok (settled values) := rfl

theorem Leads.valued (h : Leads t values) (p : Parameter) : t.pending ≠ some (p, none) := by
  intro hp
  have hsettles := h.settles
  rw [Taken.settle, hp] at hsettles
  cases hsettles

theorem settled_leads (values : List (String × String)) : Leads (settled values) values :=
  ⟨rfl, rfl, rfl⟩

theorem take_named {argument name : String} {long : List Char} {attached : Option String}
    (hn : t.onlyPositionals = false) (ha : argument.toList = '-' :: '-' :: long) (hl : long ≠ [])
    (hs : splitLong long = (name, attached)) (hh : name ≠ "help") :
    take known t argument = (t.named known name attached).map .taken := by
  obtain ⟨c, r, rfl⟩ := List.exists_cons_of_ne_nil hl
  simp only [take, hn, ha, hs, hh, Bool.false_eq_true, if_false]

theorem take_value (known : List Parameter) (hn : t.onlyPositionals = false) (hv : IsValue v)
    (hp : ∀ p, t.pending ≠ some (p, none)) :
    take known t v = (t.position v).map .taken := by
  simp only [take, hn, Bool.false_eq_true, if_false]
  split
  next h => exact absurd h (hv _ _)
  next h => exact absurd h (hv _ _)
  next h => exact absurd h (hv _ _)
  next => rfl

theorem take_pending (known : List Parameter) {p : Parameter} (hn : t.onlyPositionals = false)
    (hv : IsValue v) (hp : t.pending = some (p, none)) :
    take known t v = .ok (.taken { t with pending := some (p, some v) }) := by
  simp only [take, hn, hp, Bool.false_eq_true, if_false]
  split
  next h => exact absurd h (hv _ _)
  next h => exact absurd h (hv _ _)
  next h => exact absurd h (hv _ _)
  next => rfl

theorem named_leads (h : Leads t values) (name : String) (attached : Option String) :
    t.named known name attached = (settled values).named known name attached := by
  simp only [Taken.named, h.settles, settled_settle]

theorem named_stuck (known : List Parameter) (h : Stuck t) (name : String)
    (attached : Option String) : ∃ fault, t.named known name attached = .error fault := by
  obtain ⟨fault, hs⟩ := h.settles
  simp only [Taken.named, hs]
  split
  next => exact ⟨_, rfl⟩
  next =>
    split
    next => exact ⟨_, rfl⟩
    next => exact ⟨_, rfl⟩
    next => exact ⟨_, rfl⟩
    next => exact ⟨_, rfl⟩

theorem position_leads (h : Leads t values) (v : String) :
    t.position v = (settled values).position v := by
  simp only [Taken.position, h.settles, settled_settle, h.positionals]

theorem position_stuck (h : Stuck t) (v : String) : ∃ fault, t.position v = .error fault := by
  obtain ⟨fault, hs⟩ := h.settles
  simp only [Taken.position, hs]
  split
  next => exact ⟨_, rfl⟩
  next => exact ⟨_, rfl⟩

end Steps

namespace Flag

def attached? : Flag → Option String
  | .options true value | .exempt true value => some value
  | _ => none

def behind? : Flag → Option String
  | .options false value | .exempt false value => some value
  | _ => none

end Flag

section Flags

variable {t : Taken} {values : List (String × String)} {known : List Parameter} {f : Flag}

theorem take_bare {name : String} (h : isName name = true) (hn : t.onlyPositionals = false) :
    take known t ("--" ++ name) = (t.named known name none).map .taken := by
  obtain ⟨hne, _, hhelp⟩ := isName_iff.mp h
  exact take_named hn (by simp [String.toList_append]) hne (splitLong_bare h) hhelp

theorem take_attached {name : String} (h : isName name = true) (value : String)
    (hn : t.onlyPositionals = false) :
    take known t ("--" ++ name ++ "=" ++ value) = (t.named known name (some value)).map .taken :=
  take_named hn (by simp [String.toList_append]) (by simp) (splitLong_attached h value)
    (isName_iff.mp h).2.2

theorem first_named (f : Flag) (hf : ∀ value, f ≠ .path value) :
    ∃ first, f.spelled = first :: f.behind?.toList ∧
      ∀ known (t : Taken), t.onlyPositionals = false →
      take known t first = (t.named known f.name f.attached?).map .taken := by
  have hname : isName f.name = true := by
    cases f with
    | path value => exact absurd rfl (hf value)
    | options attached value => exact (by decide : isName "options" = true)
    | exempt attached value => exact (by decide : isName "exempt" = true)
    | checkPorts | recheckConnections | json => decide
  cases f with
  | path value => exact absurd rfl (hf value)
  | options attached value | exempt attached value =>
      cases attached with
      | false => exact ⟨_, rfl, fun _ _ => take_bare hname⟩
      | true => exact ⟨_, rfl, fun _ _ => take_attached hname value⟩
  | checkPorts | recheckConnections | json => exact ⟨_, rfl, fun _ _ => take_bare hname⟩

theorem spelledAll_cons (f : Flag) (flags : List Flag) :
    spelledAll (f :: flags) = f.spelled ++ spelledAll flags := rfl

/-- To take the arguments that follow is to store first what is pending. -/
theorem takeAll_leads (h : Leads t values) {flags : List Flag} (hp : ∀ f ∈ flags, f.Proper) :
    takeAll known t (spelledAll flags) = takeAll known (settled values) (spelledAll flags) := by
  cases flags with
  | nil =>
      rw [spelledAll, List.flatMap_nil, takeAll, takeAll, h.settles]
      rfl
  | cons f flags =>
      rw [spelledAll_cons]
      have htake : ∃ first, f.spelled = first :: f.behind?.toList ∧
          take known t first = take known (settled values) first := by
        by_cases hf : ∃ value, f = .path value
        · obtain ⟨value, rfl⟩ := hf
          obtain ⟨_, hvalue⟩ := hp _ List.mem_cons_self
          refine ⟨value, rfl, ?_⟩
          rw [take_value _ h.named hvalue h.valued,
            take_value _ rfl hvalue (settled_leads values).valued, position_leads h]
        · obtain ⟨first, hspelled, hfirst⟩ := first_named f fun value he => hf ⟨value, he⟩
          refine ⟨first, hspelled, ?_⟩
          rw [hfirst known t h.named, hfirst known (settled values) rfl, named_leads h]
      obtain ⟨first, hspelled, hfirst⟩ := htake
      rw [hspelled, List.cons_append, takeAll, takeAll, hfirst]

theorem takeAll_stuck (h : Stuck t) {flags : List Flag} (hp : ∀ f ∈ flags, f.Proper) :
    ∃ fault, takeAll known t (spelledAll flags) = .error fault := by
  cases flags with
  | nil =>
      obtain ⟨fault, hs⟩ := h.settles
      exact ⟨fault, by rw [spelledAll, List.flatMap_nil, takeAll, hs]; rfl⟩
  | cons f flags =>
      rw [spelledAll_cons]
      have htake : ∃ first fault, f.spelled = first :: f.behind?.toList ∧
          take known t first = .error fault := by
        by_cases hf : ∃ value, f = .path value
        · obtain ⟨value, rfl⟩ := hf
          obtain ⟨_, hvalue⟩ := hp _ List.mem_cons_self
          obtain ⟨fault, hposition⟩ := position_stuck h value
          exact ⟨value, fault, rfl, by
            rw [take_value _ h.named hvalue h.valued, hposition]
            rfl⟩
        · obtain ⟨first, hspelled, hfirst⟩ := first_named f fun value he => hf ⟨value, he⟩
          obtain ⟨fault, hnamed⟩ := named_stuck known h f.name f.attached?
          exact ⟨first, fault, hspelled, by rw [hfirst known t h.named, hnamed]; rfl⟩
      obtain ⟨first, fault, hspelled, hfirst⟩ := htake
      exact ⟨fault, by rw [hspelled, List.cons_append, takeAll, hfirst]; rfl⟩

end Flags

def Flag.parameter : Flag → Parameter
  | .path _ => pathParameter
  | .options .. => .option "options" "OPTIONS" .path
  | .exempt .. => { Parameter.option "exempt" "EXEMPT" .kind with repeatable := true }
  | .checkPorts => .flag "check-ports"
  | .recheckConnections => .flag "recheck-connections"
  | .json => .flag "json"

def Free (values : List (String × String)) (f : Flag) : Prop :=
  f.mayRepeat = true ∨ ∀ entry ∈ values, entry.1 ≠ f.name

section Stores

variable {t : Taken} {values : List (String × String)} {f : Flag} {flags : List Flag}

theorem has_iff : t.has f.name = false ↔ ∀ entry ∈ t.values, entry.1 ≠ f.name := by
  simp [Taken.has]

theorem parameter_name (f : Flag) : f.parameter.name = f.name := by cases f <;> rfl

theorem parameter_repeatable (f : Flag) : f.parameter.repeatable = f.mayRepeat := by
  cases f <;> rfl

theorem Flag.Proper.accepted (h : f.Proper) :
    (f.parameter.rule.any fun rule => !Taken.isAccepted rule f.value) = false := by
  cases f with
  | path value => simpa [Flag.parameter, pathParameter, Parameter.positional, Flag.value,
      Taken.isAccepted] using h.1
  | options attached value => simpa [Flag.parameter, Parameter.option, Flag.value,
      Taken.isAccepted] using h.1
  | exempt attached value =>
      have hkind : (Kind.parse? value).isSome = true := h
      simp [Flag.parameter, Parameter.option, Flag.value, Taken.isAccepted, hkind]
  | checkPorts | recheckConnections | json => rfl

theorem store_free (hf : f.Proper) (h : Free t.values f) :
    t.store f.parameter f.value =
      .ok { t with values := f.entry :: t.values, pending := none } := by
  have hfree : (t.has f.name && !f.mayRepeat) = false := by
    rcases h with h | h
    · rw [h, Bool.not_true, Bool.and_false]
    · rw [has_iff.mpr h, Bool.false_and]
  rw [Taken.store, parameter_name, parameter_repeatable, hfree, hf.accepted]
  rfl

theorem store_taken (h : ¬Free t.values f) :
    t.store f.parameter f.value = .error (.repeated f.parameter.shown) := by
  obtain ⟨honce, hvalues⟩ := not_or.mp h
  have hhas : t.has f.name = true := by
    rw [← Bool.not_eq_false, has_iff]
    exact hvalues
  rw [Taken.store, parameter_name, parameter_repeatable, hhas, Bool.eq_false_iff.mpr honce]
  rfl

theorem settled_named (hf : ∀ value, f ≠ .path value) (values : List (String × String)) :
    { settled values with values := f.entry :: values, pending := none } =
      settled (f.entry :: values) := by
  have hname : (f.name == "PATH") = false := by
    cases f with
    | path value => exact absurd rfl (hf value)
    | options | exempt | checkPorts | recheckConnections | json => rfl
  simp only [settled, Flag.entry, List.any_cons, hname, Bool.false_or]

theorem settled_path (value : String) (values : List (String × String)) :
    (⟨(Flag.path value).entry :: values, none, [], false⟩ : Taken) =
      settled ((Flag.path value).entry :: values) := by
  simp [settled, Flag.entry, Flag.name]

theorem named_stores (hf : ∀ value, f ≠ .path value) (hb : f.behind? = none)
    (values : List (String × String)) :
    (settled values).named Subcommand.check.named f.name f.attached? =
      (settled values).store f.parameter f.value := by
  cases f with
  | path value => exact absurd rfl (hf value)
  | options attached value | exempt attached value =>
      cases attached with
      | false => cases hb
      | true => rfl
  | checkPorts | recheckConnections | json => rfl

theorem named_waits {value : String} (hb : f.behind? = some value)
    (values : List (String × String)) : f.value = value ∧
      (settled values).named Subcommand.check.named f.name f.attached? =
      .ok { settled values with pending := some (f.parameter, none) } := by
  cases f with
  | options attached value | exempt attached value =>
      cases attached with
      | false =>
          cases hb
          exact ⟨rfl, rfl⟩
      | true => cases hb
  | path | checkPorts | recheckConnections | json => cases hb

theorem Flag.Proper.isValue {value : String} (h : f.Proper) (hb : f.behind? = some value) :
    IsValue value := by
  cases f with
  | options attached value =>
      cases attached with
      | false =>
          cases hb
          exact h.2 rfl
      | true => cases hb
  | exempt attached value =>
      cases attached with
      | false =>
          cases hb
          exact isValue_of_kind h
      | true => cases hb
  | path | checkPorts | recheckConnections | json => cases hb

theorem pending_leads (hf : f.Proper) {positionals : List Parameter}
    (hs : (⟨f.entry :: values, none, positionals, false⟩ : Taken) = settled (f.entry :: values))
    (h : Free values f) :
    Leads ⟨values, some (f.parameter, some f.value), positionals, false⟩ (f.entry :: values) := by
  have hpositionals : positionals = (settled (f.entry :: values)).positionals :=
    congrArg Taken.positionals hs
  refine ⟨?_, hpositionals, rfl⟩
  rw [← hs]
  exact store_free (t := ⟨values, none, positionals, false⟩) hf h

theorem pending_stuck {positionals : List Parameter} (h : ¬Free values f) :
    Stuck ⟨values, some (f.parameter, some f.value), positionals, false⟩ := by
  refine ⟨⟨_, store_taken (t := ⟨values, none, positionals, false⟩) h⟩, fun p hp => ?_, rfl⟩
  cases hp

theorem takeAll_taken {known : List Parameter} {t t' : Taken} {argument : String}
    (h : take known t argument = .ok (.taken t')) (arguments : List String) :
    takeAll known t (argument :: arguments) = takeAll known t' arguments := by
  rw [takeAll, h]
  rfl

theorem takeAll_fault {known : List Parameter} {t : Taken} {argument : String}
    {fault : ArgumentFault} (h : take known t argument = .error fault) (arguments : List String) :
    takeAll known t (argument :: arguments) = .error fault := by
  rw [takeAll, h]
  rfl

theorem path_step {value : String} (hf : (Flag.path value).Proper) (hp : ∀ f ∈ flags, f.Proper) :
    (Free values (.path value) →
      takeAll Subcommand.check.named (settled values) (spelledAll (.path value :: flags)) =
        takeAll Subcommand.check.named (settled ((Flag.path value).entry :: values))
          (spelledAll flags)) ∧
    (¬Free values (.path value) → ∃ fault,
      takeAll Subcommand.check.named (settled values) (spelledAll (.path value :: flags)) =
        .error fault) := by
  have htake := take_value Subcommand.check.named (settled_leads values).named hf.2
    (settled_leads values).valued
  have hspelled : spelledAll (.path value :: flags) = value :: spelledAll flags := rfl
  rw [hspelled]
  refine ⟨fun hfree => ?_, fun hfree => ?_⟩
  · have hnone : (values.any fun entry => entry.1 == "PATH") = false := by
      rcases hfree with hrepeat | hvalues
      · cases hrepeat
      · simpa [Flag.name] using hvalues
    have hposition : (settled values).position value =
        .ok ⟨values, some (pathParameter, some value), [], false⟩ := by
      simp only [settled, hnone, Bool.false_eq_true, if_false]
      rfl
    rw [hposition] at htake
    rw [takeAll_taken htake]
    exact takeAll_leads (pending_leads hf (settled_path value values) hfree) hp
  · have hsome : (values.any fun entry => entry.1 == "PATH") = true := by
      rw [← Bool.not_eq_false]
      intro hnone
      refine hfree (.inr ?_)
      simpa [Flag.name] using hnone
    have hposition : (settled values).position value = .error (.unexpected value) := by
      simp only [settled, hsome, if_true]
      rfl
    rw [hposition] at htake
    exact ⟨_, takeAll_fault htake _⟩

theorem takeAll_step (hf : f.Proper) (hp : ∀ f ∈ flags, f.Proper) :
    (Free values f →
      takeAll Subcommand.check.named (settled values) (spelledAll (f :: flags)) =
        takeAll Subcommand.check.named (settled (f.entry :: values)) (spelledAll flags)) ∧
    (¬Free values f → ∃ fault,
      takeAll Subcommand.check.named (settled values) (spelledAll (f :: flags)) =
        .error fault) := by
  by_cases hpath : ∃ value, f = .path value
  · obtain ⟨value, rfl⟩ := hpath
    exact path_step hf hp
  · have hne : ∀ value, f ≠ .path value := fun value he => hpath ⟨value, he⟩
    obtain ⟨first, hspelled, hfirst⟩ := first_named f hne
    have htake := hfirst Subcommand.check.named (settled values) rfl
    rw [spelledAll_cons, hspelled, List.cons_append]
    -- A value that is an argument of its own is stored only when the next argument is there.
    cases hb : f.behind? with
    | none =>
        rw [named_stores hne hb] at htake
        refine ⟨fun hfree => ?_, fun hfree => ?_⟩
        · have hstore := (store_free (t := settled values) hf hfree).trans
            (congrArg Except.ok (settled_named hne values))
          rw [hstore] at htake
          exact takeAll_taken htake _
        · rw [store_taken (t := settled values) hfree] at htake
          exact ⟨_, takeAll_fault htake _⟩
    | some value =>
        obtain ⟨hvalue, hwaits⟩ := named_waits hb values
        rw [hwaits] at htake
        have hpending := take_pending Subcommand.check.named
          (t := { settled values with pending := some (f.parameter, none) }) rfl
          (hf.isValue hb) rfl
        rw [takeAll_taken htake, Option.toList_some, List.singleton_append, takeAll_taken hpending,
          ← hvalue]
        refine ⟨fun hfree => ?_, fun hfree => ?_⟩
        · exact takeAll_leads (pending_leads hf (settled_named hne values) hfree) hp
        · exact takeAll_stuck (pending_stuck hfree) hp

end Stores

/-- No argument but an exemption is given twice. -/
def Once (flags : List Flag) : Prop :=
  flags.Pairwise fun f g => f.name = g.name → f.mayRepeat = true

def Flag.kind? : Flag → Option Kind
  | .exempt _ value => Kind.parse? value
  | _ => none

structure Describes (flags : List Flag) (r : CheckRequest) : Prop where
  path : .path r.path ∈ flags
  options : ∀ value, r.options = some value ↔ ∃ attached, .options attached value ∈ flags
  exempt : r.exempt = flags.filterMap Flag.kind?
  checkPorts : r.checkPorts = true ↔ .checkPorts ∈ flags
  recheckConnections : r.recheckConnections = true ↔ .recheckConnections ∈ flags
  json : r.json = true ↔ .json ∈ flags

section Runs

variable {values : List (String × String)} {flags : List Flag} {f g : Flag}

theorem mayRepeat_eq (f : Flag) : f.mayRepeat = (f.name == "exempt") := by cases f <;> rfl

theorem mayRepeat_congr (h : f.name = g.name) : f.mayRepeat = g.mayRepeat := by
  rw [mayRepeat_eq, mayRepeat_eq, h]

theorem takeAll_runs (hp : ∀ f ∈ flags, f.Proper) (hfree : ∀ f ∈ flags, Free values f)
    (honce : Once flags) :
    takeAll Subcommand.check.named (settled values) (spelledAll flags) =
      .ok (.taken (settled ((flags.map Flag.entry).reverse ++ values))) := by
  induction flags generalizing values with
  | nil => rfl
  | cons f flags ih =>
      obtain ⟨hf, hflags⟩ := List.forall_mem_cons.mp hp
      obtain ⟨hhead, htail⟩ := List.forall_mem_cons.mp hfree
      obtain ⟨hnew, honce⟩ := List.pairwise_cons.mp honce
      have hstill : ∀ g ∈ flags, Free (f.entry :: values) g := by
        intro g hg
        by_cases hname : f.name = g.name
        · exact .inl ((mayRepeat_congr hname).symm.trans (hnew g hg hname))
        · exact (htail g hg).imp_right fun h => List.forall_mem_cons.mpr ⟨hname, h⟩
      rw [(takeAll_step hf hflags).1 hhead, ih hflags hstill honce, List.map_cons,
        List.reverse_cons, List.append_assoc]
      rfl

theorem takeAll_refuses (values : List (String × String)) (hp : ∀ f ∈ flags, f.Proper)
    (h : ¬((∀ f ∈ flags, Free values f) ∧ Once flags)) :
    ∃ fault, takeAll Subcommand.check.named (settled values) (spelledAll flags) = .error fault := by
  induction flags generalizing values with
  | nil => exact absurd ⟨by simp, List.Pairwise.nil⟩ h
  | cons f flags ih =>
      obtain ⟨hf, hflags⟩ := List.forall_mem_cons.mp hp
      by_cases hfree : Free values f
      · rw [(takeAll_step hf hflags).1 hfree]
        refine ih _ hflags fun hrest => h ⟨List.forall_mem_cons.mpr ⟨hfree, fun g hg => ?_⟩, ?_⟩
        · exact (hrest.1 g hg).imp_right fun hvalues => (List.forall_mem_cons.mp hvalues).2
        · refine List.pairwise_cons.mpr ⟨fun g hg hname => ?_, hrest.2⟩
          rcases hrest.1 g hg with hrepeat | hvalues
          · exact (mayRepeat_congr hname).trans hrepeat
          · exact absurd hname (List.forall_mem_cons.mp hvalues).1
      · exact (takeAll_step hf hflags).2 hfree

theorem Once.eq_of_name (h : Once flags) (hf : f ∈ flags) (hg : g ∈ flags)
    (hname : f.name = g.name) (honce : f.mayRepeat = false) : f = g := by
  have hbehind : flags.Pairwise fun f g => f.name = g.name → f.mayRepeat = false → f = g := by
    refine List.Pairwise.imp ?_ h
    exact fun hrepeat hname honce => absurd (honce.symm.trans (hrepeat hname)) Bool.false_ne_true
  have hbefore : flags.Pairwise fun f g => g.name = f.name → g.mayRepeat = false → g = f := by
    refine List.Pairwise.imp ?_ hbehind
    exact fun heq hname honce => (heq hname.symm ((mayRepeat_congr hname).symm.trans honce)).symm
  exact List.Pairwise.forall_of_forall_of_flip (fun f _ _ _ => rfl) hbehind hbefore hf hg hname
    honce

theorem mem_values_iff {entry : String × String} :
    entry ∈ (settled (flags.map Flag.entry).reverse).values ↔ ∃ f ∈ flags, f.entry = entry := by
  simp [settled]

theorem settled_has (name : String) :
    (settled (flags.map Flag.entry).reverse).has name = true ↔ ∃ f ∈ flags, f.name = name := by
  simp [Taken.has, settled, Flag.entry]

theorem mem_of_name {name : String} (h : ∀ g : Flag, g.name = name ↔ g = f) :
    (∃ g ∈ flags, g.name = name) ↔ f ∈ flags := by
  simp [h]

theorem settled_value? (honce : Once flags) (hf : f ∈ flags) (hrepeat : f.mayRepeat = false) :
    (settled (flags.map Flag.entry).reverse).value? f.name = some f.value := by
  rw [Taken.value?]
  cases hfind : (settled (flags.map Flag.entry).reverse).values.find? (·.1 == f.name) with
  | none =>
      have hnone := List.find?_eq_none.mp hfind f.entry (mem_values_iff.mpr ⟨f, hf, rfl⟩)
      exact absurd (beq_self_eq_true f.name) hnone
  | some entry =>
      obtain ⟨g, hg, rfl⟩ := mem_values_iff.mp (List.mem_of_find?_eq_some hfind)
      have hname : (g.entry.1 == f.name) = true := by simpa using List.find?_some hfind
      rw [honce.eq_of_name hf hg (beq_iff_eq.mp hname).symm hrepeat]
      rfl

theorem settled_value?_eq_some {name value : String}
    (h : (settled (flags.map Flag.entry).reverse).value? name = some value) :
    ∃ f ∈ flags, f.entry = (name, value) := by
  obtain ⟨entry, hfind, rfl⟩ := Option.map_eq_some_iff.mp h
  obtain ⟨f, hf, rfl⟩ := mem_values_iff.mp (List.mem_of_find?_eq_some hfind)
  have hname : (f.entry.1 == name) = true := by simpa using List.find?_some hfind
  exact ⟨f, hf, Prod.ext (beq_iff_eq.mp hname) rfl⟩

theorem settled_kinds (flags : List Flag) :
    ((settled (flags.map Flag.entry).reverse).all "exempt").filterMap Kind.parse? =
      flags.filterMap Flag.kind? := by
  rw [Taken.all, settled, List.reverse_reverse]
  induction flags with
  | nil => rfl
  | cons f flags ih =>
      by_cases hf : ∃ attached value, f = .exempt attached value
      · obtain ⟨attached, value, rfl⟩ := hf
        cases hkind : Kind.parse? value <;>
          simp_all [Flag.entry, Flag.name, Flag.value, Flag.kind?]
      · have hname : (f.entry.1 == "exempt") = false := by
          cases f with
          | exempt attached value => exact absurd ⟨attached, value, rfl⟩ hf
          | path | options | checkPorts | recheckConnections | json => rfl
        have hkind : f.kind? = none := by
          cases f with
          | exempt attached value => exact absurd ⟨attached, value, rfl⟩ hf
          | path | options | checkPorts | recheckConnections | json => rfl
        rw [List.map_cons, List.filter_cons_of_neg (by simp [hname]),
          List.filterMap_cons_none hkind, ih]

theorem request_check (flags : List Flag) : request ("check" :: spelledAll flags) =
    (do
      match ← takeAll Subcommand.check.named (settled []) (spelledAll flags) with
      | .informed request => return request
      | .taken taken =>
          match taken.request? .check with
          | some request => return request
          | none => .error (.positionalsMissing (taken.positionals.map Parameter.shown))) :=
  rfl

theorem request_repeated (hp : ∀ f ∈ flags, f.Proper) (h : ¬Once flags) :
    ∃ fault, request ("check" :: spelledAll flags) = .error fault := by
  obtain ⟨fault, hfault⟩ := takeAll_refuses [] hp fun hall => h hall.2
  refine ⟨fault, ?_⟩
  rw [request_check, hfault]
  rfl

/-- Arguments of which none is given twice are read as the request that they describe. -/
theorem request_of_flags (hp : ∀ f ∈ flags, f.Proper) (honce : Once flags) {path : String}
    (hpath : .path path ∈ flags) :
    ∃ r, request ("check" :: spelledAll flags) = .ok (.check r) ∧ Describes flags r := by
  let taken := settled (flags.map Flag.entry).reverse
  let r : CheckRequest :=
    { path, options := taken.value? "options",
      exempt := (taken.all "exempt").filterMap Kind.parse?,
      checkPorts := taken.has "check-ports",
      recheckConnections := taken.has "recheck-connections", json := taken.has "json" }
  have htaken : takeAll Subcommand.check.named (settled []) (spelledAll flags) =
      .ok (.taken taken) := by
    rw [takeAll_runs hp (fun f _ => .inr (by simp)) honce, List.append_nil]
  have hvalue : taken.value? "PATH" = some path := settled_value? honce hpath rfl
  have hrequest : taken.request? .check = some (.check r) := by
    rw [Taken.request?, hvalue]
    rfl
  refine ⟨r, ?_, ?_⟩
  · rw [request_check, htaken]
    simp only [bind, Except.bind, hrequest]
    rfl
  · refine ⟨hpath, fun value => ⟨fun h => ?_, ?_⟩, settled_kinds flags, ?_, ?_, ?_⟩
    · obtain ⟨f, hf, hentry⟩ := settled_value?_eq_some h
      cases f with
      | options attached v =>
          cases hentry
          exact ⟨attached, hf⟩
      | path | exempt | checkPorts | recheckConnections | json =>
          simp [Flag.entry, Flag.name] at hentry
    · rintro ⟨attached, hmem⟩
      exact settled_value? honce hmem rfl
    · exact (settled_has _).trans (mem_of_name fun g => by cases g <;> simp [Flag.name])
    · exact (settled_has _).trans (mem_of_name fun g => by cases g <;> simp [Flag.name])
    · exact (settled_has _).trans (mem_of_name fun g => by cases g <;> simp [Flag.name])

end Runs

end LineTopology.Proofs.CheckArguments
