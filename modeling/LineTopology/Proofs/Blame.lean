import LineTopology.Proofs.LinkVerdict

namespace LineTopology.Proofs.Blame

open Link Answers PartnerTables LinkFaults LinkRules LinkVerdict

def ruleOf : Kind → Rule
  | .queue => queueRule
  | .generator => generatorRule
  | .transporter => transporterRule
  | .selector => selectorRule
  | .output => outputRule
  | .transformer => transformerRule

/-- The kinds in the order in which their rules are asked. -/
def owners : List Kind := [.queue, .generator, .transporter, .selector, .output, .transformer]

def Objects (link : Link) (owner : Kind) (refusal : Refusal) : Prop :=
  ∃ earlier later, owners = earlier ++ owner :: later ∧
    (∀ other ∈ earlier, ruleOf other link = .ok ()) ∧ ruleOf owner link = .error refusal

/-- Whose rule objects to a link if nothing but the elements of its ends is wrong. -/
def blamed (link : Link) : Kind :=
  if link.source.kind = .queue ∨ link.target.kind = .queue then .queue
  else if link.source.kind = .generator ∧ link.source.element?.isSome then .generator
  else if link.source.kind = .transporter ∨ link.target.kind = .transporter then .transporter
  else if link.target.kind = .output then .output
  else .transformer

/-- The text has both parts in it, apart from each other. -/
def Quotes (text a b : String) : Prop :=
  ∃ before between behind, text = before ++ a ++ between ++ b ++ behind ∨
    text = before ++ b ++ between ++ a ++ behind

def maker : Promise → Kind × Side
  | .queueSends => (.queue, .source)
  | .queueReceives => (.queue, .target)
  | .generatorProduces => (.generator, .source)
  | .transporterSends => (.transporter, .source)
  | .transporterReceives => (.transporter, .target)
  | .outputReceives => (.output, .target)
  | .transformerExpects _ => (.transformer, .target)
  | .transformerProduces _ => (.transformer, .source)

/-- The refusal tells of a broken promise of the owner what the two ends carry, its own first. -/
inductive Tells (link : Link) (owner : Kind) : Refusal → Prop
  | sends {promise : Promise} (hp : maker promise = (owner, .source))
      (hk : link.source.kind = owner) :
      Tells link owner (.element promise link.sourceElement? link.targetElement?)
  | receives {promise : Promise} (hp : maker promise = (owner, .target))
      (hk : link.target.kind = owner) :
      Tells link owner (.element promise link.targetElement? link.sourceElement?)

/-- The owner compares the elements of the two ends if the kinds are right. -/
def Compares (link : Link) : Kind → Prop
  | .generator => link.source.kind = .generator ∧ link.source.element?.isSome
  | .selector => False
  | .output => link.target.kind = .output
  | owner => link.source.kind = owner ∨ link.target.kind = owner

variable {link : Link} {owner : Kind} {promise : Promise} {expected : Option String}
  {refusal : Refusal}

section Order

theorem rules_eq : rules = owners.map ruleOf := rfl

theorem check_error_iff : check link = .error refusal ↔ ∃ owner, Objects link owner refusal := by
  have hforM : (owners.map ruleOf).forM (fun rule => rule link) =
      owners.forM fun owner => ruleOf owner link := rfl
  rw [check, rules_eq, firstRefusal, hforM, forM_error_iff]
  constructor
  · rintro ⟨earlier, owner, later, h⟩
    exact ⟨owner, earlier, later, h⟩
  · rintro ⟨owner, earlier, later, h⟩
    exact ⟨earlier, owner, later, h⟩

theorem Objects.find? (h : Objects link owner refusal) :
    owners.find? (fun owner => !(ruleOf owner link).isOk) = some owner := by
  obtain ⟨earlier, later, howners, hearlier, hrule⟩ := h
  rw [List.find?_eq_some_iff_append]
  refine ⟨by rw [hrule]; rfl, earlier, later, howners, fun other hother => ?_⟩
  rw [hearlier other hother]
  rfl

theorem Objects.unique {other : Kind} {reason : Refusal} (h : Objects link owner refusal)
    (ho : Objects link other reason) : owner = other :=
  Option.some_inj.mp (h.find?.symm.trans ho.find?)

end Order

section Owners

/-- Where the kinds are right, a rule asks of a link only that its ends meet, if it asks anything. -/
theorem ruleOf_ok_iff (hf : Feeds link) (owner : Kind) :
    ruleOf owner link = .ok () ↔ (Compares link owner → Meet link) := by
  have haccepts (target : Kind) (ht : link.target.kind = target) :
      target.accepts link.source.endpoint = true := ht ▸ accepts_of_mayFeed hf
  cases owner with
  | queue =>
      have h := haccepts .queue
      simp only [ruleOf, queueRule_ok_iff, Compares]
      grind
  | generator =>
      have htarget : link.target.kind ≠ .generator := by
        intro ht
        rw [Feeds, ht, not_mayFeed_generator] at hf
        cases hf
      simp only [ruleOf, generatorRule_ok_iff, Compares]
      grind
  | transporter =>
      have h := haccepts .transporter
      simp only [ruleOf, transporterRule_ok_iff, Compares]
      grind
  | selector =>
      have h := haccepts .selector
      simp only [ruleOf, selectorRule_ok_iff, Compares]
      grind
  | output =>
      have h := haccepts .output
      have hsource : link.source.kind ≠ .output := fun hs =>
        not_feeds (not_mayFeed_of_output hs) hf
      simp only [ruleOf, outputRule_ok_iff, Compares]
      grind
  | transformer =>
      have h := haccepts .transformer
      simp only [ruleOf, transformerRule_ok_iff, Compares]
      grind

/-- Behind the other rules only a transformer is left that could mind what it is fed. -/
theorem ends_at_transformer (hf : Feeds link) (ho : ¬ LeftOpen link)
    (hq : ¬ Compares link .queue) (hg : ¬ Compares link .generator)
    (ht : ¬ Compares link .transporter) (hout : ¬ Compares link .output) :
    link.target.kind = .transformer ∧ link.source.kind ≠ .transformer := by
  have htarget : link.target.kind = .transformer := by
    cases hk : link.target.kind with
    | transformer => rfl
    | generator =>
        rw [Feeds, hk, not_mayFeed_generator] at hf
        cases hf
    | queue => exact absurd (.inr hk) hq
    | transporter => exact absurd (.inr hk) ht
    | output => exact absurd hk hout
    | selector =>
        rcases source_of_feeds_selector hf hk with hs | hs
        · exact absurd (.inl hs) hq
        · have hnone : link.source.element? = none := by
            rw [← Option.not_isSome_iff_eq_none]
            exact fun he => hg ⟨hs, he⟩
          exact absurd ⟨hs, hnone, hk⟩ ho
  refine ⟨htarget, fun hs => ?_⟩
  exact not_feeds (not_mayFeed_same (hs.trans htarget.symm)) hf

theorem blamed_first (hf : Feeds link) (ho : ¬ LeftOpen link) :
    ∃ earlier later, owners = earlier ++ blamed link :: later ∧
      (∀ other ∈ earlier, ¬ Compares link other) ∧ Compares link (blamed link) ∧
      (blamed link = .transformer → link.source.kind ≠ .transformer) := by
  rw [blamed]
  split
  next hq => exact ⟨[], _, rfl, List.forall_mem_nil _, hq, nofun⟩
  next hq =>
    have hqueue : ∀ other ∈ [Kind.queue], ¬ Compares link other := by simpa [Compares] using hq
    split
    next hg => exact ⟨[.queue], _, rfl, hqueue, hg, nofun⟩
    next hg =>
      split
      next ht => exact ⟨[.queue, .generator], _, rfl, by simp_all [Compares], ht, nofun⟩
      next ht =>
        split
        next hout =>
          exact ⟨[.queue, .generator, .transporter, .selector], _, rfl, by simp_all [Compares],
            hout, nofun⟩
        next hout =>
          obtain ⟨htarget, hsource⟩ := ends_at_transformer hf ho hq hg ht hout
          exact ⟨[.queue, .generator, .transporter, .selector, .output], _, rfl,
            by simp_all [Compares], .inr htarget, fun _ => hsource⟩

end Owners

section Refusals

def Telling (link : Link) (owner : Kind) (answer : Except Refusal Unit) : Prop :=
  ∀ refusal, answer = .error refusal → refusal.concern = .typeMismatch → Tells link owner refusal

variable {answer : Except Refusal Unit} {next : Unit → Except Refusal Unit}

theorem telling_ok : Telling link owner (.ok ()) := nofun

theorem telling_kinds (h : refusal.concern = .kindMismatch) :
    Telling link owner (.error refusal) := by
  rintro _ ⟨⟩ hc
  cases h.symm.trans hc

theorem telling_bind (ha : Telling link owner answer) (hn : Telling link owner (next ())) :
    Telling link owner (answer >>= next) := by
  cases answer with
  | error refusal =>
      rintro _ ⟨⟩
      exact ha refusal rfl
  | ok => exact hn

theorem telling_if {c : Prop} [Decidable c] (h : c → Telling link owner answer) :
    Telling link owner (if c then answer else pure ()) := by
  split
  next hc => exact h hc
  next => exact telling_ok

theorem outgoing_telling {partner : Kind} : Telling link owner (outgoing partner link) := by
  rw [outgoing]
  split
  next => exact telling_kinds rfl
  next => exact telling_ok

theorem incoming_telling {partner : Kind} : Telling link owner (incoming partner link) := by
  rw [incoming]
  split
  next => exact telling_kinds rfl
  next => exact telling_ok

theorem sends_telling (hp : maker promise = (owner, .source)) (hk : link.source.kind = owner)
    (he : expected = link.sourceElement?) : Telling link owner (sends promise expected link) := by
  subst he
  rw [sends]
  split
  next => exact telling_ok
  next =>
    rintro _ ⟨⟩ _
    exact .sends hp hk

theorem receives_telling (hp : maker promise = (owner, .target)) (hk : link.target.kind = owner)
    (he : expected = link.targetElement?) :
    Telling link owner (receives promise expected link) := by
  subst he
  rw [receives]
  split
  next => exact telling_ok
  next =>
    rintro _ ⟨⟩ _
    exact .receives hp hk

theorem sends_own_telling (hp : maker promise = (owner, .source)) (hk : link.source.kind = owner)
    (hn : owner ≠ .transformer) :
    Telling link owner (sends promise link.source.element? link) :=
  sends_telling hp hk (carried_of_ne_transformer (hk ▸ hn)).symm

theorem receives_own_telling (hp : maker promise = (owner, .target))
    (hk : link.target.kind = owner) (hn : owner ≠ .transformer) :
    Telling link owner (receives promise link.target.element? link) :=
  receives_telling hp hk (carried_of_ne_transformer (hk ▸ hn)).symm

theorem queueRule_telling : Telling link .queue (queueRule link) := by
  refine telling_bind outgoing_telling (telling_bind incoming_telling ?_)
  have hreceives : Telling link .queue (if link.target.kind = .queue then
      receives .queueReceives link.target.element? link else pure ()) :=
    telling_if fun ht => receives_own_telling rfl ht (by decide)
  dsimp only
  split
  next hs => exact telling_bind (sends_own_telling rfl hs (by decide)) hreceives
  next => exact hreceives

theorem generatorRule_telling : Telling link .generator (generatorRule link) := by
  simp only [generatorRule]
  split
  next => exact telling_kinds rfl
  next =>
    exact telling_if fun hs => telling_bind outgoing_telling
      (telling_if fun _ => sends_own_telling rfl hs (by decide))

theorem transporterRule_telling : Telling link .transporter (transporterRule link) := by
  refine telling_bind incoming_telling ?_
  have hreceives : Telling link .transporter (if link.target.kind = .transporter then
      receives .transporterReceives link.target.element? link else pure ()) :=
    telling_if fun ht => receives_own_telling rfl ht (by decide)
  dsimp only
  split
  next hs =>
    exact telling_bind outgoing_telling
      (telling_bind (sends_own_telling rfl hs (by decide)) hreceives)
  next => exact hreceives

theorem outputRule_telling : Telling link .output (outputRule link) := by
  simp only [outputRule]
  split
  next => exact telling_kinds rfl
  next =>
    exact telling_if fun ht => telling_bind incoming_telling
      (receives_own_telling rfl ht (by decide))

theorem transformerRule_telling : Telling link .transformer (transformerRule link) := by
  simp only [transformerRule]
  have hsends : Telling link .transformer (if link.source.kind = .transformer then do
      outgoing .transformer link
      if link.sourceElement?.isSome then
        sends (.transformerProduces (link.sourceHandle.getD "")) link.sourceElement? link
      else pure () else pure ()) :=
    telling_if fun hs => telling_bind outgoing_telling (telling_if fun _ => sends_telling rfl hs rfl)
  split
  next ht =>
    refine telling_bind incoming_telling ?_
    split
    next => exact telling_bind (receives_telling rfl ht rfl) hsends
    next => exact hsends
  next => exact hsends

theorem ruleOf_telling (owner : Kind) : Telling link owner (ruleOf owner link) := by
  cases owner with
  | queue => exact queueRule_telling
  | generator => exact generatorRule_telling
  | transporter => exact transporterRule_telling
  | selector => exact telling_bind incoming_telling outgoing_telling
  | output => exact outputRule_telling
  | transformer => exact transformerRule_telling

end Refusals

section Texts

theorem elementText_quotes (promise : Promise) (expected found : Option String) :
    ∃ before between behind, Refusal.elementText expected found promise =
      before ++ Refusal.shown expected ++ between ++ Refusal.shown found ++ behind := by
  cases promise <;> exact ⟨_, _, _, rfl⟩

theorem shown_injective : Function.Injective Refusal.shown := by
  intro a b h
  have hnone (s : String) : Refusal.shown none ≠ Refusal.shown (some s) := by
    intro he
    have hhead := congrArg (fun text : String => text.toList.head?) he
    simp [Refusal.shown, Refusal.inQuotes] at hhead
  cases a with
  | none =>
      cases b with
      | none => rfl
      | some t => exact absurd h (hnone t)
  | some s =>
      cases b with
      | none => exact absurd h.symm (hnone s)
      | some t =>
          have hquoted : "\"" ++ s ++ "\"" = "\"" ++ t ++ "\"" := h
          simpa using hquoted

theorem Tells.quotes (h : Tells link owner refusal) :
    Quotes refusal.reason (Refusal.shown link.sourceElement?)
      (Refusal.shown link.targetElement?) := by
  cases h with
  | @sends promise =>
      obtain ⟨before, between, behind, htext⟩ :=
        elementText_quotes promise link.sourceElement? link.targetElement?
      exact ⟨before, between, behind, .inl htext⟩
  | @receives promise =>
      obtain ⟨before, between, behind, htext⟩ :=
        elementText_quotes promise link.targetElement? link.sourceElement?
      exact ⟨before, between, behind, .inr htext⟩

end Texts

/-- Where the elements of a link are what is wrong with it, the kinds of its ends settle whose rule
objects; at a transformer it is never the source end that does. The two ends carry different
elements, which the reason shows by different words. -/
theorem mismatch_blames_one_rule (link : Link) (refusal : Refusal)
    (h : check link = .error refusal) (hc : refusal.concern = .typeMismatch) :
    (∀ owner, Objects link owner refusal ↔ owner = blamed link) ∧
      (∀ handle expected found,
        refusal ≠ .element (.transformerProduces handle) expected found) ∧
      link.sourceElement? ≠ link.targetElement? ∧
      Refusal.shown link.sourceElement? ≠ Refusal.shown link.targetElement? ∧
      Quotes refusal.reason (Refusal.shown link.sourceElement?)
        (Refusal.shown link.targetElement?) := by
  have hraises : Raises (check link) .typeMismatch := ⟨refusal, h, hc⟩
  obtain ⟨hf, hincompatible⟩ := ((check_exact link).raises .typeMismatch).mp hraises
  obtain ⟨hmeet, ho⟩ := not_or.mp hincompatible
  obtain ⟨owner, hobjects⟩ := check_error_iff.mp h
  obtain ⟨earlier, later, howners, hpass, hcompares, hsource⟩ := blamed_first hf ho
  have hblamed : owner = blamed link := by
    cases hrule : ruleOf (blamed link) link with
    | ok => exact absurd ((ruleOf_ok_iff hf _).mp hrule hcompares) hmeet
    | error reason =>
        refine hobjects.unique ⟨earlier, later, howners, fun other hother => ?_, hrule⟩
        exact (ruleOf_ok_iff hf other).mpr fun hother' => absurd hother' (hpass other hother)
  have htells : Tells link owner refusal := by
    obtain ⟨_, _, _, _, hrule⟩ := hobjects
    exact ruleOf_telling owner refusal hrule hc
  have hne : link.sourceElement? ≠ link.targetElement? := fun he => hmeet (.inr (.inr he))
  refine ⟨fun other => ⟨fun hother => hother.unique hobjects |>.trans hblamed, ?_⟩,
    fun handle expected found he => ?_, hne, shown_injective.ne hne, htells.quotes⟩
  · rintro rfl
    exact hblamed ▸ hobjects
  · subst he
    cases htells with
    | sends hp hk =>
        obtain rfl : owner = .transformer := (congrArg Prod.fst hp).symm
        exact hsource hblamed.symm hk
    | receives hp _ => cases congrArg Prod.snd hp

def supply : Link := ⟨.generator none true, .transporter (some "nut"), some "out", some "in"⟩

theorem supply_blames_the_belt :
    check supply = .error (.element .transporterReceives (some "nut") none) ∧
      (Refusal.element .transporterReceives (some "nut") none).concern = .typeMismatch ∧
      Objects supply .transporter (.element .transporterReceives (some "nut") none) ∧
      supply.sourceElement? ≠ supply.targetElement? ∧
      Quotes (Refusal.element .transporterReceives (some "nut") none).reason "no element"
        "\"nut\"" := by
  have hcheck : check supply = .error (.element .transporterReceives (some "nut") none) := rfl
  obtain ⟨hblame, _, hne, _, hquotes⟩ := mismatch_blames_one_rule supply _ hcheck rfl
  exact ⟨hcheck, rfl, (hblame .transporter).mpr rfl, hne, hquotes⟩

end LineTopology.Proofs.Blame
