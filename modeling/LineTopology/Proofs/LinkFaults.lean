import LineTopology.Link
import LineTopology.Proofs.PartnerTables

namespace LineTopology.Proofs.LinkFaults

open Link PartnerTables

def Unmapped (station : Station) (side : Side) (handle : Option String) : Prop :=
  ∃ t, station = .transformer t ∧ t.element? side handle = none

def Feeds (link : Link) : Prop := link.source.endpoint.mayFeed link.target.kind = true

/-- A generator that declares no element leaves the choice to a selector behind it. -/
def LeftOpen (link : Link) : Prop :=
  link.source.kind = .generator ∧ link.source.element? = none ∧ link.target.kind = .selector

def Meet (link : Link) : Prop :=
  Unmapped link.source .source link.sourceHandle ∨ Unmapped link.target .target link.targetHandle ∨
    link.sourceElement? = link.targetElement?

def Compatible (link : Link) : Prop := Meet link ∨ LeftOpen link

def Faulty (link : Link) : Concern → Prop
  | .kindMismatch => ¬ Feeds link
  | .typeMismatch => Feeds link ∧ ¬ Compatible link
  | _ => False

def Sound (link : Link) (answer : Except Refusal Unit) : Prop :=
  ∀ refusal, answer = .error refusal → Faulty link refusal.concern

def Raises (answer : Except Refusal Unit) (concern : Concern) : Prop :=
  ∃ refusal, answer = .error refusal ∧ refusal.concern = concern

/-- An answer that tells of a link all that is wrong with it, and nothing else. -/
structure Exact (link : Link) (answer : Except Refusal Unit) : Prop where
  accepts : answer = .ok () ↔ Feeds link ∧ Compatible link
  raises : ∀ concern, Raises answer concern ↔ Faulty link concern

section Elements

variable {station : Station} {side : Side} {handle expected : Option String}

theorem carried_of_ne_transformer (h : station.kind ≠ .transformer) :
    station.carried? side handle = station.element? := by
  cases station with
  | transformer t => exact absurd rfl h
  | generator | queue | transporter | output | selector => rfl

theorem exists_transformer (h : station.kind = .transformer) : ∃ t, station = .transformer t := by
  cases station with
  | transformer t => exact ⟨t, rfl⟩
  | generator element onDemand => cases onDemand <;> cases h
  | queue | transporter | output | selector => cases h

theorem not_unmapped (h : station.kind ≠ .transformer) : ¬ Unmapped station side handle := by
  rintro ⟨t, rfl, _⟩
  exact h rfl

theorem not_unmapped_of_isSome (h : (station.carried? side handle).isSome = true) :
    ¬ Unmapped station side handle := by
  rintro ⟨t, rfl, ht⟩
  change (t.element? side handle).isSome = true at h
  rw [ht] at h
  cases h

theorem unmapped_of_not_isSome (h : station.kind = .transformer)
    (he : ¬ (station.carried? side handle).isSome = true) : Unmapped station side handle := by
  obtain ⟨t, rfl⟩ := exists_transformer h
  exact ⟨t, rfl, Option.not_isSome_iff_eq_none.mp he⟩

theorem unmapped_iff :
    Unmapped station side handle ↔
      station.kind = .transformer ∧ station.carried? side handle = none := by
  constructor
  · rintro ⟨t, rfl, ht⟩
    exact ⟨rfl, ht⟩
  · rintro ⟨hk, hnone⟩
    exact unmapped_of_not_isSome hk (by rw [hnone]; exact Bool.false_ne_true)

theorem agrees_iff :
    station.agrees side handle expected = true ↔
      Unmapped station side handle ∨ expected = station.carried? side handle := by
  cases station <;>
    simp [Station.agrees, Station.transformer?, Station.carried?, Unmapped]

end Elements

section Answers

variable {link : Link} {answer : Except Refusal Unit} {next : Unit → Except Refusal Unit}

theorem not_faulty (hf : Feeds link) (hc : Compatible link) (concern : Concern) :
    ¬ Faulty link concern := by
  cases concern with
  | kindMismatch => exact fun h => h hf
  | typeMismatch => exact fun h => h.2 hc
  | parse | malformed | missingAssignment | unknownReference | danglingEdge | duplicateNode
  | portOutOfRange | invalidConnection => exact id

theorem faulty_cases {concern : Concern} (h : Faulty link concern) :
    concern = .kindMismatch ∨ concern = .typeMismatch := by
  cases concern with
  | kindMismatch => exact .inl rfl
  | typeMismatch => exact .inr rfl
  | parse | malformed | missingAssignment | unknownReference | danglingEdge | duplicateNode
  | portOutOfRange | invalidConnection => exact h.elim

theorem faulty_unique {concern other : Concern} (h : Faulty link concern)
    (ho : Faulty link other) : concern = other := by
  rcases faulty_cases h with rfl | rfl <;> rcases faulty_cases ho with rfl | rfl
  · rfl
  · exact absurd ho.1 h
  · exact absurd h.1 ho
  · rfl

theorem exact_of_sound (hs : Sound link answer)
    (ha : answer = .ok () → Feeds link ∧ Compatible link) : Exact link answer := by
  cases answer with
  | ok =>
      obtain ⟨hf, hc⟩ := ha rfl
      refine ⟨⟨fun _ => ⟨hf, hc⟩, fun _ => rfl⟩, fun concern => ⟨?_, ?_⟩⟩
      · rintro ⟨refusal, h, _⟩
        cases h
      · exact fun h => absurd h (not_faulty hf hc concern)
  | error refusal =>
      have hr := hs refusal rfl
      refine ⟨⟨fun h => ?_, fun h => ?_⟩, fun concern => ⟨?_, ?_⟩⟩
      · cases h
      · exact absurd hr (not_faulty h.1 h.2 _)
      · rintro ⟨other, h, rfl⟩
        exact hs other h
      · exact fun h => ⟨refusal, rfl, faulty_unique hr h⟩

theorem sound_ok : Sound link (.ok ()) := by
  intro refusal h
  cases h

theorem not_feeds (h : link.source.endpoint.mayFeed link.target.kind = false) : ¬ Feeds link := by
  intro hf
  rw [Feeds, h] at hf
  cases hf

theorem sound_of_kinds {refusal : Refusal} (hc : refusal.concern = .kindMismatch)
    (hf : ¬ Feeds link) : Sound link (.error refusal) := by
  intro other h
  cases h
  rw [hc]
  exact hf

theorem sound_of_meet (hf : Feeds link) (ho : ¬ LeftOpen link) (hm : answer = .ok () ↔ Meet link)
    (hc : ∀ refusal, answer = .error refusal → refusal.concern = .typeMismatch) :
    Sound link answer := by
  intro refusal h
  rw [hc refusal h]
  refine ⟨hf, ?_⟩
  rintro (hmeet | hopen)
  · rw [hm.mpr hmeet] at h
    cases h
  · exact ho hopen

theorem sound_bind (ha : Sound link answer) (hn : answer = .ok () → Sound link (next ())) :
    Sound link (answer >>= next) := by
  cases answer with
  | error refusal =>
      intro other h
      cases h
      exact ha refusal rfl
  | ok => exact hn rfl

theorem sound_if {c : Prop} [Decidable c] (h : c → Sound link answer) :
    Sound link (if c then answer else pure ()) := by
  split
  next hc => exact h hc
  next => exact sound_ok

theorem firstRefusal_sound {rules : List Rule} (h : ∀ rule ∈ rules, Sound link (rule link)) :
    Sound link (firstRefusal rules link) := by
  induction rules with
  | nil => exact sound_ok
  | cons rule rules ih =>
      rw [List.forall_mem_cons] at h
      exact sound_bind h.1 fun _ => ih h.2

end Answers

end LineTopology.Proofs.LinkFaults
