import LineTopology.Proofs.LinkFaults

namespace LineTopology.Proofs.LinkRules

open Link PartnerTables LinkFaults

variable {link : Link} {owner : Kind} {promise : Promise} {expected : Option String}

theorem outgoing_ok_iff :
    outgoing owner link = .ok () ↔ (link.source.kind = owner → Feeds link) := by
  simp [outgoing, Feeds]

theorem incoming_ok_iff :
    incoming owner link = .ok () ↔
      (link.target.kind = owner → owner.accepts link.source.endpoint = true) := by
  simp [incoming]

theorem sends_ok_iff :
    sends promise expected link = .ok () ↔
      Unmapped link.target .target link.targetHandle ∨ expected = link.targetElement? := by
  rw [targetElement?, ← agrees_iff]
  simp [sends]

theorem receives_ok_iff :
    receives promise expected link = .ok () ↔
      Unmapped link.source .source link.sourceHandle ∨ expected = link.sourceElement? := by
  rw [sourceElement?, ← agrees_iff]
  simp [receives]

theorem sends_iff_meet (hs : ¬ Unmapped link.source .source link.sourceHandle)
    (he : link.sourceElement? = expected) :
    sends promise expected link = .ok () ↔ Meet link := by
  rw [sends_ok_iff, Meet, he]
  exact (or_iff_right hs).symm

theorem receives_iff_meet (ht : ¬ Unmapped link.target .target link.targetHandle)
    (he : link.targetElement? = expected) :
    receives promise expected link = .ok () ↔ Meet link := by
  rw [receives_ok_iff, Meet, he, or_iff_right ht, eq_comm]

theorem sends_own_iff_meet (hs : link.source.kind = owner) (hn : owner ≠ .transformer) :
    sends promise link.source.element? link = .ok () ↔ Meet link := by
  subst hs
  exact sends_iff_meet (not_unmapped hn) (carried_of_ne_transformer hn)

theorem receives_own_iff_meet (ht : link.target.kind = owner) (hn : owner ≠ .transformer) :
    receives promise link.target.element? link = .ok () ↔ Meet link := by
  subst ht
  exact receives_iff_meet (not_unmapped hn) (carried_of_ne_transformer hn)

theorem sends_concern {refusal : Refusal} (h : sends promise expected link = .error refusal) :
    refusal.concern = .typeMismatch := by
  rw [sends] at h
  split at h
  next => cases h
  next => cases h; rfl

theorem receives_concern {refusal : Refusal}
    (h : receives promise expected link = .error refusal) : refusal.concern = .typeMismatch := by
  rw [receives] at h
  split at h
  next => cases h
  next => cases h; rfl

theorem outgoing_sound : Sound link (outgoing owner link) := by
  rw [outgoing]
  split
  next hc => exact sound_of_kinds rfl hc.2
  next => exact sound_ok

theorem incoming_sound : Sound link (incoming owner link) := by
  rw [incoming]
  split
  next hc =>
    refine sound_of_kinds rfl fun hf => hc.2 ?_
    rw [← hc.1]
    exact accepts_of_mayFeed hf
  next => exact sound_ok

theorem sends_sound (hf : Feeds link) (ho : ¬ LeftOpen link)
    (hm : sends promise expected link = .ok () ↔ Meet link) :
    Sound link (sends promise expected link) :=
  sound_of_meet hf ho hm fun _ h => sends_concern h

theorem receives_sound (hf : Feeds link) (ho : ¬ LeftOpen link)
    (hm : receives promise expected link = .ok () ↔ Meet link) :
    Sound link (receives promise expected link) :=
  sound_of_meet hf ho hm fun _ h => receives_concern h

theorem feeds_of_incoming (h : incoming owner link = .ok ()) (ht : link.target.kind = owner)
    (ho : owner ≠ .selector) : Feeds link := by
  have ha := incoming_ok_iff.mp h ht
  rw [Feeds, ht]
  exact mayFeed_of_accepts ha ho

theorem not_leftOpen_of_source (h : link.source.kind = owner) (hn : owner ≠ .generator) :
    ¬ LeftOpen link :=
  fun ho => hn (h.symm.trans ho.1)

theorem not_leftOpen_of_target (h : link.target.kind = owner) (hn : owner ≠ .selector) :
    ¬ LeftOpen link :=
  fun ho => hn (h.symm.trans ho.2.2)

/-- An owner that has found the kinds right and carries an element of its own asks no more of the
other end than that they meet. -/
theorem sends_own_sound (hout : outgoing owner link = .ok ()) (hs : link.source.kind = owner)
    (hg : owner ≠ .generator) (ht : owner ≠ .transformer) :
    Sound link (sends promise link.source.element? link) :=
  sends_sound (outgoing_ok_iff.mp hout hs) (not_leftOpen_of_source hs hg) (sends_own_iff_meet hs ht)

theorem receives_own_sound (hin : incoming owner link = .ok ()) (ht : link.target.kind = owner)
    (hs : owner ≠ .selector) (hn : owner ≠ .transformer) :
    Sound link (receives promise link.target.element? link) :=
  receives_sound (feeds_of_incoming hin ht hs) (not_leftOpen_of_target ht hs)
    (receives_own_iff_meet ht hn)

theorem queueRule_sound : Sound link (queueRule link) := by
  refine sound_bind outgoing_sound fun hout => sound_bind incoming_sound fun hin => ?_
  have hreceives : Sound link (if link.target.kind = .queue then
      receives .queueReceives link.target.element? link else pure ()) :=
    sound_if fun ht => receives_own_sound hin ht (by decide) (by decide)
  dsimp only
  split
  next hs =>
    have hsends : Sound link (sends .queueSends link.source.element? link) :=
      sends_own_sound hout hs (by decide) (by decide)
    exact sound_bind hsends fun _ => hreceives
  next => exact hreceives

theorem generatorRule_sound : Sound link (generatorRule link) := by
  simp only [generatorRule]
  split
  next ht =>
    refine sound_of_kinds rfl (not_feeds ?_)
    rw [ht]
    exact not_mayFeed_generator
  next =>
    refine sound_if fun hs => sound_bind outgoing_sound fun hout => sound_if fun he => ?_
    have ho : ¬ LeftOpen link := by
      rintro ⟨_, hnone, _⟩
      rw [hnone] at he
      cases he
    exact sends_sound (outgoing_ok_iff.mp hout hs) ho (sends_own_iff_meet hs (by decide))

theorem transporterRule_sound : Sound link (transporterRule link) := by
  refine sound_bind incoming_sound fun hin => ?_
  have hreceives : Sound link (if link.target.kind = .transporter then
      receives .transporterReceives link.target.element? link else pure ()) :=
    sound_if fun ht => receives_own_sound hin ht (by decide) (by decide)
  dsimp only
  split
  next hs =>
    refine sound_bind outgoing_sound fun hout => sound_bind ?_ fun _ => hreceives
    exact sends_own_sound hout hs (by decide) (by decide)
  next => exact hreceives

theorem selectorRule_sound : Sound link (selectorRule link) :=
  sound_bind incoming_sound fun _ => outgoing_sound

theorem outputRule_sound : Sound link (outputRule link) := by
  simp only [outputRule]
  split
  next hs => exact sound_of_kinds rfl (not_feeds (not_mayFeed_of_output hs))
  next =>
    refine sound_if fun ht => sound_bind incoming_sound fun hin => ?_
    exact receives_own_sound hin ht (by decide) (by decide)

theorem transformerRule_sound : Sound link (transformerRule link) := by
  simp only [transformerRule]
  have hsends : Sound link (if link.source.kind = .transformer then do
      outgoing .transformer link
      if link.sourceElement?.isSome then
        sends (.transformerProduces (link.sourceHandle.getD "")) link.sourceElement? link
      else pure () else pure ()) := by
    refine sound_if fun hs => sound_bind outgoing_sound fun hout => sound_if fun he => ?_
    exact sends_sound (outgoing_ok_iff.mp hout hs) (not_leftOpen_of_source hs (by decide))
      (sends_iff_meet (not_unmapped_of_isSome he) rfl)
  split
  next ht =>
    refine sound_bind incoming_sound fun hin => ?_
    split
    next he =>
      refine sound_bind ?_ fun _ => hsends
      exact receives_sound (feeds_of_incoming hin ht (by decide))
        (not_leftOpen_of_target ht (by decide)) (receives_iff_meet (not_unmapped_of_isSome he) rfl)
    next => exact hsends
  next => exact hsends

theorem rule_sound {rule : Rule} (h : rule ∈ rules) : Sound link (rule link) := by
  simp only [rules, List.mem_cons, List.not_mem_nil, or_false] at h
  rcases h with rfl | rfl | rfl | rfl | rfl | rfl
  · exact queueRule_sound
  · exact generatorRule_sound
  · exact transporterRule_sound
  · exact selectorRule_sound
  · exact outputRule_sound
  · exact transformerRule_sound

end LineTopology.Proofs.LinkRules
