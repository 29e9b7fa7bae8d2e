import LineTopology.Proofs.Answers
import LineTopology.Proofs.LinkRules

namespace LineTopology.Proofs.LinkVerdict

open Link Answers PartnerTables LinkFaults LinkRules

variable {link : Link} {promise : Promise}

theorem queueRule_ok_iff :
    queueRule link = .ok () ↔
      (link.source.kind = .queue → Feeds link ∧ Meet link) ∧
        (link.target.kind = .queue →
          Kind.accepts .queue link.source.endpoint = true ∧ Meet link) := by
  have hs (h : link.source.kind = .queue) :
      sends .queueSends link.source.element? link = .ok () ↔ Meet link :=
    sends_own_iff_meet h (by decide)
  have ht (h : link.target.kind = .queue) :
      receives .queueReceives link.target.element? link = .ok () ↔ Meet link :=
    receives_own_iff_meet h (by decide)
  simp only [queueRule, then_ok_iff, if_then_ok_iff, if_ok_iff, outgoing_ok_iff, incoming_ok_iff]
  grind

theorem generatorRule_ok_iff :
    generatorRule link = .ok () ↔
      link.target.kind ≠ .generator ∧
        (link.source.kind = .generator →
          Feeds link ∧ (link.source.element?.isSome = true → Meet link)) := by
  have hs (h : link.source.kind = .generator) :
      sends .generatorProduces link.source.element? link = .ok () ↔ Meet link :=
    sends_own_iff_meet h (by decide)
  simp only [generatorRule, then_ok_iff, if_then_ok_iff, if_ok_iff, outgoing_ok_iff, reduceCtorEq]
  grind

theorem transporterRule_ok_iff :
    transporterRule link = .ok () ↔
      (link.source.kind = .transporter → Feeds link ∧ Meet link) ∧
        (link.target.kind = .transporter →
          Kind.accepts .transporter link.source.endpoint = true ∧ Meet link) := by
  have hs (h : link.source.kind = .transporter) :
      sends .transporterSends link.source.element? link = .ok () ↔ Meet link :=
    sends_own_iff_meet h (by decide)
  have ht (h : link.target.kind = .transporter) :
      receives .transporterReceives link.target.element? link = .ok () ↔ Meet link :=
    receives_own_iff_meet h (by decide)
  simp only [transporterRule, ← bind_assoc, then_ok_iff, if_then_ok_iff, if_ok_iff,
    outgoing_ok_iff, incoming_ok_iff]
  grind

theorem selectorRule_ok_iff :
    selectorRule link = .ok () ↔
      (link.target.kind = .selector → Kind.accepts .selector link.source.endpoint = true) ∧
        (link.source.kind = .selector → Feeds link) := by
  rw [selectorRule, then_ok_iff, incoming_ok_iff, outgoing_ok_iff]

theorem outputRule_ok_iff :
    outputRule link = .ok () ↔
      link.source.kind ≠ .output ∧
        (link.target.kind = .output →
          Kind.accepts .output link.source.endpoint = true ∧ Meet link) := by
  have ht (h : link.target.kind = .output) :
      receives .outputReceives link.target.element? link = .ok () ↔ Meet link :=
    receives_own_iff_meet h (by decide)
  simp only [outputRule, then_ok_iff, if_then_ok_iff, if_ok_iff, incoming_ok_iff, reduceCtorEq]
  grind

theorem receives_mapped_iff_meet (ht : link.target.kind = .transformer) :
    (link.targetElement?.isSome = true →
      receives promise link.targetElement? link = .ok ()) ↔ Meet link := by
  by_cases he : link.targetElement?.isSome = true
  · rw [forall_prop_of_true he]
    exact receives_iff_meet (not_unmapped_of_isSome he) rfl
  · rw [forall_prop_of_false he, true_iff]
    exact .inr (.inl (unmapped_of_not_isSome ht he))

theorem sends_mapped_iff_meet (hs : link.source.kind = .transformer) :
    (link.sourceElement?.isSome = true →
      sends promise link.sourceElement? link = .ok ()) ↔ Meet link := by
  by_cases he : link.sourceElement?.isSome = true
  · rw [forall_prop_of_true he]
    exact sends_iff_meet (not_unmapped_of_isSome he) rfl
  · rw [forall_prop_of_false he, true_iff]
    exact .inl (unmapped_of_not_isSome hs he)

/-- A handle that takes anything meets every partner, so that the rule asks of it what it asks of
the mapped ones. -/
theorem transformerRule_ok_iff :
    transformerRule link = .ok () ↔
      (link.target.kind = .transformer →
        Kind.accepts .transformer link.source.endpoint = true ∧ Meet link) ∧
        (link.source.kind = .transformer → Feeds link ∧ Meet link) := by
  have hs (h : link.source.kind = .transformer) :
      (link.sourceElement?.isSome = true →
        sends (.transformerProduces (link.sourceHandle.getD "")) link.sourceElement? link =
          .ok ()) ↔ Meet link :=
    sends_mapped_iff_meet h
  simp only [transformerRule]
  split
  next ht =>
    simp only [then_ok_iff, if_then_ok_iff, if_ok_iff, outgoing_ok_iff, incoming_ok_iff,
      receives_mapped_iff_meet ht]
    grind
  next ht =>
    simp only [then_ok_iff, if_ok_iff, outgoing_ok_iff]
    grind

theorem feeds_of_admitted (h : ∀ rule ∈ rules, rule link = .ok ()) : Feeds link := by
  simp only [rules, List.forall_mem_cons, queueRule_ok_iff, generatorRule_ok_iff,
    transporterRule_ok_iff, selectorRule_ok_iff, outputRule_ok_iff, transformerRule_ok_iff] at h
  obtain ⟨hq, hg, htp, hs, ho, htf, _⟩ := h
  cases hk : link.source.kind with
  | queue => exact (hq.1 hk).1
  | generator => exact (hg.2 hk).1
  | transporter => exact (htp.1 hk).1
  | selector => exact hs.2 hk
  | output => exact absurd hk ho.1
  | transformer => exact (htf.2 hk).1

theorem source_of_feeds_selector (hf : Feeds link) (ht : link.target.kind = .selector) :
    link.source.kind = .queue ∨ link.source.kind = .generator := by
  rw [Feeds, ht] at hf
  exact mayFeed_selector hf

theorem compatible_of_admitted (h : ∀ rule ∈ rules, rule link = .ok ()) : Compatible link := by
  have hf := feeds_of_admitted h
  simp only [rules, List.forall_mem_cons, queueRule_ok_iff, generatorRule_ok_iff,
    transporterRule_ok_iff, selectorRule_ok_iff, outputRule_ok_iff, transformerRule_ok_iff] at h
  obtain ⟨hq, hg, htp, hs, ho, htf, _⟩ := h
  cases ht : link.target.kind with
  | queue => exact .inl (hq.2 ht).2
  | transporter => exact .inl (htp.2 ht).2
  | output => exact .inl (ho.2 ht).2
  | transformer => exact .inl (htf.1 ht).2
  | generator => exact absurd ht hg.1
  | selector =>
      rcases source_of_feeds_selector hf ht with hk | hk
      · exact .inl (hq.1 hk).2
      · cases he : link.source.element? with
        | none => exact .inr ⟨hk, he, ht⟩
        | some element => exact .inl ((hg.2 hk).2 (by rw [he]; rfl))

/-- Whatever the order in which the rules are asked, they tell of a link all that is wrong with
it. -/
theorem firstRefusal_exact {order : List Rule} (h : order.Perm rules) :
    Exact link (firstRefusal order link) := by
  refine exact_of_sound (firstRefusal_sound fun _ hr => rule_sound (h.mem_iff.mp hr)) fun hok => ?_
  have hall : ∀ rule ∈ rules, rule link = .ok () :=
    fun rule hr => forM_ok_iff.mp hok rule (h.mem_iff.mpr hr)
  exact ⟨feeds_of_admitted hall, compatible_of_admitted hall⟩

theorem check_exact (link : Link) : Exact link (check link) := firstRefusal_exact (.refl rules)

/-- The kinds decide first, whatever the elements are; then an end that takes anything, a generator
that leaves the choice to a selector, or one element at both ends admits a link. -/
theorem check_decides (link : Link) :
    (Raises (check link) .kindMismatch ↔ ¬ link.source.endpoint.mayFeed link.target.kind = true) ∧
      (Raises (check link) .typeMismatch ↔
        link.source.endpoint.mayFeed link.target.kind = true ∧
          ¬ (Unmapped link.source .source link.sourceHandle ∨
            Unmapped link.target .target link.targetHandle ∨ LeftOpen link ∨
            link.sourceElement? = link.targetElement?)) ∧
      (check link = .ok () ↔
        ¬ Raises (check link) .kindMismatch ∧ ¬ Raises (check link) .typeMismatch) ∧
      ∀ refusal, check link = .error refusal →
        refusal.concern = .kindMismatch ∨ refusal.concern = .typeMismatch := by
  obtain ⟨ha, hr⟩ := check_exact link
  have hc : Compatible link ↔ Unmapped link.source .source link.sourceHandle ∨
      Unmapped link.target .target link.targetHandle ∨ LeftOpen link ∨
      link.sourceElement? = link.targetElement? := by
    rw [Compatible, Meet, or_assoc, or_assoc, @or_comm (LeftOpen link)]
  refine ⟨hr .kindMismatch, ?_, ?_, fun refusal h => ?_⟩
  · rw [← hc]
    exact hr .typeMismatch
  · rw [ha, hr, hr]
    change Feeds link ∧ Compatible link ↔ ¬ ¬ Feeds link ∧ ¬ (Feeds link ∧ ¬ Compatible link)
    grind
  · exact faulty_cases ((hr refusal.concern).mp ⟨refusal, h, rfl⟩)

/-- The order in which the rules are asked decides how a refusal is worded, but neither whether a
link is refused nor the concern that is raised. -/
theorem order_decides_wording (link : Link) (order : List Rule) (h : order.Perm rules) :
    (firstRefusal order link = .ok () ↔ check link = .ok ()) ∧
      ∀ concern, Raises (firstRefusal order link) concern ↔ Raises (check link) concern := by
  have horder : Exact link (firstRefusal order link) := firstRefusal_exact h
  have hcheck := check_exact link
  constructor
  · rw [horder.accepts, hcheck.accepts]
  · intro concern
    rw [horder.raises, hcheck.raises]

def outputToGenerator : Link := ⟨.output none 1, .generator none false, none, none⟩

theorem reverse_order_decides_wording :
    rules.reverse.Perm rules ∧
      check outputToGenerator = .error (.intoGenerator .output) ∧
      firstRefusal rules.reverse outputToGenerator = .error (.outOfOutput .generator) ∧
      (Raises (firstRefusal rules.reverse outputToGenerator) .kindMismatch ↔
        Raises (check outputToGenerator) .kindMismatch) := by
  have hperm := List.reverse_perm rules
  refine ⟨hperm, rfl, rfl, ?_⟩
  exact (order_decides_wording outputToGenerator rules.reverse hperm).2 .kindMismatch

end LineTopology.Proofs.LinkVerdict
