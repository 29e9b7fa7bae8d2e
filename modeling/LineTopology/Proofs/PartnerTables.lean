import LineTopology.Kind

namespace LineTopology.Proofs.PartnerTables

variable {source : Endpoint} {target : Kind}

theorem accepts_of_mayFeed (h : source.mayFeed target = true) : target.accepts source = true := by
  revert h
  cases source <;> cases target <;> decide

/-- The incoming table lists selectors behind selectors, which the outgoing one does not; apart
from that pair the two tables agree. -/
theorem mayFeed_of_accepts (h : target.accepts source = true) (ht : target ≠ .selector) :
    source.mayFeed target = true := by
  revert h ht
  cases source <;> cases target <;> decide

theorem not_mayFeed_generator : source.mayFeed .generator = false := by
  cases source <;> rfl

theorem not_mayFeed_of_output (h : source.kind = .output) : source.mayFeed target = false := by
  cases source with
  | output => cases target <;> rfl
  | timedGenerator | onDemandGenerator | queue | transporter | transformer | selector => cases h

theorem mayFeed_selector (h : source.mayFeed .selector = true) :
    source.kind = .queue ∨ source.kind = .generator := by
  revert h
  cases source <;> decide

theorem not_mayFeed_same (h : source.kind = target) : source.mayFeed target = false := by
  subst h
  cases source <;> rfl

end LineTopology.Proofs.PartnerTables
