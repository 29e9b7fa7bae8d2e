import LineTopology.Refusal

namespace LineTopology

structure Link where
  source : Station
  target : Station
  sourceHandle : Option String
  targetHandle : Option String

namespace Link

abbrev Rule := Link → Except Refusal Unit

def sourceElement? (link : Link) : Option String := link.source.carried? .source link.sourceHandle

def targetElement? (link : Link) : Option String := link.target.carried? .target link.targetHandle

def outgoing (owner : Kind) : Rule := fun link =>
  if link.source.kind = owner ∧ ¬ link.source.endpoint.mayFeed link.target.kind then
    .error (.outgoing link.source.endpoint link.target.kind)
  else .ok ()

def incoming (owner : Kind) : Rule := fun link =>
  if link.target.kind = owner ∧ ¬ owner.accepts link.source.endpoint then
    .error (.incoming owner link.source.endpoint)
  else .ok ()

def sends (promise : Promise) (expected : Option String) : Rule := fun link =>
  if link.target.agrees .target link.targetHandle expected then .ok ()
  else .error (.element promise expected link.targetElement?)

def receives (promise : Promise) (expected : Option String) : Rule := fun link =>
  if link.source.agrees .source link.sourceHandle expected then .ok ()
  else .error (.element promise expected link.sourceElement?)

def queueRule : Rule := fun link => do
  outgoing .queue link
  incoming .queue link
  if link.source.kind = .queue then sends .queueSends link.source.element? link
  if link.target.kind = .queue then receives .queueReceives link.target.element? link

/-- A generator without an element produces whatever its partner takes. -/
def generatorRule : Rule := fun link => do
  if link.target.kind = .generator then .error (.intoGenerator link.source.kind)
  if link.source.kind = .generator then
    outgoing .generator link
    if link.source.element?.isSome then sends .generatorProduces link.source.element? link

def transporterRule : Rule := fun link => do
  incoming .transporter link
  if link.source.kind = .transporter then
    outgoing .transporter link
    sends .transporterSends link.source.element? link
  if link.target.kind = .transporter then
    receives .transporterReceives link.target.element? link

def selectorRule : Rule := fun link => do
  incoming .selector link
  outgoing .selector link

def outputRule : Rule := fun link => do
  if link.source.kind = .output then .error (.outOfOutput link.target.kind)
  if link.target.kind = .output then
    incoming .output link
    receives .outputReceives link.target.element? link

/-- Only a handle that is mapped to an element constrains the partner of a transformer. -/
def transformerRule : Rule := fun link => do
  if link.target.kind = .transformer then
    incoming .transformer link
    if link.targetElement?.isSome then
      receives (.transformerExpects (link.targetHandle.getD "")) link.targetElement? link
  if link.source.kind = .transformer then
    outgoing .transformer link
    if link.sourceElement?.isSome then
      sends (.transformerProduces (link.sourceHandle.getD "")) link.sourceElement? link

def rules : List Rule :=
  [queueRule, generatorRule, transporterRule, selectorRule, outputRule, transformerRule]

def firstRefusal (rules : List Rule) (link : Link) : Except Refusal Unit :=
  rules.forM fun rule => rule link

def check (link : Link) : Except Refusal Unit := firstRefusal rules link

end Link

def NodeRecord.checkLink (source target : NodeRecord) (sourceHandle targetHandle : Option String) :
    Except Refusal Unit := do
  let a ← source.lower.mapError .malformed
  let b ← target.lower.mapError .malformed
  Link.check ⟨a.station, b.station, sourceHandle, targetHandle⟩

end LineTopology
