import LineTopology.Node.Lowering

namespace LineTopology

inductive Concern
  | parse
  | malformed
  | kindMismatch
  | typeMismatch
  | missingAssignment
  | unknownReference
  | danglingEdge
  | duplicateNode
  | portOutOfRange
  | invalidConnection
  deriving DecidableEq

namespace Concern

def all : List Concern :=
  [.parse, .malformed, .kindMismatch, .typeMismatch, .missingAssignment, .unknownReference,
    .danglingEdge, .duplicateNode, .portOutOfRange, .invalidConnection]

def name : Concern → String
  | .parse => "parse"
  | .malformed => "malformed"
  | .kindMismatch => "kindMismatch"
  | .typeMismatch => "typeMismatch"
  | .missingAssignment => "missingAssignment"
  | .unknownReference => "unknownReference"
  | .danglingEdge => "danglingEdge"
  | .duplicateNode => "duplicateNode"
  | .portOutOfRange => "portOutOfRange"
  | .invalidConnection => "invalidConnection"

end Concern

/-- The promise about elements that a link breaks. -/
inductive Promise
  | queueSends
  | queueReceives
  | generatorProduces
  | transporterSends
  | transporterReceives
  | outputReceives
  | transformerExpects (handle : String)
  | transformerProduces (handle : String)
  deriving DecidableEq

inductive Refusal
  | outgoing (source : Endpoint) (target : Kind)
  | incoming (target : Kind) (source : Endpoint)
  | intoGenerator (source : Kind)
  | outOfOutput (target : Kind)
  | element (promise : Promise) (expected found : Option String)
  | malformed (fault : NodeFault)

namespace Refusal

def inQuotes (s : String) : String := "\"" ++ s ++ "\""

def shown : Option String → String
  | none => "no element"
  | some s => inQuotes s

def capitalized (s : String) : String :=
  match s.toList with
  | [] => ""
  | c :: cs => String.ofList (c.toUpper :: cs)

def listed (names : List String) : String := ", ".intercalate names

def elementText (expected found : Option String) : Promise → String
  | .queueSends =>
      "The queue only connects to elements of type " ++ shown expected ++
        ", but the target handles " ++ shown found ++ "."
  | .queueReceives =>
      "The queue only receives elements of type " ++ shown expected ++
        ", but the source produces " ++ shown found ++ "."
  | .generatorProduces =>
      "The generator produces " ++ shown expected ++ " but the target handles " ++
        shown found ++ "."
  | .transporterSends =>
      "The transporter only carries elements of type " ++ shown expected ++
        ", but the target handles " ++ shown found ++ "."
  | .transporterReceives =>
      "The transporter only carries elements of type " ++ shown expected ++
        ", but the source produces " ++ shown found ++ "."
  | .outputReceives =>
      "The output only receives elements of type " ++ shown expected ++
        ", but the source produces " ++ shown found ++ "."
  | .transformerExpects handle =>
      "The transformer (" ++ handle ++ ") expects " ++ shown expected ++
        " and cannot connect with " ++ shown found ++ "."
  | .transformerProduces handle =>
      "The transformer (" ++ handle ++ ") produces " ++ shown expected ++
        " and cannot connect with " ++ shown found ++ "."

def reason : Refusal → String
  | .outgoing source target =>
      capitalized source.name ++ " can only connect to: " ++
        listed (source.targets.map Kind.name) ++ ". The target is " ++ inQuotes target.name ++ "."
  | .incoming target source =>
      capitalized target.name ++ " can only receive connections from: " ++
        listed (target.sources.map Endpoint.name) ++ ". The source is " ++
        inQuotes source.name ++ "."
  | .intoGenerator source =>
      "A generator cannot receive connections. The source is " ++ inQuotes source.name ++ "."
  | .outOfOutput target =>
      "An output has no outgoing ports. The target is " ++ inQuotes target.name ++ "."
  | .element promise expected found => elementText expected found promise
  | .malformed fault => fault.text

def concern : Refusal → Concern
  | .outgoing .. | .incoming .. | .intoGenerator _ | .outOfOutput _ => .kindMismatch
  | .element .. => .typeMismatch
  | .malformed _ => .malformed

def code (refusal : Refusal) : String :=
  match refusal.concern with
  | .kindMismatch => "C001"
  | .typeMismatch => "C002"
  | _ => "C003"

end Refusal

end LineTopology
