import LineTopology.Text.Blank

namespace LineTopology

open Text

inductive Kind
  | generator
  | queue
  | transporter
  | transformer
  | output
  | selector
  deriving DecidableEq

namespace Kind

def all : List Kind := [.generator, .queue, .transporter, .transformer, .output, .selector]

def name : Kind → String
  | .generator => "generator"
  | .queue => "queue"
  | .transporter => "transporter"
  | .transformer => "transformer"
  | .output => "output"
  | .selector => "selector"

def names : List String := all.map name

def sameLetters (s t : String) : Bool := s.toList.map Char.toLower == t.toList.map Char.toLower

/-- Blanks around the name and the case of its ASCII letters do not count. -/
def parse? (s : String) : Option Kind := all.find? fun kind => sameLetters kind.name (trim s)

def ofName? (s : String) : Option Kind := all.find? fun kind => kind.name == s

def unknownText (s : String) : String := "unknown node type '" ++ s ++ "'"

def canBeSource (kind : Kind) : Bool := kind ≠ .output

def canBeTarget (kind : Kind) : Bool := kind ≠ .generator

end Kind

/-- A kind as it takes part in an edge. The partners of a generator depend on its mode. -/
inductive Endpoint
  | timedGenerator
  | onDemandGenerator
  | queue
  | transporter
  | transformer
  | output
  | selector
  deriving DecidableEq

namespace Endpoint

def all : List Endpoint :=
  [.timedGenerator, .onDemandGenerator, .queue, .transporter, .transformer, .output, .selector]

def kind : Endpoint → Kind
  | .timedGenerator | .onDemandGenerator => .generator
  | .queue => .queue
  | .transporter => .transporter
  | .transformer => .transformer
  | .output => .output
  | .selector => .selector

def name : Endpoint → String
  | .timedGenerator => "generator (not onDemand)"
  | .onDemandGenerator => "generator (onDemand)"
  | endpoint => endpoint.kind.name

def targets : Endpoint → List Kind
  | .queue => [.transformer, .transporter, .selector]
  | .onDemandGenerator => [.selector, .transformer, .transporter]
  | .timedGenerator => [.queue, .output]
  | .transporter => [.output, .queue]
  | .transformer => [.output, .queue]
  | .selector => [.transformer, .transporter]
  | .output => []

def mayFeed (source : Endpoint) (target : Kind) : Bool := source.targets.contains target

end Endpoint

namespace Kind

def sources : Kind → List Endpoint
  | .queue => [.transporter, .transformer, .timedGenerator]
  | .transporter => [.queue, .selector, .onDemandGenerator]
  | .transformer => [.queue, .selector, .onDemandGenerator]
  | .output => [.transformer, .transporter, .timedGenerator]
  | .selector => [.queue, .selector, .onDemandGenerator]
  | .generator => []

def accepts (target : Kind) (source : Endpoint) : Bool := target.sources.contains source

end Kind

end LineTopology
