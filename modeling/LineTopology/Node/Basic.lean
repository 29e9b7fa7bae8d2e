import LineTopology.Dictionary
import LineTopology.Kind
import LineTopology.Ports

namespace LineTopology

/-- The ports of a transformer are named after what they carry: `handles` says which element, in
ascending order of the names. -/
structure Transformer where
  handles : List (String × String)
  inputs : List String
  outputs : List String
  deriving DecidableEq

inductive Station
  | generator (element : Option String) (onDemand : Bool)
  | queue (element : Option String) (inputs outputs : Nat)
  | transporter (element : Option String)
  | transformer (transformer : Transformer)
  | output (element : Option String) (inputs : Nat)
  | selector (element : Option String) (inputs outputs : Nat)
  deriving DecidableEq

structure Node where
  id : String
  station : Station
  deriving DecidableEq

namespace Transformer

def ports (t : Transformer) : Side → List String
  | .source => t.outputs
  | .target => t.inputs

def element? (t : Transformer) (side : Side) (handle : Option String) : Option String :=
  handle.bind fun h => if (t.ports side).contains h then Dictionary.find? h t.handles else none

end Transformer

namespace Station

def endpoint : Station → Endpoint
  | .generator _ true => .onDemandGenerator
  | .generator _ false => .timedGenerator
  | .queue .. => .queue
  | .transporter _ => .transporter
  | .transformer _ => .transformer
  | .output .. => .output
  | .selector .. => .selector

def kind (station : Station) : Kind := station.endpoint.kind

/-- The one element of a component. A transformer has none. -/
def element? : Station → Option String
  | .generator element _ => element
  | .queue element _ _ => element
  | .transporter element => element
  | .transformer _ => none
  | .output element _ => element
  | .selector element _ _ => element

def transformer? : Station → Option Transformer
  | .transformer t => some t
  | _ => none

def layout : Station → Layout
  | .generator .. => .single none (some "out")
  | .transporter _ => .single (some "in") (some "out")
  | .queue _ inputs outputs => .indexed inputs outputs
  | .selector _ inputs outputs => .indexed inputs outputs
  | .output _ inputs => .indexed inputs 0
  | .transformer t => ⟨.named t.inputs, .named t.outputs⟩

/-- The element that passes through a handle: the one of the component, whatever the handle, except
for a transformer. -/
def carried? (station : Station) (side : Side) (handle : Option String) : Option String :=
  match station.transformer? with
  | some t => t.element? side handle
  | none => station.element?

/-- Whether a handle carries the expected element. A handle to which a transformer maps nothing
carries anything; otherwise no element agrees with no element. -/
def agrees (station : Station) (side : Side) (handle expected : Option String) : Bool :=
  (station.transformer?.any fun t => (t.element? side handle).isNone) ||
    expected == station.carried? side handle

end Station

namespace Node

def endpoint (node : Node) : Endpoint := node.station.endpoint

def kind (node : Node) : Kind := node.station.kind

def element? (node : Node) : Option String := node.station.element?

def layout (node : Node) : Layout := node.station.layout

end Node

end LineTopology
