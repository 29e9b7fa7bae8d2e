import LineTopology.Ports
import LineTopology.Topology

namespace LineTopology

structure Wire where
  position : Nat
  source : String
  target : String
  sourceHandle : Option String
  targetHandle : Option String
  deriving DecidableEq

/-- An end of an edge that names no node record, or nothing at all. -/
structure LooseEnd where
  position : Nat
  side : Side
  id : Option String
  deriving DecidableEq

end LineTopology
