import LineTopology.Kind

namespace LineTopology

structure Policy where
  /-- The kinds that need not declare an element, in the order of `Kind.all`. -/
  exemptKinds : List Kind
  checkPorts : Bool
  recheckConnections : Bool
  deriving DecidableEq

namespace Policy

def standard : Policy := ⟨[], false, false⟩

def ordered (kinds : List Kind) : List Kind := Kind.all.filter kinds.contains

def exempt (policy : Policy) (kind : Kind) : Policy :=
  { policy with exemptKinds := ordered (kind :: policy.exemptKinds) }

def withPortChecks (policy : Policy) : Policy := { policy with checkPorts := true }

def withRecheck (policy : Policy) : Policy := { policy with recheckConnections := true }

/-- A transformer never declares an element of its own. -/
def isExempt (policy : Policy) (kind : Kind) : Bool :=
  kind == .transformer || policy.exemptKinds.contains kind

end Policy

end LineTopology
