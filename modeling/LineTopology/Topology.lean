import LineTopology.Json.Equality

namespace LineTopology

structure NodeRecord where
  id : Option String
  kind : Option String
  params : Json
  deriving DecidableEq

structure EdgeRecord where
  id : Option String
  source : Option String
  target : Option String
  sourceHandle : Option String
  targetHandle : Option String
  deriving DecidableEq

inductive AttributeType
  | string
  | number
  | boolean
  | unknown
  deriving DecidableEq

/-- An element type with the types of its attributes, in ascending order of their names. -/
structure ElementRecord where
  id : Option String
  type : Option String
  params : Option (List (String × AttributeType))
  deriving DecidableEq

/-- A topology as a document holds it. Every part of a record may be missing, so that a
malformed record is a finding about the topology and not a fault of the document. -/
structure Topology where
  nodes : List NodeRecord
  edges : List EdgeRecord
  elements : List ElementRecord
  deriving DecidableEq

/-- An edge that is about to be drawn. -/
structure EdgeRequest where
  source : Option String
  target : Option String
  sourceHandle : Option String
  targetHandle : Option String
  deriving DecidableEq

def NodeRecord.blank : NodeRecord := ⟨none, none, .null⟩

def EdgeRecord.blank : EdgeRecord := ⟨none, none, none, none, none⟩

def ElementRecord.blank : ElementRecord := ⟨none, none, none⟩

def EdgeRequest.blank : EdgeRequest := ⟨none, none, none, none⟩

namespace Topology

def blank : Topology := ⟨[], [], []⟩

def ids (topology : Topology) : List String := topology.nodes.filterMap (·.id)

def record? (topology : Topology) (id : String) : Option NodeRecord :=
  topology.nodes.find? fun record => record.id == some id

end Topology

end LineTopology
