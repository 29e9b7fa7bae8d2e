import LineTopology.Names
import LineTopology.Topology

namespace LineTopology

/-- The element types that a topology declares. They are told apart by their names only. -/
structure Catalog where
  names : List String

namespace Catalog

def ofRecords (records : List ElementRecord) : Catalog := ⟨records.filterMap (·.type)⟩

def contains (catalog : Catalog) (name : String) : Bool := catalog.names.contains name

def size (catalog : Catalog) : Nat := (distinct catalog.names).length

end Catalog

end LineTopology
