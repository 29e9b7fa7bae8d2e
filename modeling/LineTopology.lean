import LineTopology.Editor
import LineTopology.Main
import LineTopology.Proofs.LinkFaults
import LineTopology.Proofs.LinkRules
import LineTopology.Proofs.LinkVerdict
import LineTopology.Proofs.Components
import LineTopology.Proofs.Admission
import LineTopology.Proofs.HandleMap
import LineTopology.Proofs.TypeSoundness
import LineTopology.Proofs.BufferedLoops
import LineTopology.Proofs.ImplicitPort
import LineTopology.Proofs.Gates
import LineTopology.Proofs.Documents
import LineTopology.Proofs.GraphIndex
import LineTopology.Proofs.PolicyLaws
import LineTopology.Proofs.EditorShapes
import LineTopology.Proofs.Surfaces
import LineTopology.Proofs.Recipes
import LineTopology.Proofs.Trimming
import LineTopology.Proofs.WrittenNames
import LineTopology.Proofs.LinkSight
import LineTopology.Proofs.DeclarationOrder
import LineTopology.Proofs.TransformerPorts
import LineTopology.Proofs.RecordFates
import LineTopology.Proofs.EdgeLists
import LineTopology.Proofs.PortNames
import LineTopology.Proofs.HandleOverlay
import LineTopology.Proofs.PortCounts
import LineTopology.Proofs.PortFindings
import LineTopology.Proofs.DeclaredElement
import LineTopology.Proofs.ElementFindings
import LineTopology.Proofs.ParameterReadings
import LineTopology.Proofs.LoweringFaults
import LineTopology.Proofs.ConsultedKeys
import LineTopology.Proofs.MissingHandles
import LineTopology.Proofs.ElementChoice
import LineTopology.Proofs.Blame
import LineTopology.Proofs.Acceptance
import LineTopology.Proofs.EditorLayers
import LineTopology.Proofs.TreeReadings
import LineTopology.Proofs.Tolerance
import LineTopology.Proofs.WrittenCounts
