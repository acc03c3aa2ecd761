import LayeredTree.Family
import LayeredTree.Main
import LayeredTree.Proofs.Comparison.Course
import LayeredTree.Proofs.Comparison.Equivalence
import LayeredTree.Proofs.DebugText
import LayeredTree.Proofs.DepthBoundary
import LayeredTree.Proofs.Document.Arrangement
import LayeredTree.Proofs.Document.Compositional
import LayeredTree.Proofs.Document.Disassembly
import LayeredTree.Proofs.Document.Indentation
import LayeredTree.Proofs.Document.Interchange
import LayeredTree.Proofs.Evaluation
import LayeredTree.Proofs.Fold.Detection
import LayeredTree.Proofs.Fold.Fusion
import LayeredTree.Proofs.Fold.StackInvariant
import LayeredTree.Proofs.FreeNames
import LayeredTree.Proofs.Hashing
import LayeredTree.Proofs.Indiscernible
import LayeredTree.Proofs.Layer.Calls
import LayeredTree.Proofs.Layer.Fields
import LayeredTree.Proofs.Limit
import LayeredTree.Proofs.RaisedLimit
import LayeredTree.Proofs.Session.FailedConfigure
import LayeredTree.Transform
