import DeepCopy.Cloning.Machine
import DeepCopy.Command.Run
import DeepCopy.Descriptor.Format
import DeepCopy.Descriptor.Tree
import DeepCopy.Files.Tree
import DeepCopy.Heap.Equality
import DeepCopy.Heap.Walk
import DeepCopy.Main
import DeepCopy.Plan.Format
import DeepCopy.Proofs.Accessor.NormalForm
import DeepCopy.Proofs.Cloning.Again
import DeepCopy.Proofs.Cloning.Commute
import DeepCopy.Proofs.Cloning.Faithful
import DeepCopy.Proofs.Cloning.FastSafe
import DeepCopy.Proofs.Cloning.Lookup
import DeepCopy.Proofs.Cloning.Meaning
import DeepCopy.Proofs.Cloning.Nesting
import DeepCopy.Proofs.Cloning.Safety
import DeepCopy.Proofs.Cloning.Session
import DeepCopy.Proofs.Cloning.Shallow
import DeepCopy.Proofs.Cloning.Tree
import DeepCopy.Proofs.Command.Confinement
import DeepCopy.Proofs.Config.Discovery
import DeepCopy.Proofs.CSharp.Initializer
import DeepCopy.Proofs.Descriptor.RoundTrip
import DeepCopy.Proofs.Heap.Equality
import DeepCopy.Proofs.Plan.Consistency
import DeepCopy.Proofs.Plan.Mirror
import DeepCopy.Proofs.Plan.Placement
import DeepCopy.Proofs.Plan.RoundTrip
import DeepCopy.Proofs.Project.Acceptance
import DeepCopy.Proofs.Render.CallSites
import DeepCopy.Proofs.Render.Header
import DeepCopy.Proofs.Render.NullTests
import DeepCopy.Proofs.Shape.Improvement
import DeepCopy.Proofs.TypeScript.Methods
import DeepCopy.Proofs.TypeScript.Names
import DeepCopy.Render.Unit
