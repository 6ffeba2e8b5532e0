import DeepCopy.Accessor.Format
import DeepCopy.Descriptor.Format
import DeepCopy.Json.Writer
import DeepCopy.Plan.Compile

/-!
# Plans as documents

The trees of plans and of the compiler's settings, and the formats by which they are read back.
-/

namespace DeepCopy

open Document
open Document.Tree (whenever)

/-! ## Settings -/

/-- The name of what becomes of ignored members. -/
def IgnorePolicy.name : IgnorePolicy → String
  | .keep => "shallow_copy"
  | .omit => "omit"

/-- The names of what becomes of ignored members. -/
def IgnorePolicy.choices : Choices IgnorePolicy := [("shallow_copy", .keep), ("omit", .omit)]

/-- The tree of the operations' names. -/
def OperationNames.tree (names : OperationNames) : Tree :=
  .record [("fast", .text names.fast), ("safe", .text names.safe)]

/-- The format of the operations' names. -/
def OperationNames.format : Format OperationNames := fun depth src =>
  readRecord src depth "struct OperationNames"
    [.may "fast" (readName src) fun a o => { o with fast := a },
      .may "safe" (readName src) fun a o => { o with safe := a }]
    {}

namespace CompileSettings

/-- The tree of the compiler's settings. -/
def tree (s : CompileSettings) : Tree :=
  .record [("ignore_policy", .text s.ignorePolicy.name), ("operations", s.names.tree)]

/-- The format of the compiler's settings. -/
def format : Format CompileSettings := fun depth src =>
  readRecord src depth "struct CompileOptions"
    [.may "ignore_policy" (readChoice src (depth - 1) IgnorePolicy.choices)
        fun a s => { s with ignorePolicy := a },
      .may "operations" (OperationNames.format (depth - 1) src)
        fun a s => { s with names := a }]
    {}

end CompileSettings

/-! ## Plans -/

/-- The tree of a cloned member. -/
def ClonedMember.tree (m : ClonedMember) : Tree :=
  .record [("name", .text m.name), ("accessor", m.accessor.tree)]

/-- The format of cloned members. -/
def ClonedMember.format : Format ClonedMember := fun depth src =>
  readRecord src depth "struct MemberPlan"
    [.must "name" (readName src) fun a m => { m with name := a },
      .must "accessor" (Accessor.format (depth - 1) src) fun a m => { m with accessor := a }]
    ⟨"", .copy⟩

/-- The tree of a kept member. -/
def KeptMember.tree (m : KeptMember) : Tree :=
  .record [("name", .text m.name), ("position", .integer m.position)]

/-- The format of kept members. -/
def KeptMember.format : Format KeptMember := fun depth src =>
  readRecord src depth "struct RetainedMember"
    [.must "name" (readName src) fun a m => { m with name := a },
      .must "position" (readWord src (Number.twoTo 64) "usize") fun a m => { m with position := a }]
    ⟨"", 0⟩

namespace Plan

/-- The tree of a plan. -/
def tree (p : Plan) : Tree :=
  .record <|
    [("type_name", .text p.typeName), ("fqn", .text p.fqn), ("namespace", .text p.namespaceName),
      ("visibility", p.visibility.tree), ("operations", p.names.tree),
      ("fast", .list (p.fast.map ClonedMember.tree)),
      ("safe", .list (p.safe.map ClonedMember.tree))] ++
    whenever (!p.kept.isEmpty) "retained" (.list (p.kept.map KeptMember.tree)) ++
    [("descriptor_hash", .text p.descriptorDigest)]

/-- The format of plans. -/
def format : Format Plan := fun depth src =>
  let members := readList src (depth - 1) (ClonedMember.format (depth - 2) src)
  readRecord src depth "struct ClonePlan"
    [.must "type_name" (readName src) fun a p => { p with typeName := a },
      .must "fqn" (readName src) fun a p => { p with fqn := a },
      .must "namespace" (readName src) fun a p => { p with namespaceName := a },
      .must "visibility" (readChoice src (depth - 1) Visibility.choices)
        fun a p => { p with visibility := a },
      .must "operations" (OperationNames.format (depth - 1) src) fun a p => { p with names := a },
      .must "fast" members fun a p => { p with fast := a },
      .must "safe" members fun a p => { p with safe := a },
      .may "retained" (readList src (depth - 1) (KeptMember.format (depth - 2) src))
        fun a p => { p with kept := a },
      .must "descriptor_hash" (readName src) fun a p => { p with descriptorDigest := a }]
    ⟨"", "", "", .exported, {}, [], [], [], ""⟩

/-- A plan as JSON text. -/
def json (p : Plan) : String := Json.pretty 0 p.tree

end Plan

end DeepCopy
