import DeepCopy.Accessor.Basic
import DeepCopy.Descriptor.Basic

/-!
# Plans

A `Plan` is the two clone operations of a type, compiled: an accessor for every cloned member, once
for each operation, and the members that are kept as they are with the places they have among the
cloned ones. `Plan.assignments` puts both back into the order of declaration.
-/

namespace DeepCopy

/-- The names of the two clone operations. -/
structure OperationNames where
  fast : String := "Clone"
  safe : String := "CloneSafe"
  deriving DecidableEq

/-- The name of an operation. -/
def OperationNames.of (names : OperationNames) : Operation → String
  | .fast => names.fast
  | .safe => names.safe

/-- A cloned member. -/
structure ClonedMember where
  name : String
  accessor : Accessor
  deriving DecidableEq

/-- A member that is kept as it is. -/
structure KeptMember where
  name : String
  /-- The number of cloned members declared before it. -/
  position : Nat
  deriving DecidableEq

/-- The compiled clone operations of a type. -/
structure Plan where
  typeName : String
  fqn : String
  namespaceName : String
  visibility : Visibility
  names : OperationNames
  fast : List ClonedMember
  safe : List ClonedMember
  kept : List KeptMember
  descriptorDigest : String
  deriving DecidableEq

/-- One assignment of a clone operation. -/
inductive Assignment where
  | cloned (member : ClonedMember)
  | kept (name : String)
  deriving DecidableEq

/-- The member that is assigned. -/
def Assignment.name : Assignment → String
  | .cloned member => member.name
  | .kept name => name

/-- The kept members put between the cloned ones, `before` of which have been placed: each kept
member comes after as many cloned members as its position says, or as there are, unless more have
been placed already. -/
def interleave (before : Nat) : List ClonedMember → List KeptMember → List Assignment
  | cloned, [] => cloned.map .cloned
  | cloned, k :: ks =>
    let due := cloned.take (k.position - before)
    due.map .cloned ++
      .kept k.name :: interleave (before + due.length) (cloned.drop (k.position - before)) ks

namespace Plan

/-- The cloned members of an operation. -/
def members (p : Plan) : Operation → List ClonedMember
  | .fast => p.fast
  | .safe => p.safe

/-- The names of the cloned members. -/
def memberNames (p : Plan) : List String := p.fast.map (·.name)

/-- The assignments of an operation in the order of declaration. -/
def assignments (p : Plan) (op : Operation) : List Assignment :=
  interleave 0 (p.members op) p.kept

end Plan

end DeepCopy
