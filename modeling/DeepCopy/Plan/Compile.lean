import DeepCopy.Accessor.Synthesis
import DeepCopy.Descriptor.Check
import DeepCopy.Descriptor.Tree
import DeepCopy.Plan.Basic
import DeepCopy.Shape.Resolve

/-!
# Compiling a descriptor

A descriptor without flaws becomes a plan. Members that cannot be assigned do not take part, nor,
where the type says so, members that are not included by name; ignored members are kept as they
are or left out, as the settings say; every other member is cloned by the accessor of its shape.

## Main definitions

* `CompileSettings`: what becomes of ignored members, and the names of the operations
* `Member.role`: what becomes of a member
* `compile`: the plan of a descriptor, or its flaws
-/

namespace DeepCopy

/-- What becomes of ignored members. -/
inductive IgnorePolicy where
  /-- They are kept as they are. -/
  | keep
  /-- They are left out. -/
  | omit
  deriving DecidableEq

/-- The settings of the compiler. -/
structure CompileSettings where
  ignorePolicy : IgnorePolicy := .keep
  names : OperationNames := {}
  deriving DecidableEq

/-- What becomes of a member. -/
inductive Role where
  | cloned
  | kept
  | leftOut
  deriving DecidableEq

/-- What becomes of a member of a type with some mark. -/
def Member.role (settings : CompileSettings) (mark : CloneMark) (m : Member) : Role :=
  if m.readOnly then .leftOut
  else if mark.explicit && !m.marks.included then .leftOut
  else if m.marks.ignored then
    match settings.ignorePolicy with
    | .keep => .kept
    | .omit => .leftOut
  else .cloned

/-- The shape of a member: that of its type, without clones where the member is to be copied. -/
def Member.shape (m : Member) : Shape :=
  if m.marks.shallow = some true then (resolve m.type).withoutClones else resolve m.type

/-- The accessor of a member, with calls that name the fast operation. -/
def Member.accessor (m : Member) : Accessor := synthesize m.shape

/-- Why a descriptor is not compiled. -/
structure Rejection where
  typeName : String
  flaws : List Flaw
  deriving DecidableEq

/-- The wording of a rejection. -/
def Rejection.message (r : Rejection) : String :=
  "Invalid descriptor for `" ++ r.typeName ++ "`: " ++ "; ".intercalate (r.flaws.map Flaw.message)

/-- The cloned members among some members. -/
def clonedMembers (role : Member → Role) (ms : List Member) : List ClonedMember :=
  (ms.filter (role · = .cloned)).map fun m => ⟨m.name, m.accessor⟩

/-- The kept members among some members, of which `before` cloned ones come first. -/
def keptMembers (role : Member → Role) (before : Nat) : List Member → List KeptMember
  | [] => []
  | m :: ms =>
    match role m with
    | .cloned => keptMembers role (before + 1) ms
    | .kept => ⟨m.name, before⟩ :: keptMembers role before ms
    | .leftOut => keptMembers role before ms

/-- The plan of a descriptor. -/
def compile (settings : CompileSettings) (d : Descriptor) : Except Rejection Plan :=
  let role := Member.role settings d.mark
  let fast := clonedMembers role d.members
  if d.flaws.isEmpty then
    .ok {
      typeName := d.name
      fqn := d.fullName
      namespaceName := d.namespaceName
      visibility := d.visibility
      names := settings.names
      fast := fast
      safe := fast.map fun m => { m with accessor := m.accessor.retarget .safe }
      kept := keptMembers role 0 d.members
      descriptorDigest := d.digest }
  else .error ⟨d.name, d.flaws⟩

/-- The plans of descriptors in order, or the first rejection. -/
def compileAll (settings : CompileSettings) : List Descriptor → Except Rejection (List Plan)
  | [] => .ok []
  | d :: ds => do
    let p ← compile settings d
    let ps ← compileAll settings ds
    return p :: ps

end DeepCopy
