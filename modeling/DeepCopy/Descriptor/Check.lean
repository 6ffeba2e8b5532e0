import DeepCopy.Descriptor.Basic
import DeepCopy.Text.Identifier

/-!
# Flaws of a descriptor

What makes a descriptor unfit to be compiled. `Descriptor.flaws` lists every flaw: that of the
type's name first, then those of the members in order.
-/

namespace DeepCopy

open Text (isIdentifier)

/-- Something that makes a descriptor unfit. -/
inductive Flaw where
  | typeName (name : String)
  | memberName (name : String)
  /-- An earlier member has the name already. -/
  | repeated (name : String)
  /-- A member that is included by name cannot be assigned. -/
  | readOnly (name : String)
  /-- The type of a member has no name. -/
  | namelessType (name : String)
  deriving DecidableEq

/-- The wording of a flaw. -/
def Flaw.message : Flaw → String
  | .typeName name => "Type name `" ++ name ++ "` is not a valid identifier"
  | .memberName name => "Member name `" ++ name ++ "` is not a valid identifier"
  | .repeated name => "Duplicate member `" ++ name ++ "`"
  | .readOnly name => "Member `" ++ name ++ "` is marked for cloning but has no mutator"
  | .namelessType name => "Member `" ++ name ++ "` has an empty type name"

/-- The flaws of a member that comes after members with some names. -/
def Member.flaws (earlier : List String) (m : Member) : List Flaw :=
  (if isIdentifier m.name then [] else [.memberName m.name]) ++
  (if earlier.contains m.name then [.repeated m.name] else []) ++
  (if m.readOnly && m.marks.included then [.readOnly m.name] else []) ++
  (if m.type.name.isEmpty then [.namelessType m.name] else [])

/-- The flaws of members that come after members with some names. -/
def flawsOf (earlier : List String) : List Member → List Flaw
  | [] => []
  | m :: ms => m.flaws earlier ++ flawsOf (m.name :: earlier) ms

/-- The flaws of a descriptor. -/
def Descriptor.flaws (d : Descriptor) : List Flaw :=
  (if isIdentifier d.name then [] else [.typeName d.name]) ++ flawsOf [] d.members

end DeepCopy
