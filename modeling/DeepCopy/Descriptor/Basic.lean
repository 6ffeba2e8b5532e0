/-!
# Descriptors of types

A `Descriptor` is what is known about a type whose instances are to be copied: its name, and its
members in the order of their declaration, with the marks that say which of them take part. The
type of a member is a `TypeUse`: a name and as much of the type's structure as copying needs.

## Main definitions

* `TypeUse`, `Interface`, `Constructor`, `Parameter`: the type of a member
* `Member`, `Descriptor`: members and types with their marks
* `TypeUse.mapping?`, `TypeUse.element?`: the collection interfaces that count
* `Descriptor.fullName`: the name by which a type is known everywhere
-/

namespace DeepCopy

/-- Where a type can be seen from. -/
inductive Visibility where
  | exported
  | internal
  deriving DecidableEq

/-- The word for a visibility in a declaration. -/
def Visibility.keyword : Visibility → String
  | .exported => "public"
  | .internal => "internal"

/-- The mark of a type whose instances have clone operations. -/
structure CloneMark where
  /-- Only members that are included by name take part. -/
  explicit : Bool := false
  /-- References to the type are copied, not cloned. -/
  shallow : Option Bool := none
  deriving DecidableEq

/-- Whether references to a type with this mark are cloned. -/
def CloneMark.allowsDeepCopy (m : CloneMark) : Bool :=
  !m.shallow.getD false

/-- What a type is, broadly. -/
inductive Category where
  | value
  | text
  | reference
  | array
  /-- A parameter of the surrounding generic type. -/
  | parameter
  deriving DecidableEq

/-- A parameter of a constructor, as far as the rebuilding of a container goes. -/
inductive Parameter where
  /-- The container's own collection interface. -/
  | ownInterface
  /-- A sequence of elements. -/
  | sequence (element : String)
  /-- A sequence of pairs of a key and a value. -/
  | pairs (key value : String)
  | other (name : String)
  deriving DecidableEq

/-- A public constructor. -/
structure Constructor where
  parameters : List Parameter := []
  deriving DecidableEq

mutual

/-- A type as it is used by a member. -/
structure TypeUse where
  /-- The name that rendered code uses. -/
  name : String
  category : Category := .reference
  nullable : Bool := false
  /-- The clone mark of the type itself. -/
  cloneable : Option CloneMark := none
  /-- The element of an array. -/
  element : Option TypeUse := none
  interfaces : List Interface := []
  /-- The type is the interface of sequences itself. -/
  isSequence : Bool := false
  constructors : List Constructor := []

/-- A collection interface of a type. -/
inductive Interface where
  | sequence (element : TypeUse)
  | mapping (key value : TypeUse)

end

instance : Inhabited TypeUse := ⟨{ name := "" }⟩

namespace TypeUse

/-- A reference type of which only the name is known. -/
def named (name : String) : TypeUse := { name := name }

/-- A value type. -/
def value (name : String) : TypeUse := { name := name, category := .value }

/-- The type of texts. -/
def string : TypeUse := { name := "string", category := .text }

/-- A type with a clone mark. -/
def marked (name : String) : TypeUse := { name := name, cloneable := some {} }

/-- The array of an element type. -/
def arrayOf (element : TypeUse) : TypeUse where
  name := element.name ++ "[]"
  category := .array
  element := some element

/-- The same type, with null among its values or without it. -/
def withNull (t : TypeUse) (nullable : Bool) : TypeUse := { t with nullable := nullable }

/-- Key and value of the first mapping interface. -/
def mapping? (t : TypeUse) : Option (TypeUse × TypeUse) :=
  t.interfaces.findSome? fun
    | .mapping key value => some (key, value)
    | .sequence _ => none

/-- The element of the first sequence interface. -/
def element? (t : TypeUse) : Option TypeUse :=
  t.interfaces.findSome? fun
    | .sequence element => some element
    | .mapping _ _ => none

/-- The parameters of all constructors. -/
def parameters (t : TypeUse) : List Parameter :=
  t.constructors.flatMap (·.parameters)

end TypeUse

/-- The marks of a member. -/
structure MemberMarks where
  /-- Never cloned. -/
  ignored : Bool := false
  /-- Takes part where only members included by name do. -/
  included : Bool := false
  /-- Copied, not cloned. -/
  shallow : Option Bool := none
  deriving DecidableEq

/-- A member of a described type. -/
structure Member where
  name : String
  type : TypeUse
  readOnly : Bool := false
  marks : MemberMarks := {}

/-- A described type. -/
structure Descriptor where
  name : String
  /-- The full name, where it is not made from namespace and name. -/
  fqn : Option String := none
  /-- Empty for the global namespace. -/
  namespaceName : String := ""
  visibility : Visibility := .exported
  mark : CloneMark := {}
  members : List Member := []

namespace Descriptor

/-- The name by which a type is known everywhere. -/
def fullName (d : Descriptor) : String :=
  match d.fqn with
  | some name => name
  | none =>
    if d.namespaceName.isEmpty then "global::" ++ d.name
    else "global::" ++ d.namespaceName ++ "." ++ d.name

end Descriptor

end DeepCopy
