import DeepCopy.Descriptor.Basic
import DeepCopy.Shape.Basic

/-!
# The shape of a type use

Every type use has a shape; what is not known about a type makes it `unknown`. A container's
strategy is the first of `Strategy.priority` for which one of its constructors has a parameter that
fits. Of the interfaces of a type the first mapping counts before the first sequence.

## Main definitions

* `Container`: what a type exposes through its collection interfaces
* `strategyOf`: how a container is rebuilt
* `resolve`: the shape of a type use
-/

namespace DeepCopy

/-- The names that decide how a container is rebuilt: of its element, or of its key and its value
and of the element it has as a sequence of entries. -/
inductive Container where
  | sequence (element : String)
  | mapping (key value : String) (entry : Option String)

/-- Whether a constructor's parameter lets a container be rebuilt in some way. -/
def Strategy.accepts (c : Container) : Strategy → Parameter → Bool
  | .ownInterface, .ownInterface => true
  | .elements, .sequence name =>
    match c with
    | .sequence element => name == element
    | .mapping _ _ entry => some name == entry
  | .pairs, .pairs k v =>
    match c with
    | .sequence _ => false
    | .mapping key value _ => k == key && v == value
  | _, _ => false

/-- Whether a container with constructors of some parameters can be rebuilt in some way. -/
def Strategy.applies (c : Container) (parameters : List Parameter) (s : Strategy) : Bool :=
  s == .passOn || parameters.any (s.accepts c)

/-- The first strategy that applies. -/
def strategyOf (c : Container) (parameters : List Parameter) : Strategy :=
  (Strategy.priority.find? (·.applies c parameters)).getD .passOn

/-- A sequence container, or the interface of sequences itself when nothing rebuilds it. -/
def sequenceShape (t : TypeUse) (elementName : String) (element : Shape) : Shape :=
  let strategy := strategyOf (.sequence elementName) t.parameters
  if t.isSequence && strategy = .passOn then .enumerable element
  else .sequence t.name element strategy

/-- A mapping container. -/
def mapShape (t : TypeUse) (keyName valueName : String) (key value : Shape) : Shape :=
  .map t.name keyName valueName key value
    (strategyOf (.mapping keyName valueName (t.element?.map (·.name))) t.parameters)

/-- The shape of a type use by its category, its clone mark, and the shapes of its parts. -/
def shapeOf (t : TypeUse) (element : Option Shape)
    (mapping : Option (String × String × Shape × Shape)) (sequence : Option (String × Shape)) :
    Shape :=
  if t.cloneable.any CloneMark.allowsDeepCopy then .cloneable t.name
  else
    match t.category with
    | .text | .value => .scalar
    | .array => (element.map Shape.array).getD (.unknown t.name)
    | .reference =>
      match mapping, sequence with
      | some (keyName, valueName, key, value), _ => mapShape t keyName valueName key value
      | none, some (elementName, element) => sequenceShape t elementName element
      | none, none => .unknown t.name
    | .parameter => .unknown t.name

mutual

/-- The shape of a type use. -/
def resolve : TypeUse → Shape
  | ⟨name, category, nullable, cloneable, element, interfaces, isSequence, constructors⟩ =>
    if category = .parameter then .unknown name
    else
      let shape :=
        shapeOf ⟨name, category, false, cloneable, element, interfaces, isSequence, constructors⟩
          (resolveElement element) (resolveMapping interfaces) (resolveSequence interfaces)
      if nullable then .nullable shape else shape

/-- The shape of an array's element. -/
def resolveElement : Option TypeUse → Option Shape
  | none => none
  | some t => some (resolve t)

/-- Names and shapes of the first mapping's key and value. -/
def resolveMapping : List Interface → Option (String × String × Shape × Shape)
  | [] => none
  | .mapping key value :: _ => some (key.name, value.name, resolve key, resolve value)
  | .sequence _ :: rest => resolveMapping rest

/-- Name and shape of the first sequence's element. -/
def resolveSequence : List Interface → Option (String × Shape)
  | [] => none
  | .sequence element :: _ => some (element.name, resolve element)
  | .mapping _ _ :: rest => resolveSequence rest

end

end DeepCopy
