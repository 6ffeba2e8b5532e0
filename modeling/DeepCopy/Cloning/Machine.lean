import DeepCopy.Cloning.Catalog
import DeepCopy.Cloning.Trail
import DeepCopy.Heap.Basic

/-!
# Cloning

A clone operation makes a copy of an object by the plan of its type: every assigned member of the
copy is made from the member of the source by its accessor, and accessors call the clone operations
of other objects. The fast operation follows every reference; the safe one keeps a trail of the
objects that are being cloned and passes on those that it meets again.

What is made is added to the heap, and nothing else changes; cells are added in the order in which
they are finished. A failure ends the whole operation, but the trail is cleared up on the way out
and what was counted and made until then stays.

## Main definitions

* `CloneFailure`: why an object is not cloned
* `Cloning`: a computation on heap, trail and count that may fail
* `evaluate`: the value that an accessor makes
* `cloneObject`: the copy of an object
* `cloneFast`, `cloneSafe`, `cloneSafeIn`: the operations
-/

namespace DeepCopy

/-- Why an object is not cloned. -/
inductive CloneFailure where
  | missingPlan (typeName : String)
  | notCloneable (kind : Kind)
  /-- A member that does not accept null is null. -/
  | nullReference (member : String)
  | wrongKind (member : String) (expected found : Kind)
  deriving DecidableEq

/-- Why an object is not cloned, in words. -/
def CloneFailure.message : CloneFailure → String
  | .missingPlan typeName => "No clone plan registered for type `" ++ typeName ++ "`"
  | .notCloneable kind => "Value is not a cloneable object: " ++ kind.name
  | .nullReference member => "Null value reached non-nullable member `" ++ member ++ "`"
  | .wrongKind member expected found =>
    "Member `" ++ member ++ "` expected " ++ expected.name ++ ", found " ++ found.name

/-- Why a clone operation ends without a copy. -/
inductive Halt where
  | failure (failure : CloneFailure)
  /-- More objects are nested in each other than was allowed for. -/
  | exhausted
  deriving DecidableEq

/-- What clone operations work on. -/
structure CloneState where
  heap : Heap
  trail : Trail := {}
  /-- The number of objects whose cloning was begun. -/
  calls : Nat := 0
  deriving DecidableEq

/-- A computation on heap, trail and count that may fail; a failure keeps the state. -/
abbrev Cloning := ExceptT Halt (StateM CloneState)

namespace Cloning

/-- What a value is. -/
def look (v : Value) : Cloning Content := return (← get).heap.content v

/-- Ends with a failure. -/
def fail {α : Type} (f : CloneFailure) : Cloning α := throw (.failure f)

/-- A reference to a new cell. -/
def alloc (c : Cell) : Cloning Value := do
  let s ← get
  set { s with heap := s.heap.alloc c }
  return .ref s.heap.size

/-- Counts an object whose cloning begins. -/
def count : Cloning Unit := modify fun s => { s with calls := s.calls + 1 }

/-- A computation during which a value is on the trail; it is taken off again however the
computation ends. -/
def onTrail {α : Type} (v : Value) (body : Cloning α) : Cloning α := ExceptT.mk do
  modify fun s => { s with trail := s.trail.push v }
  let r ← body.run
  modify fun s => { s with trail := s.trail.pop }
  return r

/-- A computation on a trail of its own; the trail that was there comes back afterwards. -/
def onFreshTrail {α : Type} (body : Cloning α) : Cloning α := ExceptT.mk do
  let before ← get
  set { before with trail := ({} : Trail) }
  let r ← body.run
  modify fun s => { s with trail := before.trail }
  return r

/-- The results for values in order. -/
def each (f : Value → Cloning Value) : List Value → Cloning (List Value)
  | [] => return []
  | v :: vs => do
    let w ← f v
    return w :: (← each f vs)

/-- The results for the keys and the values of entries in order. -/
def eachEntry (key value : Value → Cloning Value) :
    List (Value × Value) → Cloning (List (Value × Value))
  | [] => return []
  | e :: es => do
    let k ← key e.1
    let v ← value e.2
    return (k, v) :: (← eachEntry key value es)

end Cloning

open Cloning

/-- The failure of finding something else than a kind in a member. -/
def mismatch (member : String) (expected : Kind) : Content → CloneFailure
  | .scalar .null => .nullReference member
  | found => .wrongKind member expected found.kind

/-- The value that an accessor makes for a member, given what the calls in it do. -/
def evaluate (call : Operation → Value → Cloning Value) (member : String) :
    Accessor → Value → Cloning Value
  | .copy, v | .passOn, v => return v
  | .call nullable op, v => do
    match ← look v with
    | .scalar .null => if nullable then return .null else fail (.nullReference member)
    | _ => call op v
  | .guarded inner, v => do
    match ← look v with
    | .scalar .null => return .null
    | _ => evaluate call member inner v
  | .array element, v => do
    match ← look v with
    | .cell (.array items) => alloc (.array (← each (evaluate call member element) items))
    | found => fail (mismatch member .array found)
  | .sequence _ element _, v => do
    match ← look v with
    | .cell (.sequence typeName items) =>
      alloc (.sequence typeName (← each (evaluate call member element) items))
    | found => fail (mismatch member .sequence found)
  | .project element, v => do
    match ← look v with
    | .cell (.sequence typeName items) =>
      alloc (.sequence typeName (← each (evaluate call member element) items))
    | .cell (.array items) => alloc (.array (← each (evaluate call member element) items))
    | found => fail (mismatch member .sequence found)
  | .map _ _ _ key value _, v => do
    match ← look v with
    | .cell (.mapping typeName entries) =>
      alloc (.mapping typeName
        (← eachEntry (evaluate call member key) (evaluate call member value) entries))
    | found => fail (mismatch member .mapping found)

/-- The fields of a copy after some assignments, given the fields of the source. -/
def assign (call : Operation → Value → Cloning Value) (source : Fields) :
    List Assignment → Fields → Cloning Fields
  | [], made => return made
  | .kept name :: as, made => assign call source as (made.set name (source.get name))
  | .cloned m :: as, made => do
    let v ← evaluate call m.name m.accessor (source.get m.name)
    assign call source as (made.set m.name v)

/-- The copy of an object. The number bounds how many objects may be nested in each other. -/
def cloneObject (plans : Catalog) : Nat → Operation → Value → Cloning Value
  | depth, op, v => do
    match ← look v with
    | .cell (.object typeName source) =>
      -- An object that is being cloned already is passed on as it is.
      if op = .safe && (← get).trail.contains v then return v
      match plans.get? typeName with
      | none => fail (.missingPlan typeName)
      | some p =>
        match depth with
        | 0 => throw .exhausted
        | depth + 1 =>
          -- The object counts before its members are cloned, even if one of them fails.
          count
          let build := assign (cloneObject plans depth) source (p.assignments op) Fields.empty
          let made ← if op = .safe then onTrail v build else build
          alloc (.object typeName made)
    | found => fail (.notCloneable found.kind)

/-- A number of nested objects that only an endless operation exceeds: on the way down a safe
operation enters every object once at most, and between two of them no object is entered twice. -/
def depthLimit (h : Heap) : Nat := (h.size + 1) * (h.size + 1)

/-- The safe copy of an object that shares the trail. -/
def cloneSafeIn (plans : Catalog) (v : Value) : Cloning Value := do
  cloneObject plans (depthLimit (← get).heap) .safe v

/-- The safe copy of an object. -/
def cloneSafe (plans : Catalog) (v : Value) : Cloning Value :=
  onFreshTrail (cloneSafeIn plans v)

/-- The fast copy of an object. -/
def cloneFast (plans : Catalog) (v : Value) : Cloning Value := onFreshTrail do
  cloneObject plans (depthLimit (← get).heap) .fast v

end DeepCopy
