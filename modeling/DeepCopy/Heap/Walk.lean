import DeepCopy.Heap.Basic

/-!
# Walking a heap

The cells that can be reached from a cell in breadth-first order, without going through cells that
are known already.
-/

namespace DeepCopy.Heap

/-- The cells that a cell refers to, in order. -/
def references (h : Heap) (a : Address) : List Address :=
  match h.cell? a with
  | some c => c.values.filterMap Value.address?
  | none => []

/-- Addresses with those of another list added that are new. -/
def addNew (seen : List Address) : List Address → List Address
  | [] => []
  | a :: as => if seen.contains a then addNew seen as else a :: addNew (a :: seen) as

/-- The cells of a queue and those that are discovered from them, in breadth-first order. The first
number bounds how many there are. -/
def walkFrom (h : Heap) : Nat → List Address → List Address → List Address
  | 0, _, _ => []
  | _, _, [] => []
  | fuel + 1, seen, a :: queue =>
    let new := addNew seen (h.references a)
    a :: h.walkFrom fuel (new ++ seen) (queue ++ new)

/-- A cell and the cells that can be reached from it through cells that are not known, in
breadth-first order. -/
def walk (h : Heap) (known : List Address) (root : Address) : List Address :=
  h.walkFrom (h.size + 1) (root :: known) [root]

end DeepCopy.Heap
