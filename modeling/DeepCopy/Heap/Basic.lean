import DeepCopy.Heap.Value

/-!
# Heaps

A `Heap` is a list of cells that only grows; a cell keeps its address for good. Cloning adds cells,
and only `Heap.write` changes one.

## Main definitions

* `Heap`, `Heap.cell?`, `Heap.alloc`, `Heap.write`: heaps
* `Content`, `Heap.content`: what a value is, with the cell it refers to
* `Heap.Closed`: every reference refers to a cell
* `Heap.field`, `Heap.setField`, `Heap.append`, `Heap.item`: access to what a value holds
* `Heap.debug`: a value on one line
-/

namespace DeepCopy

/-- The cells by their addresses. -/
structure Heap where
  cells : Array Cell
  deriving DecidableEq

/-- What a value is: a scalar, or a cell. -/
inductive Content where
  | scalar (value : Value)
  | cell (cell : Cell)
  deriving DecidableEq

/-- The kind of a scalar. -/
def Value.scalarKind : Value → Kind
  | .bool _ => .bool
  | .integer _ => .integer
  | .float _ => .float
  | .text _ => .text
  | .null | .ref _ => .null

/-- The kind of a content. -/
def Content.kind : Content → Kind
  | .scalar v => v.scalarKind
  | .cell c => c.kind

namespace Heap

/-- No cells. -/
def empty : Heap := ⟨#[]⟩

/-- The number of cells, which is also the next address. -/
def size (h : Heap) : Nat := h.cells.size

/-- The cell at an address. -/
def cell? (h : Heap) (a : Address) : Option Cell := h.cells[a]?

/-- The heap with a new cell at the next address. -/
def alloc (h : Heap) (c : Cell) : Heap := ⟨h.cells.push c⟩

/-- The heap with a cell changed. -/
def write (h : Heap) (a : Address) (c : Cell) : Heap := ⟨h.cells.setIfInBounds a c⟩

/-- What a value is. A reference to nothing counts as null. -/
def content (h : Heap) : Value → Content
  | .ref a =>
    match h.cell? a with
    | some c => .cell c
    | none => .scalar .null
  | v => .scalar v

/-- The kind of a value. -/
def kind (h : Heap) (v : Value) : Kind := (h.content v).kind

/-- Every reference in a cell refers to a cell. -/
def Closed (h : Heap) : Prop :=
  ∀ a c, h.cell? a = some c → ∀ b, .ref b ∈ c.values → b < h.size

@[simp]
theorem size_alloc (h : Heap) (c : Cell) : (h.alloc c).size = h.size + 1 := by
  simp [size, alloc]

@[simp]
theorem size_write (h : Heap) (a : Address) (c : Cell) : (h.write a c).size = h.size := by
  simp [size, write]

theorem cell?_eq_none {h : Heap} {a : Address} : h.cell? a = none ↔ h.size ≤ a := by
  simp [cell?, size]

theorem lt_of_cell? {h : Heap} {a : Address} {c : Cell} (hc : h.cell? a = some c) :
    a < h.size := by
  by_cases ha : a < h.size
  · exact ha
  · simp [cell?_eq_none.2 (Nat.not_lt.1 ha)] at hc

@[simp]
theorem cell?_alloc_size (h : Heap) (c : Cell) : (h.alloc c).cell? h.size = some c := by
  simp [cell?, size, alloc]

theorem cell?_alloc_of_lt {h : Heap} {c : Cell} {a : Address} (ha : a < h.size) :
    (h.alloc c).cell? a = h.cell? a := by
  unfold cell? alloc size at *
  simp [Array.getElem?_push, Nat.ne_of_lt ha]

/-! ## Access -/

/-- A field of an object; null where there is no such field or no object. -/
def field (h : Heap) (v : Value) (name : String) : Value :=
  match h.content v with
  | .cell (.object _ fields) => fields.get name
  | _ => .null

/-- The heap with a field of an object set; other values have no fields. -/
def setField (h : Heap) (v : Value) (name : String) (new : Value) : Heap :=
  match v, h.content v with
  | .ref a, .cell (.object typeName fields) => h.write a (.object typeName (fields.set name new))
  | _, _ => h

/-- The heap with an item added to a container, or an entry to a mapping. -/
def append (h : Heap) (v : Value) (key new : Value) : Heap :=
  match v, h.content v with
  | .ref a, .cell (.array items) => h.write a (.array (items ++ [new]))
  | .ref a, .cell (.sequence typeName items) => h.write a (.sequence typeName (items ++ [new]))
  | .ref a, .cell (.mapping typeName entries) =>
    h.write a (.mapping typeName (entries ++ [(key, new)]))
  | _, _ => h

/-- An item of a container, or the value of an entry of a mapping; null where there is none. -/
def item (h : Heap) (v : Value) (index : Nat) : Value :=
  match h.content v with
  | .cell (.array items) | .cell (.sequence _ items) => items[index]?.getD .null
  | .cell (.mapping _ entries) => (entries[index]?.map (·.2)).getD .null
  | _ => .null

/-- Whether two values refer to one cell. -/
def sameCell (v w : Value) : Bool :=
  match v, w with
  | .ref a, .ref b => a == b
  | _, _ => false

/-- A value on one line; of a cell it shows the type, the size and the address. -/
def debug (h : Heap) (showAddress : Address → String) (v : Value) : String :=
  match v, h.content v with
  | .bool b, _ => if b then "true" else "false"
  | .integer n, _ => toString n
  | .float x, _ => Number.Layout.debug.write x
  | .text s, _ => Text.quoted s
  | .ref a, .cell c =>
    (match c with
      | .object typeName _ => typeName
      | .array items => "array[" ++ toString items.length ++ "]"
      | .sequence typeName items => typeName ++ "[" ++ toString items.length ++ "]"
      | .mapping typeName entries =>
        typeName ++ "\x7b" ++ toString entries.length ++ "\x7d") ++ "@" ++ showAddress a
  | _, _ => "null"

end Heap

end DeepCopy
