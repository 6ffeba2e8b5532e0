import DeepCopy.Heap.Value

/-!
# Trails

The trail of a safe clone holds the cells that are being cloned, the innermost first. Scalars leave
no trace on it.
-/

namespace DeepCopy

/-- The cells that are being cloned, the innermost first. -/
structure Trail where
  cells : List Address := []
  deriving DecidableEq

namespace Trail

/-- Whether a value refers to a cell on the trail. -/
def contains (t : Trail) (v : Value) : Bool :=
  match v with
  | .ref a => t.cells.contains a
  | _ => false

/-- The trail with the cell of a value on it. -/
def push (t : Trail) (v : Value) : Trail :=
  match v with
  | .ref a => ⟨a :: t.cells⟩
  | _ => t

/-- The trail without the cell that was put on it last. -/
def pop (t : Trail) : Trail := ⟨t.cells.tail⟩

/-- The cell that was put on the trail last. -/
def last? (t : Trail) : Option Address := t.cells.head?

@[simp]
theorem pop_push_ref (t : Trail) (a : Address) : (t.push (.ref a)).pop = t := rfl

end Trail

end DeepCopy
