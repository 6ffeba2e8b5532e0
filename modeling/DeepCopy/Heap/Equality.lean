import DeepCopy.Heap.Basic

/-!
# Equality of contents

Two values are equal in content when they look the same to someone who follows references but
cannot tell addresses. Numbers are compared as the binary64 format defines it. Following
references ends where no cell can be reached from itself.

## Main definitions

* `Value.equalScalar`, `Cell.equalBy`: equality of scalars, and of cells whose values are compared
  in some way
* `Heap.equal`: equality of contents
-/

namespace DeepCopy

/-- Whether two scalars are equal. -/
def Value.equalScalar : Value → Value → Bool
  | .null, .null => true
  | .bool a, .bool b => a == b
  | .integer m, .integer n => m == n
  | .float x, .float y => x.ieeeEq y
  | .text s, .text t => s == t
  | _, _ => false

/-- Whether two lists have one length and equal items. -/
def equalLists {α : Type} (eq : α → α → Bool) : List α → List α → Bool
  | [], [] => true
  | a :: as, b :: bs => eq a b && equalLists eq as bs
  | _, _ => false

/-- Whether two cells are equal when their values are compared in some way. -/
def Cell.equalBy (eq : Value → Value → Bool) : Cell → Cell → Bool
  | .object s f, .object t g =>
    s == t && equalLists (fun a b => a.1 == b.1 && eq a.2 b.2) f.entries g.entries
  | .array as, .array bs => equalLists eq as bs
  | .sequence s as, .sequence t bs => s == t && equalLists eq as bs
  | .mapping s es, .mapping t fs =>
    s == t && equalLists (fun a b => eq a.1 b.1 && eq a.2 b.2) es fs
  | _, _ => false

namespace Heap

/-- Whether two values are equal in content as far as some number of references tells. -/
def equalWithin (h : Heap) : Nat → Value → Value → Bool
  | fuel, v, w =>
    match h.content v, h.content w with
    | .scalar a, .scalar b => a.equalScalar b
    | .cell c, .cell d =>
      match fuel with
      | 0 => false
      | fuel + 1 => c.equalBy (h.equalWithin fuel) d
    | _, _ => false

/-- Whether two values are equal in content. A chain of references that does not come back to a
cell is no longer than there are cells. -/
def equal (h : Heap) (v w : Value) : Bool := h.equalWithin h.size v w

end Heap

end DeepCopy
