/-!
# Documents to be written

A `Tree` is the content of a document before it is laid out as text: JSON and YAML writers differ
in how they write a tree, never in what it holds. Records keep the order of their fields.
-/

namespace DeepCopy.Document

/-- The content of a document that is written. -/
inductive Tree where
  | null
  | bool (value : Bool)
  | integer (value : Int)
  | text (value : String)
  | list (items : List Tree)
  | record (fields : List (String × Tree))

namespace Tree

mutual

/-- The number of containers around the innermost content. -/
def depth : Tree → Nat
  | .list items => depthList items + 1
  | .record fields => depthFields fields + 1
  | _ => 0

/-- The greatest depth of a list of trees. -/
def depthList : List Tree → Nat
  | [] => 0
  | t :: ts => max (depth t) (depthList ts)

/-- The greatest depth of the contents of fields. -/
def depthFields : List (String × Tree) → Nat
  | [] => 0
  | (_, t) :: fs => max (depth t) (depthFields fs)

end

/-- A field that is written only when there is something to write. -/
def optional (name : String) : Option Tree → List (String × Tree)
  | none => []
  | some t => [(name, t)]

/-- A field that is written only when a condition holds. -/
def whenever (condition : Bool) (name : String) (t : Tree) : List (String × Tree) :=
  if condition then [(name, t)] else []

end Tree

end DeepCopy.Document
