import DeepCopy.Document.Tree
import DeepCopy.Number.Binary64

/-!
# Documents that are read

A `Node` is the content of a document after its text is taken apart and before it is read as any
particular type. A text may go wrong somewhere: what stands before that place is still there, and
the place itself is `broken`. Readers go through a node in the order of the text, so they report
the first thing that is wrong with it.

## Main definitions

* `Scalar`: a scalar as it is written in YAML, before it has a type
* `Node`: the content of a document
* `Parsed`: a root, the nodes that aliases refer to, and whether the text ends after the root
* `Tree.toNode`: a written tree as the content that is read back
-/

namespace DeepCopy.Document

open Number (Binary64)

/-- How a scalar is written in YAML. -/
inductive ScalarStyle where
  | plain
  | singleQuoted
  | doubleQuoted
  | literal
  | folded
  deriving DecidableEq

/-- A scalar as written: its style, its tag with the handle resolved, and its text. -/
structure Scalar where
  style : ScalarStyle
  tag : Option String
  text : String
  deriving DecidableEq

/-- The content of a document that is read. -/
inductive Node where
  | null
  | bool (value : Bool)
  /-- An integer; beyond sixty-four bits only YAML has them. -/
  | integer (value : Int)
  | float (value : Binary64)
  | text (value : String)
  /-- A scalar whose type is still open. -/
  | written (scalar : Scalar)
  | list (items : List Node)
  /-- The entries of a mapping in the order of the text, repeated keys included. -/
  | record (entries : List (Node × Node))
  /-- Content under an application's own tag, written without the exclamation mark. -/
  | tagged (tag : String) (content : Node)
  /-- A reference to an anchored node. -/
  | mention (anchor : Nat)
  /-- Content that is well formed but has no value, such as half of a surrogate pair. -/
  | unreadable
  /-- The place from which on the text is not well formed. -/
  | broken

/-- A text taken apart. -/
structure Parsed where
  root : Node
  /-- The nodes that mentions refer to; the first pair of a number counts. -/
  anchors : List (Nat × Node)
  /-- Nothing but the root stands in the text. -/
  complete : Bool

namespace Node

mutual

/-- Whether no part of a node is broken. -/
def isWhole : Node → Bool
  | .broken => false
  | .list items => isWholeList items
  | .record entries => isWholeEntries entries
  | .tagged _ content => isWhole content
  | _ => true

/-- Whether no item of a list is broken. -/
def isWholeList : List Node → Bool
  | [] => true
  | n :: ns => isWhole n && isWholeList ns

/-- Whether no key and no value is broken. -/
def isWholeEntries : List (Node × Node) → Bool
  | [] => true
  | (k, v) :: es => isWhole k && isWhole v && isWholeEntries es

end

mutual

/-- The number of marks that a node is written with: one for a scalar or a mention, and a start and
an end for a collection. -/
def extent : Node → Nat
  | .broken => 0
  | .list items => 2 + extentList items
  | .record entries => 2 + extentEntries entries
  | .tagged _ content => extent content
  | _ => 1

/-- The number of marks that the items of a list are written with. -/
def extentList : List Node → Nat
  | [] => 0
  | n :: ns => extent n + extentList ns

/-- The number of marks that the keys and contents of a mapping are written with. -/
def extentEntries : List (Node × Node) → Nat
  | [] => 0
  | (k, v) :: es => extent k + extent v + extentEntries es

end

mutual

/-- The number of containers around the innermost part of a node. -/
def depth : Node → Nat
  | .list items => depthList items + 1
  | .record entries => depthEntries entries + 1
  | .tagged _ content => depth content
  | _ => 0

/-- The greatest depth of the items of a list. -/
def depthList : List Node → Nat
  | [] => 0
  | n :: ns => max (depth n) (depthList ns)

/-- The greatest depth of the keys and contents of a mapping. -/
def depthEntries : List (Node × Node) → Nat
  | [] => 0
  | (k, v) :: es => max (max (depth k) (depth v)) (depthEntries es)

end

end Node

namespace Tree

mutual

/-- A written tree as the content that is read back. -/
def toNode : Tree → Node
  | .null => .null
  | .bool b => .bool b
  | .integer n => .integer n
  | .text s => .text s
  | .list items => .list (toNodes items)
  | .record fields => .record (toEntries fields)

/-- The items of a list as they are read back. -/
def toNodes : List Tree → List Node
  | [] => []
  | t :: ts => toNode t :: toNodes ts

/-- Fields as they are read back. -/
def toEntries : List (String × Tree) → List (Node × Node)
  | [] => []
  | (name, t) :: fs => (.text name, toNode t) :: toEntries fs

end

end Tree

end DeepCopy.Document
