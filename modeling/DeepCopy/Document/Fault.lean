import DeepCopy.Document.Node
import DeepCopy.Number.Layout
import DeepCopy.Text.Quoted

/-!
# What can be wrong with a document

A `Fault` is the first thing that is wrong with a document, as a cause. `Fault.message` is its
wording, which depends on the language of the document in two places: the name of the null value
and the layout of a floating-point number. A text that is not well formed has no wording here.
-/

namespace DeepCopy.Document

open Number (Binary64 Layout)
open Text (quoted)

/-- The language of a document. -/
inductive Dialect where
  | json
  | yaml
  deriving DecidableEq

/-- What a reader found where it wanted something else. -/
inductive Found where
  | nothing
  | bool (value : Bool)
  | integer (value : Int)
  | float (value : Binary64)
  | text (value : String)
  | list
  | record
  /-- Content under an application's own tag. -/
  | choice

/-- The first thing that is wrong with a document. -/
inductive Fault where
  | missingField (name : String)
  | unknownVariant (name : String) (known : List String)
  | wrongType (found : Found) (expected : String)
  | wrongValue (found : Found) (expected : String)
  | wrongLength (length : Nat) (expected : String)
  | duplicateField (name : String)
  /-- A mapping has a key twice. -/
  | duplicateEntry (key : Node)
  /-- The text is not well formed, or says something that has no meaning at all. -/
  | malformed

/-- The word for the null value. -/
def Dialect.null : Dialect → String
  | .json => "null"
  | .yaml => "unit value"

/-- The layout of floating-point numbers in messages. -/
def Dialect.layout : Dialect → Layout
  | .json => .signed
  | .yaml => .positional

/-- Whether an integer fits sixty-four bits, with a sign or without one. -/
def fitsWord (n : Int) : Bool :=
  -(Number.twoTo 63 : Int) ≤ n && n < (Number.twoTo 64 : Int)

/-- What was found, in words. -/
def Found.message (dialect : Dialect) : Found → String
  | .nothing => dialect.null
  | .bool b => "boolean `" ++ (if b then "true" else "false") ++ "`"
  | .integer n =>
    "integer `" ++ toString n ++ "`" ++
      (if fitsWord n then "" else if n < 0 then " as i128" else " as u128")
  | .float x => "floating point `" ++ dialect.layout.write x ++ "`"
  | .text s => "string " ++ quoted s
  | .list => "sequence"
  | .record => "map"
  | .choice => "enum"

/-- Names in backquotes as the choice that was expected. -/
def expectedNames : List String → String
  | [] => "there are no variants"
  | [a] => "expected `" ++ a ++ "`"
  | [a, b] => "expected `" ++ a ++ "` or `" ++ b ++ "`"
  | names => "expected one of " ++ ", ".intercalate (names.map fun n => "`" ++ n ++ "`")

/-- A repeated key, in words. -/
def keyMessage : Node → String
  | .null => "with null key"
  | .bool b => "with key `" ++ (if b then "true" else "false") ++ "`"
  | .integer n => "with key " ++ toString n
  | .float x => "with key " ++ Layout.pointed.write x
  | .text s => "with key " ++ quoted s
  | _ => "in YAML map"

/-- The wording of a fault, where it has one. -/
def Fault.message (dialect : Dialect) : Fault → Option String
  | .missingField name => some ("missing field `" ++ name ++ "`")
  | .unknownVariant name known =>
    some ("unknown variant `" ++ name ++ "`, " ++ expectedNames known)
  | .wrongType found expected =>
    some ("invalid type: " ++ found.message dialect ++ ", expected " ++ expected)
  | .wrongValue found expected =>
    some ("invalid value: " ++ found.message dialect ++ ", expected " ++ expected)
  | .wrongLength n expected =>
    some ("invalid length " ++ toString n ++ ", expected " ++ expected)
  | .duplicateField name => some ("duplicate field `" ++ name ++ "`")
  | .duplicateEntry key => some ("duplicate entry " ++ keyMessage key)
  | .malformed => none

end DeepCopy.Document
