import DeepCopy.Proofs.Template.Assembly
import DeepCopy.TypeScript.Module

/-!
# The standard template

The pieces of the standard template, one function for the parts that the two operations have in
common. The text of the template is read as these pieces.

## Main definitions

* `Module.block`: lines with their ends
* `Module.standardPieces`: the pieces of the standard template

## Main results

* `Module.read_standard`: the standard template is read as its pieces
-/

namespace DeepCopy

namespace TypeScript.Module

open Template (Piece Expression)

/-- Lines with their ends. -/
def block (lines : List String) : String := String.join (lines.map (· ++ "\n"))

/-! ## The pieces -/

/-- The place of a text. -/
def hole (name : String) : Piece := .output (.variable name)

/-- The place of the name of an operation. -/
def methodHole (name : String) : Piece := .output (.filter "camel_case" (.variable name) [])

/-- The header as a comment. -/
def headerPieces : Template :=
  [.whenever (.variable "header")
    [.output (.filter "line_comment" (.variable "header") []), .text (block ["", ""])] []]

/-- What the module says of the fast operation. -/
def fastRemark : List String :=
  ["        /**",
    "         * Creates a copy of this object.",
    "         * Deep-cloneable members are cloned without cycle protection.",
    "         */"]

/-- What the module says of the safe operation. -/
def safeRemark : List String :=
  ["        /**",
    "         * Creates a copy of this object, passing objects already being cloned",
    "         * on the current path by reference so reference cycles terminate.",
    "         * @param referenceChain Objects on the current clone path.",
    "         */"]

/-- A comment, unless comments are left out. -/
def remarkPiece (lines : List String) : Piece :=
  .whenever (.variable "comments") [.text (block lines)] []

/-- The declaration of the operations. -/
def declarationPieces : Template :=
  [.text (block ["// <auto-generated/>"] ++ "import \x7b "), hole "type_name",
    .text " \x7d from \"", hole "module", .text (block ["\";", ""] ++ "declare module \""),
    hole "module", .text (block ["\" \x7b"] ++ "    interface "), hole "type_name",
    .text (block [" \x7b"]), remarkPiece fastRemark, .text "        ", methodHole "fast_op",
    .text "(): ", hole "type_name", .text (block [";"]), remarkPiece safeRemark,
    .text "        ", methodHole "safe_op", .text "(referenceChain?: object[]): ",
    hole "type_name", .text (block [";", "    \x7d", "\x7d", ""])]

/-- The assignments of the members of an operation. -/
def assigningPiece (operation : String) : Piece :=
  .each "member" (.variable operation)
    [.text "    clone.", .output (.field (.variable "member") "name"), .text " = ",
      .output (.field (.variable "member") "expr"), .text (block [";"])]

/-- The function of an operation. It has lines of its own before the copy is made, and ends in
a text of its own. -/
def functionPieces (operation method parameter : String) (before : List String)
    (ending : String) : Template :=
  [hole "type_name", .text ".prototype.", methodHole method, .text " = function (this: ",
    hole "type_name", .text (parameter ++ "): "), hole "type_name",
    .text (block (" \x7b" :: before) ++ "    const clone = Object.create("), hole "type_name",
    .text ".prototype) as ", hole "type_name", .text (block [";"]), assigningPiece operation,
    .text ending]

/-- The check of the chain, before the object is pushed on it. -/
def enteringLines : List String :=
  ["    if (referenceChain?.includes(this)) return this;",
    "    referenceChain ??= [];",
    "    referenceChain.push(this);"]

/-- The lines that leave the chain. -/
def leavingLines : List String := ["    referenceChain.pop();"]

/-- The pieces of the standard template. -/
def standardPieces : Template :=
  headerPieces ++ declarationPieces ++
    functionPieces "fast" "fast_op" "" [] (block ["    return clone;", "\x7d;", ""]) ++
    functionPieces "safe" "safe_op" ", referenceChain?: object[]" enteringLines
      (block (leavingLines ++ ["    return clone;"]) ++ "\x7d;")

/-! ## Reading the template -/

theorem toList_standard : standard.toList =
    (standardLines.map String.toList).flatMap fun line => line ++ ['\n'] := by
  simp [standard, String.toList_join, List.flatMap_map]

/-- The text of the standard template is cut into the segments of its pieces. -/
theorem segments_standard :
    Template.segments standard.toList = some (Template.segmentsOf standardPieces) := by
  rw [toList_standard]
  simp only [standardLines, assigning, List.cons_append, List.nil_append, List.map_cons,
    List.map_nil]
  -- The lines are taken apart one by one. A literal is `String.ofList` of its characters, so that
  -- rewriting by `String.toList_ofList` leaves nothing to decode.
  simp only [place, tag, String.toList_append]
  repeat rw [String.toList_ofList]
  decide +kernel

/-- The function of an operation is read back if its variables are no keywords. -/
theorem legible_function {operation method : String} (parameter ending : String)
    (before : List String) (hoperation : Template.named operation = .variable operation)
    (hmethod : Template.named method = .variable method) :
    Template.Legible (functionPieces operation method parameter before ending) := by
  have htype : (Expression.variable "type_name").Legible := Expression.legible_variable rfl
  have hbody : ∀ field, (Expression.field (.variable "member") field).Legible := by
    intro field
    exact Expression.legible_field rfl
  refine ⟨htype, trivial, Expression.legible_filter hmethod, trivial, htype, trivial, htype,
    trivial, htype, trivial, htype, trivial, ?_, trivial, trivial⟩
  exact ⟨Expression.legible_variable hoperation, trivial, hbody "name", trivial, hbody "expr",
    trivial, trivial⟩

theorem legible_remark (lines : List String) : (remarkPiece lines).Legible :=
  ⟨Expression.legible_variable rfl, ⟨trivial, trivial⟩, trivial⟩

theorem legible_declaration : Template.Legible declarationPieces := by
  have htype : (Expression.variable "type_name").Legible := Expression.legible_variable rfl
  have hpath : (Expression.variable "module").Legible := Expression.legible_variable rfl
  refine ⟨trivial, htype, trivial, hpath, trivial, hpath, trivial, htype, trivial,
    legible_remark _, trivial, ?_, trivial, htype, trivial, legible_remark _, trivial, ?_, trivial,
    htype, trivial, trivial⟩
  · exact Expression.legible_filter rfl
  · exact Expression.legible_filter rfl

theorem legible_header : Template.Legible headerPieces :=
  ⟨⟨Expression.legible_variable rfl, ⟨Expression.legible_filter rfl, trivial, trivial⟩, trivial⟩,
    trivial⟩

/-- Every expression of the standard template is read back from its tokens. -/
theorem legible_standardPieces : Template.Legible standardPieces := by
  apply Template.legible_append
  · apply Template.legible_append
    · exact Template.legible_append legible_header legible_declaration
    · exact legible_function _ _ _ rfl rfl
  · exact legible_function _ _ _ rfl rfl

/-- **The standard template is read as its pieces.** -/
theorem read_standard : Template.read standard = some standardPieces :=
  Template.read_eq_some legible_standardPieces segments_standard

end TypeScript.Module

end DeepCopy
