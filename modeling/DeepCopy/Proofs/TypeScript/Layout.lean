import DeepCopy.Proofs.TypeScript.Standard

/-!
# The text of a module

The lines of a module, written down without a template: the header as a comment, the declaration of
the two operations, and their functions, each with one line for every member that it assigns.
Rendering a module by the standard template gives these lines and nothing else, whatever its
strings are; a string that looks like a part of a template is written as it is.

## Main definitions

* `Module.headerLines`, `Module.declarationLines`, `Module.functionLines`: the parts of a module
* `Module.text`: the text of a module

## Main results

* `Module.fill_header`, `Module.fill_declaration`, `Module.fill_function`: the texts of the parts of
  the standard template
* `Module.fill_standard`: the text of a module by the standard template
* `Module.render_standard`: a module is rendered as its text
* `Plan.typescript_none`: so every plan has a unit by the standard template
-/

namespace DeepCopy

namespace TypeScript.Module

open Template (Piece Value)

/-! ## The lines of a module -/

/-- Every line of the header as a comment, and a blank line behind it. Without a header there are
no lines. -/
def headerLines (m : Module) : List String :=
  if m.header.isEmpty then [] else (Text.lines m.header).map (Text.commentLine "//") ++ [""]

/-- The lines of a comment, unless comments are left out. -/
def remarkLines (m : Module) (lines : List String) : List String :=
  if m.comments then lines else []

/-- The declaration of the operations. -/
def declarationLines (m : Module) : List String :=
  ["// <auto-generated/>",
    "import \x7b " ++ m.typeName ++ " \x7d from \"" ++ m.path ++ "\";",
    "",
    "declare module \"" ++ m.path ++ "\" \x7b",
    "    interface " ++ m.typeName ++ " \x7b"] ++
  m.remarkLines fastRemark ++
  ["        " ++ Text.camelCase m.names.fast ++ "(): " ++ m.typeName ++ ";"] ++
  m.remarkLines safeRemark ++
  ["        " ++ Text.camelCase m.names.safe ++ "(referenceChain?: object[]): " ++ m.typeName ++
      ";",
    "    \x7d",
    "\x7d",
    ""]

/-- The lines of a function up to the assignments, which end with the creation of the copy. -/
def openingLines (m : Module) (name parameter : String) (before : List String) : List String :=
  [m.typeName ++ ".prototype." ++ Text.camelCase name ++ " = function (this: " ++ m.typeName ++
    parameter ++ "): " ++ m.typeName ++ " \x7b"] ++
  before ++
  ["    const clone = Object.create(" ++ m.typeName ++ ".prototype) as " ++ m.typeName ++ ";"]

/-- The assignment of a member. -/
def assignmentLine (a : String × String) : String := "    clone." ++ a.1 ++ " = " ++ a.2 ++ ";"

/-- The function of an operation, which assigns its members in order. -/
def functionLines (m : Module) (name parameter : String) (members : List (String × String))
    (before after : List String) : List String :=
  m.openingLines name parameter before ++ members.map assignmentLine ++ after ++
    ["    return clone;", "\x7d;"]

/-- The text of a module. -/
def text (m : Module) : String :=
  "\n".intercalate
    (m.headerLines ++ m.declarationLines ++ m.functionLines m.names.fast "" m.fast [] [] ++ [""] ++
      m.functionLines m.names.safe ", referenceChain?: object[]" m.safe enteringLines leavingLines)

/-! ## Lines with their ends -/

@[simp] theorem block_nil : block [] = "" := rfl

@[simp] theorem block_cons (l : String) (ls : List String) :
    block (l :: ls) = l ++ "\n" ++ block ls := by
  rw [block, List.map_cons, String.join_cons, block]

@[simp] theorem block_append (ls ls' : List String) : block (ls ++ ls') = block ls ++ block ls' := by
  induction ls with
  | nil => rw [List.nil_append, block_nil, String.empty_append]
  | cons l ls ih => simp only [List.cons_append, block_cons, ih, String.append_assoc]

/-- Lines put together end in the last one. -/
theorem intercalate_concat (ls : List String) (l : String) :
    "\n".intercalate (ls ++ [l]) = block ls ++ l := by
  induction ls with
  | nil => rw [List.nil_append, String.intercalate_singleton, block_nil, String.empty_append]
  | cons k ls ih =>
    have hne : ls ++ [l] ≠ [] := List.append_ne_nil_of_right_ne_nil ls (List.cons_ne_nil l [])
    rw [List.cons_append, String.intercalate_cons_of_ne_nil hne, ih, block_cons]
    simp only [String.append_assoc]

/-- Lines put together lack the end of the last one. -/
theorem intercalate_newline {ls : List String} (h : ls ≠ []) :
    "\n".intercalate ls ++ "\n" = block ls := by
  rw [← List.dropLast_concat_getLast h, intercalate_concat, block_append, block_cons, block_nil,
    String.append_empty, String.append_assoc]

/-! ## Filling in the pieces -/

section

variable {m : Module} {ps : List Piece} {name operation s t : String}
  {members : List (String × String)}

/-- A text of the module is written as it is. -/
theorem fill_hole (hs : m.context.lookup name = some (.text s))
    (hps : Template.fill m.context ps = .ok t) :
    Template.fill m.context (hole name :: ps) = .ok (s ++ t) := by
  apply Template.fill_output (v := .text s) _ hps
  rw [Template.Expression.value, hs]
  rfl

/-- The name of an operation is written as a method is named. -/
theorem fill_methodHole (hs : m.context.lookup name = some (.text s))
    (hps : Template.fill m.context ps = .ok t) :
    Template.fill m.context (methodHole name :: ps) = .ok (Text.camelCase s ++ t) := by
  apply Template.fill_output (v := .text (Text.camelCase s)) _ hps
  rw [Template.Expression.value, Template.Expression.value, hs]
  rfl

/-- A comment is written unless comments are left out. -/
theorem fill_remark (lines : List String) (hps : Template.fill m.context ps = .ok t) :
    Template.fill m.context (remarkPiece lines :: ps) =
      .ok (block (m.remarkLines lines) ++ t) := by
  have hcomments : (Template.Expression.variable "comments").value m.context =
      .ok (.bool m.comments) := rfl
  apply Template.fill_whenever hcomments _ hps
  rw [remarkLines]
  cases m.comments with
  | false => exact Template.fill_nil
  | true => exact (Template.fill_text Template.fill_nil).trans (by rw [String.append_empty]; rfl)

/-- Every member is assigned in a line of its own. -/
theorem fill_assigning
    (hmembers : m.context.lookup operation = some (.list (members.map memberValue)))
    (hps : Template.fill m.context ps = .ok t) :
    Template.fill m.context (assigningPiece operation :: ps) =
      .ok (block (members.map assignmentLine) ++ t) := by
  have hvalue : (Template.Expression.variable operation).value m.context =
      .ok (.list (members.map memberValue)) := by
    rw [Template.Expression.value, hmembers]
    rfl
  rw [block, List.map_map]
  apply Template.fill_each hvalue _ hps
  intro a
  -- The variable of the loop stands before the values of the module.
  have hname : (Template.Expression.field (.variable "member") "name").value
      (("member", memberValue a) :: m.context) = .ok (.text a.1) := rfl
  have hexpr : (Template.Expression.field (.variable "member") "expr").value
      (("member", memberValue a) :: m.context) = .ok (.text a.2) := rfl
  refine (Template.fill_text (Template.fill_output hname (Template.fill_text
    (Template.fill_output hexpr (Template.fill_text Template.fill_nil))))).trans ?_
  simp only [Function.comp, assignmentLine, block_cons, block_nil, Value.written,
    String.append_assoc, String.append_empty]

end

/-! ## The parts of the standard template -/

/-- The header is written as a comment, or left out. -/
theorem fill_header (m : Module) :
    Template.fill m.context headerPieces = .ok (block m.headerLines) := by
  have hheader : (Template.Expression.variable "header").value m.context = .ok (.text m.header) :=
    rfl
  have hcomment : (Template.Expression.filter "line_comment" (.variable "header") []).value
      m.context = .ok (.text (Text.lineComment m.header "//")) := rfl
  have hrest : block m.headerLines = block m.headerLines ++ "" := String.append_empty.symm
  rw [hrest]
  apply Template.fill_whenever hheader _ Template.fill_nil
  rw [headerLines]
  by_cases hempty : m.header.isEmpty
  · rw [Value.isTrue, hempty]
    exact Template.fill_nil
  · have hlines : (Text.lines m.header).map (Text.commentLine "//") ≠ [] := by
      intro hnil
      apply Text.lines_ne_nil _ (List.map_eq_nil_iff.mp hnil)
      exact fun h => hempty (String.isEmpty_iff.mpr h)
    rw [Value.isTrue, Bool.eq_false_iff.mpr hempty]
    refine (Template.fill_output hcomment <| Template.fill_text Template.fill_nil).trans ?_
    -- The first line end of the text behind the comment is that of the last line of the comment.
    show _ = Except.ok (block (_ ++ [""]))
    rw [block_append, ← intercalate_newline hlines]
    simp only [Value.written, Text.lineComment, block_cons, block_nil, String.append_assoc,
      String.append_empty, String.empty_append]

/-- The text of the declaration. -/
theorem fill_declaration (m : Module) :
    Template.fill m.context declarationPieces = .ok (block m.declarationLines) := by
  have htype : m.context.lookup "type_name" = some (.text m.typeName) := rfl
  have hpath : m.context.lookup "module" = some (.text m.path) := rfl
  have hfast : m.context.lookup "fast_op" = some (.text m.names.fast) := rfl
  have hsafe : m.context.lookup "safe_op" = some (.text m.names.safe) := rfl
  refine Eq.trans (Template.fill_text <| fill_hole htype <| Template.fill_text <|
    fill_hole hpath <| Template.fill_text <| fill_hole hpath <| Template.fill_text <|
    fill_hole htype <| Template.fill_text <| fill_remark fastRemark <| Template.fill_text <|
    fill_methodHole hfast <| Template.fill_text <| fill_hole htype <| Template.fill_text <|
    fill_remark safeRemark <| Template.fill_text <| fill_methodHole hsafe <| Template.fill_text <|
    fill_hole htype <| Template.fill_text Template.fill_nil) ?_
  simp only [declarationLines, block_append, block_cons, block_nil, String.append_assoc,
    String.append_empty, String.empty_append]

/-- The text of a function up to the end of the assignments, and its ending. -/
theorem fill_function (m : Module) {operation method name : String}
    {members : List (String × String)} (parameter ending : String) (before : List String)
    (hname : m.context.lookup method = some (.text name))
    (hmembers : m.context.lookup operation = some (.list (members.map memberValue))) :
    Template.fill m.context (functionPieces operation method parameter before ending) =
      .ok (block (m.openingLines name parameter before ++ members.map assignmentLine) ++
        ending) := by
  have htype : m.context.lookup "type_name" = some (.text m.typeName) := rfl
  refine Eq.trans (fill_hole htype <| Template.fill_text <| fill_methodHole hname <|
    Template.fill_text <| fill_hole htype <| Template.fill_text <| fill_hole htype <|
    Template.fill_text <| fill_hole htype <| Template.fill_text <| fill_hole htype <|
    Template.fill_text <| fill_assigning hmembers <| Template.fill_text Template.fill_nil) ?_
  simp only [openingLines, block_append, block_cons, block_nil, String.append_assoc,
    String.append_empty]

/-- The text of a module, with the ends of all lines but the last. -/
theorem text_eq_block (m : Module) :
    m.text = block (m.headerLines ++ m.declarationLines ++
      m.functionLines m.names.fast "" m.fast [] [] ++ [""] ++
      m.openingLines m.names.safe ", referenceChain?: object[]" enteringLines ++
      m.safe.map assignmentLine ++ leavingLines ++ ["    return clone;"]) ++ "\x7d;" := by
  rw [text, ← intercalate_concat]
  simp only [functionLines, List.append_assoc, List.cons_append, List.nil_append]

/-- The text of a module by the standard template. -/
theorem fill_standard (m : Module) : m.fill standard = .ok m.text := by
  have hfast : m.context.lookup "fast_op" = some (.text m.names.fast) := rfl
  have hsafe : m.context.lookup "safe_op" = some (.text m.names.safe) := rfl
  have hfasts : m.context.lookup "fast" = some (.list (m.fast.map memberValue)) := rfl
  have hsafes : m.context.lookup "safe" = some (.list (m.safe.map memberValue)) := rfl
  have htext : Template.fill m.context standardPieces = .ok m.text := by
    have hdeclaration := Template.fill_append m.fill_header m.fill_declaration
    refine (Template.fill_append (Template.fill_append hdeclaration
      (m.fill_function _ _ _ hfast hfasts)) (m.fill_function _ _ _ hsafe hsafes)).trans ?_
    -- The texts of the parts, the last of which has no line end, are the same concatenation.
    rw [text_eq_block]
    simp only [functionLines, block_append, block_cons, block_nil, String.append_assoc,
      String.append_empty, String.empty_append]
  rw [fill, read_standard]
  show (Template.fill m.context standardPieces).mapError TemplateFault.gap = _
  rw [htext]
  rfl

/-- **A module is rendered as its text**, whatever its strings and members are. -/
theorem render_standard (m : Module) : m.render .typescript none = .ok m.text := by
  simp only [render, Target.templateName?, Option.getD_none]
  exact m.fill_standard

end TypeScript.Module

/-- **Every plan has a unit by the standard template**, the text of its module. -/
theorem Plan.typescript_none (p : Plan) (options : RenderOptions) :
    p.typescript options none = .ok (p.typescriptModule options).text := by
  simp only [typescript, TypeScript.Module.render, Target.templateName?, Option.getD_none]
  exact (p.typescriptModule options).fill_standard

end DeepCopy
