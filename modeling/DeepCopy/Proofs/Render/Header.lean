import DeepCopy.Proofs.TypeScript.Layout
import DeepCopy.Render.Unit
import Mathlib.Data.List.Basic

/-!
# Headers in comments

A unit may begin with a header that says where it comes from. In C# every entry of the header
becomes one comment, and in TypeScript every line of the text that the entries make. The names in
the entries are not restricted, so an entry may have several lines: then the TypeScript header is in
comments all the same, and of the C# header what comes behind the first line of an entry is not.

Where a line ends is a question of the language, and the statements are for every kind of
characters that may end one.

## Main definitions

* `Text.linesBy`, `Text.IsRemark`: the lines of a text, and those that are no code
* `Text.EndsLines`: a kind of characters may end lines
* `Plan.remarks`, `Plan.headerLines`: what is put into comments, and the lines of the header

## Main results

* `Text.forall_linesBy_block`: the lines of lines with their ends
* `Text.forall_linesBy_commentLine`: of a comment only what is behind its first line can be code
* `Plan.exists_content`: a unit is its header and the unit without a header
* `header_commented`: when the header is in comments
* `header_uncommented`: names that make parts of the header code
-/

namespace DeepCopy

open TypeScript (Module)
open TypeScript.Module (block block_append block_cons block_nil)

/-! ## Lines of some kind -/

namespace Text

/-- The lines of a text, which end where a character is of some kind. -/
def linesBy (ends : Char → Bool) (text : String) : List (List Char) := text.toList.splitOnP ends

/-- A line that is blank or a comment. -/
def IsRemark (line : List Char) : Prop := line = [] ∨ ['/', '/'] <+: line

instance (line : List Char) : Decidable (IsRemark line) :=
  inferInstanceAs (Decidable (line = [] ∨ ['/', '/'] <+: line))

/-- Lines may end at characters of a kind: line feeds are of it, and what a comment begins with is
not. -/
structure EndsLines (ends : Char → Bool) : Prop where
  newline : ends '\n' = true
  slash : ends '/' = false
  blank : ends ' ' = false

section

variable {ends : Char → Bool}

/-- What no line ends in goes on in the first line of what follows. -/
theorem splitOnP_append_of_forall {cs : List Char} (hcs : ∀ c ∈ cs, ends c = false)
    (ds : List Char) :
    (cs ++ ds).splitOnP ends = (ds.splitOnP ends).modifyHead (cs ++ ·) := by
  induction cs with
  | nil => cases h : ds.splitOnP ends <;> simp [h]
  | cons c cs ih =>
    rw [List.forall_mem_cons] at hcs
    rw [List.cons_append, List.splitOnP_cons_eq_if_modifyHead, hcs.1, ih hcs.2,
      if_neg Bool.false_ne_true]
    cases ds.splitOnP ends <;> rfl

/-- The lines of lines with their ends: those of each, and a blank one. -/
theorem linesBy_block (hends : EndsLines ends) (ls : List String) :
    linesBy ends (block ls) = ls.flatMap (linesBy ends) ++ [[]] := by
  induction ls with
  | nil => rfl
  | cons l ls ih =>
    have hlist : (block (l :: ls)).toList = l.toList ++ '\n' :: (block ls).toList := by
      simp [block_cons]
    rw [linesBy, hlist, List.splitOnP_append_cons _ _ hends.newline, List.flatMap_cons,
      List.append_assoc, ← ih, linesBy, linesBy]

theorem forall_linesBy_block (hends : EndsLines ends) (ls : List String) :
    (∀ line ∈ linesBy ends (block ls), IsRemark line) ↔
      ∀ l ∈ ls, ∀ line ∈ linesBy ends l, IsRemark line := by
  rw [linesBy_block hends, List.forall_mem_append, List.forall_mem_flatMap]
  exact and_iff_left (List.forall_mem_singleton.mpr (.inl rfl))

/-- **Of a comment only what is behind its first line can be code.** -/
theorem forall_linesBy_commentLine (hends : EndsLines ends) (s : String) :
    (∀ line ∈ linesBy ends (commentLine "//" s), IsRemark line) ↔
      ∀ line ∈ (linesBy ends s).tail, IsRemark line := by
  rw [commentLine]
  split
  · next hempty =>
    have hmark : linesBy ends "//" = [['/', '/']] :=
      List.splitOnP_eq_singleton (by simp [hends.slash])
    rw [hmark, String.isEmpty_iff.mp hempty]
    exact iff_of_true (List.forall_mem_singleton.mpr (.inr (List.prefix_refl _)))
      (by simp [linesBy])
  · have hmark : ∀ c ∈ ['/', '/', ' '], ends c = false := by simp [hends.slash, hends.blank]
    have hlist : ("//" ++ " " ++ s).toList = ['/', '/', ' '] ++ s.toList := by simp
    rw [linesBy, hlist, splitOnP_append_of_forall hmark, linesBy]
    cases hlines : s.toList.splitOnP ends with
    | nil => exact absurd hlines (List.splitOnP_ne_nil _ _)
    | cons first rest =>
      rw [List.modifyHead_cons, List.forall_mem_cons, List.tail_cons]
      exact and_iff_right (.inr ⟨' ' :: first, rfl⟩)

/-- A line has one line. -/
theorem linesBy_of_notMem {text : String} (h : '\n' ∉ text.toList) :
    linesBy (· = '\n') text = [text.toList] :=
  List.splitOnP_eq_singleton fun _ hc => decide_eq_false fun heq => h (heq ▸ hc)

end

end Text

/-- The characters that end a line of a target, and so a comment. -/
def Target.endsLine : Target → Char → Bool
  | .csharp, c => ['\n', '\r', '\u0085', '\u2028', '\u2029'].contains c
  | .typescript, c => ['\n', '\r', '\u2028', '\u2029'].contains c

theorem Target.endsLines_endsLine (target : Target) : Text.EndsLines target.endsLine := by
  cases target <;> exact ⟨by decide, by decide, by decide⟩

theorem Text.endsLines_newline : Text.EndsLines (· = '\n') := ⟨by decide, by decide, by decide⟩

/-! ## Headers -/

/-- The options without a header. -/
def RenderOptions.plain (options : RenderOptions) : RenderOptions :=
  { options with provenance := false }

/-- The line that a unit begins with behind its header. -/
def Plan.mark : String := "// <auto-generated/>"

namespace Plan

variable (p : Plan) (options : RenderOptions)

/-- What is put into comments: in C# the entries of the header, in TypeScript the lines of the text
that they make. -/
def remarks : Target → List String
  | .csharp => p.provenance options
  | .typescript => Text.lines ("\n".intercalate (p.provenance options))

/-- The lines of the header: every remark as a comment, and a blank line behind them. -/
def headerLines (target : Target) : List String :=
  if (p.remarks options target).isEmpty then []
  else (p.remarks options target).map (Text.commentLine "//") ++ [""]

/-- No entry of the header is blank. -/
theorem ne_empty_of_mem_provenance {s : String} (hs : s ∈ p.provenance options) : s ≠ "" := by
  have happend {front back : String} (hfront : front ≠ "") : front ++ back ≠ "" := by
    simp [String.append_eq_empty_iff, hfront]
  rw [provenance] at hs
  split_ifs at hs
  · simp only [List.mem_append, List.mem_cons, List.mem_map, List.not_mem_nil, or_false] at hs
    rcases hs with ((rfl | rfl) | ⟨time, -, rfl⟩) | rfl
    · exact happend (by decide)
    · exact happend (by decide)
    · exact happend (by decide)
    · decide
  · cases hs

/-- An entry of the header is a comment behind the mark of comments and a blank. -/
theorem map_provenance :
    (p.provenance options).map (Text.commentLine "//") =
      (p.provenance options).map ("// " ++ ·) := by
  refine List.map_congr_left fun s hs => ?_
  rw [Text.commentLine, if_neg (mt String.isEmpty_iff.mp (p.ne_empty_of_mem_provenance options hs))]
  rfl

/-- A C# unit is its header, the mark, and what does not depend on the header. -/
theorem exists_csharp_header : ∃ rest,
    p.csharp options = block (p.headerLines options .csharp) ++ (mark ++ "\n" ++ rest) ∧
    p.csharp options.plain = mark ++ "\n" ++ rest := by
  obtain ⟨rest, hlines, hplain⟩ : ∃ rest,
      p.csharpLines options = p.headerLines options .csharp ++ mark :: rest ∧
        p.csharpLines options.plain = mark :: rest := by
    refine ⟨(p.csharpLines options.plain).tail, ?_, rfl⟩
    simp only [csharpLines, headerLines, remarks, map_provenance, List.isEmpty_map,
      List.append_assoc]
    rfl
  refine ⟨block rest, ?_, ?_⟩
  · exact (congrArg block hlines).trans (by rw [block_append, block_cons])
  · exact (congrArg block hplain).trans (block_cons _ _)

theorem headerLines_typescriptModule :
    (p.typescriptModule options).headerLines = p.headerLines options .typescript := by
  have hempty : (p.typescriptModule options).header.isEmpty =
      (p.remarks options .typescript).isEmpty := by
    rw [Bool.eq_iff_iff, String.isEmpty_iff, List.isEmpty_iff]
    exact ⟨fun h => congrArg Text.lines h, not_imp_not.mp Text.lines_ne_nil⟩
  rw [Module.headerLines, hempty]
  rfl

/-- A TypeScript unit is its header, the mark, and what does not depend on the header. -/
theorem exists_typescript_header : ∃ rest,
    p.typescript options none =
      .ok (block (p.headerLines options .typescript) ++ (mark ++ "\n" ++ rest)) ∧
    p.typescript options.plain none = .ok (mark ++ "\n" ++ rest) := by
  have hplain : (p.typescriptModule options.plain).headerLines = [] := rfl
  obtain ⟨ls, hls⟩ : ∃ ls,
      (p.typescriptModule options.plain).text = block (mark :: ls) ++ "\x7d;" := by
    rw [Module.text_eq_block, hplain]
    exact ⟨_, rfl⟩
  have hlines : (p.typescriptModule options).text =
      block (p.headerLines options .typescript) ++ (p.typescriptModule options.plain).text := by
    rw [Module.text_eq_block, Module.text_eq_block, headerLines_typescriptModule, hplain]
    simp only [List.nil_append, List.append_assoc, block_append, String.append_assoc]
    rfl
  refine ⟨block ls ++ "\x7d;", ?_, ?_⟩
  · rw [typescript_none, hlines, hls, block_cons, String.append_assoc]
  · rw [typescript_none, hls, block_cons, String.append_assoc]

/-- **A unit is its header and the unit without a header**, which begins with the mark. -/
theorem exists_content (target : Target) (template : Option String)
    (htemplate : target = .typescript → template = none) : ∃ rest,
    p.content target options template =
      .ok (block (p.headerLines options target) ++ (mark ++ "\n" ++ rest)) ∧
    p.content target options.plain template = .ok (mark ++ "\n" ++ rest) := by
  cases target with
  | csharp =>
    obtain ⟨rest, hunit, hplain⟩ := p.exists_csharp_header options
    exact ⟨rest, congrArg Except.ok hunit, congrArg Except.ok hplain⟩
  | typescript =>
    rw [htemplate rfl]
    exact p.exists_typescript_header options

section

variable {p options}

/-- **The header is in comments where no remark has code behind its first line**, and only there. -/
theorem forall_linesBy_header_iff {ends : Char → Bool} (hends : Text.EndsLines ends)
    (target : Target) :
    (∀ line ∈ Text.linesBy ends (block (p.headerLines options target)), Text.IsRemark line) ↔
      ∀ s ∈ p.remarks options target, ∀ line ∈ (Text.linesBy ends s).tail, Text.IsRemark line := by
  have hblank : ∀ l ∈ [""], ∀ line ∈ Text.linesBy ends l, Text.IsRemark line :=
    List.forall_mem_singleton.mpr (List.forall_mem_singleton.mpr (.inl rfl))
  rw [Text.forall_linesBy_block hends, headerLines]
  split
  · next hempty =>
    rw [List.isEmpty_iff.mp hempty]
    exact iff_of_true (List.forall_mem_nil _) (List.forall_mem_nil _)
  · rw [List.forall_mem_append, and_iff_left hblank, List.forall_mem_map]
    exact forall₂_congr fun s _ => Text.forall_linesBy_commentLine hends s

/-- What is put into comments in TypeScript are lines. -/
theorem newline_notMem_remarks {s : String} (hs : s ∈ p.remarks options .typescript) :
    '\n' ∉ s.toList := by
  obtain ⟨l, hl, rfl⟩ := List.mem_map.mp hs
  rw [String.toList_ofList]
  exact Text.linesFrom_ne_newline [] _ List.not_mem_nil l hl

end

end Plan

/-- **The header stays in comments** as far as its entries let it. A unit, but for TypeScript units
by another template, is its header and the unit without a header, which begins with the mark. For
every kind of characters that end lines, the lines of the header are blank or comments exactly where
no remark has code behind its first line. In TypeScript, where the remarks are lines themselves,
this is so whatever the names are, as long as lines end with line feeds; in C#, where they are the
entries, it is so where the names allow it. -/
theorem header_commented (p : Plan) (target : Target) (options : RenderOptions)
    (template : Option String) (htemplate : target = .typescript → template = none) :
    ∃ header body, p.content target options template = .ok (header ++ body) ∧
      p.content target options.plain template = .ok body ∧
      (∃ rest, body = Plan.mark ++ "\n" ++ rest) ∧
      (∀ ends, Text.EndsLines ends →
        ((∀ line ∈ Text.linesBy ends header, Text.IsRemark line) ↔
          ∀ s ∈ p.remarks options target, ∀ line ∈ (Text.linesBy ends s).tail,
            Text.IsRemark line)) ∧
      (target = .typescript → ∀ line ∈ Text.linesBy (· = '\n') header, Text.IsRemark line) := by
  obtain ⟨rest, hunit, hplain⟩ := p.exists_content options target template htemplate
  refine ⟨_, _, hunit, hplain, ⟨rest, rfl⟩,
    fun ends hends => Plan.forall_linesBy_header_iff hends target, ?_⟩
  rintro rfl
  refine (Plan.forall_linesBy_header_iff Text.endsLines_newline .typescript).mpr fun s hs => ?_
  -- A line has nothing behind its first line.
  rw [Text.linesBy_of_notMem (Plan.newline_notMem_remarks hs)]
  exact List.forall_mem_nil _

/-- A plan without members, of a type that goes by some name. -/
def namedPlan (name : String) : Plan where
  typeName := "X"
  fqn := name
  namespaceName := ""
  visibility := .exported
  names := {}
  fast := []
  safe := []
  kept := []
  descriptorDigest := ""

/-- A name of two lines is two comments in TypeScript. In C# it is one, which is whole because its
second line is a comment itself. -/
theorem header_commented_namedPlan :
    (∃ header body, (namedPlan "A\nB").content .typescript {} none = .ok (header ++ body) ∧
      ∀ line ∈ Text.linesBy (· = '\n') header, Text.IsRemark line) ∧
    ∃ header body, (namedPlan "A\n//B").content .csharp {} none = .ok (header ++ body) ∧
      ∀ line ∈ Text.linesBy Target.csharp.endsLine header, Text.IsRemark line := by
  constructor
  · obtain ⟨header, body, hunit, -, -, -, hheader⟩ :=
      header_commented (namedPlan "A\nB") .typescript {} none fun _ => rfl
    exact ⟨header, body, hunit, hheader rfl⟩
  · obtain ⟨header, body, hunit, -, -, hheader, -⟩ :=
      header_commented (namedPlan "A\n//B") .csharp {} none fun _ => rfl
    exact ⟨header, body, hunit,
      (hheader _ (Target.endsLines_endsLine .csharp)).mpr (by decide +kernel)⟩

/-- **A name of two lines is code in part**: in C# its second line, and in TypeScript what stands
behind a line separator that is no line feed. -/
theorem header_uncommented :
    (∃ header body, (namedPlan "A\nB").content .csharp {} none = .ok (header ++ body) ∧
      (namedPlan "A\nB").content .csharp ({} : RenderOptions).plain none = .ok body ∧
      ['B'] ∈ Text.linesBy (· = '\n') header) ∧
    (∃ header body, (namedPlan "A\u2028B").content .typescript {} none = .ok (header ++ body) ∧
      (namedPlan "A\u2028B").content .typescript ({} : RenderOptions).plain none = .ok body ∧
      ['B'] ∈ Text.linesBy Target.typescript.endsLine header) ∧
    ¬ Text.IsRemark ['B'] := by
  obtain ⟨_, hcsharp, hplain⟩ := (namedPlan "A\nB").exists_content {} .csharp none fun _ => rfl
  obtain ⟨_, htypescript, hplain'⟩ :=
    (namedPlan "A\u2028B").exists_content {} .typescript none fun _ => rfl
  exact ⟨⟨_, _, hcsharp, hplain, by decide +kernel⟩,
    ⟨_, _, htypescript, hplain', by decide +kernel⟩, by decide⟩

end DeepCopy
