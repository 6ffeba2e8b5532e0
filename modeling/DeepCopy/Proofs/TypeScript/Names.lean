import DeepCopy.Proofs.Plan.Selection
import DeepCopy.Proofs.Render.Scope
import DeepCopy.Proofs.Text.Characters
import DeepCopy.Proofs.TypeScript.Layout

/-!
# Names that a module can have

A member is called by a name that C# has for identifiers, and a module writes it as it is: where it
is assigned, where it is read, and in front of the variables of its expression. ECMAScript has most
of these names for identifiers as well, but not those with the mark `@` in front, nor those with
format characters, other than the two that join letters, nor those with the one letter that Unicode
reserves for syntax.

## Main definitions

* `TypeScript.IsIdentifierName`: the names that ECMAScript has for identifiers
* `TypeScript.Expression.binders`: what binds variables in an expression
* `Assignment.typescript`: the expression that is assigned

## Main results

* `TypeScript.isIdentifierName_iff`: which C# identifiers are names of ECMAScript
* `Accessor.exists_variableAt_of_binders`: variables are made from the name of the member
* `members_legible`: which members of a module have such names
* `members_illegible`: a member that is accepted and has none
-/

namespace DeepCopy

open Text (formats otherStarts otherParts)

namespace TypeScript

/-- The letter that is reserved for syntax: VERTICAL TILDE. -/
def tilde : Char := '\u2E2F'

/-- The characters that names may start with. -/
def isNameStart (c : Char) : Bool :=
  c == '$' || c == '_' || (Text.isLetter c || otherStarts.has c) && c != tilde

/-- The characters that names may go on with. -/
def isNamePart (c : Char) : Bool :=
  isNameStart c || c.isDigit || Text.continuers.has c && !formats.has c || otherParts.has c

/-- The names that ECMAScript has for identifiers. -/
def IsIdentifierName (name : String) : Prop :=
  ∃ start rest, name.toList = start :: rest ∧ isNameStart start = true ∧
    ∀ c ∈ rest, isNamePart c = true

section Names

variable {c : Char} {name : String}

theorem isNamePart_of_isNameStart (hc : isNameStart c = true) : isNamePart c = true := by
  simp [isNamePart, hc]

theorem isNameStart_iff (hc : Text.isWordStart c = true) : isNameStart c = true ↔ c ≠ tilde := by
  rw [Text.isWordStart, Bool.or_eq_true, beq_iff_eq] at hc
  rcases hc with rfl | hc
  · decide
  · simp only [isNameStart, hc, Bool.true_or, Bool.true_and, Bool.or_eq_true, beq_iff_eq,
      bne_iff_ne]
    refine ⟨?_, .inr⟩
    rintro ((rfl | rfl) | h)
    · decide
    · decide
    · exact h

/-- No name starts with a format character. -/
theorem formats_of_isNameStart (hc : isNameStart c = true) : formats.has c = false := by
  simp only [isNameStart, Bool.or_eq_true, Bool.and_eq_true, beq_iff_eq] at hc
  rcases hc with (rfl | rfl) | ⟨hc | hc, -⟩
  · decide
  · decide
  · rw [Text.isLetter] at hc
    split_ifs at hc with hascii
    · exact Text.formats_of_lt hascii
    · exact Text.CharSet.has_eq_false_of_isApart Text.isApart_letters_formats hc
  · exact Text.CharSet.has_eq_false_of_isApart Text.isApart_otherStarts_formats hc

theorem isNamePart_tilde : isNamePart tilde = false := by decide +kernel

theorem formats_of_isDigit (hc : c.isDigit = true) : formats.has c = false := by
  refine Text.formats_of_lt ?_
  simp only [Char.isDigit, Bool.and_eq_true, decide_eq_true_eq, UInt32.le_iff_toNat_le] at hc
  exact Nat.lt_of_le_of_lt hc.2 (by decide)

/-- **Of the characters that continue words, names go on with all but the letter that is reserved
for syntax and the format characters that are no joiners.** -/
theorem isNamePart_iff (hc : Text.isWordPart c = true) :
    isNamePart c = true ↔ c ≠ tilde ∧ (formats.has c = true → c = '\u200C' ∨ c = '\u200D') := by
  constructor
  · intro h
    refine ⟨fun heq => ?_, fun hformat => ?_⟩
    · rw [heq, isNamePart_tilde] at h
      cases h
    · simp only [isNamePart, Bool.or_eq_true, Bool.and_eq_true, hformat, Bool.not_true] at h
      rcases h with ((h | h) | ⟨-, h⟩) | h
      · rw [formats_of_isNameStart h] at hformat
        cases hformat
      · rw [formats_of_isDigit h] at hformat
        cases hformat
      · cases h
      · exact Text.eq_joiner_of_has hformat h
  · rintro ⟨htilde, hformat⟩
    rw [Text.isWordPart, Bool.or_eq_true] at hc
    rcases hc with hc | hc
    · exact isNamePart_of_isNameStart ((isNameStart_iff hc).mpr htilde)
    split_ifs at hc with hascii
    · simp [isNamePart, hc]
    · by_cases hjoiner : formats.has c = true
      · rcases hformat hjoiner with rfl | rfl <;> decide +kernel
      · simp [isNamePart, hc, hjoiner]

theorem isIdentifierName_of_toList {start : Char} {rest : List Char}
    (hlist : name.toList = start :: rest) : IsIdentifierName name ↔
      isNameStart start = true ∧ ∀ c ∈ rest, isNamePart c = true := by
  constructor
  · rintro ⟨start', rest', hlist', hname⟩
    rw [hlist] at hlist'
    cases hlist'
    exact hname
  · exact fun hname => ⟨start, rest, hlist, hname⟩

instance (name : String) : Decidable (IsIdentifierName name) :=
  match hlist : name.toList with
  | [] => isFalse fun ⟨_, _, hcons, _⟩ => List.cons_ne_nil _ _ (hcons.symm.trans hlist)
  | start :: rest =>
    decidable_of_iff ((isNameStart start && rest.all isNamePart) = true) (by
      rw [isIdentifierName_of_toList hlist, Bool.and_eq_true, List.all_eq_true])

/-- **The C# identifiers that ECMAScript has as well** are those without the mark in front, without
the letter that is reserved for syntax and without format characters that are no joiners. -/
theorem isIdentifierName_iff (hname : Text.IsIdentifier name) :
    IsIdentifierName name ↔ name.toList.head? ≠ some '@' ∧
      ∀ c ∈ name.toList, c ≠ tilde ∧ (formats.has c = true → c = '\u200C' ∨ c = '\u200D') := by
  obtain ⟨mark, start, rest, hlist, hmark, hstart, hrest⟩ := hname
  rcases hmark with rfl | rfl
  · rw [List.nil_append] at hlist
    have hfirst : isNamePart start = true ↔ isNameStart start = true :=
      ⟨fun h => (isNameStart_iff hstart).mpr
        ((isNamePart_iff (Text.isWordPart_of_isWordStart hstart)).mp h).1,
        isNamePart_of_isNameStart⟩
    have hunmarked : name.toList.head? ≠ some '@' := by
      rw [hlist, List.head?_cons]
      rintro ⟨⟩
      exact absurd hstart (by decide)
    rw [isIdentifierName_of_toList hlist, and_iff_right hunmarked, hlist, List.forall_mem_cons,
      ← hfirst, isNamePart_iff (Text.isWordPart_of_isWordStart hstart)]
    exact and_congr_right fun _ => forall₂_congr fun c hc => isNamePart_iff (hrest c hc)
  · rw [List.singleton_append] at hlist
    rw [isIdentifierName_of_toList hlist, hlist]
    exact iff_of_false (fun h => absurd h.1 (by decide)) fun h => h.1 rfl

/-- What is appended to a name keeps it a name, and makes it none. -/
theorem isIdentifierName_append {more : String} (hne : name ≠ "")
    (hmore : ∀ c ∈ more.toList, isNamePart c = true) :
    IsIdentifierName (name ++ more) ↔ IsIdentifierName name := by
  obtain ⟨start, rest, hlist⟩ := List.exists_cons_of_ne_nil (mt String.toList_eq_nil_iff.mp hne)
  have happend : (name ++ more).toList = start :: (rest ++ more.toList) := by
    rw [String.toList_append, hlist, List.cons_append]
  rw [isIdentifierName_of_toList hlist, isIdentifierName_of_toList happend, List.forall_mem_append]
  exact and_congr_right fun _ => and_iff_left hmore

/-- **A variable has such a name where the name that it is made from is one.** -/
theorem isIdentifierName_variableAt (hne : name ≠ "") (depth : Nat) (part : Part) :
    IsIdentifierName (variableAt name depth part) ↔ IsIdentifierName name := by
  have hmore : variableAt name depth part =
      name ++ String.ofList (List.replicate depth 'x' ++ part.ending.toList) := by
    rw [← String.toList_inj, toList_variableAt, String.toList_append, String.toList_ofList]
  rw [hmore]
  refine isIdentifierName_append hne ?_
  rw [String.toList_ofList, List.forall_mem_append]
  constructor
  · intro c hc
    rw [List.eq_of_mem_replicate hc]
    decide
  · have hall : part.ending.toList.all isNamePart = true := by
      cases part <;> decide
    exact List.all_eq_true.mp hall

end Names

/-! ## Binders -/

/-- What binds variables in an expression, from left to right. -/
def Expression.binders : Expression → List Binder
  | .read _ | .call _ _ _ => []
  | .unlessNull _ body => body.binders
  | .map _ _ x body | .elements _ x body => .lambda x :: body.binders
  | .generate _ x body => .loop x :: body.binders
  | .entries _ k v key value => .entry k v :: (key.binders ++ value.binders)
  | .construct _ argument => argument.binders

end TypeScript

open TypeScript (Expression Module Receiver IsIdentifierName tilde)
open TypeScript.Module (assignmentLine block block_append block_cons)

namespace Accessor

/-- **The variables of an expression are made from the name of its member**: by induction on the
accessor, for every level. -/
theorem exists_variableAt_of_binders (a : Accessor) (r : Receiver) (name : String) (depth : Nat)
    (test : Bool) : ∀ b ∈ (a.typescript r (variableAt name depth .element) test).binders,
      ∀ x ∈ b.variables, ∃ level part, x = variableAt name (level + 1) part := by
  induction a generalizing r depth test with
  | copy | passOn | call nullable op => exact List.forall_mem_nil _
  | guarded inner ih =>
    rw [typescript]
    split_ifs
    · exact ih r depth true
    · exact ih r depth false
  | array element ih | project element ih =>
    simp only [typescript, lambdaVariable_variableAt]
    refine List.forall_mem_cons.mpr ⟨?_, ih _ _ _⟩
    exact List.forall_mem_singleton.mpr ⟨depth, .element, rfl⟩
  | sequence container element strategy ih =>
    simp only [typescript, lambdaVariable_variableAt]
    split_ifs
    · exact List.forall_mem_nil _
    · refine List.forall_mem_cons.mpr ⟨?_, ih _ _ _⟩
      exact List.forall_mem_singleton.mpr ⟨depth, .element, rfl⟩
  | map container keyType valueType key value strategy ihk ihv =>
    simp only [typescript, lambdaVariable_variableAt, variableAt_append_key,
      variableAt_append_value]
    split_ifs
    · exact List.forall_mem_nil _
    · refine List.forall_mem_cons.mpr ⟨?_, List.forall_mem_append.mpr ⟨ihk _ _ _, ihv _ _ _⟩⟩
      exact List.forall_mem_cons.mpr ⟨⟨depth, .key, rfl⟩,
        List.forall_mem_singleton.mpr ⟨depth, .value, rfl⟩⟩

end Accessor

/-! ## Assignments -/

/-- The expression that is assigned. -/
def Assignment.typescript : Assignment → Expression
  | .cloned m => m.accessor.typescript (.member m.name) m.name false
  | .kept name => .read (.member name)

/-- **The variables of an assignment's expression** are made from the name of the member. -/
theorem Assignment.exists_variableAt (a : Assignment) : ∀ b ∈ a.typescript.binders,
    ∀ x ∈ b.variables, ∃ level part, x = variableAt a.name (level + 1) part := by
  cases a with
  | cloned m =>
    have hall := m.accessor.exists_variableAt_of_binders (.member m.name) m.name 0 false
    rwa [variableAt_element, Function.iterate_zero_apply] at hall
  | kept name => exact List.forall_mem_nil _

/-- **An assignment's expression reads the member that is assigned** and no other one. -/
theorem Assignment.eq_name_of_mem_mentions (a : Assignment) {scope : List Binder} {member : String}
    (h : (scope, .this member) ∈ a.typescript.mentions []) : member = a.name := by
  cases a with
  | cloned m =>
    have hroot : (Mention.this m.name).Refers m.name (m.accessor.types.map TypeScript.bareName)
        (scopeOf m.name []) := ⟨rfl, rfl⟩
    have hall := m.accessor.typescript_hygienic (List.Subset.refl _) (r := .member m.name) hroot
      false
    rw [List.length_nil, variableAt_element, Function.iterate_zero_apply] at hall
    rcases hall _ h with hhygienic | hcaptured
    · exact hhygienic.refers.1
    · obtain ⟨t, -, heq, -⟩ := hcaptured.hidden
      cases heq
  | kept name =>
    cases List.mem_singleton.mp h
    rfl

namespace Plan

variable {p : Plan} {op : Operation} {a : Assignment}

theorem typescriptMembers_eq (p : Plan) (op : Operation) : p.typescriptMembers op =
    (p.assignments op).map fun a => (a.name, a.typescript.text p.names) :=
  List.map_congr_left fun a _ => by cases a <;> rfl

/-- **Every assignment has a line in the unit of a plan.** -/
theorem exists_assignmentLine (ha : a ∈ p.assignments op) (options : RenderOptions) :
    ∃ before after, p.typescript options none = .ok (before ++
      (assignmentLine (a.name, a.typescript.text p.names) ++ "\n" ++ after)) := by
  have hmember : (a.name, a.typescript.text p.names) ∈ p.typescriptMembers op := by
    rw [typescriptMembers_eq]
    exact List.mem_map_of_mem ha
  have hline := List.mem_map_of_mem (f := assignmentLine) hmember
  rw [typescript_none, Module.text_eq_block]
  generalize hlines : _ ++ ["    return clone;"] = lines
  obtain ⟨front, behind, heq⟩ : ∃ front behind, lines =
      front ++ assignmentLine (a.name, a.typescript.text p.names) :: behind := by
    refine List.append_of_mem ?_
    rw [← hlines]
    cases op with
    | fast =>
      have hfast : (p.typescriptModule options).fast = p.typescriptMembers .fast := rfl
      simp only [Module.functionLines, hfast, List.mem_append, hline, true_or, or_true]
    | safe =>
      have hsafe : (p.typescriptModule options).safe = p.typescriptMembers .safe := rfl
      simp only [hsafe, List.mem_append, hline, true_or, or_true]
  refine ⟨block front, block behind ++ "\x7d;", ?_⟩
  rw [heq, block_append, block_cons]
  simp only [String.append_assoc]

end Plan

/-- **The members of a module have legal names where C# and ECMAScript agree.** Every member that is
assigned has a line in the unit, where its name stands behind `clone.` and, as the only one, behind
`this.`. The name, which is an identifier of C#, is one of ECMAScript exactly where it has no mark
in front, not the letter that is reserved for syntax and no format characters but joiners; and the
variables of the expression have such names exactly where the member has. -/
theorem members_legible {settings : CompileSettings} {d : Descriptor} {p : Plan}
    (hp : compile settings d = .ok p) {op : Operation} {a : Assignment}
    (ha : a ∈ p.assignments op) :
    (∀ options, ∃ before after, p.typescript options none = .ok (before ++
      ("    clone." ++ a.name ++ " = " ++ a.typescript.text p.names ++ ";" ++ "\n" ++ after))) ∧
    (∀ scope member, (scope, .this member) ∈ a.typescript.mentions [] → member = a.name) ∧
    (IsIdentifierName a.name ↔ a.name.toList.head? ≠ some '@' ∧ ∀ c ∈ a.name.toList,
      c ≠ tilde ∧ (formats.has c = true → c = '\u200C' ∨ c = '\u200D')) ∧
    ∀ b ∈ a.typescript.binders, ∀ x ∈ b.variables,
      (IsIdentifierName x ↔ IsIdentifierName a.name) := by
  have hname := Plan.isIdentifier_of_mem_assignments hp ha
  have hne : a.name ≠ "" := by
    intro hempty
    obtain ⟨mark, start, rest, hlist, -⟩ := hname
    rw [hempty] at hlist
    simp at hlist
  refine ⟨Plan.exists_assignmentLine ha, fun _ _ => a.eq_name_of_mem_mentions,
    TypeScript.isIdentifierName_iff hname, fun b hb x hx => ?_⟩
  obtain ⟨level, part, rfl⟩ := a.exists_variableAt b hb x hx
  exact TypeScript.isIdentifierName_variableAt hne _ part

/-- A type with one member, an array of items, by some name. -/
def crate (name : String) : Descriptor where
  name := "Crate"
  members := [{ name := name, type := .arrayOf (.marked "Item") }]

/-- A crate that is accepted is compiled to one assignment. -/
theorem compile_crate (name : String) (hname : (crate name).flaws = []) :
    ∃ p, compile {} (crate name) = .ok p ∧ p.names = {} ∧
      p.assignments .fast = [.cloned ⟨name, .array (.call false .fast)⟩] := by
  rw [compile, hname]
  exact ⟨_, rfl, rfl, rfl⟩

/-- Tags, and the variable that is made from their name, are legal. -/
theorem members_legible_tags : ∃ p a, compile {} (crate "Tags") = .ok p ∧
    a ∈ p.assignments .fast ∧ a.name = "Tags" ∧ IsIdentifierName "Tags" ∧
      .lambda "Tagsx" ∈ a.typescript.binders ∧ IsIdentifierName "Tagsx" := by
  obtain ⟨p, hp, -, hassignments⟩ := compile_crate "Tags" (by decide +kernel)
  have ha : .cloned ⟨"Tags", .array (.call false .fast)⟩ ∈ p.assignments .fast := by
    rw [hassignments]
    exact List.mem_singleton_self _
  obtain ⟨-, -, -, hvariables⟩ := members_legible hp ha
  have hname : IsIdentifierName "Tags" := by
    decide +kernel
  have hbinder : Binder.lambda "Tagsx" ∈
      (Assignment.cloned ⟨"Tags", .array (.call false .fast)⟩).typescript.binders :=
    List.mem_singleton_self _
  exact ⟨p, _, hp, ha, rfl, hname, hbinder,
    (hvariables _ hbinder "Tagsx" (List.mem_singleton_self _)).mpr hname⟩

/-- **A member that C# has to mark is illegal in TypeScript**, and so is the variable that is made
from its name; and so is a member with a format character in its name, which need not show. -/
theorem members_illegible :
    (∃ p a, compile {} (crate "@class") = .ok p ∧ a ∈ p.assignments .fast ∧ a.name = "@class" ∧
      a.typescript.text p.names = "this.@class.map((@classx) => @classx.clone())" ∧
      .lambda "@classx" ∈ a.typescript.binders ∧
      ¬ IsIdentifierName "@class" ∧ ¬ IsIdentifierName "@classx") ∧
    ∃ p a, compile {} (crate "a\u00ADb") = .ok p ∧ a ∈ p.assignments .fast ∧
      a.name = "a\u00ADb" ∧ ¬ IsIdentifierName "a\u00ADb" := by
  obtain ⟨p, hp, hnames, hassignments⟩ := compile_crate "@class" (by decide +kernel)
  obtain ⟨q, hq, -, hassignments'⟩ := compile_crate "a\u00ADb" (by decide +kernel)
  refine ⟨⟨p, _, hp, hassignments ▸ List.mem_singleton_self _, rfl, ?_, List.mem_singleton_self _,
    ?_, ?_⟩, q, _, hq, hassignments' ▸ List.mem_singleton_self _, rfl, ?_⟩
  · rw [hnames]
    decide +kernel
  all_goals decide +kernel

end DeepCopy
