import DeepCopy.CSharp.Unit
import DeepCopy.Proofs.Plan.Selection
import DeepCopy.Proofs.Text.Characters
import DeepCopy.Proofs.TypeScript.Layout

/-!
# The members that an initializer assigns

A clone operation of a class is an object initializer with a line for every member. C# takes some
identifiers for one name: a mark `@` in front only lets keywords be names, and format characters do
not count. A descriptor is checked for names that are spelled alike, so an initializer may still
assign one member in two spellings.

## Main definitions

* `CSharp.nameOf`: the name that an identifier is in C#
* `Plan.initializerLines`: the lines of an initializer in its operation
* `Plan.csharpNames`: the names that an initializer assigns

## Main results

* `CSharp.nameOf_eq_iff`: the spellings of a name
* `CSharp.nodup_map_nameOf_iff`: when identifiers are distinct names
* `Plan.exists_initializer`: the initializer of an operation is in the unit
* `initializer_unambiguous`: where an initializer assigns every member once
* `initializer_ambiguous`: members that are accepted, and assigned twice
-/

namespace DeepCopy

open Text (formats IsIdentifier)
open TypeScript.Module (block block_append)

namespace CSharp

/-! ## Names and their spellings -/

/-- The characters of an identifier without the mark in front, if it has one. -/
def unmarked : List Char → List Char
  | [] => []
  | c :: cs => if c = '@' then cs else c :: cs

/-- The name that an identifier is: the mark in front and format characters do not count. -/
def nameOf (identifier : String) : String :=
  String.ofList ((unmarked identifier.toList).filter fun c => !formats.has c)

/-- An identifier without format characters. -/
def IsPlain (identifier : String) : Prop := ∀ c ∈ identifier.toList, formats.has c = false

instance (identifier : String) : Decidable (IsPlain identifier) :=
  List.decidableBAll (formats.has · = false) identifier.toList

/-- A text with the mark in front. -/
def IsMarked (identifier : String) : Prop := identifier.toList.head? = some '@'

instance (identifier : String) : Decidable (IsMarked identifier) :=
  inferInstanceAs (Decidable (_ = _))

section Names

variable {identifier name : String} {identifiers : List String}

theorem toList_nameOf (identifier : String) : (nameOf identifier).toList =
    (unmarked identifier.toList).filter fun c => !formats.has c := String.toList_ofList

theorem ne_at_of_isWordStart {c : Char} (hc : Text.isWordStart c = true) : c ≠ '@' := by
  rintro rfl
  exact absurd hc (by decide)

/-- The characters of a plain identifier behind the mark are its name. -/
theorem toList_nameOf_of_isPlain (hplain : IsPlain identifier) :
    (nameOf identifier).toList = unmarked identifier.toList := by
  rw [toList_nameOf, List.filter_eq_self]
  intro c hc
  have hmem : c ∈ identifier.toList := by
    revert hc
    rcases identifier.toList with _ | ⟨b, bs⟩
    · exact id
    · rw [unmarked]
      split_ifs
      · exact List.mem_cons_of_mem b
      · exact id
  rw [hplain c hmem]
  rfl

/-- A plain identifier is its name, with the mark in front or without it; and its name has no mark
in front. -/
theorem eq_or_eq_of_isPlain (hidentifier : IsIdentifier identifier) (hplain : IsPlain identifier) :
    (identifier = nameOf identifier ∨ identifier = "@" ++ nameOf identifier) ∧
      ¬ IsMarked (nameOf identifier) := by
  have hname := toList_nameOf_of_isPlain hplain
  obtain ⟨front, start, rest, hlist, hfront, hstart, -⟩ := hidentifier
  have hne := ne_at_of_isWordStart hstart
  rw [hlist] at hname
  rcases hfront with rfl | rfl
  · rw [List.nil_append, unmarked, if_neg hne] at hname
    refine ⟨.inl (String.toList_inj.mp (hlist.trans hname.symm)), ?_⟩
    rw [IsMarked, hname]
    exact fun h => hne (Option.some.inj h)
  · rw [List.singleton_append, unmarked, if_pos rfl] at hname
    refine ⟨.inr (String.toList_inj.mp ?_), ?_⟩
    · rw [hlist, String.toList_append, hname]
      rfl
    · rw [IsMarked, hname]
      exact fun h => hne (Option.some.inj h)

theorem isMarked_append (name : String) : IsMarked ("@" ++ name) := by
  rw [IsMarked, String.toList_append]
  rfl

/-- **The spellings of a name** among the plain identifiers: itself, and itself behind the mark. -/
theorem nameOf_eq_iff (hidentifier : IsIdentifier identifier) (hplain : IsPlain identifier)
    (hname : ¬ IsMarked name) :
    nameOf identifier = name ↔ identifier = name ∨ identifier = "@" ++ name := by
  obtain ⟨hspelled, hunmarked⟩ := eq_or_eq_of_isPlain hidentifier hplain
  constructor
  · rintro rfl
    exact hspelled
  · rintro (rfl | rfl)
    · rcases hspelled with h | h
      · exact h.symm
      · exact absurd (h ▸ isMarked_append _) hname
    · rcases hspelled with h | h
      · exact absurd (h ▸ isMarked_append _) hunmarked
      · exact ((String.append_right_inj _).mp h).symm

/-- Among plain identifiers, a name comes as often as it is spelled without the mark and with it. -/
theorem count_map_nameOf (hall : ∀ i ∈ identifiers, IsIdentifier i ∧ IsPlain i)
    (hname : ¬ IsMarked name) : (identifiers.map nameOf).count name =
      identifiers.count name + identifiers.count ("@" ++ name) := by
  induction identifiers with
  | nil => rfl
  | cons i is ih =>
    rw [List.forall_mem_cons] at hall
    have hspelled := nameOf_eq_iff hall.1.1 hall.1.2 hname
    -- No identifier is spelled in both ways.
    have hapart : ¬ (i = name ∧ i = "@" ++ name) := fun ⟨h, h'⟩ =>
      hname (h ▸ h' ▸ isMarked_append name)
    simp only [List.map_cons, List.count_cons, ih hall.2, beq_iff_eq, hspelled]
    grind

/-- **Identifiers are distinct names unless the mark alone tells them apart.** -/
theorem nodup_map_nameOf_iff (hall : ∀ i ∈ identifiers, IsIdentifier i ∧ IsPlain i)
    (hnodup : identifiers.Nodup) : (identifiers.map nameOf).Nodup ↔
      ∀ i ∈ identifiers, ∀ j ∈ identifiers, j ≠ "@" ++ i := by
  rw [List.nodup_map_iff_inj_on hnodup]
  constructor
  · rintro hinj i hi _ hj rfl
    -- The name of the marked identifier is the other one, which is its own name.
    obtain ⟨hspelled, hunmarked⟩ := eq_or_eq_of_isPlain (hall _ hj).1 (hall _ hj).2
    rcases hspelled with h | h
    · exact hunmarked (h ▸ isMarked_append i)
    · have hsame : nameOf ("@" ++ i) = i := ((String.append_right_inj _).mp h).symm
      rw [hsame] at hunmarked
      have hname : nameOf i = i :=
        (nameOf_eq_iff (hall i hi).1 (hall i hi).2 hunmarked).mpr (.inl rfl)
      have heq : i = "@" ++ i := hinj i hi _ hj (hname.trans hsame.symm)
      rw [heq] at hunmarked
      exact hunmarked (isMarked_append i)
  · intro hmark i hi j hj heq
    obtain ⟨hj', hunmarked⟩ := eq_or_eq_of_isPlain (hall j hj).1 (hall j hj).2
    have hi' := (nameOf_eq_iff (hall i hi).1 (hall i hi).2 hunmarked).mp heq
    rcases hi' with hi' | hi' <;> rcases hj' with hj' | hj'
    · exact hi'.trans hj'.symm
    · exact absurd (hj'.trans (congrArg _ hi'.symm)) (hmark i hi j hj)
    · exact absurd (hi'.trans (congrArg _ hj'.symm)) (hmark j hj i hi)
    · exact hi'.trans hj'.symm

end Names

/-! ## Lines of the unit -/

/-- What stands before the object of an operation. -/
def lead : Operation → String
  | .fast => "return"
  | .safe => "var clone ="

theorem indent_of_ne {ls : List String} (hls : ∀ l ∈ ls, l ≠ "") :
    indent ls = ls.map ("    " ++ ·) := by
  refine List.map_congr_left fun l hl => if_neg ?_
  rw [String.isEmpty_iff]
  exact hls l hl

theorem indent_indent_of_ne {ls : List String} (hls : ∀ l ∈ ls, l ≠ "") :
    indent (indent ls) = ls.map ("        " ++ ·) := by
  have hindented : ∀ l ∈ ls.map ("    " ++ ·), l ≠ "" := by simp
  rw [indent_of_ne hls, indent_of_ne hindented, List.map_map]
  refine List.map_congr_left fun l _ => ?_
  exact String.append_assoc.symm

theorem braced_of_ne {ls : List String} (hls : ls ≠ []) (close : String) :
    braced ls close = "\x7b" :: (indent ls ++ ["\x7d" ++ close]) :=
  if_neg (by rwa [List.isEmpty_iff])

/-- Lines are between braces, one level further to the right. -/
theorem indent_infix_braced {ls : List String} (hls : ls ≠ []) (close : String) :
    indent ls <:+: braced ls close :=
  ⟨["\x7b"], ["\x7d" ++ close], by rw [braced_of_ne hls]; rfl⟩

end CSharp

open CSharp

/-- The expression that is assigned. -/
def Assignment.csharp : Assignment → CSharp.Expression
  | .cloned m => m.accessor.csharp (.member m.name) m.name false
  | .kept name => .read (.member name)

namespace Plan

variable {p : Plan} {op : Operation}

/-- The line of an assignment in its operation. -/
def csharpLine (p : Plan) (a : Assignment) : String :=
  "            " ++ a.name ++ " = " ++ a.csharp.text p.names ++ ","

/-- The lines of the initializer in an operation: one for every assignment, between braces. -/
def initializerLines (p : Plan) (op : Operation) : List String :=
  ["        " ++ lead op ++ " new " ++ p.fqn, "        \x7b"] ++
    (p.assignments op).map p.csharpLine ++ ["        \x7d;"]

/-- The names that an initializer assigns, in order. -/
def csharpNames (p : Plan) (op : Operation) : List String :=
  ((p.assignments op).map Assignment.name).map nameOf

theorem csharpAssignment_eq (p : Plan) (a : Assignment) :
    p.csharpAssignment a = a.name ++ " = " ++ a.csharp.text p.names ++ "," := by
  cases a <;> rfl

theorem csharpLine_eq (p : Plan) (a : Assignment) :
    p.csharpLine a = "        " ++ ("    " ++ p.csharpAssignment a) := by
  have hlevels : "            " = "        " ++ "    " := rfl
  rw [csharpAssignment_eq]
  -- Rewriting by the definition would compare texts character by character.
  change "            " ++ a.name ++ " = " ++ a.csharp.text p.names ++ "," = _
  rw [hlevels]
  simp only [String.append_assoc]

theorem indent_csharpInitializer (hne : p.assignments op ≠ []) :
    indent (indent (p.csharpInitializer (lead op) op)) = p.initializerLines op := by
  have hlines : (p.assignments op).map p.csharpAssignment ≠ [] := mt List.map_eq_nil_iff.mp hne
  have hassigned : ∀ l ∈ (p.assignments op).map p.csharpAssignment, l ≠ "" := by
    simp [csharpAssignment_eq]
  have hlead : lead op ++ " new " ++ p.fqn ≠ "" := by simp
  rw [csharpInitializer, braced_of_ne hlines, indent_of_ne hassigned, indent_indent_of_ne]
  · simp only [initializerLines, List.map_append, List.map_cons, List.map_map, List.map_nil,
      List.cons_append, List.nil_append, String.append_assoc, funext p.csharpLine_eq]
    rfl
  · simp [hlead, or_imp, forall_and]

/-- The initializer of an operation is two levels to the right in the class. -/
theorem csharpInitializer_infix (p : Plan) (op : Operation) (options : RenderOptions) :
    indent (indent (p.csharpInitializer (lead op) op)) <:+: p.csharpLines options := by
  have hclass : indent (p.csharpFast options ++ [""] ++ p.csharpSafe options) <:+:
      p.csharpLines options := by
    refine (indent_infix_braced (by simp) "").trans ?_
    exact (List.suffix_append _ _).isInfix
  refine List.IsInfix.trans (List.IsInfix.map _ ?_) hclass
  cases op with
  | fast =>
    have hfast : indent (p.csharpInitializer (lead .fast) .fast) <:+: p.csharpFast options :=
      (indent_infix_braced (List.cons_ne_nil _ _) "").trans (List.suffix_append _ _).isInfix
    exact hfast.trans ⟨[], [""] ++ p.csharpSafe options, by simp⟩
  | safe =>
    have hbody : indent (p.csharpInitializer (lead .safe) .safe) <:+: p.csharpSafe options := by
      refine List.IsInfix.trans ?_ ((indent_infix_braced (by simp) "").trans
        (List.suffix_append _ _).isInfix)
      exact List.IsInfix.map _ ⟨_, _, rfl⟩
    exact hbody.trans (List.suffix_append _ _).isInfix

/-- **The initializer of an operation is in the unit.** -/
theorem exists_initializer (hne : p.assignments op ≠ []) (options : RenderOptions) :
    ∃ before after, p.csharp options = before ++ (block (p.initializerLines op) ++ after) := by
  obtain ⟨before, after, heq⟩ := p.csharpInitializer_infix op options
  rw [indent_csharpInitializer hne] at heq
  refine ⟨block before, block after, ?_⟩
  change block (p.csharpLines options) = _
  rw [← heq, block_append, block_append, String.append_assoc]

end Plan

/-- **An initializer assigns every member once, unless two that take part are one member to C#.**
The unit has the initializer of an operation, with a line for every assignment; what is assigned are
the members that take part, in order, and none of them in one spelling twice. The names are
distinct in C# exactly where no two members that take part are two spellings of one name. Where no
name has format characters, every name is assigned as often as it is spelled without the mark and
with it, so the names are distinct exactly where the mark alone tells no two of them apart. -/
theorem initializer_unambiguous {settings : CompileSettings} {d : Descriptor} {p : Plan}
    (hp : compile settings d = .ok p) (op : Operation) :
    (p.assignments op ≠ [] → ∀ options, ∃ before after, p.csharp options =
      before ++ (block (p.initializerLines op) ++ after)) ∧
    ((p.assignments op).map Assignment.name =
      (d.members.filter (Member.TakesPart settings d.mark ·)).map Member.name) ∧
    ((p.assignments op).map Assignment.name).Nodup ∧
    ((p.csharpNames op).Nodup ↔ ∀ m ∈ d.members, ∀ n ∈ d.members,
      m.TakesPart settings d.mark → n.TakesPart settings d.mark →
        nameOf m.name = nameOf n.name → m.name = n.name) ∧
    ((∀ a ∈ p.assignments op, IsPlain a.name) →
      (∀ name, ¬ IsMarked name → (p.csharpNames op).count name =
        ((p.assignments op).map Assignment.name).count name +
          ((p.assignments op).map Assignment.name).count ("@" ++ name)) ∧
      ((p.csharpNames op).Nodup ↔
        ∀ a ∈ p.assignments op, ∀ b ∈ p.assignments op, b.name ≠ "@" ++ a.name)) := by
  have hnodup := Plan.IsCompiled.nodup_names ⟨settings, d, hp⟩ op
  refine ⟨Plan.exists_initializer, Plan.names_assignments hp op, hnodup, ?_, fun hplain => ?_⟩
  · rw [Plan.csharpNames, List.nodup_map_iff_inj_on hnodup, Plan.names_assignments hp]
    simp only [List.forall_mem_map, List.mem_filter, decide_eq_true_eq, and_imp]
    constructor
    · exact fun hinj m hm n hn hm' hn' => hinj m hm hm' n hn hn'
    · exact fun hinj m hm hm' n hn hn' => hinj m hm n hn hm' hn'
  · -- To plain identifiers the mark is all that a name in C# leaves out.
    have hall : ∀ i ∈ (p.assignments op).map Assignment.name, IsIdentifier i ∧ IsPlain i := by
      rw [List.forall_mem_map]
      exact fun a ha => ⟨Plan.isIdentifier_of_mem_assignments hp ha, hplain a ha⟩
    refine ⟨fun name => count_map_nameOf hall, (nodup_map_nameOf_iff hall hnodup).trans ?_⟩
    simp only [List.forall_mem_map]

/-- A ticket: a member that C# has to mark, one that is named the same but for case, and two that
are spelled apart by the mark alone, of which one cannot be assigned. -/
def ticketDescriptor : Descriptor where
  name := "Ticket"
  members := [
    { name := "@class", type := .string },
    { name := "Class", type := .value "int" },
    { name := "item", type := .marked "Item" },
    { name := "@item", type := .marked "Item", readOnly := true }]

/-- The safe clone of a ticket assigns every member once. -/
theorem initializer_unambiguous_ticketDescriptor :
    ∃ p, compile {} ticketDescriptor = .ok p ∧
      (p.assignments .safe).map Assignment.name = ["@class", "Class", "item"] ∧
      p.csharpNames .safe = ["class", "Class", "item"] ∧ (p.csharpNames .safe).Nodup ∧
      (p.csharpNames .safe).count "class" = 1 ∧
      ∀ options, ∃ before after, p.csharp options =
        before ++ (block (p.initializerLines .safe) ++ after) := by
  have hflaws : ticketDescriptor.flaws = [] := by decide +kernel
  obtain ⟨p, hp, hassignments⟩ : ∃ p, compile {} ticketDescriptor = .ok p ∧
      p.assignments .safe = [.cloned ⟨"@class", .copy⟩, .cloned ⟨"Class", .copy⟩,
        .cloned ⟨"item", .call false .safe⟩] := by
    rw [compile, hflaws]
    exact ⟨_, rfl, rfl⟩
  obtain ⟨htext, -, -, -, hplain⟩ := initializer_unambiguous hp .safe
  rw [hassignments] at hplain
  obtain ⟨hcount, hnodup⟩ := hplain (by decide +kernel)
  refine ⟨p, hp, ?_, ?_, hnodup.mpr (by decide +kernel),
    (hcount "class" (by decide)).trans (by decide +kernel), htext (by simp [hassignments])⟩
  · rw [hassignments]
    rfl
  · rw [Plan.csharpNames, hassignments]
    decide +kernel

/-- A type with two members, by some names. -/
def twins (name other : String) : Descriptor where
  name := "Twins"
  members := [{ name := name, type := .value "int" }, { name := other, type := .value "int" }]

/-- Twins that are accepted are both assigned. -/
theorem compile_twins (name other : String) (htwins : (twins name other).flaws = []) :
    ∃ p, compile {} (twins name other) = .ok p ∧ p.fqn = "global::Twins" ∧
      ∀ op, p.assignments op = [.cloned ⟨name, .copy⟩, .cloned ⟨other, .copy⟩] := by
  rw [compile, htwins]
  exact ⟨_, rfl, rfl, fun op => by cases op <;> rfl⟩

/-- **A member and the same member behind the mark are both assigned**, which is to assign it twice;
and so are two whose names differ in a format character, which need not show. -/
theorem initializer_ambiguous :
    (∃ p, compile {} (twins "x" "@x") = .ok p ∧ ∀ op,
      p.initializerLines op =
        ["        " ++ lead op ++ " new global::Twins", "        \x7b",
          "            x = this.x,", "            @x = this.@x,", "        \x7d;"] ∧
      (∀ options, ∃ before after, p.csharp options =
        before ++ (block (p.initializerLines op) ++ after)) ∧
      p.csharpNames op = ["x", "x"] ∧ ¬ (p.csharpNames op).Nodup) ∧
    ∃ p, compile {} (twins "ab" "a\u00ADb") = .ok p ∧ ∀ op,
      p.csharpNames op = ["ab", "ab"] ∧ ¬ (p.csharpNames op).Nodup := by
  obtain ⟨p, hp, hfqn, hassignments⟩ := compile_twins "x" "@x" (by decide +kernel)
  obtain ⟨q, hq, -, hassignments'⟩ := compile_twins "ab" "a\u00ADb" (by decide +kernel)
  have hx : ∀ op, p.csharpNames op = ["x", "x"] := by
    intro op
    rw [Plan.csharpNames, hassignments]
    decide +kernel
  have hab : ∀ op, q.csharpNames op = ["ab", "ab"] := by
    intro op
    rw [Plan.csharpNames, hassignments']
    decide +kernel
  refine ⟨⟨p, hp, fun op => ⟨?_, Plan.exists_initializer (by simp [hassignments]), hx op, ?_⟩⟩,
    q, hq, fun op => ⟨hab op, ?_⟩⟩
  · have hline (name : String) : p.csharpLine (.cloned ⟨name, .copy⟩) =
        "            " ++ name ++ " = " ++ ("this." ++ name) ++ "," := rfl
    rw [Plan.initializerLines, hassignments, hfqn, List.map_cons, List.map_singleton, hline, hline]
    cases op <;> decide +kernel
  · rw [hx]
    decide
  · rw [hab]
    decide

end DeepCopy
