import DeepCopy.Proofs.Plan.Compiled
import Mathlib.Data.List.Basic

/-!
# The members that a plan assigns

A plan keeps its cloned and its kept members apart. Put back together they are the members of the
descriptor that take part, in the order of their declaration, each assigned as its marks say.

## Main definitions

* `Member.TakesPart settings mark m`: `m` is among the members that are assigned
* `Member.assigned op m`: how an operation assigns `m`

## Main results

* `Plan.assignments_of_compile`: an operation's assignments are those of the roles of the members
* `Plan.assignments_eq_filter`: they are those of the members that take part, in order
* `compile_assignments`: they are the members that take part, one by one and in order
-/

namespace DeepCopy

/-- A member takes part if it can be assigned, if it is included where only members included by name
are, and if it is not to be left out for being ignored. -/
def Member.TakesPart (settings : CompileSettings) (mark : CloneMark) (m : Member) : Prop :=
  m.readOnly = false ∧ (mark.explicit = true → m.marks.included = true) ∧
    ¬ (m.marks.ignored = true ∧ settings.ignorePolicy = .omit)

instance (settings : CompileSettings) (mark : CloneMark) (m : Member) :
    Decidable (m.TakesPart settings mark) :=
  inferInstanceAs (Decidable (_ ∧ (_ → _) ∧ ¬ (_ ∧ _)))

/-- The assignment of a member that takes part: an ignored one is kept, and every other one is
cloned by the accessor of its own shape, without clones where it is to be copied. -/
def Member.assigned (op : Operation) (m : Member) : Assignment :=
  if m.marks.ignored then .kept m.name
  else
    let shape := resolve m.type
    let shape := if m.marks.shallow = some true then shape.withoutClones else shape
    .cloned ⟨m.name, (synthesize shape).retarget op⟩

namespace Plan

variable {p : Plan} {settings : CompileSettings} {d : Descriptor}

/-- An operation assigns what the roles of the members say, with the calls naming it. -/
theorem assignments_of_compile (hc : compile settings d = .ok p) (op : Operation) :
    p.assignments op =
      (d.members.filterMap (Member.assignment (Member.role settings d.mark))).map
        (Assignment.retarget op) := by
  obtain ⟨-, hfast, -, hkept⟩ := members_of_compile hc
  have hp : p.IsCompiled := ⟨settings, d, hc⟩
  rw [hp.assignments_retarget .fast op, assignments, members, hfast, hkept,
    interleave_keptMembers]

end Plan

/-- The role of a member: left out, or taking part as its mark says. -/
theorem Member.role_eq (settings : CompileSettings) (mark : CloneMark) (m : Member) :
    m.role settings mark =
      if m.TakesPart settings mark then if m.marks.ignored then .kept else .cloned
      else .leftOut := by
  obtain ⟨policy, names⟩ := settings
  unfold Member.role Member.TakesPart
  cases policy <;> grind

/-- The role of a member decides whether it takes part and how it is assigned. -/
theorem Member.assignment_role (settings : CompileSettings) (mark : CloneMark) (op : Operation)
    (m : Member) :
    (m.assignment (Member.role settings mark)).map (Assignment.retarget op) =
      if m.TakesPart settings mark then some (m.assigned op) else none := by
  unfold Member.assignment Member.assigned
  rw [Member.role_eq]
  by_cases ht : m.TakesPart settings mark
  · by_cases hi : m.marks.ignored = true
    · simp [ht, hi, Assignment.retarget]
    · simp [ht, hi, Assignment.retarget, Member.accessor, Member.shape]
  · simp [ht]

@[simp] theorem Member.name_assigned (op : Operation) (m : Member) :
    (m.assigned op).name = m.name := by
  rw [assigned]
  split <;> rfl

namespace Plan

variable {p : Plan} {settings : CompileSettings} {d : Descriptor} {op : Operation} {a : Assignment}

/-- An operation assigns the members that take part, in the order of their declaration. -/
theorem assignments_eq_filter (hc : compile settings d = .ok p) (op : Operation) :
    p.assignments op =
      (d.members.filter (Member.TakesPart settings d.mark ·)).map (Member.assigned op) := by
  -- Both sides decide member by member what becomes of it, so it is enough to compare one member.
  rw [assignments_of_compile hc, List.map_filterMap, ← List.filterMap_eq_map,
    List.filterMap_filter]
  refine List.filterMap_congr fun m _ => ?_
  simp [Member.assignment_role]

/-- The names that an operation assigns are those of the members that take part. -/
theorem names_assignments (hc : compile settings d = .ok p) (op : Operation) :
    (p.assignments op).map Assignment.name =
      (d.members.filter (Member.TakesPart settings d.mark ·)).map Member.name := by
  rw [assignments_eq_filter hc, List.map_map]
  exact List.map_congr_left fun m _ => m.name_assigned op

/-- A member that is assigned has an identifier as its name. -/
theorem isIdentifier_of_mem_assignments (hc : compile settings d = .ok p)
    (ha : a ∈ p.assignments op) : Text.IsIdentifier a.name := by
  rw [assignments_eq_filter hc] at ha
  obtain ⟨m, hm, rfl⟩ := List.mem_map.mp ha
  rw [Member.name_assigned]
  exact ((members_of_compile hc).1.sound m (List.mem_filter.mp hm).1).identifier

end Plan

/-- **The assignments of a compiled plan are the members that take part**, one by one and in the
order of their declaration, and every call in them names the operation. -/
theorem compile_assignments {settings : CompileSettings} {d : Descriptor} {p : Plan}
    (hc : compile settings d = .ok p) (op : Operation) :
    p.assignments op =
        (d.members.filter (Member.TakesPart settings d.mark ·)).map (Member.assigned op) ∧
      ∀ m, .cloned m ∈ p.assignments op → m.accessor.targets op = true :=
  ⟨Plan.assignments_eq_filter hc op, fun _ hm => Plan.IsCompiled.targets ⟨settings, d, hc⟩ hm⟩

/-- A type of which only members included by name take part: ignored ones before, between and
after the cloned ones, one that is to be copied, one that is not included and one that cannot be
assigned. -/
def formDescriptor : Descriptor where
  name := "Form"
  mark := { explicit := true }
  members := [
    { name := "Key", type := .value "int", marks := { ignored := true, included := true } },
    { name := "Title", type := .string, marks := { included := true } },
    { name := "Draft", type := .string },
    { name := "Cache", type := .named "object", marks := { ignored := true, included := true } },
    { name := "Parts", type := .arrayOf (.marked "Form"), marks := { included := true } },
    { name := "Theme", type := .marked "Form",
      marks := { included := true, shallow := some true } },
    { name := "Size", type := .value "int", readOnly := true },
    { name := "Owner", type := .named "object", marks := { ignored := true, included := true } }]

/-- The assignments of the safe clone of a form. -/
theorem compile_assignments_formDescriptor :
    ∃ p, compile {} formDescriptor = .ok p ∧
      p.assignments .safe =
        [.kept "Key", .cloned ⟨"Title", .copy⟩, .kept "Cache",
          .cloned ⟨"Parts", .array (.call false .safe)⟩, .cloned ⟨"Theme", .copy⟩,
          .kept "Owner"] := by
  have hflaws : formDescriptor.flaws = [] := by decide +kernel
  obtain ⟨p, hp⟩ : ∃ p, compile {} formDescriptor = .ok p := by
    rw [compile, hflaws]
    exact ⟨_, rfl⟩
  exact ⟨p, hp, (compile_assignments hp .safe).1.trans (by decide +kernel)⟩

end DeepCopy
