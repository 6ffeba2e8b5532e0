import DeepCopy.Proofs.Cloning.Run
import DeepCopy.Proofs.Heap.Fields
import DeepCopy.Proofs.Plan.Compiled

/-!
# Compiling consistent descriptors

A descriptor is compiled exactly when it is consistent. Where it is not, the rejection lists every
rule that a member breaks, member by member in the order of their declaration. Since the names in a
consistent descriptor are distinct, a clone operation writes every field of a copy once.

## Main definitions

* `WritesOnce`: assignments that write every field once

## Main results

* `mem_names_assign`: the fields that assignments write
* `writesOnce_of_nodup`: assignments to distinct names write every field once
* `compile_consistency`: what compiling accepts, what it complains about, and what it is good for
-/

namespace DeepCopy

open Cloning (outcome outcome_bind_eq_ok)

/-! ## The fields of a copy -/

section

variable {call : Operation → Value → Cloning Value} {source made last : Fields}
  {as : List Assignment} {s s' : CloneState}

/-- Assignments one after the other. -/
theorem assign_append (call : Operation → Value → Cloning Value) (source : Fields)
    (as bs : List Assignment) (made : Fields) :
    assign call source (as ++ bs) made =
      assign call source as made >>= fun f => assign call source bs f := by
  induction as generalizing made with
  | nil => rfl
  | cons a as ih =>
    cases a with
    | kept name => exact ih _
    | cloned m =>
      rw [List.cons_append, assign, assign, bind_assoc]
      simp only [ih]

/-- **Assignments write the fields that they name**, and no others. -/
theorem mem_names_assign (hr : outcome (assign call source as made) s = (.ok last, s'))
    {key : String} : key ∈ last.names ↔ key ∈ as.map Assignment.name ∨ key ∈ made.names := by
  induction as generalizing made s with
  | nil =>
    cases hr
    simp
  | cons a as ih =>
    cases a with
    | kept name =>
      rw [ih hr, Fields.mem_names_set, List.map_cons, List.mem_cons, or_left_comm, or_assoc]
      rfl
    | cloned m =>
      rw [assign] at hr
      obtain ⟨v, s₁, -, hr⟩ := outcome_bind_eq_ok.mp hr
      rw [ih hr, Fields.mem_names_set, List.map_cons, List.mem_cons, or_left_comm, or_assoc]
      rfl

theorem mem_names_assign_empty
    (hr : outcome (assign call source as .empty) s = (.ok last, s')) {key : String} :
    key ∈ last.names ↔ key ∈ as.map Assignment.name := by
  rw [mem_names_assign hr, or_iff_left]
  exact List.not_mem_nil

end

/-- However the assignments are run, they are run one after the other, each writes a field that none
before it has written, and they make as many fields as they are. -/
def WritesOnce (as : List Assignment) : Prop :=
  ∀ call source,
    (∀ before a after, as = before ++ a :: after →
      assign call source as .empty =
          assign call source before .empty >>= assign call source (a :: after) ∧
        ∀ s made s', outcome (assign call source before .empty) s = (.ok made, s') →
          a.name ∉ made.names) ∧
    ∀ s last s', outcome (assign call source as .empty) s = (.ok last, s') →
      last.entries.length = as.length

/-- **Assignments to distinct names write every field once.** -/
theorem writesOnce_of_nodup {as : List Assignment} (has : (as.map Assignment.name).Nodup) :
    WritesOnce as := by
  refine fun call source => ⟨?_, fun s last s' hr => ?_⟩
  · rintro before a after rfl
    refine ⟨assign_append call source before (a :: after) .empty, fun s made s' hr => ?_⟩
    rw [List.map_append, List.map_cons, List.nodup_middle, List.nodup_cons] at has
    rw [mem_names_assign_empty hr]
    exact fun hmem => has.1 (List.mem_append_left _ hmem)
  · have hnames : last.names.Perm (as.map Assignment.name) :=
      (List.perm_ext_iff_of_nodup last.nodup_names has).mpr fun _ => mem_names_assign_empty hr
    simpa [Fields.names] using hnames.length_eq

/-! ## Compiling -/

/-- **Compiling accepts the consistent descriptors and no others.** A rejection lists the rules that
are broken, by members in order and for each member by rules in order, and complains about a name
once for every time that it comes again. In a plan the names that an operation assigns are distinct,
so that every field of a copy is written once. -/
theorem compile_consistency (settings : CompileSettings) (d : Descriptor) :
    ((∃ p, compile settings d = .ok p) ↔ d.IsConsistent) ∧
    (∀ r, compile settings d = .error r →
      r.message = "Invalid descriptor for `" ++ d.name ++ "`: " ++
          "; ".intercalate (d.violations.map Flaw.message) ∧
        ∀ name, d.violations.count (.repeated name) = (d.members.map Member.name).count name - 1) ∧
    ∀ p, compile settings d = .ok p → ∀ op,
      ((p.assignments op).map Assignment.name).Nodup ∧ WritesOnce (p.assignments op) := by
  refine ⟨?_, fun r hr => ?_, fun p hp op => ?_⟩
  · rw [← flaws_eq_nil_iff]
    refine ⟨fun ⟨p, hp⟩ => ?_, compile_of_flaws_eq_nil settings⟩
    by_contra hflaws
    rw [compile_of_flaws_ne_nil settings hflaws] at hp
    cases hp
  · have hflaws : d.flaws ≠ [] := by
      intro hflaws
      obtain ⟨p, hp⟩ := compile_of_flaws_eq_nil settings hflaws
      rw [hp] at hr
      cases hr
    rw [compile_of_flaws_ne_nil settings hflaws] at hr
    cases hr
    rw [← flaws_eq_violations]
    exact ⟨rfl, count_repeated_flaws d⟩
  · have hnodup := Plan.IsCompiled.nodup_names ⟨settings, d, hp⟩ op
    exact ⟨hnodup, writesOnce_of_nodup hnodup⟩

/-- A type whose name is none. One of its members comes three times, the second time without the
name of a type and the third time as one that is included but cannot be assigned; another has no
name and cannot be assigned either. -/
def clashingDescriptor : Descriptor where
  name := "3D"
  members := [
    { name := "@Size", type := .value "int" },
    { name := "Next", type := .marked "Node" },
    { name := "Next", type := .named "" },
    { name := "", type := .string, readOnly := true, marks := { included := true } },
    { name := "Next", type := .marked "Node", readOnly := true, marks := { included := true } }]

/-- What is wrong with it; and a node without an owner, copied with calls that pass on what they are
given: the third of the four fields of the copy is written when only the first two are there. -/
theorem compile_consistency_clashingDescriptor :
    let call : Operation → Value → Cloning Value := fun _ v => pure v
    let source : Fields := .ofList [("Label", .text "a"), ("Peers", .ref 2), ("Next", .ref 1)]
    let before : List Assignment :=
      [.cloned ⟨"Label", .copy⟩, .cloned ⟨"Peers", .array (.call false .safe)⟩]
    (∃ r, compile {} clashingDescriptor = .error r ∧
      r.message = "Invalid descriptor for `3D`: Type name `3D` is not a valid identifier; " ++
        "Duplicate member `Next`; Member `Next` has an empty type name; " ++
        "Member name `` is not a valid identifier; " ++
        "Member `` is marked for cloning but has no mutator; Duplicate member `Next`; " ++
        "Member `Next` is marked for cloning but has no mutator") ∧
    compile {} nodeDescriptor = .ok nodePlan ∧
    nodePlan.assignments .safe = before ++ .cloned ⟨"Next", .call true .safe⟩ :: [.kept "Owner"] ∧
    (∃ made s', outcome (assign call source before .empty) ⟨nodeRing, {}, 0⟩ = (.ok made, s') ∧
      "Next" ∉ made.names) ∧
    ∃ last s', outcome (assign call source (nodePlan.assignments .safe) .empty) ⟨nodeRing, {}, 0⟩ =
      (.ok last, s') ∧ last.entries.length = 4 := by
  intro call source before
  have hflaws : clashingDescriptor.flaws ≠ [] := by decide +kernel
  have hreject := compile_of_flaws_ne_nil {} hflaws
  have hsplit : nodePlan.assignments .safe =
      before ++ .cloned ⟨"Next", .call true .safe⟩ :: [.kept "Owner"] := rfl
  obtain ⟨hparts, hall⟩ := ((compile_consistency {} nodeDescriptor).2.2 _ compile_nodeDescriptor
    .safe).2 call source
  obtain ⟨made, s₁, hmade⟩ : ∃ made s₁, outcome (assign call source before .empty)
      ⟨nodeRing, {}, 0⟩ = (.ok made, s₁) := ⟨_, _, rfl⟩
  obtain ⟨last, s', hlast⟩ : ∃ last s', outcome (assign call source (nodePlan.assignments .safe)
      .empty) ⟨nodeRing, {}, 0⟩ = (.ok last, s') := ⟨_, _, rfl⟩
  refine ⟨⟨_, hreject, ?_⟩, compile_nodeDescriptor, hsplit,
    ⟨made, s₁, hmade, (hparts _ _ _ hsplit).2 _ _ _ hmade⟩,
    ⟨last, s', hlast, hall _ _ _ hlast⟩⟩
  rw [((compile_consistency {} clashingDescriptor).2.1 _ hreject).1]
  decide +kernel

end DeepCopy
