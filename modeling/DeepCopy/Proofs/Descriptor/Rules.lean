import DeepCopy.Descriptor.Check
import Mathlib.Data.List.Nodup
import Mathlib.Tactic.MkIffOfInductiveProp
import Mathlib.Tactic.Tauto

/-!
# The rules for descriptors

What is asked of a descriptor is said here rule by rule: of its name, and of each member together
with those before it. A check goes through a descriptor once, with the names that it has met. What it
finds are the rules that are broken, member by member, and it finds nothing exactly when a descriptor
is consistent.

## Main definitions

* `Text.IsIdentifier`: the pattern that the names of types and members match
* `Rule`, `Rule.BrokenBy`: what is asked of a member that comes after others
* `Descriptor.violations`: the rules that are broken, in order
* `Descriptor.IsConsistent`: no rule is broken

## Main results

* `flaws_eq_violations`: a check finds the rules that are broken, each where it is broken
* `count_repeated_flaws`: a name is reported once for every time that it comes again
* `flaws_eq_nil_iff`: a check finds nothing in consistent descriptors, and only there
-/

namespace DeepCopy

/-! ## Identifiers -/

namespace Text

/-- A character that starts words and then characters that continue them, with an `@` before them or
without one. -/
def IsIdentifier (name : String) : Prop :=
  ∃ mark start rest, name.toList = mark ++ start :: rest ∧ (mark = [] ∨ mark = ['@']) ∧
    isWordStart start = true ∧ ∀ c ∈ rest, isWordPart c = true

theorem isWord_iff {cs : List Char} : isWord cs = true ↔
    ∃ start rest, cs = start :: rest ∧ isWordStart start = true ∧
      ∀ c ∈ rest, isWordPart c = true := by
  cases cs with
  | nil => simp [isWord]
  | cons c cs => simp [isWord]

theorem isIdentifier_iff {name : String} : isIdentifier name = true ↔ IsIdentifier name := by
  unfold isIdentifier IsIdentifier
  generalize name.toList = cs
  constructor
  · intro h
    split at h
    · obtain ⟨start, rest, rfl, hword⟩ := isWord_iff.mp h
      exact ⟨['@'], start, rest, rfl, .inr rfl, hword⟩
    · obtain ⟨start, rest, rfl, hword⟩ := isWord_iff.mp h
      exact ⟨[], start, rest, rfl, .inl rfl, hword⟩
  · rintro ⟨mark, start, rest, rfl, rfl | rfl, hword⟩
    · -- The mark itself starts no word.
      split
      · next heq =>
        obtain ⟨rfl, -⟩ := List.cons.inj heq
        exact absurd hword.1 (by decide)
      · exact isWord_iff.mpr ⟨start, rest, rfl, hword⟩
    · exact isWord_iff.mpr ⟨start, rest, rfl, hword⟩

instance (name : String) : Decidable (IsIdentifier name) :=
  decidable_of_iff _ isIdentifier_iff

end Text

open Text (IsIdentifier isIdentifier isIdentifier_iff)

/-! ## Rules -/

/-- What is asked of a member. -/
inductive Rule where
  | named
  /-- No earlier member has the name. -/
  | distinct
  /-- What is included by name can be assigned. -/
  | assignable
  /-- The type has a name. -/
  | typed
  deriving DecidableEq

namespace Rule

/-- All rules, in the order in which complaints are made. -/
def all : List Rule := [.named, .distinct, .assignable, .typed]

/-- A rule is broken by a member that comes after some others. -/
def BrokenBy (earlier : List Member) (m : Member) : Rule → Prop
  | .named => ¬ IsIdentifier m.name
  | .distinct => ∃ n ∈ earlier, n.name = m.name
  | .assignable => m.readOnly = true ∧ m.marks.included = true
  | .typed => m.type.name = ""

instance (earlier : List Member) (m : Member) : DecidablePred (BrokenBy earlier m)
  | .named => inferInstanceAs (Decidable (¬ IsIdentifier m.name))
  | .distinct => inferInstanceAs (Decidable (∃ n ∈ earlier, n.name = m.name))
  | .assignable =>
    inferInstanceAs (Decidable (m.readOnly = true ∧ m.marks.included = true))
  | .typed => inferInstanceAs (Decidable (m.type.name = ""))

/-- The complaint about a member of some name. -/
def flaw (name : String) : Rule → Flaw
  | .named => .memberName name
  | .distinct => .repeated name
  | .assignable => .readOnly name
  | .typed => .namelessType name

end Rule

/-- The complaints about a member that comes after some others, one for every rule it breaks. -/
def Member.violations (earlier : List Member) (m : Member) : List Flaw :=
  Rule.all.flatMap fun rule => if rule.BrokenBy earlier m then [rule.flaw m.name] else []

/-- The complaints about a descriptor: about its name, and about each member by those before it. -/
def Descriptor.violations (d : Descriptor) : List Flaw :=
  (if IsIdentifier d.name then [] else [.typeName d.name]) ++
    d.members.zipIdx.flatMap fun e => e.1.violations (d.members.take e.2)

/-- A member that breaks no rule on its own account. -/
@[mk_iff]
structure Member.IsSound (m : Member) : Prop where
  identifier : IsIdentifier m.name
  assignable : ¬(m.readOnly = true ∧ m.marks.included = true)
  typed : m.type.name ≠ ""

/-- A descriptor in which no rule is broken. -/
structure Descriptor.IsConsistent (d : Descriptor) : Prop where
  identifier : IsIdentifier d.name
  sound : ∀ m ∈ d.members, m.IsSound
  distinct : (d.members.map Member.name).Nodup

/-! ## What a check finds -/

theorem Member.flaws_eq_violations (earlier : List Member) (m : Member) :
    m.flaws (earlier.map Member.name).reverse = m.violations earlier := by
  have hnamed : (if isIdentifier m.name then [] else [Flaw.memberName m.name]) =
      if Rule.named.BrokenBy earlier m then [.memberName m.name] else [] := by
    rw [← ite_not]
    exact if_congr (not_congr isIdentifier_iff) rfl rfl
  have hdistinct : (earlier.map Member.name).reverse.contains m.name = true ↔
      Rule.distinct.BrokenBy earlier m := by
    rw [List.contains_iff_mem, List.mem_reverse, List.mem_map]
    exact Iff.rfl
  have hassignable : (m.readOnly && m.marks.included) = true ↔
      Rule.assignable.BrokenBy earlier m := Bool.and_eq_true_iff
  have htyped : m.type.name.isEmpty = true ↔ Rule.typed.BrokenBy earlier m := String.isEmpty_iff
  simp only [flaws, violations, Rule.all, List.flatMap_cons, List.flatMap_nil, List.append_nil,
    List.append_assoc, hnamed, hdistinct, hassignable, htyped]
  rfl

/-- A check of members that come after some others, by induction on the members. -/
theorem flawsOf_eq_violations (before ms : List Member) :
    flawsOf (before.map Member.name).reverse ms =
      (ms.zipIdx before.length).flatMap fun e => e.1.violations ((before ++ ms).take e.2) := by
  induction ms generalizing before with
  | nil => rfl
  | cons m ms ih =>
    -- For the rest, the member stands at the end of those that the check has met.
    have hrest := ih (before ++ [m])
    rw [List.map_append, List.reverse_append, List.append_assoc, List.length_append] at hrest
    rw [flawsOf, List.zipIdx_cons, List.flatMap_cons, m.flaws_eq_violations,
      List.take_left]
    exact congrArg _ hrest

/-- **A check finds the rules that are broken**, each where it is broken. -/
theorem flaws_eq_violations (d : Descriptor) : d.flaws = d.violations := by
  have hmembers := flawsOf_eq_violations [] d.members
  rw [Descriptor.flaws, Descriptor.violations]
  simp only [isIdentifier_iff]
  exact congrArg _ hmembers

/-! ## Names that come again -/

theorem Member.count_repeated_flaws (earlier : List String) (m : Member) (name : String) :
    (m.flaws earlier).count (.repeated name) =
      if m.name = name ∧ name ∈ earlier then 1 else 0 := by
  rw [flaws]
  -- Of the four complaints only the second is about a name that comes again.
  simp only [List.count_append, apply_ite (List.count (Flaw.repeated name)),
    List.count_nil, List.count_singleton, beq_iff_eq, reduceCtorEq, Flaw.repeated.injEq, if_false,
    ite_self, Nat.zero_add, Nat.add_zero, List.contains_iff_mem, ← ite_and]
  refine if_congr ?_ rfl rfl
  rw [and_comm, and_congr_right_iff]
  rintro rfl
  exact Iff.rfl

theorem count_repeated_flawsOf (earlier : List String) (ms : List Member) (name : String) :
    (flawsOf earlier ms).count (.repeated name) =
      if name ∈ earlier then (ms.map Member.name).count name
      else (ms.map Member.name).count name - 1 := by
  induction ms generalizing earlier with
  | nil => simp [flawsOf]
  | cons m ms ih =>
    rw [flawsOf, List.count_append, Member.count_repeated_flaws, ih, List.map_cons,
      List.count_cons]
    by_cases hm : m.name = name <;> by_cases hearlier : name ∈ earlier
    · simp [hm, hearlier, Nat.add_comm]
    · simp [hm, hearlier]
    · simp [hm, hearlier, Ne.symm hm]
    · simp [hm, hearlier, Ne.symm hm]

/-- **A name is reported once for every time that it comes again.** -/
theorem count_repeated_flaws (d : Descriptor) (name : String) :
    d.flaws.count (.repeated name) = (d.members.map Member.name).count name - 1 := by
  have hname : (if isIdentifier d.name then [] else [Flaw.typeName d.name]).count
      (.repeated name) = 0 := by
    simp only [apply_ite (List.count (Flaw.repeated name)),
      List.count_nil, List.count_singleton, beq_iff_eq, reduceCtorEq, if_false, ite_self]
  rw [Descriptor.flaws, List.count_append, hname, Nat.zero_add, count_repeated_flawsOf,
    if_neg List.not_mem_nil]

/-! ## Consistency -/

/-- A check finds nothing in a sound member of a new name. -/
theorem Member.flaws_eq_nil_iff {earlier : List String} {m : Member} :
    m.flaws earlier = [] ↔ m.IsSound ∧ m.name ∉ earlier := by
  simp only [flaws, isSound_iff, List.append_eq_nil_iff, ite_eq_left_iff, ite_eq_right_iff,
    List.cons_ne_nil, imp_false, isIdentifier_iff, List.contains_iff_mem, Bool.and_eq_true,
    String.isEmpty_iff]
  tauto

theorem flawsOf_eq_nil_iff {earlier : List String} {ms : List Member} :
    flawsOf earlier ms = [] ↔ (∀ m ∈ ms, m.IsSound) ∧ (ms.map Member.name).Nodup ∧
      ∀ m ∈ ms, m.name ∉ earlier := by
  induction ms generalizing earlier with
  | nil => simp [flawsOf]
  | cons m ms ih =>
    -- That the first name is new to the others is the same as that it does not come again.
    have hfresh : (∀ n ∈ ms, n.name ∉ m.name :: earlier) ↔
        m.name ∉ ms.map Member.name ∧ ∀ n ∈ ms, n.name ∉ earlier := by
      simp only [List.mem_cons, not_or, List.mem_map, not_exists, not_and, forall_and]
    rw [flawsOf, List.append_eq_nil_iff, Member.flaws_eq_nil_iff, ih, hfresh, List.map_cons,
      List.nodup_cons, List.forall_mem_cons, List.forall_mem_cons]
    tauto

/-- **A check finds nothing in consistent descriptors, and only there.** -/
theorem flaws_eq_nil_iff {d : Descriptor} : d.flaws = [] ↔ d.IsConsistent := by
  have hname : (if isIdentifier d.name then [] else [Flaw.typeName d.name]) = [] ↔
      IsIdentifier d.name := by
    rw [← isIdentifier_iff]
    split_ifs with h <;> simp [h]
  rw [Descriptor.flaws, List.append_eq_nil_iff, hname, flawsOf_eq_nil_iff]
  constructor
  · rintro ⟨identifier, sound, distinct, -⟩
    exact ⟨identifier, sound, distinct⟩
  · rintro ⟨identifier, sound, distinct⟩
    exact ⟨identifier, sound, distinct, fun _ _ => List.not_mem_nil⟩

end DeepCopy
