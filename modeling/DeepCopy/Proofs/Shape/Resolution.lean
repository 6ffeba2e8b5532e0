import DeepCopy.Shape.Resolve
import Mathlib.Data.List.Basic

/-!
# Resolving a type use

`resolve` goes through the element of a type and through its interfaces in one mutual recursion.
Read off the type as a whole it is one equation: the shapes of the parts that count, put together by
`shapeOf`. What holds of a type whenever it holds of all its parts holds of every type.

## Main definitions

* `Interface.types`: the types in a collection interface

## Main results

* `TypeUse.induction`: induction on the element and on the types in the interfaces
* `resolve_eq`: the shape of a type by the shapes of its parts
* `rank_strategyOf_le`: of the strategies that apply the chosen one comes first
-/

namespace DeepCopy

/-! ## The parts of a type -/

/-- The types in a collection interface. -/
def Interface.types : Interface → List TypeUse
  | .sequence element => [element]
  | .mapping key value => [key, value]

namespace TypeUse

/-- What holds of a type if it holds of its element and of the types in its interfaces holds of
every type. -/
@[elab_as_elim]
theorem induction {motive : TypeUse → Prop}
    (step : ∀ t : TypeUse, (∀ e, t.element = some e → motive e) →
      (∀ i ∈ t.interfaces, ∀ u ∈ i.types, motive u) → motive t) (t : TypeUse) : motive t := by
  refine @TypeUse.rec motive (fun i => ∀ u ∈ i.types, motive u)
    (fun o => ∀ e, o = some e → motive e) (fun is => ∀ i ∈ is, ∀ u ∈ i.types, motive u)
    ?type ?sequence ?mapping ?none ?some ?nil ?cons t
  case type =>
    intro _ _ _ _ _ _ _ _ helement hinterfaces
    exact step _ helement hinterfaces
  case sequence => exact fun _ he => List.forall_mem_singleton.mpr he
  case mapping =>
    exact fun _ _ hk hv => List.forall_mem_cons.mpr ⟨hk, List.forall_mem_singleton.mpr hv⟩
  case none => exact fun _ he => by cases he
  case some =>
    rintro e he _ ⟨⟩
    exact he
  case nil => exact List.forall_mem_nil _
  case cons => exact fun _ _ hi his => List.forall_mem_cons.mpr ⟨hi, his⟩

/-- The first mapping is one of the interfaces. -/
theorem mapping_mem_of_mapping? {t : TypeUse} {p : TypeUse × TypeUse} (hp : t.mapping? = some p) :
    .mapping p.1 p.2 ∈ t.interfaces := by
  obtain ⟨i, hi, heq⟩ := List.exists_of_findSome?_eq_some hp
  cases i with
  | sequence element => cases heq
  | mapping key value =>
    cases heq
    exact hi

/-- The first sequence is one of the interfaces. -/
theorem sequence_mem_of_element? {t e : TypeUse} (he : t.element? = some e) :
    .sequence e ∈ t.interfaces := by
  obtain ⟨i, hi, heq⟩ := List.exists_of_findSome?_eq_some he
  cases i with
  | sequence element =>
    cases heq
    exact hi
  | mapping key value => cases heq

end TypeUse

/-! ## The shape of a type -/

theorem resolveElement_eq (o : Option TypeUse) : resolveElement o = o.map resolve := by
  cases o <;> rfl

theorem resolveMapping_eq (t : TypeUse) : resolveMapping t.interfaces =
    t.mapping?.map fun p => (p.1.name, p.2.name, resolve p.1, resolve p.2) := by
  rw [TypeUse.mapping?]
  induction t.interfaces with
  | nil => rfl
  | cons i is ih =>
    cases i with
    | sequence element => rw [resolveMapping, ih, List.findSome?_cons]
    | mapping key value => rfl

theorem resolveSequence_eq (t : TypeUse) : resolveSequence t.interfaces =
    t.element?.map fun e => (e.name, resolve e) := by
  rw [TypeUse.element?]
  induction t.interfaces with
  | nil => rfl
  | cons i is ih =>
    cases i with
    | sequence element => rfl
    | mapping key value => rw [resolveSequence, ih, List.findSome?_cons]

/-- **The shape of a type** is put together from the shapes of its element, of the key and the value
of its first mapping, and of the element of its first sequence. -/
theorem resolve_eq (t : TypeUse) :
    resolve t =
      if t.category = .parameter then .unknown t.name
      else
        let shape := shapeOf t (t.element.map resolve)
          (t.mapping?.map fun p => (p.1.name, p.2.name, resolve p.1, resolve p.2))
          (t.element?.map fun e => (e.name, resolve e))
        if t.nullable then .nullable shape else shape := by
  rw [← resolveElement_eq, ← resolveMapping_eq, ← resolveSequence_eq]
  cases t
  rw [resolve]
  rfl

/-! ## The strategy of a container -/

namespace Strategy

/-- The place of a strategy in the order in which they are tried. -/
def rank (s : Strategy) : Nat := priority.idxOf s

theorem mem_priority (s : Strategy) : s ∈ priority := by
  cases s <;> decide

theorem rank_injective : Function.Injective rank :=
  fun s _ hs => (List.idxOf_inj (mem_priority s)).mp hs

/-- Passing on is tried last. -/
theorem rank_lt_of_ne {s : Strategy} : s ≠ .passOn → s.rank < passOn.rank := by
  cases s <;> decide

theorem ne_passOn_of_rank_le {s s' : Strategy} (hs : s.rank ≤ s'.rank) (hs' : s' ≠ .passOn) :
    s ≠ .passOn := by
  rintro rfl
  exact absurd (rank_lt_of_ne hs') (Nat.not_lt.mpr hs)

variable {c : Container} {ps qs : List Parameter} {s : Strategy}

@[simp] theorem applies_passOn : passOn.applies c ps = true := rfl

theorem applies_mono (hs : s.applies c ps = true) (hpq : ps ⊆ qs) : s.applies c qs = true := by
  rw [applies, Bool.or_eq_true, List.any_eq_true] at hs ⊢
  refine hs.imp_right ?_
  rintro ⟨p, hp, haccepts⟩
  exact ⟨p, hpq hp, haccepts⟩

end Strategy

section

variable {c : Container} {ps qs : List Parameter}

/-- Some strategy always applies, so the chosen one is the first that does. -/
theorem find?_strategyOf (c : Container) (ps : List Parameter) :
    Strategy.priority.find? (·.applies c ps) = some (strategyOf c ps) := by
  obtain ⟨s, hs⟩ : ∃ s, Strategy.priority.find? (·.applies c ps) = some s :=
    Option.isSome_iff_exists.mp
      (List.find?_isSome.mpr ⟨.passOn, Strategy.mem_priority _, Strategy.applies_passOn⟩)
  rw [strategyOf, hs, Option.getD_some]

theorem applies_strategyOf (c : Container) (ps : List Parameter) :
    (strategyOf c ps).applies c ps = true :=
  List.find?_some (find?_strategyOf c ps)

/-- **Of the strategies that apply the chosen one comes first.** -/
theorem rank_strategyOf_le {s : Strategy} (hs : s.applies c ps = true) :
    (strategyOf c ps).rank ≤ s.rank := by
  obtain ⟨-, before, after, hsplit, hbefore⟩ :=
    List.find?_eq_some_iff_append.mp (find?_strategyOf c ps)
  have hchosen : strategyOf c ps ∉ before := fun hmem => by
    simpa [applies_strategyOf] using hbefore _ hmem
  have hs' : s ∉ before := fun hmem => by
    simpa [hs] using hbefore _ hmem
  rw [Strategy.rank, Strategy.rank, hsplit, List.idxOf_append_of_notMem hs',
    List.idxOf_append_of_notMem hchosen, List.idxOf_cons_self]
  exact Nat.add_le_add_left (Nat.zero_le _) _

/-- **With more parameters the strategy is the same or an earlier one.** -/
theorem rank_strategyOf_mono (hpq : ps ⊆ qs) :
    (strategyOf c qs).rank ≤ (strategyOf c ps).rank :=
  rank_strategyOf_le (Strategy.applies_mono (applies_strategyOf c ps) hpq)

end

end DeepCopy
