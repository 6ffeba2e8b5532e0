import DeepCopy.Plan.Basic
import Mathlib.Data.List.Basic

/-!
# Where kept members are placed

The positions of kept members are data: a plan that was read may have them out of order, repeated or
past the end. Wherever they point, interleaving places every cloned and every kept member once and
in order. A kept member never comes before an earlier one, so its place is told by the furthest
position up to its own.

Interleaving is also written with a cursor, which takes stretches of the cloned members between
bounds; a stretch without proper bounds has no result.

## Main definitions

* `stretch?`: the part of a list between two bounds, where the bounds are proper
* `placedFrom?`: interleaving by a cursor
* `furthest`: the number of cloned members that are placed before the last of some kept ones

## Main results

* `filterMap_cloned?_interleave`, `filterMap_kept?_interleave`: nothing is lost or doubled
* `exists_interleave_eq_append`: what comes before a kept member
* `placedFrom?_eq`: the cursor stays within bounds, and it interleaves
* `assignments_lossless`: all of this for the assignments of a plan
-/

namespace DeepCopy

/-- The cloned member of an assignment. -/
def Assignment.cloned? : Assignment → Option ClonedMember
  | .cloned m => some m
  | .kept _ => none

/-- The name of the kept member of an assignment. -/
def Assignment.kept? : Assignment → Option String
  | .cloned _ => none
  | .kept name => some name

theorem filterMap_cloned?_map (cs : List ClonedMember) :
    (cs.map Assignment.cloned).filterMap Assignment.cloned? = cs := by
  rw [List.filterMap_map]
  exact List.filterMap_some

theorem filterMap_kept?_map (cs : List ClonedMember) :
    (cs.map Assignment.cloned).filterMap Assignment.kept? = [] := by
  rw [List.filterMap_map]
  exact List.filterMap_eq_nil_iff.mpr fun _ _ => rfl

/-! ## Nothing is lost or doubled -/

section

variable (due : List ClonedMember) (name : String) (rest : List Assignment)

/-- The cloned members among what is due before a kept member, that member, and the rest. -/
theorem filterMap_cloned?_append :
    (due.map Assignment.cloned ++ Assignment.kept name :: rest).filterMap Assignment.cloned? =
      due ++ rest.filterMap Assignment.cloned? := by
  rw [List.filterMap_append, filterMap_cloned?_map, List.filterMap_cons_none rfl]

/-- The kept members among what is due before a kept member, that member, and the rest. -/
theorem filterMap_kept?_append :
    (due.map Assignment.cloned ++ Assignment.kept name :: rest).filterMap Assignment.kept? =
      name :: rest.filterMap Assignment.kept? := by
  rw [List.filterMap_append, filterMap_kept?_map, List.nil_append]
  exact List.filterMap_cons_some rfl

end

/-- **The cloned members are placed once each, in order.** -/
theorem filterMap_cloned?_interleave (before : Nat) (cs : List ClonedMember)
    (ks : List KeptMember) : (interleave before cs ks).filterMap Assignment.cloned? = cs := by
  induction ks generalizing before cs with
  | nil => exact filterMap_cloned?_map cs
  | cons k ks ih =>
    rw [interleave, filterMap_cloned?_append, ih]
    exact List.take_append_drop _ cs

/-- **The kept members are placed once each, in order.** -/
theorem filterMap_kept?_interleave (before : Nat) (cs : List ClonedMember)
    (ks : List KeptMember) :
    (interleave before cs ks).filterMap Assignment.kept? = ks.map KeptMember.name := by
  induction ks generalizing before cs with
  | nil => exact filterMap_kept?_map cs
  | cons k ks ih => rw [interleave, filterMap_kept?_append, ih, List.map_cons]

/-! ## The places of the kept members -/

/-- The number of cloned members, of `total` ones, that are placed before the last of some kept
members: the furthest position of these, or all of the cloned ones. -/
def furthest (total : Nat) (ks : List KeptMember) : Nat :=
  (ks.map fun k => min k.position total).foldr max 0

@[simp] theorem furthest_cons (total : Nat) (k : KeptMember) (ks : List KeptMember) :
    furthest total (k :: ks) = max (min k.position total) (furthest total ks) := rfl

/-- The members due before a kept one bring the number of placed ones up to its position. -/
theorem add_length_due (before : Nat) (cs : List ClonedMember) (k : KeptMember) :
    before + (cs.take (k.position - before)).length =
      max before (min k.position (before + cs.length)) := by
  rw [List.length_take]
  omega

/-- **What comes before a kept member**: the kept members before it, and as many cloned ones as the
furthest position up to its own says. -/
theorem exists_interleave_eq_append {ks : List KeptMember} {j : Nat} (hj : j < ks.length)
    (before : Nat) (cs : List ClonedMember) :
    ∃ front back, interleave before cs ks = front ++ .kept ks[j].name :: back ∧
      front.filterMap Assignment.kept? = (ks.take j).map KeptMember.name ∧
      before + (front.filterMap Assignment.cloned?).length =
        max before (furthest (before + cs.length) (ks.take (j + 1))) := by
  induction ks generalizing before cs j with
  | nil => cases hj
  | cons k ks ih =>
    have hdue := add_length_due before cs k
    cases j with
    | zero =>
      refine ⟨(cs.take (k.position - before)).map .cloned, _, rfl, filterMap_kept?_map _, ?_⟩
      rw [filterMap_cloned?_map, hdue]
      simp [furthest]
    | succ j =>
      obtain ⟨front, back, happend, hkept, hcloned⟩ := ih (Nat.lt_of_succ_lt_succ hj)
        (before + (cs.take (k.position - before)).length) (cs.drop (k.position - before))
      -- The cloned members that are left are counted from where the members due have been placed.
      have htotal : before + (cs.take (k.position - before)).length +
          (cs.drop (k.position - before)).length = before + cs.length := by
        rw [Nat.add_assoc, ← List.length_append, List.take_append_drop]
      rw [htotal] at hcloned
      refine ⟨(cs.take (k.position - before)).map .cloned ++ .kept k.name :: front, back, ?_, ?_,
        ?_⟩
      · rw [interleave, happend, List.append_assoc, List.cons_append]
        rfl
      · rw [filterMap_kept?_append, hkept, List.take_succ_cons, List.map_cons]
      · rw [filterMap_cloned?_append, List.length_append, ← Nat.add_assoc, hcloned, hdue,
          List.take_succ_cons, furthest_cons, Nat.max_assoc]

/-! ## Interleaving by a cursor -/

/-- The part of a list from one place to another, if they are in order and within the list. -/
def stretch? {α : Type} (start stop : Nat) (xs : List α) : Option (List α) :=
  if start ≤ stop ∧ stop ≤ xs.length then some ((xs.take stop).drop start) else none

/-- Interleaving by a cursor: `next` members have been placed. -/
def placedFrom? (cs : List ClonedMember) : Nat → List KeptMember → Option (List Assignment)
  | next, [] => do
    let due ← stretch? next cs.length cs
    return due.map .cloned
  | next, k :: ks =>
    let upto := min k.position cs.length
    if next < upto then do
      let due ← stretch? next upto cs
      let rest ← placedFrom? cs upto ks
      return due.map .cloned ++ .kept k.name :: rest
    else do
      let rest ← placedFrom? cs next ks
      return .kept k.name :: rest

theorem stretch?_eq {α : Type} {start stop : Nat} {xs : List α} (hstart : start ≤ stop)
    (hstop : stop ≤ xs.length) :
    stretch? start stop xs = some ((xs.drop start).take (stop - start)) := by
  rw [stretch?, if_pos ⟨hstart, hstop⟩, List.drop_take]

/-- **The cursor never leaves its bounds, and what it places is the interleaving.** -/
theorem placedFrom?_eq {cs : List ClonedMember} {next : Nat} (hnext : next ≤ cs.length)
    (ks : List KeptMember) :
    placedFrom? cs next ks = some (interleave next (cs.drop next) ks) := by
  induction ks generalizing next with
  | nil =>
    rw [placedFrom?, stretch?_eq hnext (Nat.le_refl _), ← List.length_drop, List.take_length]
    rfl
  | cons k ks ih =>
    have hlength : (cs.drop next).length = cs.length - next := List.length_drop
    rw [placedFrom?, interleave]
    by_cases hlt : next < min k.position cs.length
    · -- Past the end of the list there is nothing to take, so that cutting the position changes nothing.
      have htake : (cs.drop next).take (min k.position cs.length - next) =
          (cs.drop next).take (k.position - next) := by
        rw [List.take_eq_take_iff]
        omega
      have hdrop : (cs.drop next).drop (k.position - next) =
          cs.drop (min k.position cs.length) := by
        rw [List.drop_drop, List.drop_eq_drop_iff]
        omega
      have hplaced : next + ((cs.drop next).take (k.position - next)).length =
          min k.position cs.length := by
        rw [add_length_due, hlength]
        omega
      simp only [if_pos hlt, stretch?_eq (Nat.le_of_lt hlt) (Nat.min_le_right _ _), htake, hplaced,
        hdrop, ih (Nat.min_le_right _ _)]
      rfl
    · -- Nothing is due: the position lies behind the cursor, or nothing is left.
      have htake : (cs.drop next).take (k.position - next) = [] := by
        rw [List.take_eq_nil_iff, ← List.length_eq_zero_iff]
        omega
      have hdrop : (cs.drop next).drop (k.position - next) = cs.drop next := by
        rw [List.drop_drop, List.drop_eq_drop_iff]
        omega
      simp only [if_neg hlt, htake, hdrop, ih hnext]
      rfl

namespace Plan

/-- **Interleaving is lossless for every plan**, wherever the positions of its kept members point.
The cursor never leaves its bounds; the cloned and the kept members are all assigned, once each and
in order; and the number of cloned members ahead of a kept one is the furthest position up to its
own, or that of all cloned members. -/
theorem assignments_lossless (p : Plan) (op : Operation) :
    placedFrom? (p.members op) 0 p.kept = some (p.assignments op) ∧
    (p.assignments op).filterMap Assignment.cloned? = p.members op ∧
    (p.assignments op).filterMap Assignment.kept? = p.kept.map KeptMember.name ∧
    ∀ j : Fin p.kept.length, ∃ front back,
      p.assignments op = front ++ .kept p.kept[j].name :: back ∧
      front.filterMap Assignment.kept? = (p.kept.take j).map KeptMember.name ∧
      (front.filterMap Assignment.cloned?).length =
        furthest (p.members op).length (p.kept.take (j + 1)) := by
  refine ⟨placedFrom?_eq (Nat.zero_le _) p.kept, filterMap_cloned?_interleave 0 _ _,
    filterMap_kept?_interleave 0 _ _, fun j => ?_⟩
  obtain ⟨front, back, happend, hkept, hcloned⟩ :=
    exists_interleave_eq_append j.isLt 0 (p.members op)
  rw [Nat.zero_add, Nat.zero_add, Nat.zero_max] at hcloned
  exact ⟨front, back, happend, hkept, hcloned⟩

end Plan

end DeepCopy
