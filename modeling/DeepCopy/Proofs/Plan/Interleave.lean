import DeepCopy.Plan.Compile

/-!
# Interleaving

A plan has its cloned members and its kept ones apart; interleaving puts the kept members back
where they were declared.

## Main results

* `mem_interleave`: interleaving neither loses an assignment nor adds one
* `interleave_map`: it does not look into the cloned members
* `interleave_keptMembers`: it restores the order in which the members were declared
-/

namespace DeepCopy

theorem mem_interleave {a : Assignment} {ks : List KeptMember} {before : Nat}
    {cs : List ClonedMember} :
    a ∈ interleave before cs ks ↔
      (∃ m ∈ cs, a = .cloned m) ∨ ∃ k ∈ ks, a = .kept k.name := by
  induction ks generalizing before cs with
  | nil => simp [interleave, eq_comm]
  | cons k ks ih =>
    have hcs : ∀ m, m ∈ cs ↔
        m ∈ cs.take (k.position - before) ∨ m ∈ cs.drop (k.position - before) := fun m => by
      rw [← List.mem_append, List.take_append_drop]
    simp only [interleave, List.mem_append, List.mem_map, List.mem_cons, ih, hcs,
      or_and_right, exists_or, exists_eq_left, eq_comm (a := Assignment.cloned _)]
    rw [or_left_comm (a := a = _), or_assoc]

theorem interleave_map (f : ClonedMember → ClonedMember) (ks : List KeptMember) (before : Nat)
    (cs : List ClonedMember) :
    interleave before (cs.map f) ks =
      (interleave before cs ks).map fun
        | .cloned m => .cloned (f m)
        | .kept name => .kept name := by
  induction ks generalizing before cs with
  | nil => simp [interleave]
  | cons k ks ih =>
    simp [interleave, ← List.map_take, ← List.map_drop, ih]

/-- A cloned member that is due before the kept ones comes first. -/
theorem interleave_cons {before : Nat} {c : ClonedMember} {cs : List ClonedMember}
    {ks : List KeptMember} (hks : ∀ k ∈ ks, before < k.position) :
    interleave before (c :: cs) ks = .cloned c :: interleave (before + 1) cs ks := by
  cases ks with
  | nil => rfl
  | cons k ks =>
    obtain ⟨d, hd⟩ : ∃ d, k.position - before = d + 1 :=
      Nat.exists_eq_add_one.mpr (Nat.sub_pos_of_lt (hks k List.mem_cons_self))
    have hd' : k.position - (before + 1) = d := by omega
    simp [interleave, hd, hd', Nat.add_assoc, Nat.add_comm 1]

/-- The assignment of a member, if it takes part. -/
def Member.assignment (role : Member → Role) (m : Member) : Option Assignment :=
  match role m with
  | .cloned => some (.cloned ⟨m.name, m.accessor⟩)
  | .kept => some (.kept m.name)
  | .leftOut => none

theorem le_position_of_mem_keptMembers {role : Member → Role} {ms : List Member} {before : Nat}
    {k : KeptMember} (hk : k ∈ keptMembers role before ms) : before ≤ k.position := by
  induction ms generalizing before with
  | nil => cases hk
  | cons m ms ih =>
    unfold keptMembers at hk
    split at hk
    · exact Nat.le_of_succ_le (ih hk)
    · rcases List.mem_cons.mp hk with rfl | hk
      · exact Nat.le_refl _
      · exact ih hk
    · exact ih hk

/-- **Interleaving restores the order of declaration.** -/
theorem interleave_keptMembers (role : Member → Role) (ms : List Member) (before : Nat) :
    interleave before (clonedMembers role ms) (keptMembers role before ms) =
      ms.filterMap (Member.assignment role) := by
  induction ms generalizing before with
  | nil => rfl
  | cons m ms ih =>
    cases hr : role m with
    | cloned =>
      have hc : clonedMembers role (m :: ms) = ⟨m.name, m.accessor⟩ :: clonedMembers role ms := by
        simp [clonedMembers, hr]
      simp only [keptMembers, hr, hc]
      have ha : m.assignment role = some (.cloned ⟨m.name, m.accessor⟩) := by
        simp [Member.assignment, hr]
      rw [interleave_cons fun k hk => le_position_of_mem_keptMembers hk, ih,
        List.filterMap_cons_some ha]
    | kept =>
      have hc : clonedMembers role (m :: ms) = clonedMembers role ms := by
        simp [clonedMembers, hr]
      simp only [keptMembers, hr, hc, interleave]
      simp [ih, Member.assignment, hr]
    | leftOut =>
      have hc : clonedMembers role (m :: ms) = clonedMembers role ms := by
        simp [clonedMembers, hr]
      simp only [keptMembers, hr, hc, ih]
      rw [List.filterMap_cons_none (by simp [Member.assignment, hr])]

end DeepCopy
