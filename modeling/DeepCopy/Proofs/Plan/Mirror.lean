import DeepCopy.Proofs.Plan.Selection

/-!
# The two operations of a plan

A compiled plan has its members twice, once for each operation. The two lists say the same but for
the operation that the calls name, so neither has anything that the other lacks.

## Main definitions

* `ClonedMember.retarget`: a member with the calls of its accessor retargeted

## Main results

* `Plan.IsCompiled.safe_eq_map_fast`, `Plan.IsCompiled.fast_eq_map_safe`: each list is the other
  with its calls retargeted
* `operations_mirror`: what retargeting keeps, and the two lists member by member
-/

namespace DeepCopy

/-- The member with the calls of its accessor naming one operation. -/
def ClonedMember.retarget (op : Operation) (m : ClonedMember) : ClonedMember :=
  { m with accessor := m.accessor.retarget op }

namespace Plan

variable {p : Plan}

theorem IsCompiled.safe_eq_map_fast (hp : p.IsCompiled) :
    p.safe = p.fast.map (ClonedMember.retarget .safe) := by
  obtain ⟨role, ms, -, -, hsafe, -⟩ := hp.exists_members
  exact hsafe

theorem IsCompiled.targets_of_mem_fast (hp : p.IsCompiled) {m : ClonedMember} (hm : m ∈ p.fast) :
    m.accessor.targets .fast = true := by
  have hassigned : .cloned m ∈ p.assignments .fast := mem_interleave.mpr (.inl ⟨m, hm, rfl⟩)
  exact hp.targets hassigned

/-- The members of the fast operation name it already, so they come back from the safe ones. -/
theorem IsCompiled.fast_eq_map_safe (hp : p.IsCompiled) :
    p.fast = p.safe.map (ClonedMember.retarget .fast) := by
  rw [hp.safe_eq_map_fast, List.map_map]
  refine ((List.map_congr_left fun m hm => ?_).trans (List.map_id' p.fast)).symm
  have hself := Accessor.retarget_eq_self_iff.mpr (hp.targets_of_mem_fast hm)
  simp only [Function.comp_apply, ClonedMember.retarget, Accessor.retarget_retarget, hself]

end Plan

/-- **The safe operation is the fast one with every call retargeted.** Of two retargetings the last
one counts; an accessor is its own retargeting just where its calls name the operation, which for
both operations is so only if it has no calls; and neither the number of calls nor whether there is
anything to do is changed. The two lists of a compiled plan have the same members in the same
places, each with its accessor retargeted, and each list is found from the other. -/
theorem operations_mirror :
    (∀ (work : Accessor) (o op : Operation),
        (work.retarget o).retarget op = work.retarget op ∧
          (work.targets op = true ↔ work.retarget op = work) ∧
          (work.retarget op).callSites = work.callSites ∧
          (work.retarget op).isCopy = work.isCopy) ∧
      (∀ work : Accessor,
        work.targets .fast = true ∧ work.targets .safe = true ↔ work.callSites = 0) ∧
      ∀ settings d p, compile settings d = .ok p →
        p.fast.length = p.safe.length ∧
          (∀ (i : Nat) f s, p.fast[i]? = some f → p.safe[i]? = some s →
            f.name = s.name ∧ f.accessor.targets .fast = true ∧
              s.accessor = f.accessor.retarget .safe) ∧
          p.safe = p.fast.map (ClonedMember.retarget .safe) ∧
          p.fast = p.safe.map (ClonedMember.retarget .fast) := by
  refine ⟨fun work o op => ⟨work.retarget_retarget o op, Accessor.retarget_eq_self_iff.symm,
    work.callSites_retarget op, work.isCopy_retarget op⟩, fun work => ?_,
    fun settings d p hc => ?_⟩
  · -- Without calls an accessor names every operation, and there are only these two.
    rw [← Accessor.forall_targets_iff]
    refine ⟨fun ht op => ?_, fun ht => ⟨ht .fast, ht .safe⟩⟩
    cases op
    · exact ht.1
    · exact ht.2
  · have hp : p.IsCompiled := ⟨settings, d, hc⟩
    have hsafe := hp.safe_eq_map_fast
    refine ⟨by rw [hsafe, List.length_map], fun i f s hf hs => ?_, hsafe, hp.fast_eq_map_safe⟩
    rw [hsafe, List.getElem?_map, hf] at hs
    cases hs
    exact ⟨rfl, hp.targets_of_mem_fast (List.mem_of_getElem? hf), rfl⟩

/-- The parts of a form are the only member with a call, and only there the two operations
differ. -/
theorem operations_mirror_formDescriptor :
    ∃ p, compile {} formDescriptor = .ok p ∧
      p.fast = [⟨"Title", .copy⟩, ⟨"Parts", .array (.call false .fast)⟩, ⟨"Theme", .copy⟩] ∧
      p.safe = [⟨"Title", .copy⟩, ⟨"Parts", .array (.call false .safe)⟩, ⟨"Theme", .copy⟩] ∧
      p.fast = p.safe.map (ClonedMember.retarget .fast) := by
  have hflaws : formDescriptor.flaws = [] := by decide +kernel
  obtain ⟨p, hp, hfast⟩ : ∃ p, compile {} formDescriptor = .ok p ∧
      p.fast = [⟨"Title", .copy⟩, ⟨"Parts", .array (.call false .fast)⟩, ⟨"Theme", .copy⟩] := by
    rw [compile, hflaws]
    exact ⟨_, rfl, by decide +kernel⟩
  obtain ⟨-, -, hsafe, hback⟩ := operations_mirror.2.2 {} formDescriptor p hp
  exact ⟨p, hp, hfast, by rw [hsafe, hfast]; rfl, hback⟩

end DeepCopy
