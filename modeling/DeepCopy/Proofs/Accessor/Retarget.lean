import DeepCopy.Accessor.Synthesis

/-!
# Retargeting

Retargeting an accessor changes which operation its calls name and nothing else, so that the last
retargeting is the one that counts. Accessors of shapes name the fast operation throughout.

## Main results

* `retarget_eq_self_iff`: an accessor is its own retargeting when its calls name the operation
* `callSites_retarget`, `isCopy_retarget`: retargeting neither adds calls nor drops any
* `forall_targets_iff`: only work without calls names every operation
* `retarget_synthesize`: the accessor of a shape names the fast operation
-/

namespace DeepCopy

namespace Accessor

@[simp] theorem retarget_retarget (o op : Operation) (work : Accessor) :
    (work.retarget o).retarget op = work.retarget op := by
  induction work with
  | copy | passOn | call => rfl
  | guarded inner ih => simp only [retarget, ih]
  | array element ih => simp only [retarget, ih]
  | sequence container element strategy ih => simp only [retarget, ih]
  | map container keyType valueType key value strategy ihk ihv => simp only [retarget, ihk, ihv]
  | project element ih => simp only [retarget, ih]

theorem retarget_eq_self_iff {op : Operation} {work : Accessor} :
    work.retarget op = work ↔ work.targets op = true := by
  induction work with
  | copy | passOn => simp only [retarget, targets]
  | call nullable site =>
    simp only [retarget, targets, call.injEq, true_and, beq_iff_eq]
    exact eq_comm
  | guarded inner ih => rw [retarget, targets, guarded.injEq, ih]
  | array element ih => rw [retarget, targets, array.injEq, ih]
  | sequence container element strategy ih =>
    simp only [retarget, targets, sequence.injEq, ih, true_and, and_true]
  | map container keyType valueType key value strategy ihk ihv =>
    simp only [retarget, targets, map.injEq, ihk, ihv, true_and, and_true, Bool.and_eq_true]
  | project element ih => rw [retarget, targets, project.injEq, ih]

@[simp] theorem callSites_retarget (op : Operation) (work : Accessor) :
    (work.retarget op).callSites = work.callSites := by
  induction work with
  | copy | passOn | call => rfl
  | guarded inner ih => exact ih
  | array element ih => exact ih
  | sequence container element strategy ih => exact ih
  | map container keyType valueType key value strategy ihk ihv =>
    simp only [retarget, callSites, ihk, ihv]
  | project element ih => exact ih

@[simp] theorem isCopy_retarget (op : Operation) (work : Accessor) :
    (work.retarget op).isCopy = work.isCopy := by
  cases work <;> rfl

/-- **Only work without calls names every operation**: a call names one of them. -/
theorem forall_targets_iff {work : Accessor} :
    (∀ op, work.targets op = true) ↔ work.callSites = 0 := by
  induction work with
  | copy | passOn => simp only [targets, callSites, implies_true]
  | call nullable site =>
    refine ⟨fun ht => ?_, fun hzero => by cases hzero⟩
    have hfast := ht .fast
    have hsafe := ht .safe
    cases site <;> contradiction
  | guarded inner ih => exact ih
  | array element ih => exact ih
  | sequence container element strategy ih => exact ih
  | map container keyType valueType key value strategy ihk ihv =>
    simp only [targets, callSites, Bool.and_eq_true, forall_and, ihk, ihv, Nat.add_eq_zero_iff]
  | project element ih => exact ih

end Accessor

theorem retarget_guardNull (op : Operation) (work : Accessor) :
    (guardNull work).retarget op = guardNull (work.retarget op) := by
  cases work <;> rfl

/-- The calls in the accessor of a shape name the fast operation. -/
theorem retarget_synthesize (shape : Shape) :
    (synthesize shape).retarget .fast = synthesize shape := by
  induction shape with
  | scalar | unknown | cloneable => rfl
  | nullable inner ih => rw [synthesize, retarget_guardNull, ih]
  | array element ih => simp only [synthesize, Accessor.retarget, ih]
  | sequence container element strategy ih =>
    rw [synthesize]
    split
    · rfl
    · simp only [Accessor.retarget, ih]
  | map container keyType valueType key value strategy ihk ihv =>
    rw [synthesize]
    split
    · rfl
    · simp only [Accessor.retarget, ihk, ihv]
  | enumerable element ih => simp only [synthesize, Accessor.retarget, ih]

end DeepCopy
