import DeepCopy.Proofs.Cloning.Agreement
import DeepCopy.Proofs.Cloning.Finish

/-!
# Fast and safe clones

Where no reference leads back, a safe clone never meets an object that is being cloned, so its
trail decides nothing: it makes the same cells as the fast clone, at the same addresses, and fails
where the fast clone fails.

## Main results

* `Agrees.safe_fast`: the fast clone does what the safe clone does
* `cloneFast_eq_cloneSafeIn`: both operations have one outcome, and it is within the bound
-/

namespace DeepCopy

open Cloning

variable {plans : Catalog} {h : Heap} {t t' : Trail} {v : Value}

namespace Catalog

/-- With nothing met, the trail does not matter. -/
theorem entry_safe_eq_fast (ht : ∀ a ∈ h.objectsFrom v, a ∉ t.cells) :
    plans.entry .safe t v (h.content v) = plans.entry .fast t' v (h.content v) := by
  rcases hc : h.content v with x | ⟨n, f⟩ | xs | ⟨n, xs⟩ | ⟨n, es⟩
  case cell.object =>
    obtain ⟨a, rfl, ha⟩ := Heap.content_eq_cell.mp hc
    have hat : a ∉ t.cells := ht a (Heap.mem_objectsFrom.mpr ⟨⟨n, f, ha⟩, .refl⟩)
    simp [entry, Trail.contains, hat]
  all_goals rfl

end Catalog

namespace Cloning

/-- **Without cycles the fast clone does what the safe clone does**, on any trail that holds nothing
of what is cloned. -/
theorem Agrees.safe_fast (hp : plans.IsCompiled) (hh : h.Closed) {depth : Nat} (hv : h.Holds v)
    (ha : h.AcyclicFrom v) (ht : ∀ a ∈ h.objectsFrom v, a ∉ t.cells) :
    Agrees h t t' (cloneObject plans depth .safe v) (cloneObject plans depth .fast v) := by
  induction depth generalizing t v with
  | zero => exact .enter hv (Catalog.entry_safe_eq_fast ht) fun d n f p hd => by cases hd
  | succ depth ih =>
    refine .enter hv (Catalog.entry_safe_eq_fast ht) fun d n f p hd he => ⟨depth, rfl, ?_⟩
    cases hd
    obtain ⟨hc, -, hpn⟩ := Catalog.entry_eq_entered.mp he
    obtain ⟨a, rfl, -⟩ := Heap.content_eq_cell.mp hc
    have hpc := hp n p hpn
    rw [build, build, if_pos rfl, if_neg (by simp),
      hpc.assign_eq (cloneObject plans depth) f .fast .safe,
      hpc.assign_eq (cloneObject plans depth) f .fast .fast]
    refine .onTrail_left (Agrees.compositional.assign_of_reaches hh (Heap.holds_get hh hc)
      (fun _ key w hw => ?_) _ _)
    have hhw : h.Holds w := hw.holds hh (Heap.holds_get hh hc key)
    rcases Heap.get_eq_null_or_refers hc key with hnull | hr
    · -- A field that is null reaches nothing but null, which is no object.
      have hw0 := Heap.eq_of_reaches_null (hnull ▸ hw)
      subst hw0
      exact .enter hhw rfl fun d n f p _ he => by cases (Catalog.entry_eq_entered.mp he).1
    · -- What a field reaches does not come back to the object, as there is no cycle.
      have hvw : h.Reaches (.ref a) w := hw.head hr
      refine ih hhw (ha.of_reaches hvw) fun b hb => ?_
      have hbv := Heap.objectsFrom_subset_of_reaches hvw hb
      have hne : b ≠ a := by
        rintro rfl
        exact ha.not_reaches hr (hw.trans (Heap.mem_objectsFrom.mp hb).2)
      simpa [Trail.push, hne] using ht b hbv

end Cloning

/-- **Without cycles the fast and the safe clone have one outcome**: the result or the failure, the
heap, the trail and the count are the same, and neither exceeds the bound on nested objects. -/
theorem cloneFast_eq_cloneSafeIn {ps : List Plan} (hps : ∀ p ∈ ps, p.IsCompiled) {s : CloneState}
    (hs : s.heap.Closed) (hv : s.heap.Holds v) (ha : s.heap.AcyclicFrom v)
    (ht : ∀ a ∈ s.heap.objectsFrom v, a ∉ s.trail.cells) :
    outcome (cloneFast (.ofList ps) v) s = outcome (cloneSafeIn (.ofList ps) v) s ∧
      (outcome (cloneFast (.ofList ps) v) s).1 ≠ .error .exhausted := by
  have hp := Catalog.isCompiled_ofList hps
  have hcard := (s.heap.card_unmetFrom_le s.trail v).trans (s.heap.card_objectsFrom_le_depthLimit v)
  obtain ⟨hends, hfin⟩ := Finishes.cloneObject hp hs hv hcard s ⟨le_rfl, rfl⟩
  have hagree : outcome (cloneObject (.ofList ps) _ .fast v) { s with trail := {} } = _ :=
    (Agrees.safe_fast hp hs hv ha ht s ⟨le_rfl, rfl⟩).2 hfin
  have htrail := hends.trail_eq
  rw [outcome_cloneFast, outcome_cloneSafeIn, hagree]
  generalize outcome (cloneObject (.ofList ps) (depthLimit s.heap) .safe v) s = p at *
  obtain ⟨r, s'⟩ := p
  dsimp only at htrail hfin ⊢
  exact ⟨by rw [← htrail], hfin⟩

/-- The last node of the chain that has another as its next and its peer is cloned alike by both
operations, with an unrelated node on the trail of the caller. -/
theorem cloneFast_eq_cloneSafeIn_nodeChain :
    (∀ p ∈ [nodePlan], p.IsCompiled) ∧ nodeChain.Closed ∧ nodeChain.Holds (.ref 3) ∧
      nodeChain.AcyclicFrom (.ref 3) ∧ (∀ a ∈ nodeChain.objectsFrom (.ref 3), a ∉ [4]) ∧
      outcome (cloneFast (.ofList [nodePlan]) (.ref 3)) { heap := nodeChain, trail := ⟨[4]⟩ } =
        outcome (cloneSafeIn (.ofList [nodePlan]) (.ref 3))
          { heap := nodeChain, trail := ⟨[4]⟩ } ∧
      (outcome (cloneFast (.ofList [nodePlan]) (.ref 3))
        { heap := nodeChain, trail := ⟨[4]⟩ }).1 = .ok (.ref 10) := by
  have hclosed : nodeChain.Closed := by decide +kernel
  have hholds : nodeChain.Holds (.ref 3) := Heap.holds_ref.mpr (by decide)
  have hdescending : nodeChain.Descending := by decide +kernel
  have htrail : ∀ a ∈ nodeChain.objectsFrom (.ref 3), a ∉ [4] := by
    intro a ha
    have hle := hdescending.le_of_reaches (Heap.mem_objectsFrom.mp ha).2
    exact fun hmem => absurd (List.mem_singleton.mp hmem ▸ hle) (by decide)
  have hacyclic := hdescending.acyclicFrom (.ref 3)
  exact ⟨isCompiled_of_mem_nodePlan, hclosed, hholds, hacyclic, htrail,
    (cloneFast_eq_cloneSafeIn isCompiled_of_mem_nodePlan
      (s := { heap := nodeChain, trail := ⟨[4]⟩ }) hclosed hholds hacyclic htrail).1,
    by decide +kernel⟩

end DeepCopy
