import DeepCopy.Proofs.Cloning.Compositional
import DeepCopy.Proofs.Heap.Fields

/-!
# Safe clones finish

A safe clone enters an object only if it is not on the trail, and has it on the trail from then
on. So with every object that is entered there is one fewer that can still be met for the first
time, and as many objects may be nested in each other as can be reached at the start.

## Main definitions

* `Heap.unmetFrom h t v`: the objects that `v` reaches and that are not on the trail

## Main results

* `card_unmetFrom_lt`: entering an object leaves fewer objects unmet
* `Finishes.cloneObject`: a safe clone needs no deeper nesting than there are unmet objects
-/

namespace DeepCopy

open Cloning

/-! ## Objects that have not been met -/

namespace Heap

variable {h : Heap} {t : Trail} {v w : Value}

/-- The objects that a value reaches and that are not on the trail. -/
noncomputable def unmetFrom (h : Heap) (t : Trail) (v : Value) : Finset Address :=
  h.objectsFrom v \ t.cells.toFinset

theorem mem_unmetFrom {a : Address} :
    a ∈ h.unmetFrom t v ↔ (h.HasObject a ∧ h.Reaches v (.ref a)) ∧ a ∉ t.cells := by
  rw [unmetFrom, Finset.mem_sdiff, mem_objectsFrom, List.mem_toFinset]

/-- An object that passes the check of the trail is not on it. -/
theorem exists_unmet {n : String} {f : Fields} (hc : h.content v = .cell (.object n f))
    (ht : ¬ t.contains v) : ∃ a, v = .ref a ∧ h.HasObject a ∧ a ∉ t.cells := by
  obtain ⟨a, rfl, ha⟩ := content_eq_cell.mp hc
  exact ⟨a, rfl, ⟨n, f, ha⟩, fun hat => ht (List.contains_iff_mem.mpr hat)⟩

theorem card_unmetFrom_le (h : Heap) (t : Trail) (v : Value) :
    (h.unmetFrom t v).card ≤ (h.objectsFrom v).card :=
  Finset.card_le_card Finset.sdiff_subset

/-- The operations allow for more nested objects than there are. -/
theorem card_objectsFrom_lt_depthLimit (h : Heap) (v : Value) :
    (h.objectsFrom v).card < depthLimit h := by
  have hc := h.card_objectsFrom_le v
  have hm : h.size + 1 ≤ depthLimit h := Nat.le_mul_of_pos_right _ (Nat.succ_pos _)
  omega

theorem card_objectsFrom_le_depthLimit (h : Heap) (v : Value) :
    (h.objectsFrom v).card ≤ depthLimit h :=
  (h.card_objectsFrom_lt_depthLimit v).le

/-- **Entering an object leaves fewer objects unmet.** -/
theorem card_unmetFrom_lt {a : Address} (ha : h.HasObject a) (hv : h.Reaches v (.ref a))
    (ht : a ∉ t.cells) (hw : h.objectsFrom w ⊆ h.objectsFrom v) :
    (h.unmetFrom (t.push (.ref a)) w).card < (h.unmetFrom t v).card := by
  refine Finset.card_lt_card ((Finset.ssubset_iff_of_subset ?_).mpr
    ⟨a, mem_unmetFrom.mpr ⟨⟨ha, hv⟩, ht⟩, ?_⟩)
  · intro b hb
    obtain ⟨hbo, hbt⟩ := Finset.mem_sdiff.mp hb
    refine Finset.mem_sdiff.mpr ⟨hw hbo, fun hc => hbt ?_⟩
    exact List.mem_toFinset.mpr (List.mem_cons_of_mem _ (List.mem_toFinset.mp hc))
  · simp [mem_unmetFrom, Trail.push]

end Heap

/-! ## Computations within the bound -/

namespace Cloning

variable {α β : Type} {h : Heap} {t : Trail}

/-- From a heap grown from `h` and with the trail `t`, the computation ends with the same of both
and within the bound on nested objects. -/
def Finishes (h : Heap) (t : Trail) (x : Cloning α) : Prop :=
  ∀ s : CloneState, s.Extends h t →
    (outcome x s).2.Extends h t ∧ (outcome x s).1 ≠ .error .exhausted

theorem Finishes.bind {x : Cloning α} {k : α → Cloning β} (hx : Finishes h t x)
    (hk : ∀ a, Finishes h t (k a)) : Finishes h t (x >>= k) := by
  intro s hs
  obtain ⟨hs', hne⟩ := hx s hs
  rw [outcome_bind]
  rcases hr : outcome x s with ⟨e | a, s'⟩ <;> rw [hr] at hs' hne
  · exact ⟨hs', by simpa using hne⟩
  · exact hk a s' hs'

theorem Finishes.compositional : Compositional h.Shows fun _ x _ => Finishes h t x where
  pure a s hs := ⟨hs, by simp⟩
  fail f s hs := ⟨hs, by simp⟩
  alloc c s hs := ⟨hs.alloc c, by simp⟩
  look {_ v _ _} hk s hs := by
    rw [outcome_bind, outcome_look]
    exact hk _ (Heap.shows_of_le hs.le_heap v) s hs
  bind := .bind

theorem Finishes.count : Finishes h t count := fun s hs => ⟨⟨hs.le_heap, hs.trail_eq⟩, by simp⟩

/-- A value is on the trail for as long as the computation takes. -/
theorem Finishes.onTrail {x : Cloning α} {a : Address} (hx : Finishes h (t.push (.ref a)) x) :
    Finishes h t (onTrail (.ref a) x) := by
  intro s hs
  obtain ⟨hs', hne⟩ := hx { s with trail := s.trail.push (.ref a) } (hs.push a)
  rw [outcome_onTrail]
  exact ⟨hs'.pop, hne⟩

/-! ## Clones within the bound -/

variable {plans : Catalog} {v : Value} {depth : Nat}

/-- **Clones finish** if the bound allows for the objects they enter and the fields are built. -/
theorem Finishes.enter (hv : h.Holds v)
    (hb : ∀ n f p, plans.entry .safe t v (h.content v) = .entered n f p →
      ∃ d, depth = d + 1 ∧ Finishes h t (build (cloneObject plans d) .safe v f p)) :
    Finishes h t (cloneObject plans depth .safe v) := by
  intro s hs
  rw [outcome_cloneObject, Heap.content_of_le hs.le_heap hv, hs.trail_eq]
  rcases he : plans.entry .safe t v (h.content v) with f | - | ⟨n, f, p⟩
  · exact Finishes.compositional.fail f s hs
  · exact Finishes.compositional.pure v s hs
  · obtain ⟨d, rfl, hbuild⟩ := hb n f p he
    exact Finishes.bind .count (fun _ => .bind hbuild fun made =>
      Finishes.compositional.alloc (.object n made)) s hs

/-- **A safe clone needs no deeper nesting than there are objects that it has not met.** -/
theorem Finishes.cloneObject (hp : plans.IsCompiled) (hh : h.Closed) (hv : h.Holds v)
    (hd : (h.unmetFrom t v).card ≤ depth) :
    Finishes h t (cloneObject plans depth .safe v) := by
  induction depth generalizing t v with
  | zero =>
    refine .enter hv fun n f p he => ?_
    obtain ⟨hc, hm, -⟩ := Catalog.entry_eq_entered.mp he
    obtain ⟨a, rfl, ha, hat⟩ := Heap.exists_unmet hc fun ht => hm ⟨rfl, ht⟩
    have hmem : a ∈ h.unmetFrom t (.ref a) := Heap.mem_unmetFrom.mpr ⟨⟨ha, .refl⟩, hat⟩
    exact absurd (Finset.card_pos.mpr ⟨a, hmem⟩) (by omega)
  | succ depth ih =>
    refine .enter hv fun n f p he => ⟨depth, rfl, ?_⟩
    obtain ⟨hc, hm, hpn⟩ := Catalog.entry_eq_entered.mp he
    obtain ⟨a, rfl, ha, hat⟩ := Heap.exists_unmet hc fun ht => hm ⟨rfl, ht⟩
    -- Whatever the members reach, one object fewer is unmet there: the one entered.
    have hlt : ∀ key w, h.Reaches (f.get key) w →
        (h.unmetFrom (t.push (.ref a)) w).card ≤ depth := by
      intro key w hw
      have hsub := (Heap.objectsFrom_subset_of_reaches hw).trans
        (Heap.objectsFrom_get_subset hc key)
      have := Heap.card_unmetFrom_lt ha .refl hat hsub
      omega
    rw [build, if_pos rfl, (hp n p hpn).assign_eq _ f .safe .safe]
    refine .onTrail (Finishes.compositional.assign_of_reaches hh (Heap.holds_get hh hc)
      (g := fun _ => DeepCopy.cloneObject plans depth .safe) (fun _ key w hw => ?_) _ _)
    exact ih (hw.holds hh (Heap.holds_get hh hc key)) (hlt key w hw)

end Cloning

end DeepCopy
