import DeepCopy.Proofs.Cloning.Compositional

/-!
# Agreement of computations

One computation agrees with another when it ends like the other, with the same result, heap and
count, wherever the other stays within its bound on nested objects. The two may run on different
trails; each leaves its own as it was.

## Main definitions

* `Cloning.Agrees h t t' x y`: on heaps grown from `h`, `y` with the trail `t'` ends like `x` with
  the trail `t`

## Main results

* `Agrees.compositional`, `Agrees.onTrail`: agreement composes
* `Agrees.enter`: clones agree if they enter the same objects and build agreeing copies
* `Agrees.cloneObject_of_le`: a higher bound on nested objects changes nothing
-/

namespace DeepCopy

namespace Cloning

open DeepCopy (cloneObject)

variable {α β : Type} {h : Heap} {t t' : Trail}

/-- From a heap grown from `h` and with the trail `t`, `x` ends with the same of both, and `y` with
the trail `t'` ends like it unless `x` exceeds the bound on nested objects. -/
def Agrees (h : Heap) (t t' : Trail) (x y : Cloning α) : Prop :=
  ∀ s : CloneState, s.Extends h t →
    (outcome x s).2.Extends h t ∧ ((outcome x s).1 ≠ .error .exhausted →
      outcome y { s with trail := t' } = ((outcome x s).1, { (outcome x s).2 with trail := t' }))

theorem Agrees.bind {x y : Cloning α} {k l : α → Cloning β} (hxy : Agrees h t t' x y)
    (hkl : ∀ a, Agrees h t t' (k a) (l a)) : Agrees h t t' (x >>= k) (y >>= l) := by
  intro s hs
  obtain ⟨hs', hy⟩ := hxy s hs
  rw [outcome_bind, outcome_bind]
  rcases hr : outcome x s with ⟨e | a, s'⟩ <;> rw [hr] at hs' hy
  · exact ⟨hs', fun hne => by rw [hy (by simpa using hne)]⟩
  · rw [hy (by simp)]
    exact hkl a s' hs'

theorem Agrees.compositional : Compositional h.Shows fun _ => Agrees h t t' where
  pure _ _ hs := ⟨hs, fun _ => rfl⟩
  fail _ _ hs := ⟨hs, fun _ => rfl⟩
  alloc c _ hs := ⟨hs.alloc c, fun _ => rfl⟩
  look {_ v _ _} hkl s hs := by
    rw [outcome_bind, outcome_look, outcome_bind, outcome_look]
    exact hkl _ (Heap.shows_of_le hs.le_heap v) s hs
  bind := .bind

theorem Agrees.count : Agrees h t t' count count :=
  fun _ hs => ⟨⟨hs.le_heap, hs.trail_eq⟩, fun _ => rfl⟩

/-- Both computations put a value on their trails. -/
theorem Agrees.onTrail {x y : Cloning α} {a : Address}
    (hxy : Agrees h (t.push (.ref a)) (t'.push (.ref a)) x y) :
    Agrees h t t' (onTrail (.ref a) x) (onTrail (.ref a) y) := by
  intro s hs
  obtain ⟨hs', hy⟩ := hxy { s with trail := s.trail.push (.ref a) } (hs.push a)
  rw [outcome_onTrail, outcome_onTrail]
  exact ⟨hs'.pop, fun hne => by rw [hy hne]; rfl⟩

/-- Only the first computation puts a value on its trail. -/
theorem Agrees.onTrail_left {x y : Cloning α} {a : Address}
    (hxy : Agrees h (t.push (.ref a)) t' x y) :
    Agrees h t t' (Cloning.onTrail (.ref a) x) y := by
  intro s hs
  obtain ⟨hs', hy⟩ := hxy { s with trail := s.trail.push (.ref a) } (hs.push a)
  rw [outcome_onTrail]
  exact ⟨hs'.pop, hy⟩

/-! ## Objects -/

variable {plans : Catalog} {op op' : Operation} {v : Value} {depth depth' : Nat}

/-- **Clones agree** if the same becomes of the value in hand and agreeing copies are built. -/
theorem Agrees.enter (hv : h.Holds v)
    (he : plans.entry op t v (h.content v) = plans.entry op' t' v (h.content v))
    (hb : ∀ d n f p, depth = d + 1 → plans.entry op t v (h.content v) = .entered n f p →
      ∃ d', depth' = d' + 1 ∧
        Agrees h t t' (build (cloneObject plans d) op v f p)
          (build (cloneObject plans d') op' v f p)) :
    Agrees h t t' (cloneObject plans depth op v) (cloneObject plans depth' op' v) := by
  intro s hs
  rw [outcome_cloneObject plans depth, Heap.content_of_le hs.le_heap hv, hs.trail_eq,
    outcome_cloneObject plans depth', Heap.content_of_le hs.le_heap hv, ← he]
  rcases hen : plans.entry op t v (h.content v) with f | - | ⟨n, f, p⟩
  · exact Agrees.compositional.fail f s hs
  · exact Agrees.compositional.pure v s hs
  · cases depth with
    | zero => exact ⟨hs, fun hne => absurd rfl hne⟩
    | succ d =>
      obtain ⟨d', rfl, hbuild⟩ := hb d n f p rfl hen
      exact Agrees.bind .count (fun _ => .bind hbuild fun made =>
        Agrees.compositional.alloc (.object n made)) s hs

/-- **A higher bound on nested objects changes nothing** where the lower one is not exceeded. -/
theorem Agrees.cloneObject_of_le (hh : h.Closed) (hv : h.Holds v) (hd : depth ≤ depth') :
    Agrees h t t (cloneObject plans depth op v) (cloneObject plans depth' op v) := by
  induction depth generalizing depth' t op v with
  | zero => exact .enter hv rfl fun d n f p hd => by cases hd
  | succ depth ih =>
    refine .enter hv rfl fun d n f p hdepth he => ?_
    cases hdepth
    obtain ⟨d', rfl⟩ := Nat.exists_eq_add_one.mpr (Nat.zero_lt_of_lt hd)
    refine ⟨d', rfl, ?_⟩
    obtain ⟨hc, -, -⟩ := Catalog.entry_eq_entered.mp he
    obtain ⟨a, rfl, -⟩ := Heap.content_eq_cell.mp hc
    have hassign : ∀ t, Agrees h t t (assign (cloneObject plans depth) f (p.assignments op) .empty)
        (assign (cloneObject plans d') f (p.assignments op) .empty) := fun t =>
      Agrees.compositional.assign_of_reaches hh (Heap.holds_get hh hc)
        (fun o key w hw => ih (hw.holds hh (Heap.holds_get hh hc key)) (Nat.le_of_succ_le_succ hd))
        _ _
    unfold build
    split
    · exact .onTrail (hassign _)
    · exact hassign _

end Cloning

end DeepCopy
